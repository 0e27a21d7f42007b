import RecordFilter.Config
import RecordFilter.Proofs.Term.Reading

/-!
# The bounds of BETWEEN

The values of `BETWEEN` are those that its lower bound gives and behind them those that its upper
bound gives (`Term.ofExpr_between`). A call gives as many values as it has arguments and any other
operand gives one (`Expr.operandCount`), and it is only the sum of both that is checked. If one
bound gives one value, so does the other, and each of them is what the bound gives in a comparison;
but a call without arguments and one of two arguments make a range as well, both of whose values
come from the second one (`Term.ofExpr_between_bounds`).
-/

namespace RecordFilter

variable {patterns : List DatePattern}

/-- How many values an operand of a condition gives that is not the first one. -/
def Expr.operandCount : Expr → Nat
  | .call _ arguments => arguments.length
  | _ => 1

/-- A call gives a value for each of its arguments, any other operand one. -/
theorem Operand.length_eq_of_ofExpr {e : Expr} {vs : List Operand}
    (h : ofExpr patterns e = .ok vs) : vs.length = e.operandCount := by
  cases e with
  | constant | column =>
    cases h
    rfl
  | call function arguments =>
    obtain ⟨ls, hls, h⟩ := Except.bind_eq_ok.1 h
    cases h
    rw [List.length_map, ← (Except.mapM_eq_ok.1 hls).length_eq, Expr.operandCount]
  | binary op =>
    rw [ofExpr] at h
    split at h
    · obtain ⟨n, -, h⟩ := Except.bind_eq_ok.1 h
      cases h
      rfl
    · cases h
  | _ => cases h

namespace Term

/-- The values of both bounds are put together, and there have to be two of them. -/
theorem ofExpr_between {negated : Bool} {e low high : Expr} {t : Term} :
    ofExpr patterns (.between negated e low high) = .ok t ↔
      ∃ s ls hs, Subject.ofExpr patterns e = .ok s ∧ Operand.ofExpr patterns low = .ok ls ∧
        Operand.ofExpr patterns high = .ok hs ∧ ls.length + hs.length = 2 ∧
        t = ⟨s, .between, negated, ls ++ hs⟩ := by
  have hcondition : Condition.ofExpr false (.between negated e low high) =
      .ok ⟨.between, negated, e, [low, high]⟩ := by
    cases negated <;> rfl
  rw [ofExpr_eq_ok]
  constructor
  · rintro ⟨c, vs, hc, hs, hvs, hop, hnegated, hvalues, hcheck⟩
    obtain rfl := Except.ok.inj (hcondition.symm.trans hc)
    obtain ⟨subject, op, negated', values⟩ := t
    obtain rfl : op = .between := hop
    obtain rfl : negated' = negated := hnegated
    obtain ⟨harity, -⟩ := check_eq_ok.1 hcheck
    -- There are two operands, each with a list of values; nothing but the length of both together
    -- is checked.
    obtain ⟨ls, _, hlow, hrest, rfl⟩ := List.forall₂_cons_left_iff.1 (Except.mapM_eq_ok.1 hvs)
    obtain ⟨hs', _, hhigh, hnil, rfl⟩ := List.forall₂_cons_left_iff.1 hrest
    obtain rfl := List.forall₂_nil_left_iff.1 hnil
    obtain rfl : values = ls ++ hs' := hvalues.trans (by simp)
    refine ⟨subject, ls, hs', hs, hlow, hhigh, ?_, rfl⟩
    simpa [TermOperator.arity, Arity.accepts] using harity
  · rintro ⟨s, ls, hs, hsubject, hlow, hhigh, hcount, rfl⟩
    refine ⟨_, [ls, hs], hcondition, hsubject, Except.mapM_eq_ok.2 (.cons hlow (.cons hhigh .nil)),
      rfl, rfl, by simp, check_eq_ok.2 ⟨?_, fun hlike => by cases hlike⟩⟩
    simpa [TermOperator.arity, Arity.accepts] using hcount

/-- A comparison takes its value from its second operand, which has to give one. -/
theorem ofExpr_compare {op : ComparisonOperator} {e operand : Expr} {s : Subject}
    {vs : List Operand} (hs : Subject.ofExpr patterns e = .ok s)
    (hvs : Operand.ofExpr patterns operand = .ok vs) :
    ofExpr patterns (.compare op e operand) =
      if vs.length = 1 then .ok ⟨s, op.toTerm, false, vs⟩
      else .error (.valueCount op.toTerm (Expr.compare op e operand).text vs.length) := by
  have hterm : ofExpr patterns (.compare op e operand) =
      (check (.compare op e operand) ⟨s, op.toTerm, false, vs⟩ >>= fun _ =>
        .ok ⟨s, op.toTerm, false, vs⟩) := by
    have hcondition : Condition.ofExpr false (.compare op e operand) =
        .ok ⟨op.toTerm, false, e, [operand]⟩ := rfl
    have hoperands : [operand].mapM (Operand.ofExpr patterns) = .ok [vs] :=
      Except.mapM_eq_ok.2 (.cons hvs .nil)
    rw [ofExpr, hcondition, Except.bind_ok, hs, Except.bind_ok, hoperands, Except.bind_ok]
    simp only [List.flatten_cons, List.flatten_nil, List.append_nil]
    rfl
  have hcheck : check (.compare op e operand) ⟨s, op.toTerm, false, vs⟩ =
      if vs.length = 1 then .ok ()
      else .error (.valueCount op.toTerm (Expr.compare op e operand).text vs.length) := by
    by_cases hone : vs.length = 1 <;>
      cases op <;> simp [check, ComparisonOperator.toTerm, TermOperator.arity, Arity.accepts, hone]
  rw [hterm, hcheck]
  split <;> rfl

/-- In which sense each bound gives a value of its own: unless one of them is a call without
    arguments and the other one a call of two. -/
theorem ofExpr_between_bounds (config : Config) {negated : Bool} {e low high : Expr} {t : Term}
    (h : ofExpr config.datePatterns (.between negated e low high) = .ok t) :
    t.values.length = 2 ∧ low.operandCount + high.operandCount = 2 ∧
    (low.operandCount = 1 → ∃ a b, t.values = [a, b] ∧
      ofExpr config.datePatterns (.compare .eq e low) = .ok ⟨t.subject, .eq, false, [a]⟩ ∧
      ofExpr config.datePatterns (.compare .eq e high) = .ok ⟨t.subject, .eq, false, [b]⟩) ∧
    (low.operandCount ≠ 1 →
      ofExpr config.datePatterns (.compare .eq e low) =
        .error (.valueCount .eq (Expr.compare .eq e low).text low.operandCount) ∧
      ofExpr config.datePatterns (.compare .eq e high) =
        .error (.valueCount .eq (Expr.compare .eq e high).text high.operandCount)) := by
  -- With two values in all, either both bounds have one or neither has.
  obtain ⟨s, ls, hs, hsubject, hlow, hhigh, hcount, rfl⟩ := ofExpr_between.1 h
  have hlowCount := Operand.length_eq_of_ofExpr hlow
  have hhighCount := Operand.length_eq_of_ofExpr hhigh
  rw [ofExpr_compare hsubject hlow, ofExpr_compare hsubject hhigh, hlowCount, hhighCount]
  refine ⟨by rw [List.length_append, hcount], by omega, fun hone => ?_, fun hne => ?_⟩
  · obtain ⟨a, rfl⟩ := List.length_eq_one_iff.1 (hlowCount.trans hone)
    obtain ⟨b, rfl⟩ := List.length_eq_one_iff.1 (show hs.length = 1 by omega)
    exact ⟨a, b, rfl, if_pos hone, if_pos (by omega)⟩
  · exact ⟨if_neg hne, if_neg (by omega)⟩

/-- A call of one argument and arithmetic are bounds with a value of their own. -/
theorem ofExpr_between_bounds_calls :
    ofExpr ({} : Config).datePatterns
        (.between true (.column ⟨none, "x"⟩) (.call "f" [.column ⟨none, "b"⟩])
          (.binary .add (.constant (.long 1)) (.constant (.long 2)))) =
      .ok ⟨.column ⟨none, "x"⟩, .between, true,
        [.literal (.string "b"), .literal (.long 3)]⟩ ∧
    ofExpr ({} : Config).datePatterns
        (.compare .eq (.column ⟨none, "x"⟩) (.call "f" [.column ⟨none, "b"⟩])) =
      .ok ⟨.column ⟨none, "x"⟩, .eq, false, [.literal (.string "b")]⟩ := by
  have h : ofExpr ({} : Config).datePatterns
      (.between true (.column ⟨none, "x"⟩) (.call "f" [.column ⟨none, "b"⟩])
        (.binary .add (.constant (.long 1)) (.constant (.long 2)))) =
      .ok ⟨.column ⟨none, "x"⟩, .between, true,
        [.literal (.string "b"), .literal (.long 3)]⟩ := by
    rfl
  obtain ⟨-, -, hone, -⟩ := ofExpr_between_bounds {} h
  obtain ⟨a, b, hvalues, hlow, -⟩ := hone rfl
  obtain ⟨rfl, -⟩ := List.cons.inj hvalues
  exact ⟨h, hlow⟩

/-- A call of no arguments and one of two make a range, but neither of them has a value for a
    comparison. -/
theorem ofExpr_between_not_apart :
    ofExpr ({} : Config).datePatterns
        (.between false (.column ⟨none, "x"⟩) (.call "f" [])
          (.call "g" [.constant (.long 1), .constant (.long 2)])) =
      .ok ⟨.column ⟨none, "x"⟩, .between, false, [.literal (.long 1), .literal (.long 2)]⟩ ∧
    ofExpr ({} : Config).datePatterns (.compare .eq (.column ⟨none, "x"⟩) (.call "f" [])) =
      .error (.valueCount .eq "x = f()" 0) ∧
    ofExpr ({} : Config).datePatterns (.compare .eq (.column ⟨none, "x"⟩)
        (.call "g" [.constant (.long 1), .constant (.long 2)])) =
      .error (.valueCount .eq "x = g(1, 2)" 2) := by
  refine ⟨?_, ?_, ?_⟩ <;> rfl

end Term

end RecordFilter
