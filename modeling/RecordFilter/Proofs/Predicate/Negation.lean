import RecordFilter.Proofs.Predicate.Algebra
import RecordFilter.Proofs.Term.Supported

/-!
# Negation

A `NOT` in front of a condition goes a long way. Reading the condition, it is no more than
a mark on the term, which cannot be set twice. When the predicate is made, the mark means
one of two things:

* the operators that order two values and those that ask for NULL keep their predicate,
  which is turned into its opposite and holds of all other records;
* `=`, `<>`, `LIKE`, `IN` and `BETWEEN` have an operator for the opposite. It holds of all
  other records but those for which the answer is unknown (`Term.IsUnknown`), so that
  neither predicate holds of these.

`Term.ofExpr_not` is the first part and `Term.not_compile` the whole way.
-/

namespace RecordFilter

/-! ## Conditions that are negated -/

variable {patterns : List DatePattern}

namespace Condition

theorem negated_of_ofExpr {e : Expr} {c : Condition} (h : ofExpr true e = .ok c) :
    c.negated = true := by
  cases e with
  | compare => cases h; rfl
  | between | inList | like =>
    obtain ⟨n, hn, h⟩ := Except.bind_eq_ok.1 h
    cases h
    exact (negate_eq_ok.1 hn).2
  | isNull own => cases own <;> cases h <;> rfl
  | _ => cases h

/-- A condition that is not negated can be. -/
theorem ofExpr_true {e : Expr} {c : Condition} (h : ofExpr false e = .ok c)
    (hc : c.negated = false) : ofExpr true e = .ok { c with negated := true } := by
  cases e with
  | not e' => simp [negated_of_ofExpr (show ofExpr true e' = .ok c from h)] at hc
  | compare => cases h; rfl
  | between own | inList own | like own =>
    obtain ⟨n, hn, h⟩ := Except.bind_eq_ok.1 h
    obtain ⟨-, hown⟩ := negate_eq_ok.1 hn
    cases h
    obtain rfl : own = false := hown.symm.trans hc
    rfl
  | isNull own => cases own <;> cases h <;> rfl
  | _ => cases h

end Condition

namespace Term

theorem ofExpr_not {e : Expr} {t : Term} (h : ofExpr patterns e = .ok t)
    (ht : t.negated = false) : ofExpr patterns (.not e) = .ok { t with negated := true } := by
  obtain ⟨c, vs, hc, hs, hvs, hop, hnegated, hvalues, hcheck⟩ := ofExpr_eq_ok.1 h
  have hnot := Condition.ofExpr_true hc (hnegated.symm.trans ht)
  exact ofExpr_eq_ok.2 ⟨_, vs, hnot, hs, hvs, hop, rfl, hvalues,
    check_eq_ok.2 (check_eq_ok.1 hcheck)⟩

/-- Two `NOT`s in front of anything are an error. -/
theorem ofExpr_not_not (e : Expr) :
    ofExpr patterns (.not (.not e)) = .error .doubleNegation :=
  rfl

end Term

/-! ## Opposites -/

/-- The operator that holds where an operator is known not to hold. -/
def PredicateOperator.opposite? : PredicateOperator → Option PredicateOperator
  | .eq => some .notEq
  | .notEq => some .eq
  | .like => some .notLike
  | .notLike => some .like
  | .in => some .notIn
  | .notIn => some .in
  | .between => some .notBetween
  | .notBetween => some .between
  | _ => none

/-- Whether it is unknown if a condition that has an operator for its opposite holds of a
    record. -/
def Term.IsUnknown {ρ : Type} [Record ρ] (patterns : List DatePattern) (r : ρ) (t : Term) : Prop :=
  match t.operator, t.values with
  | .eq, [v] | .ne, [v] => (t.subject.valueIn r).compare? patterns (v.valueIn r) = none
  | .like, _ | .in, _ => t.subject.valueIn r = .null
  | .between, [low, high] =>
    (t.subject.valueIn r).compare? patterns (low.valueIn r) = none ∨
      (t.subject.valueIn r).compare? patterns (high.valueIn r) = none
  | _, _ => False

/-- Whether two answers are opposites: they are never both yes, and both no exactly where
    the answer is unknown. -/
structure AreOpposite (isUnknown : Prop) (a b : Bool) : Prop where
  not_both : ¬(a ∧ b)
  neither : a = false ∧ b = false ↔ isUnknown

theorem AreOpposite.symm {isUnknown : Prop} {a b : Bool} (h : AreOpposite isUnknown a b) :
    AreOpposite isUnknown b a :=
  ⟨fun hboth => h.not_both hboth.symm, and_comm.trans h.neither⟩

namespace PredicateOperator

variable {ignoreCase : Bool} {value other low high : Literal} {others : List Literal}

/-- `=` and `<>` are opposites, up to values that are not comparable. -/
theorem areOpposite_eq : AreOpposite (value.compare? patterns other = none)
    (eq.holds patterns ignoreCase value [other])
    (notEq.holds patterns ignoreCase value [other]) := by
  constructor <;> simp only [holds] <;>
    rcases value.compare? patterns other with _ | (_ | _ | _) <;> simp

/-- `LIKE` and `NOT LIKE` are opposites, up to NULL. -/
theorem areOpposite_like {pattern : String} : AreOpposite (value = .null)
    (like.holds patterns ignoreCase value [.string pattern])
    (notLike.holds patterns ignoreCase value [.string pattern]) := by
  constructor <;> simp only [holds, ← Literal.plainText?_eq_none] <;>
    rcases value.plainText? with _ | text <;> simp

/-- `IN` and `NOT IN` are opposites, up to NULL as the value; NULL in the list makes nothing
    unknown. -/
theorem areOpposite_in : AreOpposite (value = .null)
    («in».holds patterns ignoreCase value others)
    (notIn.holds patterns ignoreCase value others) := by
  constructor <;> simp only [holds, ← Literal.isNull_iff] <;>
    cases value.isNull <;> cases others.any (value.equals patterns) <;> simp

/-- `BETWEEN` and `NOT BETWEEN` are opposites, up to values that are not comparable with both
    bounds. -/
theorem areOpposite_between :
    AreOpposite (value.compare? patterns low = none ∨ value.compare? patterns high = none)
      (between.holds patterns ignoreCase value [low, high])
      (notBetween.holds patterns ignoreCase value [low, high]) := by
  constructor <;> simp only [holds] <;>
    rcases value.compare? patterns low with _ | (_ | _ | _) <;>
    rcases value.compare? patterns high with _ | (_ | _ | _) <;> simp

end PredicateOperator

/-! ## Predicates that are negated -/

namespace TermOperator

variable {op : TermOperator}

/-- Without `NOT` no predicate is turned into its opposite. -/
theorem resolve_false : (op.resolve false).2 = false := by
  cases op <;> rfl

/-- These operators have none for the opposite: they stay, and the predicate is turned. -/
theorem resolve_true_of_kept (h : op ∈ [.gt, .ge, .lt, .le, .isNull, .isNotNull]) :
    op.resolve true = ((op.resolve false).1, true) := by
  simp only [List.mem_cons, List.not_mem_nil, or_false] at h
  rcases h with rfl | rfl | rfl | rfl | rfl | rfl <;> rfl

/-- These operators have one for the opposite: it takes their place, and nothing is turned. -/
theorem resolve_true_of_switched (h : op ∈ [.eq, .ne, .like, .in, .between]) :
    (op.resolve false).1.opposite? = some (op.resolve true).1 ∧ (op.resolve true).2 = false := by
  simp only [List.mem_cons, List.not_mem_nil, or_false] at h
  rcases h with rfl | rfl | rfl | rfl | rfl <;> exact ⟨rfl, rfl⟩

end TermOperator

namespace Term

variable {ρ : Type} [Record ρ] {config : Config} {t : Term}

/-- A term has a predicate if its negation has one, and the same is wrong with both. -/
theorem compile_not_eq_error (h : t.WellFormed) {cause : FilterError} :
    (Registry.standard config : Registry ρ).compile { t with negated := true } = .error cause ↔
      (Registry.standard config : Registry ρ).compile t = .error cause := by
  rw [Registry.compile_eq_error (h.fits t.negated), Registry.compile_eq_error (h.fits true)]

/-- Where the operator stays, the predicate of the negated term is the opposite of that of the
    term. -/
theorem predicate_of_kept (ht : t.negated = false)
    (hop : t.operator ∈ [.gt, .ge, .lt, .le, .isNull, .isNotNull]) :
    ({ t with negated := true } : Term).predicate config =
      (t.predicate config : Predicate ρ).negate := by
  have htrue := TermOperator.resolve_true_of_kept hop
  simp only [predicate, Predicate.negate, ht, htrue, TermOperator.resolve_false, Bool.not_false]

/-- Where the operator is switched, a term and its negation are opposites in every record, up to the
    records for which the answer is unknown. -/
theorem areOpposite_predicate (h : t.WellFormed) (ht : t.negated = false)
    (hop : t.operator ∈ [.eq, .ne, .like, .in, .between]) (r : ρ) :
    AreOpposite (t.IsUnknown config.datePatterns r) ((t.predicate config).holds r)
      ((({ t with negated := true } : Term).predicate config).holds r) := by
  obtain ⟨subject, op, negated, values⟩ := t
  obtain rfl : negated = false := ht
  -- A term that was read has the values that `Term.IsUnknown` asks for.
  obtain ⟨-, -, harity, hpattern⟩ := h
  have hone (h : op.arity = .exactly 1) : ∃ v, values = [v] :=
    Arity.exists_one_of_accepts (h ▸ harity)
  rw [holds_predicate, holds_predicate]
  simp only [List.mem_cons, List.not_mem_nil, or_false] at hop
  rcases hop with rfl | rfl | rfl | rfl | rfl <;>
    simp only [TermOperator.resolve, Bool.bne_false, IsUnknown]
  · obtain ⟨v, rfl⟩ := hone rfl
    exact PredicateOperator.areOpposite_eq
  · obtain ⟨v, rfl⟩ := hone rfl
    exact PredicateOperator.areOpposite_eq.symm
  · obtain ⟨s, others, rfl⟩ := hpattern rfl
    obtain ⟨_, hvalues⟩ := hone rfl
    obtain ⟨-, rfl⟩ := List.cons.inj hvalues
    exact PredicateOperator.areOpposite_like
  · exact PredicateOperator.areOpposite_in
  · obtain ⟨low, high, rfl⟩ := Arity.exists_two_of_accepts harity
    exact PredicateOperator.areOpposite_between

/-- A `NOT` in front of a condition that has none negates its term, and a second one is an
    error. With the term its negation has a predicate, or the same is wrong with both. For
    operators that order and for those that ask for NULL, it is the opposite of the predicate
    of the term. For the others it has the opposite operator; then no record satisfies both
    predicates, and those that satisfy neither are those for which the answer is unknown. -/
theorem not_compile (config : Config) (e : Expr) (t : Term)
    (h : ofExpr config.datePatterns e = .ok t) (ht : t.negated = false) :
    ofExpr config.datePatterns (.not e) = .ok { t with negated := true } ∧
    ofExpr config.datePatterns (.not (.not e)) = .error .doubleNegation ∧
    (∀ cause, (Registry.standard config : Registry ρ).compile { t with negated := true } =
      .error cause ↔ (Registry.standard config : Registry ρ).compile t = .error cause) ∧
    ∀ p : Predicate ρ, (Registry.standard config).compile t = .ok p →
      ∃ q : Predicate ρ, (Registry.standard config).compile { t with negated := true } = .ok q ∧
        p.negated = false ∧
        (t.operator ∈ [.gt, .ge, .lt, .le, .isNull, .isNotNull] →
          q.operator = p.operator ∧ q.negated = true ∧ ∀ r, q.holds r = !p.holds r) ∧
        (t.operator ∈ [.eq, .ne, .like, .in, .between] →
          p.operator.opposite? = some q.operator ∧ q.negated = false ∧
          ∀ r, ¬(p.holds r ∧ q.holds r) ∧
            (p.holds r = false ∧ q.holds r = false ↔ t.IsUnknown config.datePatterns r)) := by
  have hwell := wellFormed_of_ofExpr h
  refine ⟨ofExpr_not h ht, ofExpr_not_not e, fun cause => compile_not_eq_error hwell, ?_⟩
  intro p hp
  obtain ⟨hdeclared, -, rfl⟩ := Registry.compile_eq_ok.1 hp
  have hdeclaredNot : ({ t with negated := true } : Term).IsDeclared ρ :=
    ⟨hdeclared.subject, hdeclared.values⟩
  refine ⟨_, Registry.compile_eq_ok.2 ⟨hdeclaredNot, hwell.fits true, rfl⟩, ?_, ?_, ?_⟩
  · rw [negated_predicate, ht, TermOperator.resolve_false]
  · intro hop
    rw [predicate_of_kept ht hop]
    refine ⟨rfl, ?_, fun r => Predicate.holds_negate _ r⟩
    rw [Predicate.negate, negated_predicate, ht, TermOperator.resolve_false, Bool.not_false]
  · intro hop
    obtain ⟨hopposite, hfalse⟩ := TermOperator.resolve_true_of_switched hop
    refine ⟨?_, ?_, fun r => ?_⟩
    · rw [operator_predicate, operator_predicate, ht, hopposite]
    · rw [negated_predicate, hfalse]
    · have hanswers : AreOpposite (t.IsUnknown config.datePatterns r) _ _ :=
        areOpposite_predicate hwell ht hop r
      exact ⟨hanswers.not_both, hanswers.neither⟩

/-- A condition on a range of which one end is a column. -/
def ranging : Expr :=
  .between false (.column ⟨none, "c"⟩) (.constant (.long 1)) (.column ⟨some "t", "a"⟩)

/-- The row with a third column only is neither in the range nor out of it. -/
theorem not_compile_ranging :
    ofExpr ({} : Config).datePatterns ranging = .ok ⟨.column ⟨none, "c"⟩, .between, false,
      [.literal (.long 1), .column ⟨some "t", "a"⟩]⟩ ∧
    ofExpr ({} : Config).datePatterns (.not ranging) = .ok ⟨.column ⟨none, "c"⟩, .between, true,
      [.literal (.long 1), .column ⟨some "t", "a"⟩]⟩ ∧
    ∃ p q : Predicate Filter.Row,
      (Registry.standard {}).compile ⟨.column ⟨none, "c"⟩, .between, false,
        [.literal (.long 1), .column ⟨some "t", "a"⟩]⟩ = .ok p ∧
      (Registry.standard {}).compile ⟨.column ⟨none, "c"⟩, .between, true,
        [.literal (.long 1), .column ⟨some "t", "a"⟩]⟩ = .ok q ∧
      q.operator = .notBetween ∧ p.holds Filter.thirdRow = false ∧
      q.holds Filter.thirdRow = false := by
  have hread : ofExpr ({} : Config).datePatterns ranging = .ok ⟨.column ⟨none, "c"⟩, .between,
      false, [.literal (.long 1), .column ⟨some "t", "a"⟩]⟩ := rfl
  obtain ⟨hnot, -, -, hcompile⟩ := not_compile (ρ := Filter.Row) {} _ _ hread rfl
  obtain ⟨q, hq, -, -, hopposite⟩ := hcompile _ rfl
  obtain ⟨hop, -, hanswers⟩ := hopposite (by decide)
  obtain ⟨hp, hq'⟩ := (hanswers Filter.thirdRow).2.2 (.inr rfl)
  exact ⟨hread, hnot, _, q, rfl, hq, (Option.some.inj hop).symm, hp, hq'⟩

end Term

end RecordFilter
