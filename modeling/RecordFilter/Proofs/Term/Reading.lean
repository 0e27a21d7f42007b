import RecordFilter.Group.Rebuild
import RecordFilter.Proofs.Except
import RecordFilter.Term.Reading

/-!
# Terms that are read again

A term that was read from an expression is well-formed (`Term.wellFormed_of_ofExpr`):
its whole numbers have 64 bits, it has as many values as its operator takes, and
what it is like is a string. The expression rebuilt from a well-formed term is
read as the term again, but for one thing (`Term.ofExpr_toExpr`): an argument that
is a string is read once more, and if it is a date it becomes a number then
(`Subject.reread`).
-/

namespace RecordFilter

variable {patterns : List DatePattern}

/-- Whether a value is not a whole number of 32 bits. -/
def Literal.IsWide : Literal → Prop
  | .integer _ => False
  | _ => True

/-- Whether the values of a subject are not whole numbers of 32 bits. -/
def Subject.IsWide : Subject → Prop
  | .column _ => True
  | .call _ argument => ∀ v ∈ argument, v.IsWide
  | .value v => v.IsWide

/-- Whether the value of an operand is not a whole number of 32 bits. -/
def Operand.IsWide : Operand → Prop
  | .literal v => v.IsWide
  | .column _ => True

/-- A term as it can be read from an expression. -/
structure Term.WellFormed (t : Term) : Prop where
  subject : t.subject.IsWide
  values : ∀ v ∈ t.values, v.IsWide
  arity : t.operator.arity.accepts t.values.length
  /-- What the subject of `LIKE` is like is a string. -/
  pattern : t.operator = .like → ∃ s others, t.values = .literal (.string s) :: others

/-- An argument as it is read once more: a string that is a date is its milliseconds. -/
def Literal.reread (patterns : List DatePattern) : Literal → Literal
  | .string s =>
    match DateText.millis? patterns s with
    | some millis => .long (Int64.ofInt millis)
    | none => .string s
  | v => v

/-- A subject as it is read once more. -/
def Subject.reread (patterns : List DatePattern) : Subject → Subject
  | .call function argument => .call function (argument.map (Literal.reread patterns))
  | s => s

/-- A term as it is read once more. -/
def Term.reread (patterns : List DatePattern) (t : Term) : Term :=
  { t with subject := t.subject.reread patterns }

/-! ## Numbers of values -/

namespace Arity

variable {α : Type} {values : List α}

theorem eq_nil_of_accepts (h : (exactly 0).accepts values.length) : values = [] := by
  simpa [accepts] using h

theorem exists_one_of_accepts (h : (exactly 1).accepts values.length) : ∃ v, values = [v] := by
  simpa [accepts, List.length_eq_one_iff] using h

theorem exists_two_of_accepts (h : (exactly 2).accepts values.length) :
    ∃ low high, values = [low, high] := by
  simpa [accepts, List.length_eq_two] using h

end Arity

/-! ## Reading once more -/

namespace Literal

theorem isWide_toLiteral (c : Constant) : c.toLiteral.IsWide := by
  cases c <;> exact trivial

/-- A value is written as a constant that is read as the value, if it is not of 32 bits. -/
theorem toLiteral_toConstant {v : Literal} (h : v.IsWide) : v.toConstant.toLiteral = v := by
  cases v with
  | integer => exact h.elim
  | _ => rfl

/-- Reading an argument a second time changes it no more: what was a date is a number. -/
@[simp]
theorem reread_reread (v : Literal) : (v.reread patterns).reread patterns = v.reread patterns := by
  cases v with
  | string s =>
    cases hs : DateText.millis? patterns s with
    | some millis => simp only [reread, hs]
    | none => simp only [reread, hs]
  | _ => rfl

/-- An argument changes only if it is a string that is a date. -/
theorem reread_eq_self_iff {v : Literal} : v.reread patterns = v ↔
    ∀ s, v = .string s → DateText.millis? patterns s = none := by
  cases v with
  | string s => cases hs : DateText.millis? patterns s <;> simp [reread, hs]
  | _ => simp [reread]

/-- An argument that is written as a constant is read as it is read once more. -/
theorem parameter_ofLiteral {v : Literal} (h : v.IsWide) :
    (Expr.ofLiteral v).parameter patterns = .ok (v.reread patterns) := by
  cases v with
  | integer => exact h.elim
  | string s =>
    cases hs : DateText.millis? patterns s <;>
      simp [Expr.ofLiteral, toConstant, Expr.parameter, reread, hs] <;> rfl
  | _ => rfl

end Literal

namespace Subject

/-- A subject changes once at most. -/
@[simp]
theorem reread_reread (s : Subject) : (s.reread patterns).reread patterns = s.reread patterns := by
  cases s with
  | call function argument => cases argument <;> simp [reread]
  | _ => rfl

/-- What is rebuilt from a subject is read as the subject, up to its argument. -/
theorem ofExpr_toExpr {s : Subject} (h : s.IsWide) :
    ofExpr patterns s.toExpr = .ok (s.reread patterns) := by
  cases s with
  | column => rfl
  | value v =>
    rw [toExpr, Expr.ofLiteral, ofExpr, Literal.toLiteral_toConstant h]
    rfl
  | call function argument =>
    cases argument with
    | none => rfl
    | some v =>
      have hv : (Expr.ofLiteral v).parameter patterns = .ok (v.reread patterns) :=
        Literal.parameter_ofLiteral (h v rfl)
      simp [toExpr, ofExpr, hv, reread, bind, Except.bind, pure, Except.pure]

end Subject

namespace Operand

/-- What is rebuilt from an operand is read as this one operand. -/
theorem ofExpr_toExpr {v : Operand} (h : v.IsWide) :
    ofExpr patterns v.toExpr = .ok [v] := by
  cases v with
  | column => rfl
  | literal v =>
    rw [toExpr, Expr.ofLiteral, ofExpr, Literal.toLiteral_toConstant h]
    rfl

theorem mapM_ofExpr_toExpr {vs : List Operand} (h : ∀ v ∈ vs, v.IsWide) :
    (vs.map toExpr).mapM (ofExpr patterns) = .ok (vs.map fun v => [v]) := by
  -- Every operand that was rebuilt gives one value, so the flat list has them in order.
  rw [Except.mapM_eq_ok, List.forall₂_map_left_iff, List.forall₂_map_right_iff, List.forall₂_same]
  exact fun v hv => ofExpr_toExpr (h v hv)

end Operand

/-! ## Terms that are read -/

namespace Expr

theorem isWide_parameter {e : Expr} {v : Literal} (h : e.parameter patterns = .ok v) :
    v.IsWide := by
  cases e with
  | constant c =>
    cases c with
    | string s =>
      rw [parameter] at h
      split at h <;> cases h <;> exact trivial
    | _ => cases h; exact trivial
  | column => cases h; exact trivial
  -- A call is computed if it is a calendar unit, and kept as text otherwise.
  | call function =>
    rw [parameter] at h
    split at h
    · obtain ⟨n, -, h⟩ := Except.bind_eq_ok.1 h
      cases h
      exact trivial
    · cases h
      exact trivial
  | binary op =>
    rw [parameter] at h
    split at h
    · obtain ⟨n, -, h⟩ := Except.bind_eq_ok.1 h
      cases h
      exact trivial
    · cases h
  | _ => cases h

theorem isWide_mapM_parameter {es : List Expr} {vs : List Literal}
    (h : es.mapM (parameter patterns) = .ok vs) : ∀ v ∈ vs, v.IsWide := by
  have hall := Except.mapM_eq_ok.1 h
  clear h
  induction hall with
  | nil => exact fun _ hv => absurd hv List.not_mem_nil
  | cons hv _ ih => exact List.forall_mem_cons.2 ⟨isWide_parameter hv, ih⟩

end Expr

theorem Subject.isWide_ofExpr {e : Expr} {s : Subject} (h : ofExpr patterns e = .ok s) :
    s.IsWide := by
  cases e with
  | constant c =>
    cases h
    exact Literal.isWide_toLiteral c
  | column => cases h; exact trivial
  | call function arguments =>
    rw [ofExpr] at h
    split at h
    · cases h
    · obtain ⟨vs, hvs, h⟩ := Except.bind_eq_ok.1 h
      cases h
      exact fun v hv => Expr.isWide_mapM_parameter hvs v (List.mem_of_head? hv)
  | _ => cases h

theorem Operand.isWide_ofExpr {e : Expr} {vs : List Operand} (h : ofExpr patterns e = .ok vs) :
    ∀ v ∈ vs, v.IsWide := by
  cases e with
  | constant c =>
    cases h
    exact List.forall_mem_singleton.2 (Literal.isWide_toLiteral c)
  | column =>
    cases h
    exact List.forall_mem_singleton.2 trivial
  | call function arguments =>
    obtain ⟨ls, hls, h⟩ := Except.bind_eq_ok.1 h
    cases h
    exact List.forall_mem_map.2 (Expr.isWide_mapM_parameter hls)
  | binary op =>
    rw [ofExpr] at h
    split at h
    · obtain ⟨n, -, h⟩ := Except.bind_eq_ok.1 h
      cases h
      exact List.forall_mem_singleton.2 trivial
    · cases h
  | _ => cases h

theorem Operand.isWide_mapM_ofExpr {es : List Expr} {vs : List (List Operand)}
    (h : es.mapM (ofExpr patterns) = .ok vs) : ∀ v ∈ vs.flatten, v.IsWide := by
  have hall := Except.mapM_eq_ok.1 h
  clear h
  -- Each operand gives a list of its own; the induction is on the operands.
  induction hall with
  | nil => exact fun _ hv => absurd hv List.not_mem_nil
  | cons hv _ ih =>
    intro v hmem
    rw [List.flatten_cons, List.mem_append] at hmem
    exact hmem.elim (isWide_ofExpr hv v) (ih v)

namespace Term

/-- When a term made from an expression passes. -/
theorem check_eq_ok {e : Expr} {t : Term} : t.check e = .ok () ↔
    t.operator.arity.accepts t.values.length ∧
      (t.operator = .like → ∃ s others, t.values = .literal (.string s) :: others) := by
  obtain ⟨subject, op, negated, values⟩ := t
  unfold check
  cases ha : op.arity.accepts values.length with
  | false => simp
  | true =>
    cases op with
    | like =>
      cases values with
      | nil => simp [TermOperator.arity, Arity.accepts] at ha
      | cons v others =>
        cases v with
        | column => simp
        | literal v => cases v <;> simp
    | _ => simp

/-- A term is read from the condition of an expression: its subject, the values of all its operands
    in order, its operator and its negation, if they pass the check. -/
theorem ofExpr_eq_ok {e : Expr} {t : Term} : ofExpr patterns e = .ok t ↔
    ∃ c vs, Condition.ofExpr false e = .ok c ∧ Subject.ofExpr patterns c.subject = .ok t.subject ∧
      c.operands.mapM (Operand.ofExpr patterns) = .ok vs ∧ t.operator = c.operator ∧
      t.negated = c.negated ∧ t.values = vs.flatten ∧ t.check e = .ok () := by
  simp only [ofExpr, Except.bind_eq_ok, Except.pure_eq_ok]
  constructor
  · rintro ⟨c, hc, s, hs, vs, hvs, u, hcheck, rfl⟩
    exact ⟨c, vs, hc, hs, hvs, rfl, rfl, rfl, hcheck⟩
  · rintro ⟨c, vs, hc, hs, hvs, ho, hn, hv, hcheck⟩
    obtain ⟨subject, op, negated, values⟩ := t
    obtain rfl : op = c.operator := ho
    obtain rfl : negated = c.negated := hn
    obtain rfl : values = vs.flatten := hv
    exact ⟨c, hc, subject, hs, vs, hvs, (), hcheck, rfl⟩

/-- A term that was read is well-formed. -/
theorem wellFormed_of_ofExpr {e : Expr} {t : Term} (h : ofExpr patterns e = .ok t) :
    t.WellFormed := by
  obtain ⟨c, vs, -, hs, hvs, -, -, hv, hcheck⟩ := ofExpr_eq_ok.1 h
  obtain ⟨harity, hpattern⟩ := check_eq_ok.1 hcheck
  exact ⟨Subject.isWide_ofExpr hs, by rw [hv]; exact Operand.isWide_mapM_ofExpr hvs, harity,
    hpattern⟩

/-- The condition that is rebuilt has the operator and the operands of the term. -/
theorem condition_toExpr {t : Term} (h : t.operator.arity.accepts t.values.length) :
    Condition.ofExpr false t.toExpr =
      .ok ⟨t.operator, t.negated, t.subject.toExpr, t.values.map Operand.toExpr⟩ := by
  obtain ⟨subject, op, negated, values⟩ := t
  -- As many values as the operator takes are used, and no other ones.
  cases op with
  | isNull | isNotNull =>
    obtain rfl := Arity.eq_nil_of_accepts h
    cases negated <;> rfl
  | between =>
    obtain ⟨low, high, rfl⟩ := Arity.exists_two_of_accepts h
    cases negated <;> rfl
  | «in» => cases negated <;> rfl
  | _ =>
    obtain ⟨v, rfl⟩ := Arity.exists_one_of_accepts h
    cases negated <;> rfl

/-- What is rebuilt from a term is read as the term. -/
theorem ofExpr_toExpr {t : Term} (h : t.WellFormed) :
    ofExpr patterns t.toExpr = .ok (t.reread patterns) := by
  refine ofExpr_eq_ok.2 ⟨_, _, condition_toExpr h.arity, Subject.ofExpr_toExpr h.subject,
    Operand.mapM_ofExpr_toExpr h.values, rfl, rfl, ?_, check_eq_ok.2 ⟨h.arity, h.pattern⟩⟩
  rw [← List.flatMap_def, List.flatMap_singleton']
  rfl

/-- What is rebuilt from a term is a single condition. -/
theorem isJunction_toExpr (t : Term) : t.toExpr.isJunction = false := by
  obtain ⟨subject, op, negated, values⟩ := t
  cases negated with
  | true => rfl
  | false => cases op <;> rfl

/-- A term changes once at most. -/
@[simp]
theorem reread_reread (t : Term) : (t.reread patterns).reread patterns = t.reread patterns := by
  simp [reread]

/-- A term changes only if the argument of its subject is a string that is a date. -/
theorem reread_eq_self {t : Term} (h : ∀ function s,
    t.subject = .call function (some (.string s)) → DateText.millis? patterns s = none) :
    t.reread patterns = t := by
  obtain ⟨subject, op, negated, values⟩ := t
  cases subject with
  | call function argument =>
    cases argument with
    | none => rfl
    | some v =>
      have hv : v.reread patterns = v :=
        Literal.reread_eq_self_iff.2 fun s hs => h function s (by rw [hs])
      simp only [reread, Subject.reread, Option.map_some, hv]
  | _ => rfl

end Term

end RecordFilter
