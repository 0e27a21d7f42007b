import RecordFilter.Predicate.Standard
import RecordFilter.Proofs.Except
import RecordFilter.Proofs.Term.Reading

/-!
# Which predicates are made

The standard predicate of an operator is made of a subject and values if the records have
the columns among them, and if the values fit the operator: there are as many as it takes,
and a pattern is a string.

* `Predicate.checkColumns_eq_error`: of several columns that the records do not have the
  first one is reported, the subject before the values;
* `Registry.create_eq_ok`: when the predicate of an operator is made, and which one it is;
* `Term.WellFormed.fits`: the values of a term that was read from an expression fit the
  operator of its predicate, negated or not, so that only a column can be wrong with it
  (`Registry.compile_eq_ok`, `Registry.compile_eq_error`).
-/

namespace RecordFilter

/-! ## Declared columns -/

/-- Whether the records have the column that a subject is, if it is one. -/
def Subject.IsDeclared (ρ : Type) [Record ρ] : Subject → Prop
  | .column c => Record.hasField ρ c.name
  | _ => True

/-- Whether the records have the column that an operand is, if it is one. -/
def Operand.IsDeclared (ρ : Type) [Record ρ] : Operand → Prop
  | .column c => Record.hasField ρ c.name
  | .literal _ => True

/-- Whether the records have all columns of a term. -/
structure Term.IsDeclared (ρ : Type) [Record ρ] (t : Term) : Prop where
  subject : t.subject.IsDeclared ρ
  values : ∀ v ∈ t.values, v.IsDeclared ρ

theorem Term.isDeclared_iff (ρ : Type) [Record ρ] {t : Term} :
    t.IsDeclared ρ ↔ t.subject.IsDeclared ρ ∧ ∀ v ∈ t.values, v.IsDeclared ρ :=
  ⟨fun h => ⟨h.subject, h.values⟩, fun h => ⟨h.1, h.2⟩⟩

/-- Whether a column is the first one of a subject and its values, in this order, that the
    records do not have. -/
inductive FirstUndeclared (ρ : Type) [Record ρ] (c : Column) : Subject → List Operand → Prop
  | subject {values : List Operand} : Record.hasField ρ c.name = false →
    FirstUndeclared ρ c (.column c) values
  | value {subject : Subject} {front back : List Operand} : subject.IsDeclared ρ →
    (∀ v ∈ front, v.IsDeclared ρ) → Record.hasField ρ c.name = false →
    FirstUndeclared ρ c subject (front ++ .column c :: back)

variable {ρ : Type} [Record ρ]

theorem Subject.isDeclared_iff {s : Subject} :
    s.IsDeclared ρ ↔ ∀ c ∈ s.column?, Record.hasField ρ c.name := by
  cases s <;> simp [IsDeclared, column?]

theorem Operand.isDeclared_iff {v : Operand} :
    v.IsDeclared ρ ↔ ∀ c ∈ v.column?, Record.hasField ρ c.name := by
  cases v <;> simp [IsDeclared, column?]

/-- The check stops at an operand exactly if it is not declared. -/
theorem Operand.any_column?_iff {v : Operand} :
    v.column?.any (fun c => !Record.hasField ρ c.name) ↔ ¬v.IsDeclared ρ := by
  cases v <;> simp [IsDeclared, column?]

theorem Operand.column?_eq_some {v : Operand} {c : Column} :
    v.column? = some c ↔ v = .column c := by
  cases v <;> simp [column?]

namespace Predicate

/-- Among values the check stops at the first column that is not declared. -/
theorem find?_columnsOfValues {vs : List Operand} {c : Column} :
    ((vs.filterMap Operand.column?).find? fun c => !Record.hasField ρ c.name) = some c ↔
      ∃ front back, vs = front ++ .column c :: back ∧ (∀ v ∈ front, v.IsDeclared ρ) ∧
        Record.hasField ρ c.name = false := by
  simp only [List.find?_filterMap, Option.bind_eq_some_iff, List.find?_eq_some_iff_append,
    Operand.column?_eq_some, Bool.not_eq_true', ← Bool.not_eq_true, Operand.any_column?_iff,
    not_not]
  constructor
  · rintro ⟨v, ⟨hv, front, back, rfl, hfront⟩, rfl⟩
    exact ⟨front, back, rfl, hfront, by simpa [Operand.IsDeclared] using hv⟩
  · rintro ⟨front, back, rfl, hfront, hc⟩
    exact ⟨.column c, ⟨by simpa [Operand.IsDeclared] using hc, front, back, rfl, hfront⟩, rfl⟩

theorem find?_columns {s : Subject} {vs : List Operand} {c : Column} :
    ((columns s vs).find? fun c => !Record.hasField ρ c.name) = some c ↔
      FirstUndeclared ρ c s vs := by
  -- Where the subject is declared, the first one is among the values.
  have hvalues (hs : s.IsDeclared ρ) :
      ((vs.filterMap Operand.column?).find? fun c => !Record.hasField ρ c.name) = some c ↔
        FirstUndeclared ρ c s vs := by
    rw [find?_columnsOfValues]
    constructor
    · rintro ⟨front, back, rfl, hfront, hc⟩
      exact .value hs hfront hc
    · rintro (hc | ⟨-, hfront, hc⟩)
      · exact absurd hs (by simp [Subject.IsDeclared, hc])
      · exact ⟨_, _, rfl, hfront, hc⟩
  -- Only a column as the subject comes before the values; it is found or passed over.
  cases s with
  | column d =>
    rcases hd : Record.hasField ρ d.name with _ | _
    · rw [columns, Subject.column?, Option.toList_some, List.singleton_append,
        List.find?_cons_of_pos (by simp [hd]), Option.some.injEq]
      constructor
      · rintro rfl
        exact .subject hd
      · rintro (- | ⟨hs, -⟩)
        · rfl
        · exact absurd hs (by simp [Subject.IsDeclared, hd])
    · rw [columns, Subject.column?, Option.toList_some, List.singleton_append,
        List.find?_cons_of_neg (by simp [hd])]
      exact hvalues hd
  | call | value => exact hvalues trivial

/-- The check of the columns fails with the name of the first one that is not declared, as it is
    written, and with the type of the records. -/
theorem checkColumns_eq_error {s : Subject} {vs : List Operand} {cause : FilterError} :
    checkColumns ρ s vs = .error cause ↔ ∃ c, FirstUndeclared ρ c s vs ∧
      cause = .unresolvedField c.text (Record.typeName ρ) := by
  simp only [← find?_columns, checkColumns]
  cases (columns s vs).find? fun c => !Record.hasField ρ c.name with
  | none => simp
  | some c => simp [eq_comm]

theorem checkColumns_eq_ok {s : Subject} {vs : List Operand} :
    checkColumns ρ s vs = .ok () ↔ s.IsDeclared ρ ∧ ∀ v ∈ vs, v.IsDeclared ρ := by
  have hnone : checkColumns ρ s vs = .ok () ↔
      ((columns s vs).find? fun c => !Record.hasField ρ c.name) = none := by
    rw [checkColumns]
    cases (columns s vs).find? fun c => !Record.hasField ρ c.name <;> simp
  rw [hnone, List.find?_eq_none]
  simp only [columns, List.mem_append, Option.mem_toList, List.mem_filterMap, Option.mem_def,
    Bool.not_eq_true', Bool.not_eq_false, or_imp, forall_and, Subject.isDeclared_iff,
    Operand.isDeclared_iff]
  exact and_congr_right fun _ =>
    ⟨fun h v hv c hc => h c ⟨v, hv, hc⟩, fun h c ⟨v, hv, hc⟩ => h v hv c hc⟩

end Predicate

/-! ## Values that fit -/

/-- Whether an operator takes the values: there are as many as it needs, and what the
    subject of `LIKE` is like is a string. -/
structure PredicateOperator.Fits (op : PredicateOperator) (vs : List Operand) : Prop where
  arity : op.arity.accepts vs.length
  pattern : op = .like ∨ op = .notLike → ∃ s others, vs = .literal (.string s) :: others

theorem Predicate.checkCount_eq_ok {op : PredicateOperator} {count : Nat} :
    checkCount op count = .ok () ↔ op.arity.accepts count := by
  unfold checkCount
  cases op.arity with
  | exactly n | atLeast n => simp [Arity.accepts]

/-- The check of the pattern passes if the operator has none or it is a string. -/
theorem Predicate.checkPattern_eq_ok {op : PredicateOperator} {vs : List Operand}
    (h : op.arity.accepts vs.length) : checkPattern op vs = .ok () ↔
      (op = .like ∨ op = .notLike → ∃ s others, vs = .literal (.string s) :: others) := by
  by_cases hop : op = .like ∨ op = .notLike
  · rcases vs with _ | ⟨v | c, others⟩
    · rcases hop with rfl | rfl <;> simp [PredicateOperator.arity, Arity.accepts] at h
    · rcases hop with rfl | rfl <;> cases v <;> simp [checkPattern]
    · rcases hop with rfl | rfl <;> simp [checkPattern]
  · cases op <;> simp_all [checkPattern]

/-- Both checks of the values pass if these fit the operator. -/
theorem Predicate.checkValues_eq_ok {op : PredicateOperator} {vs : List Operand} :
    checkValues op vs = .ok () ↔ op.Fits vs := by
  rw [checkValues, Except.bind_eq_ok]
  constructor
  · rintro ⟨⟨⟩, hcount, hpattern⟩
    have harity := checkCount_eq_ok.1 hcount
    exact ⟨harity, (checkPattern_eq_ok harity).1 hpattern⟩
  · rintro ⟨harity, hpattern⟩
    exact ⟨(), checkCount_eq_ok.2 harity, (checkPattern_eq_ok harity).2 hpattern⟩

namespace TermOperator

@[simp]
theorem arity_resolve (op : TermOperator) (negated : Bool) :
    (op.resolve negated).1.arity = op.arity := by
  cases op <;> cases negated <;> rfl

/-- Only `LIKE` becomes an operator with a pattern, negated or not. -/
theorem resolve_eq_like {op : TermOperator} {negated : Bool} :
    (op.resolve negated).1 = .like ∨ (op.resolve negated).1 = .notLike ↔ op = .like := by
  cases op <;> cases negated <;> simp [resolve]

end TermOperator

/-- The values of a term that was read fit the operator of its predicate. -/
theorem Term.WellFormed.fits {t : Term} (h : t.WellFormed) (negated : Bool) :
    (t.operator.resolve negated).1.Fits t.values where
  arity := by
    rw [TermOperator.arity_resolve]
    exact h.arity
  pattern hlike := h.pattern (TermOperator.resolve_eq_like.1 hlike)

/-! ## Predicates that are made -/

/-- The predicate that is made of a subject and values for an operator. -/
def Predicate.ofOperator (config : Config) (op : PredicateOperator) (subject : Subject)
    (values : List Operand) : Predicate ρ where
  operator := op
  subject
  values
  test r := op.holds config.datePatterns config.caseInsensitiveLike (subject.valueIn r)
    (values.map (·.valueIn r))

/-- The predicate that is made of a term. -/
def Term.predicate (config : Config) (t : Term) : Predicate ρ :=
  { Predicate.ofOperator config (t.operator.resolve t.negated).1 t.subject t.values with
    negated := (t.operator.resolve t.negated).2 }

/-- The predicate of an operator holds of a record if the operator holds of the values in it. -/
theorem Predicate.holds_ofOperator (config : Config) (op : PredicateOperator) (s : Subject)
    (vs : List Operand) (r : ρ) : (ofOperator config op s vs).holds r =
      op.holds config.datePatterns config.caseInsensitiveLike (s.valueIn r)
        (vs.map (·.valueIn r)) :=
  Bool.bne_false _

/-- The predicate of a term holds as its operator does, or the other way round if the negation is
    kept. -/
theorem Term.holds_predicate (config : Config) (t : Term) (r : ρ) :
    (t.predicate config).holds r =
      ((t.operator.resolve t.negated).1.holds config.datePatterns config.caseInsensitiveLike
        (t.subject.valueIn r) (t.values.map (·.valueIn r)) != (t.operator.resolve t.negated).2) :=
  rfl

theorem Term.operator_predicate (config : Config) (t : Term) :
    (t.predicate config : Predicate ρ).operator = (t.operator.resolve t.negated).1 :=
  rfl

theorem Term.negated_predicate (config : Config) (t : Term) :
    (t.predicate config : Predicate ρ).negated = (t.operator.resolve t.negated).2 :=
  rfl

namespace Registry

variable {config : Config}

/-- A predicate is made after two checks, of the columns first and then of the values. -/
theorem create_eq (op : PredicateOperator) (s : Subject) (vs : List Operand) :
    (standard config : Registry ρ).create op s vs = (do
      Predicate.checkColumns ρ s vs
      (Predicate.checkValues op vs).mapError .unsupported
      return .ofOperator config op s vs) :=
  rfl

/-- The predicate of a term is made after the same two checks. -/
theorem compile_eq (t : Term) : (standard config : Registry ρ).compile t = (do
      Predicate.checkColumns ρ t.subject t.values
      (Predicate.checkValues (t.operator.resolve t.negated).1 t.values).mapError .unsupported
      return t.predicate config) := by
  have hcompile : (standard config : Registry ρ).compile t = (do
      let p ← (standard config).create (t.operator.resolve t.negated).1 t.subject t.values
      return if (t.operator.resolve t.negated).2 then p.negate else p) := rfl
  -- Turning a predicate into its opposite sets a field of it and leaves all others.
  have hopposite : (if (t.operator.resolve t.negated).2 then
        (Predicate.ofOperator config (t.operator.resolve t.negated).1 t.subject t.values).negate
      else .ofOperator config (t.operator.resolve t.negated).1 t.subject t.values) =
      (t.predicate config : Predicate ρ) := by
    rw [Term.predicate]
    cases (t.operator.resolve t.negated).2 <;> rfl
  simp only [hcompile, create_eq, bind_assoc, pure_bind, hopposite]

/-- When the predicate of an operator is made, and which one it is. -/
theorem create_eq_ok {op : PredicateOperator} {s : Subject} {vs : List Operand}
    {p : Predicate ρ} : (standard config).create op s vs = .ok p ↔
      (s.IsDeclared ρ ∧ ∀ v ∈ vs, v.IsDeclared ρ) ∧ op.Fits vs ∧
        p = .ofOperator config op s vs := by
  simp only [create_eq, Except.bind_eq_ok, Except.mapError_eq_ok, Except.pure_eq_ok,
    Unique.exists_iff, PUnit.default_eq_unit, Predicate.checkColumns_eq_ok,
    Predicate.checkValues_eq_ok, eq_comm (a := p)]

/-- When the predicate of a term is made, and which one it is. -/
theorem compile_eq_ok {t : Term} {p : Predicate ρ} : (standard config).compile t = .ok p ↔
    t.IsDeclared ρ ∧ (t.operator.resolve t.negated).1.Fits t.values ∧ p = t.predicate config := by
  simp only [compile_eq, Except.bind_eq_ok, Except.mapError_eq_ok, Except.pure_eq_ok,
    Unique.exists_iff, PUnit.default_eq_unit, Predicate.checkColumns_eq_ok,
    Predicate.checkValues_eq_ok, eq_comm (a := p), Term.isDeclared_iff]

/-- Where the values of a term fit, only a column can be wrong with it. -/
theorem compile_eq_error {t : Term} (h : (t.operator.resolve t.negated).1.Fits t.values)
    {cause : FilterError} : (standard config : Registry ρ).compile t = .error cause ↔
      ∃ c, FirstUndeclared ρ c t.subject t.values ∧
        cause = .unresolvedField c.text (Record.typeName ρ) := by
  rw [compile_eq, Predicate.checkValues_eq_ok.2 h, Except.bind_eq_error,
    Predicate.checkColumns_eq_error]
  refine or_iff_left ?_
  rintro ⟨_, -, h⟩
  cases h

end Registry

end RecordFilter
