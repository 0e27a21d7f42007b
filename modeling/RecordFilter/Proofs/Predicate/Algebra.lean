import RecordFilter.Proofs.Filter.Meaning
import RecordFilter.Proofs.Predicate.Creation

/-!
# The algebra of the operators

The standard operators do not each have a meaning of their own. All that compare are made
of the order of two values, which may be unknown: `IN` is a disjunction of equalities and
`BETWEEN` a conjunction of two bounds. `NOT BETWEEN` asks for values that are comparable
with both bounds, `NOT IN` only for values other than NULL, whatever is in the list. NULL,
whose order is unknown to everything, satisfies `IS NULL` alone.

* `PredicateOperator.holds_le` to `PredicateOperator.holds_null`: the laws for values;
* `Subject.Satisfies`: what the predicate of an operator says of a record;
* `Subject.satisfies_algebra`: the laws for the predicates.
-/

namespace RecordFilter

namespace Literal

variable {patterns : List DatePattern}

@[simp]
theorem compare?_null (v : Literal) : null.compare? patterns v = none := by
  cases v <;> rfl

/-- Two values are equal if they are comparable and neither is less. -/
theorem equals_iff {a b : Literal} :
    a.equals patterns b ↔ a.compare? patterns b = some .eq := by
  rw [equals, beq_iff_eq]

theorem isNull_iff {v : Literal} : v.isNull ↔ v = .null := by
  cases v <;> simp [isNull]

/-- Only NULL has no plain text. -/
theorem plainText?_eq_none {v : Literal} : v.plainText? = none ↔ v = .null := by
  cases v <;> simp [plainText?]

end Literal

/-! ## Laws for values -/

namespace PredicateOperator

variable {patterns : List DatePattern} {ignoreCase : Bool} {value other low high : Literal}
  {others : List Literal}

/-! ### One value -/

theorem holds_le : le.holds patterns ignoreCase value [other] ↔
    lt.holds patterns ignoreCase value [other] ∨ eq.holds patterns ignoreCase value [other] := by
  simp only [holds]
  rcases value.compare? patterns other with _ | (_ | _ | _) <;> simp

theorem holds_ge : ge.holds patterns ignoreCase value [other] ↔
    gt.holds patterns ignoreCase value [other] ∨ eq.holds patterns ignoreCase value [other] := by
  simp only [holds]
  rcases value.compare? patterns other with _ | (_ | _ | _) <;> simp

/-- `<>` is `<` or `>`, so it needs comparable values. -/
theorem holds_notEq : notEq.holds patterns ignoreCase value [other] ↔
    lt.holds patterns ignoreCase value [other] ∨ gt.holds patterns ignoreCase value [other] := by
  simp only [holds]
  rcases value.compare? patterns other with _ | (_ | _ | _) <;> simp

/-- A value is not less than another one and the same or greater, nor the same and greater. -/
theorem holds_exclusive :
    ¬(lt.holds patterns ignoreCase value [other] ∧ eq.holds patterns ignoreCase value [other]) ∧
    ¬(lt.holds patterns ignoreCase value [other] ∧ gt.holds patterns ignoreCase value [other]) ∧
    ¬(eq.holds patterns ignoreCase value [other] ∧ gt.holds patterns ignoreCase value [other]) := by
  simp only [holds]
  rcases value.compare? patterns other with _ | (_ | _ | _) <;> simp

/-! ### Two bounds -/

/-- `BETWEEN` is `>=` of the low bound and `<=` of the high one. -/
theorem holds_between : between.holds patterns ignoreCase value [low, high] ↔
    ge.holds patterns ignoreCase value [low] ∧ le.holds patterns ignoreCase value [high] := by
  simp only [holds]
  rcases value.compare? patterns low with _ | toLow <;>
    rcases value.compare? patterns high with _ | toHigh <;> simp

/-- `NOT BETWEEN` is `<` of the low bound or `>` of the high one, if the value is comparable with
    both. -/
theorem holds_notBetween : notBetween.holds patterns ignoreCase value [low, high] ↔
    (value.compare? patterns low).isSome ∧ (value.compare? patterns high).isSome ∧
      (lt.holds patterns ignoreCase value [low] ∨ gt.holds patterns ignoreCase value [high]) := by
  -- A bound that is not comparable makes both sides false.
  simp only [holds]
  rcases value.compare? patterns low with _ | toLow <;>
    rcases value.compare? patterns high with _ | toHigh <;> simp

/-! ### A list of values -/

theorem holds_eq_iff_equals : eq.holds patterns ignoreCase value [other] ↔
    value.equals patterns other := by
  rw [Literal.equals_iff]
  simp only [holds]
  rcases value.compare? patterns other with _ | (_ | _ | _) <;> simp

/-- `IN` is `=` of some value of the list. NULL needs no case of its own, as it is equal to
    nothing. -/
theorem holds_in : «in».holds patterns ignoreCase value others ↔
    ∃ other ∈ others, eq.holds patterns ignoreCase value [other] := by
  have hin : «in».holds patterns ignoreCase value others =
      (!value.isNull && others.any (value.equals patterns)) := rfl
  simp only [hin, holds_eq_iff_equals, Bool.and_eq_true, List.any_eq_true]
  refine and_iff_right_of_imp ?_
  rintro ⟨other, -, hequal⟩
  rw [Bool.not_eq_true', ← Bool.not_eq_true, Literal.isNull_iff]
  rintro rfl
  simp [Literal.equals_iff] at hequal

/-- `NOT IN` is `=` of no value of the list, except that NULL does not satisfy it. -/
theorem holds_notIn : notIn.holds patterns ignoreCase value others ↔
    value ≠ .null ∧ ¬∃ other ∈ others, eq.holds patterns ignoreCase value [other] := by
  have hnotIn : notIn.holds patterns ignoreCase value others =
      (!value.isNull && !others.any (value.equals patterns)) := rfl
  simp only [hnotIn, holds_eq_iff_equals, Bool.and_eq_true, Bool.not_eq_true',
    ← Bool.not_eq_true, Literal.isNull_iff, List.any_eq_true, ne_eq]

/-! ### NULL -/

theorem holds_null {op : PredicateOperator} (h : op ≠ .isNull) :
    op.holds patterns ignoreCase .null others = false := by
  unfold holds
  split <;> simp_all [Literal.isNull, Literal.plainText?]

end PredicateOperator

/-! ## Laws for predicates -/

namespace Subject

variable {ρ : Type} [Record ρ]

/-- Whether a record satisfies the predicate that is made of the subject and values for an
    operator. -/
def Satisfies (config : Config) (r : ρ) (s : Subject) (op : PredicateOperator)
    (vs : List Operand) : Prop :=
  ∃ p, (Registry.standard config).create op s vs = .ok p ∧ p.holds r

variable {config : Config} {r : ρ} {s : Subject}

/-- Where the predicate is made, a record satisfies it if the operator holds of the values in the
    record. -/
theorem satisfies_iff {op : PredicateOperator} {vs : List Operand} (hs : s.IsDeclared ρ)
    (hvs : ∀ v ∈ vs, v.IsDeclared ρ) (hfits : op.Fits vs) : s.Satisfies config r op vs ↔
      op.holds config.datePatterns config.caseInsensitiveLike (s.valueIn r)
        (vs.map (·.valueIn r)) := by
  simp only [Satisfies, Registry.create_eq_ok]
  constructor
  · rintro ⟨p, ⟨-, -, rfl⟩, hp⟩
    rwa [Predicate.holds_ofOperator] at hp
  · intro h
    exact ⟨_, ⟨⟨hs, hvs⟩, hfits, rfl⟩, by rwa [Predicate.holds_ofOperator]⟩

/-- The operators that compare one value have a predicate for every declared one. -/
theorem satisfies_comparison {op : PredicateOperator} {v : Operand} (hs : s.IsDeclared ρ)
    (hv : v.IsDeclared ρ) (hop : op ∈ [.eq, .notEq, .lt, .le, .gt, .ge]) :
    s.Satisfies config r op [v] ↔
      op.holds config.datePatterns config.caseInsensitiveLike (s.valueIn r) [v.valueIn r] := by
  have hfits : op.Fits [v] := by
    simp only [List.mem_cons, List.not_mem_nil, or_false] at hop
    rcases hop with rfl | rfl | rfl | rfl | rfl | rfl <;> exact ⟨rfl, by simp⟩
  exact satisfies_iff hs (List.forall_mem_singleton.2 hv) hfits

/-- Being equal to one of several operands is being equal to one of their values. -/
theorem exists_satisfies_eq {vs : List Operand} (hs : s.IsDeclared ρ)
    (hvs : ∀ v ∈ vs, v.IsDeclared ρ) : (∃ v ∈ vs, s.Satisfies config r .eq [v]) ↔
      ∃ other ∈ vs.map (·.valueIn r), PredicateOperator.eq.holds config.datePatterns
        config.caseInsensitiveLike (s.valueIn r) [other] := by
  simp only [List.mem_map, exists_exists_and_eq_and]
  exact exists_congr fun v => and_congr_right fun hv =>
    satisfies_comparison hs (hvs v hv) (by simp)

/-- A record satisfies `IN` if it satisfies `=` with some element of the list. -/
theorem satisfies_in {vs : List Operand} (hs : s.IsDeclared ρ) (hvs : ∀ v ∈ vs, v.IsDeclared ρ)
    (hne : vs ≠ []) :
    s.Satisfies config r .in vs ↔ ∃ v ∈ vs, s.Satisfies config r .eq [v] := by
  have hfits : PredicateOperator.in.Fits vs :=
    ⟨decide_eq_true (List.length_pos_iff.2 hne), by simp⟩
  rw [satisfies_iff hs hvs hfits, PredicateOperator.holds_in, exists_satisfies_eq hs hvs]

/-- A record satisfies `NOT IN` if its subject is not NULL and it satisfies `=` with no element of
    the list. -/
theorem satisfies_notIn {vs : List Operand} (hs : s.IsDeclared ρ)
    (hvs : ∀ v ∈ vs, v.IsDeclared ρ) (hne : vs ≠ []) : s.Satisfies config r .notIn vs ↔
      s.valueIn r ≠ .null ∧ ¬∃ v ∈ vs, s.Satisfies config r .eq [v] := by
  have hfits : PredicateOperator.notIn.Fits vs :=
    ⟨decide_eq_true (List.length_pos_iff.2 hne), by simp⟩
  rw [satisfies_iff hs hvs hfits, PredicateOperator.holds_notIn, exists_satisfies_eq hs hvs]

/-- A record satisfies `BETWEEN` if it satisfies `>=` and `<=` with the bounds. -/
theorem satisfies_between {low high : Operand} (hs : s.IsDeclared ρ) (hlow : low.IsDeclared ρ)
    (hhigh : high.IsDeclared ρ) : s.Satisfies config r .between [low, high] ↔
      s.Satisfies config r .ge [low] ∧ s.Satisfies config r .le [high] := by
  rw [satisfies_iff hs (by simp [hlow, hhigh]) ⟨rfl, by simp⟩,
    satisfies_comparison hs hlow (by simp), satisfies_comparison hs hhigh (by simp)]
  exact PredicateOperator.holds_between

/-- A record satisfies `NOT BETWEEN` if its subject is comparable with both bounds and it satisfies
    `<` or `>` with one of them. -/
theorem satisfies_notBetween {low high : Operand} (hs : s.IsDeclared ρ)
    (hlow : low.IsDeclared ρ) (hhigh : high.IsDeclared ρ) :
    s.Satisfies config r .notBetween [low, high] ↔
      ((s.valueIn r).compare? config.datePatterns (low.valueIn r)).isSome ∧
      ((s.valueIn r).compare? config.datePatterns (high.valueIn r)).isSome ∧
      (s.Satisfies config r .lt [low] ∨ s.Satisfies config r .gt [high]) := by
  rw [satisfies_iff hs (by simp [hlow, hhigh]) ⟨rfl, by simp⟩,
    satisfies_comparison hs hlow (by simp), satisfies_comparison hs hhigh (by simp)]
  exact PredicateOperator.holds_notBetween

/-- A record whose subject is NULL satisfies no operator but `IS NULL`. -/
theorem not_satisfies_of_null {op : PredicateOperator} {vs : List Operand} (h : op ≠ .isNull)
    (hnull : s.valueIn r = .null) : ¬s.Satisfies config r op vs := by
  rintro ⟨p, hp, hholds⟩
  obtain ⟨-, -, rfl⟩ := Registry.create_eq_ok.1 hp
  rw [Predicate.holds_ofOperator, hnull, PredicateOperator.holds_null h] at hholds
  cases hholds

/-- The laws of the standard operators: each of them has its predicate, and what it says
    of a record follows from what `=`, `<` and `>` say of it; the opposites of a list and of
    a range ask besides that the subject is not NULL and that the bounds are comparable. -/
theorem satisfies_algebra (config : Config) (r : ρ) (s : Subject) (vs : List Operand)
    (hs : s.IsDeclared ρ) (hvs : ∀ v ∈ vs, v.IsDeclared ρ) (hne : vs ≠ []) :
    (∀ op ws, ws ⊆ vs → op.Fits ws →
      ∃ p : Predicate ρ, (Registry.standard config).create op s ws = .ok p) ∧
    (s.Satisfies config r .in vs ↔ ∃ v ∈ vs, s.Satisfies config r .eq [v]) ∧
    (s.Satisfies config r .notIn vs ↔
      s.valueIn r ≠ .null ∧ ¬∃ v ∈ vs, s.Satisfies config r .eq [v]) ∧
    (∀ ws, (∀ v, v ∈ ws ↔ v ∈ vs) →
      (s.Satisfies config r .in ws ↔ s.Satisfies config r .in vs) ∧
      (s.Satisfies config r .notIn ws ↔ s.Satisfies config r .notIn vs)) ∧
    (∀ low ∈ vs, ∀ high ∈ vs,
      (s.Satisfies config r .between [low, high] ↔
        s.Satisfies config r .ge [low] ∧ s.Satisfies config r .le [high]) ∧
      (s.Satisfies config r .notBetween [low, high] ↔
        ((s.valueIn r).compare? config.datePatterns (low.valueIn r)).isSome ∧
        ((s.valueIn r).compare? config.datePatterns (high.valueIn r)).isSome ∧
        (s.Satisfies config r .lt [low] ∨ s.Satisfies config r .gt [high]))) ∧
    (∀ v ∈ vs,
      (s.Satisfies config r .le [v] ↔
        s.Satisfies config r .lt [v] ∨ s.Satisfies config r .eq [v]) ∧
      (s.Satisfies config r .ge [v] ↔
        s.Satisfies config r .gt [v] ∨ s.Satisfies config r .eq [v]) ∧
      (s.Satisfies config r .notEq [v] ↔
        s.Satisfies config r .lt [v] ∨ s.Satisfies config r .gt [v]) ∧
      ¬(s.Satisfies config r .lt [v] ∧ s.Satisfies config r .eq [v]) ∧
      ¬(s.Satisfies config r .lt [v] ∧ s.Satisfies config r .gt [v]) ∧
      ¬(s.Satisfies config r .eq [v] ∧ s.Satisfies config r .gt [v])) ∧
    (s.valueIn r = .null → ∀ op ws, op ≠ .isNull → ¬s.Satisfies config r op ws) := by
  refine ⟨?made, satisfies_in hs hvs hne, satisfies_notIn hs hvs hne, ?members, ?bounds, ?single,
    fun hnull op ws hop => not_satisfies_of_null hop hnull⟩
  case made =>
    intro op ws hws hfits
    exact ⟨_, Registry.create_eq_ok.2 ⟨⟨hs, fun v hv => hvs v (hws hv)⟩, hfits, rfl⟩⟩
  case members =>
    intro ws hmem
    have hws : ∀ v ∈ ws, v.IsDeclared ρ := fun v hv => hvs v ((hmem v).1 hv)
    -- The list with the same elements is not empty either, so there is a predicate for it.
    have hne' : ws ≠ [] := by
      obtain ⟨v, hv⟩ := List.exists_mem_of_ne_nil vs hne
      exact List.ne_nil_of_mem ((hmem v).2 hv)
    simp only [satisfies_in hs hvs hne, satisfies_in hs hws hne', satisfies_notIn hs hvs hne,
      satisfies_notIn hs hws hne', hmem, and_self]
  case bounds =>
    intro low hlow high hhigh
    exact ⟨satisfies_between hs (hvs low hlow) (hvs high hhigh),
      satisfies_notBetween hs (hvs low hlow) (hvs high hhigh)⟩
  case single =>
    intro v hv
    simp (disch := simp) only [satisfies_comparison hs (hvs v hv)]
    exact ⟨PredicateOperator.holds_le, PredicateOperator.holds_ge, PredicateOperator.holds_notEq,
      PredicateOperator.holds_exclusive⟩

/-- A row whose first two columns are the same number. -/
def twinRow : Filter.Row :=
  [("a", .long 3), ("b", .integer 3)]

/-- A NULL in the list does not keep the row from having one of its columns in it. -/
theorem satisfies_algebra_twinRow :
    (column ⟨none, "a"⟩).IsDeclared Filter.Row ∧
    (∀ v ∈ [Operand.literal .null, .column ⟨some "t", "b"⟩], v.IsDeclared Filter.Row) ∧
    (column ⟨none, "a"⟩).Satisfies {} twinRow .in [.literal .null, .column ⟨some "t", "b"⟩] := by
  have ha : (column ⟨none, "a"⟩).IsDeclared Filter.Row := rfl
  have hb : ∀ v ∈ [Operand.literal .null, .column ⟨some "t", "b"⟩], v.IsDeclared Filter.Row :=
    List.forall_mem_cons.2 ⟨trivial, List.forall_mem_singleton.2 rfl⟩
  obtain ⟨-, hin, -⟩ := satisfies_algebra {} twinRow _ _ ha hb (List.cons_ne_nil _ _)
  exact ⟨ha, hb, hin.2 ⟨.column ⟨some "t", "b"⟩, by simp, _, rfl, rfl⟩⟩

end Subject

end RecordFilter
