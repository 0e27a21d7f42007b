import RecordFilter.Proofs.Filter.Meaning
import RecordFilter.Proofs.Predicate.Creation

/-!
# Which filters are made

A filter is made of groups if a predicate is made of each of their terms. Of several
terms that have none, the first one tells why (`ofGroups_eq_error`).

The terms of a filter that is written as a text never lack a predicate for the number or
the kind of their values: these were checked when the term was read, for the operator that
is written, and the operator of the predicate asks for no more. What can be missing is a
field of the records (`makes_iff_declared`).
-/

namespace RecordFilter.Filter

variable {ρ : Type} {registry : Registry ρ} {gs : List Group}

/-- The first term without a predicate tells why groups are no filter. -/
theorem ofGroups_eq_error {cause : FilterError} : ofGroups registry gs = .error cause ↔
    ∃ front g back, gs = front ++ g :: back ∧
      (∀ g' ∈ front, ∃ p, registry.compile g'.term = .ok p) ∧
      registry.compile g.term = .error cause := by
  have hclause (g : Group) : (∃ c, (do return Clause.mk g.joiner (← registry.compile g.term)) =
      Except.ok (ε := FilterError) c) ↔ ∃ p, registry.compile g.term = .ok p := by
    cases registry.compile g.term <;> simp [bind, Except.bind, pure, Except.pure]
  have hcause (g : Group) : (do return Clause.mk g.joiner (← registry.compile g.term)) =
      Except.error cause ↔ registry.compile g.term = .error cause := by
    cases registry.compile g.term <;> simp [bind, Except.bind, pure, Except.pure]
  rw [ofGroups, Except.bind_eq_error, Except.mapM_eq_error]
  simp only [hclause, hcause]
  refine or_iff_left ?_
  rintro ⟨_, -, h⟩
  cases h

theorem exists_ofGroups_eq_ok (h : ∀ g ∈ gs, ∃ p, registry.compile g.term = .ok p) :
    ∃ f, ofGroups registry gs = .ok f := by
  cases hf : ofGroups registry gs with
  | ok f => exact ⟨f, rfl⟩
  | error cause =>
    obtain ⟨front, g, back, rfl, -, hg⟩ := ofGroups_eq_error.1 hf
    obtain ⟨p, hp⟩ := h g (by simp)
    cases hp.symm.trans hg

/-- A term that was read from an expression has a predicate if and only if the records have
    its columns, of which else the first one is reported that they do not have, by its name
    with the table; its values pass whatever the columns are. Groups are a filter, of one
    clause for each of them, if and only if each term has a predicate, and else the first
    one that has none tells why. -/
theorem makes_iff_declared [Record ρ] (config : Config) :
    (∀ (e : Expr) (t : Term), Term.ofExpr config.datePatterns e = .ok t →
      ((∃ p, (Registry.standard config : Registry ρ).compile t = .ok p) ↔
        t.subject.IsDeclared ρ ∧ ∀ v ∈ t.values, v.IsDeclared ρ) ∧
      (∀ cause, (Registry.standard config : Registry ρ).compile t = .error cause ↔
        ∃ c, FirstUndeclared ρ c t.subject t.values ∧
          cause = .unresolvedField c.text (Record.typeName ρ)) ∧
      Predicate.checkValues (t.operator.resolve t.negated).1 t.values = .ok ()) ∧
    ∀ gs : List Group,
      (∀ cause, ofGroups (.standard config : Registry ρ) gs = .error cause ↔
        ∃ front g back, gs = front ++ g :: back ∧
          (∀ g' ∈ front, ∃ p, (Registry.standard config : Registry ρ).compile g'.term = .ok p) ∧
          (Registry.standard config : Registry ρ).compile g.term = .error cause) ∧
      ((∀ g ∈ gs, ∃ p, (Registry.standard config : Registry ρ).compile g.term = .ok p) →
        ∃ f : Filter ρ, ofGroups (.standard config) gs = .ok f ∧
          List.Forall₂ (Makes (.standard config)) gs f.clauses) := by
  refine ⟨fun e t ht => ?_, fun gs => ⟨fun cause => ofGroups_eq_error, fun h => ?_⟩⟩
  · -- A term that was read has values that fit, so of the two checks only that of the columns can
    -- fail.
    have hfits := (Term.wellFormed_of_ofExpr ht).fits t.negated
    refine ⟨?_, fun cause => Registry.compile_eq_error hfits, Predicate.checkValues_eq_ok.2 hfits⟩
    simp only [Registry.compile_eq_ok, Term.isDeclared_iff]
    constructor
    · rintro ⟨p, hdeclared, -⟩
      exact hdeclared
    · intro hdeclared
      exact ⟨_, hdeclared, hfits, rfl⟩
  · obtain ⟨f, hf⟩ := exists_ofGroups_eq_ok h
    exact ⟨f, hf, ofGroups_eq_ok.1 hf⟩

/-- A condition on a column of the rows and one that they do not have. -/
def foreign : Expr :=
  .inList true (.column ⟨some "t", "a"⟩) [.constant (.long 1), .column ⟨some "t", "d"⟩]

/-- A term with one column that the rows have and one they do not fails for the latter; a term of
    declared columns makes a filter of one clause. -/
theorem makes_iff_declared_foreign :
    Term.ofExpr ({} : Config).datePatterns foreign =
      .ok ⟨.column ⟨some "t", "a"⟩, .in, true,
        [.literal (.long 1), .column ⟨some "t", "d"⟩]⟩ ∧
    (Registry.standard {} : Registry Row).compile ⟨.column ⟨some "t", "a"⟩, .in, true,
      [.literal (.long 1), .column ⟨some "t", "d"⟩]⟩ = .error (.unresolvedField "t.d" "row") ∧
    ∃ f : Filter Row, ofGroups (.standard {}) [⟨.start, ⟨.column ⟨none, "b"⟩, .isNull, true, []⟩⟩] =
      .ok f ∧ f.clauses.length = 1 := by
  have hread : Term.ofExpr ({} : Config).datePatterns foreign =
      .ok ⟨.column ⟨some "t", "a"⟩, .in, true,
        [.literal (.long 1), .column ⟨some "t", "d"⟩]⟩ := rfl
  obtain ⟨hterm, hgroups⟩ := makes_iff_declared (ρ := Row) {}
  refine ⟨hread, ?_, ?_⟩
  · refine ((hterm _ _ hread).2.1 _).2 ⟨⟨some "t", "d"⟩, ?_, rfl⟩
    have hsubject : (Subject.column ⟨some "t", "a"⟩).IsDeclared Row := rfl
    have hfront : ∀ v ∈ [Operand.literal (.long 1)], v.IsDeclared Row :=
      List.forall_mem_singleton.2 trivial
    exact .value hsubject hfront rfl
  · obtain ⟨f, hf, hclauses⟩ := (hgroups [⟨.start, ⟨.column ⟨none, "b"⟩, .isNull, true, []⟩⟩]).2
      (List.forall_mem_singleton.2 ⟨_, rfl⟩)
    exact ⟨f, hf, hclauses.length_eq.symm⟩

end RecordFilter.Filter
