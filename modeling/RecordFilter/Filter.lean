import RecordFilter.Group.Basic
import RecordFilter.Predicate.Registry

/-!
# Filters

A filter is a chain of predicates, each with the word that joins it to those in
front. The chain is evaluated from left to right; `AND` does not bind tighter than
`OR` here, which makes no difference for chains in which no `AND` follows an `OR`.
-/

namespace RecordFilter

/-- A predicate and how it is joined to those in front of it. -/
structure Clause (ρ : Type) where
  joiner : Joiner
  predicate : Predicate ρ

/-- A chain of predicates. -/
structure Filter (ρ : Type) where
  clauses : List (Clause ρ)

/-- Joins two answers. -/
def Joiner.combine : Joiner → Bool → Bool → Bool
  | .or, a, b => a || b
  | .and, a, b | .start, a, b => a && b

namespace Filter

variable {ρ : Type}

/-- The number of predicates. -/
def size (f : Filter ρ) : Nat :=
  f.clauses.length

/-- Whether a filter has no predicates. -/
def isEmpty (f : Filter ρ) : Bool :=
  f.clauses.isEmpty

/-- Whether a record passes the filter. Everything passes an empty filter. -/
def accepts (f : Filter ρ) (r : ρ) : Bool :=
  match f.clauses with
  | [] => true
  | first :: rest =>
    rest.foldl (fun answer c => c.joiner.combine answer (c.predicate.holds r))
      (first.predicate.holds r)

/-- The records that pass the filter, in their order. -/
def select (f : Filter ρ) (records : List ρ) : List ρ :=
  records.filter f.accepts

/-- The filter of groups. -/
def ofGroups (registry : Registry ρ) (groups : List Group) : Except FilterError (Filter ρ) := do
  let clauses ← groups.mapM fun g => do return Clause.mk g.joiner (← registry.compile g.term)
  return ⟨clauses⟩

end Filter

end RecordFilter
