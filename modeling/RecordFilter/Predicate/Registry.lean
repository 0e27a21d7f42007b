import RecordFilter.FilterError
import RecordFilter.Predicate.Basic

/-!
# Registries

How the predicates of each operator are made. A registry has at most one strategy
for an operator; registering another one replaces it.
-/

namespace RecordFilter

/-- A way to make a predicate of a subject and its values. -/
abbrev Strategy (ρ : Type) :=
  Subject → List Operand → Except FilterError (Predicate ρ)

/-- The strategies of the operators. -/
structure Registry (ρ : Type) where
  /-- The strategy of an operator that has one. -/
  strategy? : PredicateOperator → Option (Strategy ρ)

namespace Registry

variable {ρ : Type}

/-- The registry without strategies. -/
def empty : Registry ρ where
  strategy? _ := none

/-- Sets the strategy of an operator. -/
def register (registry : Registry ρ) (op : PredicateOperator) (strategy : Strategy ρ) :
    Registry ρ where
  strategy? other := if other = op then some strategy else registry.strategy? other

/-- Whether an operator has a strategy. -/
def contains (registry : Registry ρ) (op : PredicateOperator) : Bool :=
  (registry.strategy? op).isSome

/-- Makes a predicate. -/
def create (registry : Registry ρ) (op : PredicateOperator) : Strategy ρ :=
  match registry.strategy? op with
  | some strategy => strategy
  | none => fun _ _ => .error (.unsupported (.noStrategy op))

/-- The predicate of a term. -/
def compile (registry : Registry ρ) (t : Term) : Except FilterError (Predicate ρ) := do
  let (op, opposite) := t.operator.resolve t.negated
  let p ← registry.create op t.subject t.values
  return if opposite then p.negate else p

end Registry

end RecordFilter
