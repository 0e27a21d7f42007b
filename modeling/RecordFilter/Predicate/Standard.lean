import RecordFilter.Comparison
import RecordFilter.Config
import RecordFilter.Predicate.Record
import RecordFilter.Predicate.Registry
import RecordFilter.Wildcard

/-!
# The standard operators

What the operators mean (`PredicateOperator.holds`), and the registry that has a
strategy for each of them (`Registry.standard`). A predicate is made if the fields
are declared, the number of values is right, and a pattern is a string, checked in
this order.

A comparison with something that is not comparable does not hold, and neither does
its opposite; so no operator but `IS NULL` holds of NULL.
-/

namespace RecordFilter

/-- Whether an operator holds of a value and the values it is compared with. -/
def PredicateOperator.holds (patterns : List DatePattern) (ignoreCase : Bool) (value : Literal) :
    PredicateOperator → List Literal → Bool
  | .eq, [other] => (value.compare? patterns other).any Ordering.isEq
  | .notEq, [other] => (value.compare? patterns other).any Ordering.isNe
  | .gt, [other] => (value.compare? patterns other).any Ordering.isGT
  | .ge, [other] => (value.compare? patterns other).any Ordering.isGE
  | .lt, [other] => (value.compare? patterns other).any Ordering.isLT
  | .le, [other] => (value.compare? patterns other).any Ordering.isLE
  | .like, [.string pattern] =>
    value.plainText?.any fun text => (Wildcard.ofString pattern).isMatch ignoreCase text
  | .notLike, [.string pattern] =>
    value.plainText?.any fun text => !(Wildcard.ofString pattern).isMatch ignoreCase text
  | .in, others => !value.isNull && others.any (value.equals patterns)
  | .notIn, others => !value.isNull && !others.any (value.equals patterns)
  | .between, [low, high] =>
    match value.compare? patterns low, value.compare? patterns high with
    | some toLow, some toHigh => toLow.isGE && toHigh.isLE
    | _, _ => false
  | .notBetween, [low, high] =>
    match value.compare? patterns low, value.compare? patterns high with
    | some toLow, some toHigh => toLow.isLT || toHigh.isGT
    | _, _ => false
  | .isNull, _ => value.isNull
  | .isNotNull, _ => !value.isNull
  | _, _ => false

section

variable {ρ : Type} [Record ρ]

/-- The value of a subject in a record; what the record does not have is NULL. -/
def Subject.valueIn (r : ρ) : Subject → Literal
  | .column c => (Record.field r c.name).getD .null
  | .call function argument => (Record.call r function argument).getD .null
  | .value v => v

/-- The value of an operand in a record; what the record does not have is NULL. -/
def Operand.valueIn (r : ρ) : Operand → Literal
  | .literal v => v
  | .column c => (Record.field r c.name).getD .null

end

namespace Predicate

/-- The columns a predicate reads, that of the subject first. -/
def columns (subject : Subject) (values : List Operand) : List Column :=
  subject.column?.toList ++ values.filterMap Operand.column?

/-- Checks that the columns are fields of the records. -/
def checkColumns (ρ : Type) [Record ρ] (subject : Subject) (values : List Operand) :
    Except FilterError Unit :=
  match (columns subject values).find? fun c => !Record.hasField ρ c.name with
  | some c => .error (.unresolvedField c.text (Record.typeName ρ))
  | none => .ok ()

/-- Checks the number of values. -/
def checkCount (op : PredicateOperator) (count : Nat) : Except Unsupported Unit :=
  match op.arity with
  | .exactly n => if count = n then .ok () else .error (.predicateValues op n count)
  | .atLeast n => if n ≤ count then .ok () else .error (.noValues op)

/-- Checks that a pattern is a string. -/
def checkPattern (op : PredicateOperator) (values : List Operand) : Except Unsupported Unit :=
  match op, values with
  | .like, .literal (.string _) :: _ | .notLike, .literal (.string _) :: _ => .ok ()
  | .like, found :: _ | .notLike, found :: _ => .error (.patternNotString found.text)
  | _, _ => .ok ()

/-- What the values of a predicate have to be. -/
def checkValues (op : PredicateOperator) (values : List Operand) : Except Unsupported Unit := do
  checkCount op values.length
  checkPattern op values

/-- The predicate of an operator that reads strings by the given date patterns. -/
def standard {ρ : Type} [Record ρ] (patterns : List DatePattern) (ignoreCase : Bool)
    (op : PredicateOperator) : Strategy ρ := fun subject values => do
  checkColumns ρ subject values
  (checkValues op values).mapError .unsupported
  return {
    operator := op
    subject
    values
    test := fun r => op.holds patterns ignoreCase (subject.valueIn r) (values.map (·.valueIn r)) }

end Predicate

/-- The registry of the standard operators. -/
def Registry.standard {ρ : Type} [Record ρ] (config : Config) : Registry ρ :=
  let patterns := config.datePatterns
  { strategy? := fun op => some (Predicate.standard patterns config.caseInsensitiveLike op) }

end RecordFilter
