import RecordFilter.Term.Basic

/-!
# Predicates

A predicate is a test of records that still knows what it was made from. It can be
turned into its opposite, which keeps the operator and the test.
-/

namespace RecordFilter

/-- A test of records. -/
structure Predicate (ρ : Type) where
  operator : PredicateOperator
  subject : Subject
  values : List Operand
  /-- Whether the opposite of the test is meant. -/
  negated : Bool := false
  test : ρ → Bool

namespace Predicate

variable {ρ : Type}

/-- Whether a record satisfies the predicate. -/
def holds (p : Predicate ρ) (r : ρ) : Bool :=
  p.test r != p.negated

/-- The opposite of a predicate. -/
def negate (p : Predicate ρ) : Predicate ρ :=
  { p with negated := !p.negated }

/-- What is written in front of the value with the given index. -/
def separator (op : PredicateOperator) (index : Nat) : String :=
  match op, index with
  | _, 0 => " "
  | .between, 1 | .notBetween, 1 => " AND "
  | _, _ => ", "

/-- The predicate as it is written. -/
def text (p : Predicate ρ) : String :=
  (if p.negated then "NOT " else "") ++ p.subject.text ++ " " ++ p.operator.text ++
    String.join (p.values.mapIdx fun i v => separator p.operator i ++ v.text)

@[simp]
theorem holds_negate (p : Predicate ρ) (r : ρ) : p.negate.holds r = !p.holds r := by
  simp only [holds, negate]
  cases p.test r <;> cases p.negated <;> rfl

end Predicate

end RecordFilter
