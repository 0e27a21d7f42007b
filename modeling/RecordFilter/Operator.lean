/-!
# Operators

Three families of operators meet in a filter: those that join two scalar
expressions, the comparisons, and the operators of a term, which stand for whole
conditions. The predicate compiled from a term has an operator of its own; some
of those stand for a negated condition.
-/

namespace RecordFilter

/-! ## Scalar operators -/

/-- An operator between two scalar expressions. -/
inductive BinaryOperator
  | add | sub | mul | div | integerDiv
  | modulo | concat | bitwiseAnd | bitwiseOr | bitwiseXor | regexMatch | jsonAccess
  deriving DecidableEq, Repr

namespace BinaryOperator

/-- Whether the operator is one of those that can be computed. -/
def isArithmetic : BinaryOperator → Bool
  | .add | .sub | .mul | .div | .integerDiv => true
  | _ => false

/-- The operator as it is written. -/
def text : BinaryOperator → String
  | .add => "+"
  | .sub => "-"
  | .mul => "*"
  | .div => "/"
  | .integerDiv => "DIV"
  | .modulo => "%"
  | .concat => "||"
  | .bitwiseAnd => "&"
  | .bitwiseOr => "|"
  | .bitwiseXor => "^"
  | .regexMatch => "~"
  | .jsonAccess => "->"

/-- The operator in words. -/
def describe : BinaryOperator → String
  | .add => "addition"
  | .sub => "subtraction"
  | .mul => "multiplication"
  | .div => "division"
  | .integerDiv => "integer division"
  | .modulo => "modulo operator"
  | .concat => "string concatenation"
  | .bitwiseAnd => "bitwise AND"
  | .bitwiseOr => "bitwise OR"
  | .bitwiseXor => "bitwise XOR"
  | .regexMatch => "regular expression match"
  | .jsonAccess => "JSON operator"

end BinaryOperator

/-! ## Terms -/

/-- A comparison. -/
inductive ComparisonOperator
  | eq | ne | gt | ge | lt | le
  deriving DecidableEq, Repr

/-- The operator of a term. -/
inductive TermOperator
  | eq | ne | gt | ge | lt | le | like | «in» | between | isNull | isNotNull
  deriving DecidableEq, Repr

/-- How many values an operator takes. -/
inductive Arity
  | exactly (n : Nat)
  | atLeast (n : Nat)
  deriving DecidableEq, Repr

/-- Whether a number of values is allowed. -/
def Arity.accepts : Arity → Nat → Bool
  | .exactly n, count => count == n
  | .atLeast n, count => n ≤ count

/-- The arity in words. -/
def Arity.text : Arity → String
  | .exactly n => "exactly " ++ toString n
  | .atLeast n => "at least " ++ toString n

namespace TermOperator

/-- The operator as it is written. -/
def text : TermOperator → String
  | .eq => "="
  | .ne => "<>"
  | .gt => ">"
  | .ge => ">="
  | .lt => "<"
  | .le => "<="
  | .like => "LIKE"
  | .in => "IN"
  | .between => "BETWEEN"
  | .isNull => "IS NULL"
  | .isNotNull => "IS NOT NULL"

/-- The number of values a term with the operator has. -/
def arity : TermOperator → Arity
  | .isNull | .isNotNull => .exactly 0
  | .between => .exactly 2
  | .in => .atLeast 1
  | _ => .exactly 1

end TermOperator

namespace ComparisonOperator

/-- The operator of the term a comparison becomes. -/
def toTerm : ComparisonOperator → TermOperator
  | .eq => .eq
  | .ne => .ne
  | .gt => .gt
  | .ge => .ge
  | .lt => .lt
  | .le => .le

/-- The comparison as it is written. -/
def text (op : ComparisonOperator) : String :=
  op.toTerm.text

end ComparisonOperator

/-- How a term is joined to the terms in front of it. -/
inductive Joiner
  /-- The first term of a filter has nothing in front. -/
  | start
  | and
  | or
  deriving DecidableEq, Repr

/-- The keyword of a joiner. -/
def Joiner.text : Joiner → String
  | .start => ""
  | .and => "AND"
  | .or => "OR"

/-! ## Predicates -/

/-- The operator of a predicate. -/
inductive PredicateOperator
  | eq | notEq | gt | ge | lt | le | like | notLike | «in» | notIn | between | notBetween
  | isNull | isNotNull
  deriving DecidableEq, Repr

/-- The operator as it is written. -/
def PredicateOperator.text : PredicateOperator → String
  | .eq => "="
  | .notEq => "<>"
  | .gt => ">"
  | .ge => ">="
  | .lt => "<"
  | .le => "<="
  | .like => "LIKE"
  | .notLike => "NOT LIKE"
  | .in => "IN"
  | .notIn => "NOT IN"
  | .between => "BETWEEN"
  | .notBetween => "NOT BETWEEN"
  | .isNull => "IS NULL"
  | .isNotNull => "IS NOT NULL"

/-- The number of values a predicate with the operator has. -/
def PredicateOperator.arity : PredicateOperator → Arity
  | .isNull | .isNotNull => .exactly 0
  | .between | .notBetween => .exactly 2
  | .in | .notIn => .atLeast 1
  | _ => .exactly 1

/-- The predicate for an operator of a term and whether the term is negated. For
    some operators the negation has an operator of its own; the others keep
    theirs, and the second component tells to take the opposite of the predicate. -/
def TermOperator.resolve : TermOperator → (negated : Bool) → PredicateOperator × Bool
  | .eq, false => (.eq, false)
  | .eq, true => (.notEq, false)
  | .ne, false => (.notEq, false)
  | .ne, true => (.eq, false)
  | .like, false => (.like, false)
  | .like, true => (.notLike, false)
  | .in, false => (.in, false)
  | .in, true => (.notIn, false)
  | .between, false => (.between, false)
  | .between, true => (.notBetween, false)
  | .gt, negated => (.gt, negated)
  | .ge, negated => (.ge, negated)
  | .lt, negated => (.lt, negated)
  | .le, negated => (.le, negated)
  | .isNull, negated => (.isNull, negated)
  | .isNotNull, negated => (.isNotNull, negated)

end RecordFilter
