import RecordFilter.Operator

/-!
# Why an expression is no filter

An expression is rejected because a construct in it is not supported, or because
it names a field that the records do not have. Where a construct is named, it is
named in words or by its text.
-/

namespace RecordFilter

/-- What is not supported. -/
inductive Unsupported
  -- Arithmetic
  /-- The expression leaves no value or several. -/
  | notOneValue (expression : String)
  /-- The number does not fit when it is counted in a calendar unit. -/
  | scalingOverflow (value unit : Int64)
  | notADate (text : String)
  | functionInArithmetic (name : String)
  | inArithmetic (what : String)
  | missingOperand (op : BinaryOperator)
  | divisionByZero
  | overflow (left : Int64) (op : BinaryOperator) (right : Int64)
  -- Function calls
  | notACall (what : String)
  | parameter (what : String)
  | manyParameters
  -- Conditions
  | doubleNegation
  | nestedJunction
  | parentheses
  | subselect
  | subselectInList
  | notACondition (what expression : String)
  | construct (what : String)
  | operand (what : String)
  | arithmeticSubject
  | valueCount (op : TermOperator) (expression : String) (count : Nat)
  | patternNotString (found : String)
  -- Chains of conditions
  | nestedOnRight (what : String) (joiner : Joiner)
  | noTerms
  | noJoiner (term : String)
  -- Predicates
  | noStrategy (op : PredicateOperator)
  | predicateValues (op : PredicateOperator) (expected count : Nat)
  | noValues (op : PredicateOperator)
  /-- The strategy of an operator rejects the condition for a reason of its own. -/
  | custom (reason : String)
  deriving DecidableEq, Repr

/-- What is not supported, in words. -/
def Unsupported.message : Unsupported → String
  | .notOneValue expression => "'" ++ expression ++ "' does not reduce to a single value"
  | .scalingOverflow value unit =>
    "arithmetic overflow scaling " ++ toString value.toInt ++ " by " ++ toString unit.toInt
  | .notADate text => "cannot parse '" ++ text ++ "' as a date"
  | .functionInArithmetic name => "function " ++ name ++ " is not supported in arithmetic"
  | .inArithmetic what => what ++ " is not supported in arithmetic"
  | .missingOperand op => "missing operand for " ++ op.describe
  | .divisionByZero => "division by zero"
  | .overflow left op right =>
    "arithmetic overflow in " ++ toString left.toInt ++ " " ++ op.text ++ " " ++
      toString right.toInt
  | .notACall what => "expected a function call, found " ++ what
  | .parameter what => what ++ " is not supported as a function parameter"
  | .manyParameters => "functions with multiple parameters not allowed as subject"
  | .doubleNegation => "double negation is not supported"
  | .nestedJunction => "nested AND/OR is not supported inside a condition"
  | .parentheses => "parenthesized expressions are not supported"
  | .subselect => "sub-selects are not supported"
  | .subselectInList => "sub-selects are not supported in IN expressions"
  | .notACondition what expression => what ++ " '" ++ expression ++ "' is not a condition"
  | .construct what => what ++ " is not supported"
  | .operand what => what ++ " is not supported as an operand"
  | .arithmeticSubject => "arithmetic expressions are not allowed as subject"
  | .valueCount op expression count =>
    op.text ++ " expects " ++ op.arity.text ++ " value(s) but '" ++ expression ++ "' has " ++
      toString count
  | .patternNotString found => "LIKE pattern must be a string literal, found " ++ found
  | .nestedOnRight what joiner =>
    "nested " ++ what ++ " on the right-hand side of " ++ joiner.text ++ " is not supported"
  | .noTerms => "cannot rebuild an empty filter"
  | .noJoiner term => "term '" ++ term ++ "' has no joiner"
  | .noStrategy op => "no predicate strategy registered for " ++ op.text
  | .predicateValues op expected count =>
    op.text ++ " expects " ++ toString expected ++ " value(s), got " ++ toString count
  | .noValues op => op.text ++ " expects at least one value"
  | .custom reason => reason

/-- Why an expression is no filter. -/
inductive FilterError
  | unsupported (cause : Unsupported)
  /-- The records of the type have no such field. -/
  | unresolvedField (field type : String)
  deriving DecidableEq, Repr

/-- Why an expression is no filter, in words. -/
def FilterError.message : FilterError → String
  | .unsupported cause => "Unsupported expression: " ++ cause.message
  | .unresolvedField field type => "Field '" ++ field ++ "' cannot be resolved on " ++ type

end RecordFilter
