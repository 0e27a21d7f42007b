import RecordFilter.Expr.Printer
import RecordFilter.FilterError

/-!
# Conditions

The operator of a condition and its operands, which are still expressions. A
condition is a comparison, `BETWEEN`, `IN` with a list, `LIKE` or `IS NULL`,
negated at most once: by `NOT` in front or by a `NOT` of its own.
-/

namespace RecordFilter

/-- A condition with its operands not yet computed. -/
structure Condition where
  operator : TermOperator
  negated : Bool
  /-- The first operand. -/
  subject : Expr
  /-- The other operands. -/
  operands : List Expr

namespace Condition

/-- Adds a negation to none or one. -/
def negate (negated more : Bool) : Except Unsupported Bool :=
  if negated && more then .error .doubleNegation else .ok (negated || more)

/-- The condition that an expression is, or the negation of the condition. -/
def ofExpr (negated : Bool) : Expr → Except Unsupported Condition
  | .not e => do ofExpr (← negate negated true) e
  | .compare op left right => return ⟨op.toTerm, negated, left, [right]⟩
  | .between own subject low high => do
    return ⟨.between, ← negate negated own, subject, [low, high]⟩
  | .inList own subject items => do return ⟨.in, ← negate negated own, subject, items⟩
  | .inSubselect .. => throw .subselectInList
  | .like own subject pattern => do return ⟨.like, ← negate negated own, subject, [pattern]⟩
  | .isNull false subject => return ⟨.isNull, negated, subject, []⟩
  | .isNull true subject => return ⟨.isNotNull, negated, subject, []⟩
  | .and .. | .or .. => throw .nestedJunction
  | .paren _ => throw .parentheses
  | .subselect _ => throw .subselect
  | e@(.constant _) | e@(.column _) | e@(.call ..) => throw (.notACondition e.describe e.text)
  | e => throw (.construct e.describe)

end Condition

end RecordFilter
