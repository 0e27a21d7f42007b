import RecordFilter.Term.Basic
import RecordFilter.Term.Condition
import RecordFilter.Term.Parameter

/-!
# Terms of expressions

A condition becomes a term (`Term.ofExpr`) by computing its operands from left to
right. The first is the subject and is given by itself: a constant, a column or a
call with at most one argument. The others give the values: a call as many as it
has arguments, any other operand one.
-/

namespace RecordFilter

/-- Why an expression is no operand. -/
def Expr.asOperand : Expr → Unsupported
  | .subselect _ => .subselect
  | .paren _ => .parentheses
  | e@(.compare ..) | e@(.between ..) | e@(.inList ..) | e@(.inSubselect ..) | e@(.like ..)
  | e@(.isNull ..) | e@(.not _) | e@(.and ..) | e@(.or ..) => .operand e.describe
  | e => .construct e.describe

/-- The subject that the first operand of a condition is. -/
def Subject.ofExpr (patterns : List DatePattern) : Expr → Except Unsupported Subject
  | .constant c => return .value c.toLiteral
  | .column c => return .column c
  | .call function arguments =>
    if 1 < arguments.length then throw .manyParameters
    else return .call function (← arguments.mapM (Expr.parameter patterns)).head?
  | e@(.binary op _ _) => throw (if op.isArithmetic then .arithmeticSubject else e.asOperand)
  | e => throw e.asOperand

/-- The values that a further operand of a condition gives. -/
def Operand.ofExpr (patterns : List DatePattern) : Expr → Except Unsupported (List Operand)
  | .constant c => return [.literal c.toLiteral]
  | .column c => return [.column c]
  | e@(.call ..) => return (← e.parameters patterns).map .literal
  | e@(.binary op _ _) =>
    if op.isArithmetic then return [.literal (.long (← e.evaluate patterns))]
    else throw e.asOperand
  | e => throw e.asOperand

namespace Term

/-- Checks the values of a term made from an expression: their number has to be
    that of the operator, and the pattern of `LIKE` has to be a string. -/
def check (e : Expr) (t : Term) : Except Unsupported Unit :=
  if !t.operator.arity.accepts t.values.length then
    .error (.valueCount t.operator e.text t.values.length)
  else
    match t.operator, t.values with
    | .like, .literal (.string _) :: _ => .ok ()
    | .like, found :: _ => .error (.patternNotString found.text)
    | _, _ => .ok ()

/-- The term of an expression that is a condition. -/
def ofExpr (patterns : List DatePattern) (e : Expr) : Except Unsupported Term := do
  let condition ← Condition.ofExpr false e
  let subject ← Subject.ofExpr patterns condition.subject
  let values ← condition.operands.mapM (Operand.ofExpr patterns)
  let term : Term := ⟨subject, condition.operator, condition.negated, values.flatten⟩
  term.check e
  return term

end Term

end RecordFilter
