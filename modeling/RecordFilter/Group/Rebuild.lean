import RecordFilter.Expr.Basic
import RecordFilter.FilterError
import RecordFilter.Group.Basic

/-!
# Rebuilding

The way back from groups to an expression (`Expr.ofGroups`). What was computed in
a condition stays computed, and a negation is written in front.

A term may have been put together by hand with the wrong number of values. The
last values are then used, and NULL for those that are missing.
-/

namespace RecordFilter

/-- The expression that is the subject. -/
def Subject.toExpr : Subject → Expr
  | .column c => .column c
  | .call function argument => .call function (argument.toList.map Expr.ofLiteral)
  | .value v => .ofLiteral v

/-- The expression that is the operand. -/
def Operand.toExpr : Operand → Expr
  | .literal v => .ofLiteral v
  | .column c => .column c

namespace Term

/-- The value that has the given number of values after it. -/
def valueFromEnd (t : Term) (after : Nat) : Expr :=
  match t.values.reverse[after]? with
  | some v => v.toExpr
  | none => .constant .null

/-- The condition without its negation. -/
def conditionExpr (t : Term) : Expr :=
  let subject := t.subject.toExpr
  let last := t.valueFromEnd 0
  match t.operator with
  | .eq => .compare .eq subject last
  | .ne => .compare .ne subject last
  | .gt => .compare .gt subject last
  | .ge => .compare .ge subject last
  | .lt => .compare .lt subject last
  | .le => .compare .le subject last
  | .like => .like false subject last
  | .in => .inList false subject (t.values.map Operand.toExpr)
  | .between => .between false subject (t.valueFromEnd 1) last
  | .isNull => .isNull false subject
  | .isNotNull => .isNull true subject

/-- The condition that the term is. -/
def toExpr (t : Term) : Expr :=
  if t.negated then .not t.conditionExpr else t.conditionExpr

end Term

namespace Expr

/-- Joins a group to an expression. -/
def join (e : Expr) (g : Group) : Except Unsupported Expr :=
  match g.joiner with
  | .and => .ok (.and e g.term.toExpr)
  | .or => .ok (.or e g.term.toExpr)
  | .start => .error (.noJoiner g.term.text)

/-- The expression of groups. -/
def ofGroups : List Group → Except Unsupported Expr
  | [] => .error .noTerms
  | first :: rest => rest.foldlM join first.term.toExpr

end Expr

end RecordFilter
