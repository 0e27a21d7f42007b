import RecordFilter.Column
import RecordFilter.Literal
import RecordFilter.Operator

/-!
# Expressions

The tree of a condition. The language of expressions is larger than what can
become a filter: sub-selects, `CASE`, casts, bit operators and the like are kept
in the tree so that they can be rejected by name (`Expr.describe`).
-/

namespace RecordFilter

/-- A constant of an expression. Whole numbers are of 64 bits. -/
inductive Constant
  | long (value : Int64)
  | double (value : Float)
  | string (value : String)
  | date (value : Date)
  | time (value : Time)
  | timestamp (value : Timestamp)
  | null

/-- An expression. -/
inductive Expr
  | constant (value : Constant)
  | column (column : Column)
  | call (function : String) (arguments : List Expr)
  | binary (op : BinaryOperator) (left right : Expr)
  | compare (op : ComparisonOperator) (left right : Expr)
  | between (negated : Bool) (subject low high : Expr)
  | inList (negated : Bool) (subject : Expr) (items : List Expr)
  /-- Membership in the result of a sub-select, which is kept as text. -/
  | inSubselect (negated : Bool) (subject : Expr) (sql : String)
  | like (negated : Bool) (subject pattern : Expr)
  | isNull (negated : Bool) (subject : Expr)
  | not (operand : Expr)
  | and (left right : Expr)
  | or (left right : Expr)
  | boolean (value : Bool)
  /-- An expression in parentheses. -/
  | paren (inner : Expr)
  | subselect (sql : String)
  | «exists» (negated : Bool) (sql : String)
  | case (operand : Option Expr) (branches : List (Expr × Expr)) (otherwise : Option Expr)
  | cast (operand : Expr) (type : String)
  /-- A minus sign in front of anything but a number. -/
  | negative (operand : Expr)

namespace Constant

/-- A constant as a value. -/
def toLiteral : Constant → Literal
  | .long v => .long v
  | .double v => .double v
  | .string v => .string v
  | .date v => .date v
  | .time v => .time v
  | .timestamp v => .timestamp v
  | .null => .null

/-- A constant as it is written. -/
def text (c : Constant) : String :=
  c.toLiteral.text

/-- The kind of a constant in words. -/
def describe : Constant → String
  | .long _ => "integer literal"
  | .double _ => "decimal literal"
  | .string _ => "string literal"
  | .date _ => "date literal"
  | .time _ => "time literal"
  | .timestamp _ => "timestamp literal"
  | .null => "NULL literal"

end Constant

/-- A value as a constant; whole numbers of 32 bits are widened. -/
def Literal.toConstant : Literal → Constant
  | .integer v => .long v.toInt64
  | .long v => .long v
  | .double v => .double v
  | .string v => .string v
  | .date v => .date v
  | .time v => .time v
  | .timestamp v => .timestamp v
  | .null => .null

namespace Expr

/-- The expression that is a value. -/
def ofLiteral (v : Literal) : Expr :=
  .constant v.toConstant

/-- The value of an expression that is a constant. -/
def literal? : Expr → Option Literal
  | .constant c => some c.toLiteral
  | _ => none

/-- Whether the expression joins two conditions by `AND` or `OR`. -/
def isJunction : Expr → Bool
  | .and .. | .or .. => true
  | _ => false

/-- What kind of expression it is, in words. -/
def describe : Expr → String
  | .constant c => c.describe
  | .column _ => "column reference"
  | .call .. => "function call"
  | .binary op .. => op.describe
  | .compare .. => "comparison"
  | .between .. => "BETWEEN expression"
  | .inList .. | .inSubselect .. => "IN expression"
  | .like .. => "LIKE expression"
  | .isNull .. => "IS NULL expression"
  | .not _ => "NOT expression"
  | .and .. => "AND expression"
  | .or .. => "OR expression"
  | .boolean _ => "boolean literal"
  | .paren _ => "parenthesized expression"
  | .subselect _ => "sub-select"
  | .exists .. => "EXISTS expression"
  | .case .. => "CASE expression"
  | .cast .. => "CAST expression"
  | .negative _ => "signed expression"

end Expr

end RecordFilter
