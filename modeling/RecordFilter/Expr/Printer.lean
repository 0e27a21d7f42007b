import RecordFilter.Expr.Basic

/-!
# Writing expressions

An expression is written as it would be read. No parentheses are added: those an
expression has are part of its tree. Names are written without quotes.
-/

namespace RecordFilter.Expr

/-- The word in front of a negated condition. -/
def notText (negated : Bool) : String :=
  if negated then "NOT " else ""

mutual

/-- The text of an expression. -/
def text : Expr → String
  | .constant c => c.text
  | .column c => c.text
  | .call function arguments => function ++ "(" ++ listText arguments ++ ")"
  | .binary op left right => left.text ++ " " ++ op.text ++ " " ++ right.text
  | .compare op left right => left.text ++ " " ++ op.text ++ " " ++ right.text
  | .between negated subject low high =>
    subject.text ++ " " ++ notText negated ++ "BETWEEN " ++ low.text ++ " AND " ++ high.text
  | .inList negated subject items =>
    subject.text ++ " " ++ notText negated ++ "IN (" ++ listText items ++ ")"
  | .inSubselect negated subject sql =>
    subject.text ++ " " ++ notText negated ++ "IN (" ++ sql ++ ")"
  | .like negated subject pattern =>
    subject.text ++ " " ++ notText negated ++ "LIKE " ++ pattern.text
  | .isNull negated subject => subject.text ++ " IS " ++ notText negated ++ "NULL"
  | .not operand => "NOT " ++ operand.text
  | .and left right => left.text ++ " AND " ++ right.text
  | .or left right => left.text ++ " OR " ++ right.text
  | .boolean value => if value then "TRUE" else "FALSE"
  | .paren inner => "(" ++ inner.text ++ ")"
  | .subselect sql => "(" ++ sql ++ ")"
  | .exists negated sql => notText negated ++ "EXISTS (" ++ sql ++ ")"
  | .case operand branches otherwise =>
    "CASE" ++
      (match operand with
        | some operand => " " ++ operand.text
        | none => "") ++
      branchesText branches ++
      (match otherwise with
        | some otherwise => " ELSE " ++ otherwise.text
        | none => "") ++
      " END"
  | .cast operand type => "CAST(" ++ operand.text ++ " AS " ++ type ++ ")"
  | .negative operand => "-" ++ operand.text

/-- The text of a list of expressions, separated by commas. -/
def listText : List Expr → String
  | [] => ""
  | [e] => e.text
  | e :: es => e.text ++ ", " ++ listText es

/-- The text of the branches of a `CASE`. -/
def branchesText : List (Expr × Expr) → String
  | [] => ""
  | (condition, result) :: branches =>
    " WHEN " ++ condition.text ++ " THEN " ++ result.text ++ branchesText branches

end

end RecordFilter.Expr
