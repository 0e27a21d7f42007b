import RecordFilter.Column
import RecordFilter.Literal
import RecordFilter.Operator

/-!
# Terms

A term is a condition taken apart: what it is about, an operator, and the values
compared with. All that could be computed in the condition has been computed.
-/

namespace RecordFilter

/-- What a term is about. -/
inductive Subject
  | column (column : Column)
  /-- A call of a function with at most one argument. -/
  | call (function : String) (argument : Option Literal)
  | value (value : Literal)
  deriving BEq

namespace Subject

/-- The name of the column or function. -/
def name? : Subject → Option String
  | .column c => some c.name
  | .call function _ => some function
  | .value _ => none

/-- The column of a subject that is one. -/
def column? : Subject → Option Column
  | .column c => some c
  | _ => none

/-- The subject as it is written. -/
def text : Subject → String
  | .column c => c.text
  | .call function argument => function ++ "(" ++ (argument.map Literal.text).getD "" ++ ")"
  | .value v => v.text

end Subject

/-- What a subject is compared with. -/
inductive Operand
  | literal (value : Literal)
  | column (column : Column)
  deriving BEq

namespace Operand

/-- The value of an operand that is one. -/
def literal? : Operand → Option Literal
  | .literal v => some v
  | .column _ => none

/-- The column of an operand that is one. -/
def column? : Operand → Option Column
  | .literal _ => none
  | .column c => some c

/-- The operand as it is written. -/
def text : Operand → String
  | .literal v => v.text
  | .column c => c.text

/-- Operands as they are written in a list. -/
def listText (values : List Operand) : String :=
  ", ".intercalate (values.map text)

end Operand

/-- A condition taken apart. -/
structure Term where
  subject : Subject
  operator : TermOperator
  /-- Whether the opposite is meant. -/
  negated : Bool
  values : List Operand
  deriving BEq

namespace Term

/-- The first column that the subject is compared with. -/
def rightColumn? (t : Term) : Option Column :=
  t.values.findSome? Operand.column?

/-- The literal values that the subject is compared with. -/
def literals (t : Term) : List Literal :=
  t.values.filterMap Operand.literal?

/-- The values of a term as they are written after the operator. -/
def valuesText (t : Term) : String :=
  match t.operator, t.values with
  | .isNull, _ | .isNotNull, _ => ""
  | .between, [low, high] => " " ++ low.text ++ " AND " ++ high.text
  | .in, values => " (" ++ Operand.listText values ++ ")"
  | _, values => String.join (values.map fun v => " " ++ v.text)

/-- The term as it is written. -/
def text (t : Term) : String :=
  (if t.negated then "NOT " else "") ++ t.subject.text ++ " " ++ t.operator.text ++ t.valuesText

end Term

end RecordFilter
