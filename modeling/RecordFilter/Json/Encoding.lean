import RecordFilter.Group.Basic
import RecordFilter.Json.Basic

/-!
# Filters as JSON

Groups and what they consist of, for data exchange. Where a value has several
forms, it is an object with one member whose name tells the form; a form without
content is its name.
-/

namespace RecordFilter

/-- A value as JSON. -/
def Literal.toJson : Literal → Json
  | .integer v => .tagged "Integer" (.whole v.toInt)
  | .long v => .tagged "Long" (.whole v.toInt)
  | .double v => .tagged "Double" (.double v)
  | .string v => .tagged "String" (.string v)
  | .date v => .tagged "Date" (.string v.text)
  | .time v => .tagged "Time" (.string v.exactText)
  | .timestamp v => .tagged "Timestamp" (.string v.exactText)
  | .null => .string "Null"

/-- A column as JSON. -/
def Column.toJson (c : Column) : Json :=
  .object [("table", (c.table.map Json.string).getD .null), ("name", .string c.name)]

/-- A subject as JSON. -/
def Subject.toJson : Subject → Json
  | .column c => .tagged "Column" c.toJson
  | .call function argument =>
    .tagged "Function" <| .object
      [("name", .string function), ("argument", (argument.map Literal.toJson).getD .null)]
  | .value v => .tagged "Value" v.toJson

/-- An operand as JSON. -/
def Operand.toJson : Operand → Json
  | .literal v => .tagged "Literal" v.toJson
  | .column c => .tagged "Column" c.toJson

/-- The name of an operator in JSON. -/
def TermOperator.tag : TermOperator → String
  | .eq => "Eq"
  | .ne => "Ne"
  | .gt => "Gt"
  | .ge => "Ge"
  | .lt => "Lt"
  | .le => "Le"
  | .like => "Like"
  | .in => "In"
  | .between => "Between"
  | .isNull => "IsNull"
  | .isNotNull => "IsNotNull"

/-- The name of a joiner in JSON. -/
def Joiner.tag : Joiner → String
  | .start => "None"
  | .and => "And"
  | .or => "Or"

/-- A term as JSON. -/
def Term.toJson (t : Term) : Json :=
  .object
    [("subject", t.subject.toJson), ("operator", .string t.operator.tag),
     ("negated", .bool t.negated), ("values", .array (t.values.map Operand.toJson))]

/-- A group as JSON. -/
def Group.toJson (g : Group) : Json :=
  .object [("joiner", .string g.joiner.tag), ("term", g.term.toJson)]

/-- Groups as JSON. -/
def Group.listToJson (groups : List Group) : Json :=
  .array (groups.map toJson)

end RecordFilter
