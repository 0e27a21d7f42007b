import RecordFilter.Decimal.Layout
import RecordFilter.Json.Basic

/-!
# Writing JSON

JSON is written on one line without spaces, or with each item on a line of its own,
indented by two spaces for each level. In strings only quotes, backslashes and
control characters are escaped. A double that is no finite number is written as
`null`.
-/

namespace RecordFilter.Json

/-- A hexadecimal digit. -/
def hexDigit (n : Nat) : Char :=
  Nat.digitChar (n % 16)

/-- A character in a string. -/
def escaped (c : Char) : List Char :=
  match c with
  | '"' => ['\\', '"']
  | '\\' => ['\\', '\\']
  | '\x08' => ['\\', 'b']
  | '\x0c' => ['\\', 'f']
  | '\n' => ['\\', 'n']
  | '\r' => ['\\', 'r']
  | '\t' => ['\\', 't']
  | c =>
    if c.toNat < 0x20 then ['\\', 'u', '0', '0', hexDigit (c.toNat / 16), hexDigit c.toNat]
    else [c]

/-- A string in quotes. -/
def stringText (s : String) : String :=
  String.ofList ('"' :: s.toList.flatMap escaped ++ ['"'])

/-- A double. -/
def doubleText (x : Float) : String :=
  if x.isFinite then Decimal.jsonLayout.render x else "null"

/-- How the items of arrays and objects are set apart. -/
structure Layout where
  /-- What stands in front of an item at the given depth, and in front of the
      bracket that closes its array or object at the depth of that. -/
  lineBreak : Nat → String
  /-- What stands between the name and the value of a member. -/
  colon : String

/-- All on one line. -/
def Layout.compact : Layout where
  lineBreak _ := ""
  colon := ":"

/-- One item on a line. -/
def Layout.indented : Layout where
  lineBreak depth := "\n" ++ "".pushn ' ' (2 * depth)
  colon := ": "

mutual

/-- A value at the given depth. -/
def render (l : Layout) (depth : Nat) : Json → String
  | .null | .unusable => "null"
  | .bool value => if value then "true" else "false"
  | .whole value => toString value
  | .double value => doubleText value
  | .string value => stringText value
  | .array [] => "[]"
  | .array (first :: rest) =>
    "[" ++ l.lineBreak (depth + 1) ++ render l (depth + 1) first ++
      renderItems l (depth + 1) rest ++ l.lineBreak depth ++ "]"
  | .object [] => "\x7b\x7d"
  | .object ((name, first) :: rest) =>
    "\x7b" ++ l.lineBreak (depth + 1) ++ stringText name ++ l.colon ++ render l (depth + 1) first ++
      renderMembers l (depth + 1) rest ++ l.lineBreak depth ++ "\x7d"

/-- The items of an array after the first. -/
def renderItems (l : Layout) (depth : Nat) : List Json → String
  | [] => ""
  | item :: rest => "," ++ l.lineBreak depth ++ render l depth item ++ renderItems l depth rest

/-- The members of an object after the first. -/
def renderMembers (l : Layout) (depth : Nat) : List (String × Json) → String
  | [] => ""
  | (name, value) :: rest =>
    "," ++ l.lineBreak depth ++ stringText name ++ l.colon ++ render l depth value ++
      renderMembers l depth rest

end

/-- A value on one line. -/
def compactText (j : Json) : String :=
  j.render .compact 0

/-- A value with one item on a line. -/
def indentedText (j : Json) : String :=
  j.render .indented 0

end RecordFilter.Json
