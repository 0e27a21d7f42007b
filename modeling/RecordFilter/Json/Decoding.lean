import RecordFilter.Calendar.Reader
import RecordFilter.Column
import RecordFilter.Config
import RecordFilter.Json.Basic
import RecordFilter.Literal

/-!
# Values and settings from JSON

What is read has to be of the right type; a whole number may stand for a double,
but not the other way round. Members that are not known are passed over. Where an
object is wanted, an array of the values of its members in their order will do.
-/

namespace RecordFilter

namespace Json

/-- A string. -/
def string? : Json → Option String
  | .string s => some s
  | _ => none

/-- Nothing or a string. -/
def optionalString? : Json → Option (Option String)
  | .null => some none
  | .string s => some (some s)
  | _ => none

/-- A truth value. -/
def bool? : Json → Option Bool
  | .bool b => some b
  | _ => none

/-- A list of strings. -/
def strings? : Json → Option (List String)
  | .array items => items.mapM string?
  | _ => none

end Json

/-- A value of the given form. -/
def Literal.ofMember? (tag : String) (value : Json) : Option Literal :=
  match tag, value with
  | "Integer", .whole n =>
    let v := Int32.ofInt n
    if v.toInt = n then some (.integer v) else none
  | "Long", .whole n =>
    let v := Int64.ofInt n
    if v.toInt = n then some (.long v) else none
  | "Double", .double v => some (.double v)
  | "Double", .whole n => some (.double (Float.ofInt n))
  | "String", .string v => some (.string v)
  | "Date", .string v => (Date.ofExactText? v.toList).map .date
  | "Time", .string v => (Time.ofExactText? v.toList).map .time
  | "Timestamp", .string v => (Timestamp.ofExactText? v.toList).map .timestamp
  | "Null", .null => some .null
  | _, _ => none

/-- A value from JSON. -/
def Literal.ofJson? : Json → Option Literal
  | .string "Null" => some .null
  | .object [(tag, value)] => ofMember? tag value
  | _ => none

/-- A column from JSON. -/
def Column.ofJson? : Json → Option Column
  | .array [table, name] => do return ⟨← table.optionalString?, ← name.string?⟩
  | .object members => do
    let table ← Json.member? members "table"
    let name ← Json.member? members "name"
    return ⟨← (table.getD .null).optionalString?, ← (← name).string?⟩
  | _ => none

/-- Settings of which some are given. -/
def Config.ofParts? (dateFormats caseInsensitiveLike : Option Json) : Option Config := do
  let default : Config := {}
  let formats ← dateFormats.elim (some default.dateFormats) Json.strings?
  let ignoreCase ← caseInsensitiveLike.elim (some default.caseInsensitiveLike) Json.bool?
  return ⟨formats, ignoreCase⟩

/-- Settings from JSON. What is not given is as by default. -/
def Config.ofJson? : Json → Option Config
  | .array [] => ofParts? none none
  | .array [formats] => ofParts? (some formats) none
  | .array [formats, ignoreCase] => ofParts? (some formats) (some ignoreCase)
  | .object members => do
    let formats ← Json.member? members "date_formats"
    let ignoreCase ← Json.member? members "case_insensitive_like"
    ofParts? formats ignoreCase
  | _ => none

end RecordFilter
