import RecordFilter.Calendar.Text
import RecordFilter.Decimal.Layout
import RecordFilter.Text.Quoted

/-!
# Literal values

The values a record can hold and a condition can compare with: whole numbers of
32 and 64 bits, doubles, strings, dates, times and moments, and NULL. Equality
of literals is that of their kinds; in particular not-a-number is not equal to
itself.
-/

namespace RecordFilter

/-- A value. -/
inductive Literal
  | integer (value : Int32)
  | long (value : Int64)
  | double (value : Float)
  | string (value : String)
  | date (value : Date)
  | time (value : Time)
  | timestamp (value : Timestamp)
  | null
  deriving BEq

namespace Literal

/-- The name of the kind of a value. -/
def kind : Literal → String
  | .integer _ => "integer"
  | .long _ => "long"
  | .double _ => "double"
  | .string _ => "string"
  | .date _ => "date"
  | .time _ => "time"
  | .timestamp _ => "timestamp"
  | .null => "null"

/-- Whether the value is NULL. -/
def isNull : Literal → Bool
  | .null => true
  | _ => false

/-- Whether the value is a number. -/
def isNumeric : Literal → Bool
  | .integer _ | .long _ | .double _ => true
  | _ => false

/-- Whether the value is a date, a time or a moment. -/
def isTemporal : Literal → Bool
  | .date _ | .time _ | .timestamp _ => true
  | _ => false

/-- The whole number a value stands for: itself, or for dates and moments the
    milliseconds since the beginning of 1970, for times since midnight. -/
def millis? : Literal → Option Int
  | .integer v => some v.toInt
  | .long v => some v.toInt
  | .date v => some v.epochMillis
  | .time v => some v.dayMillis
  | .timestamp v => some v.epochMillis
  | .double _ | .string _ | .null => none

/-- The value as a double, with its milliseconds if it is temporal. -/
def toFloat? : Literal → Option Float
  | .double v => some v
  | v => v.millis?.map Float.ofInt

/-- The value as it is written in a filter. -/
def text : Literal → String
  | .integer v => toString v.toInt
  | .long v => toString v.toInt
  | .double v => Decimal.literalLayout.render v
  | .string v => Text.quoted v
  | .date v => "DATE '" ++ v.text ++ "'"
  | .time v => "TIME '" ++ v.text ++ "'"
  | .timestamp v => "TIMESTAMP '" ++ v.text ++ "'"
  | .null => "NULL"

/-- The value as plain text, which a pattern is matched against; NULL has none. -/
def plainText? : Literal → Option String
  | .integer v => some (toString v.toInt)
  | .long v => some (toString v.toInt)
  | .double v => some (Decimal.plainLayout.render v)
  | .string v => some v
  | .date v => some v.text
  | .time v => some v.plainText
  | .timestamp v => some v.plainText
  | .null => none

end Literal

end RecordFilter
