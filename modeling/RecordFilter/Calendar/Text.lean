import RecordFilter.Calendar.Basic
import RecordFilter.Text.Digits

/-!
# Writing dates and times

Dates and times are written in three ways: in a filter, with milliseconds; as
plain text, without a fraction of a second; and for data exchange, with as many
digits of the fraction as it needs, three at a time. A leap second is written as
second 60.
-/

namespace RecordFilter

open Text (paddedDigits)

/-- The year with at least four digits, and with a sign outside 0 to 9999. -/
def yearText (year : Int) : List Char :=
  if 0 ≤ year ∧ year ≤ 9999 then paddedDigits 4 year.toNat
  else (if year < 0 then '-' else '+') :: paddedDigits 4 year.natAbs

namespace Date

/-- The date as year, month and day, separated by hyphens. -/
def chars (d : Date) : List Char :=
  yearText d.year ++ '-' :: paddedDigits 2 d.month ++ '-' :: paddedDigits 2 d.day

/-- The text of a date. -/
def text (d : Date) : String :=
  String.ofList d.chars

end Date

namespace Time

/-- The time without its fraction of a second. -/
def clockChars (t : Time) : List Char :=
  paddedDigits 2 t.hour ++ ':' :: paddedDigits 2 t.minute ++
    ':' :: paddedDigits 2 (t.second + t.nano / 1000000000)

/-- The time with its milliseconds. -/
def millisChars (t : Time) : List Char :=
  t.clockChars ++ '.' :: paddedDigits 3 (t.nano % 1000000000 / 1000000)

/-- The time with the digits of the fraction that it needs, three at a time. -/
def exactChars (t : Time) : List Char :=
  let nano := t.nano % 1000000000
  let fraction :=
    if nano = 0 then []
    else if nano % 1000000 = 0 then '.' :: paddedDigits 3 (nano / 1000000)
    else if nano % 1000 = 0 then '.' :: paddedDigits 6 (nano / 1000)
    else '.' :: paddedDigits 9 nano
  t.clockChars ++ fraction

/-- The text of a time without its fraction. -/
def plainText (t : Time) : String :=
  String.ofList t.clockChars

/-- The text of a time with milliseconds. -/
def text (t : Time) : String :=
  String.ofList t.millisChars

/-- The text of a time that holds all of it. -/
def exactText (t : Time) : String :=
  String.ofList t.exactChars

end Time

namespace Timestamp

/-- The text of a moment without its fraction of a second. -/
def plainText (t : Timestamp) : String :=
  String.ofList (t.date.chars ++ ' ' :: t.time.clockChars)

/-- The text of a moment with milliseconds. -/
def text (t : Timestamp) : String :=
  String.ofList (t.date.chars ++ ' ' :: t.time.millisChars)

/-- The text of a moment that holds all of it, with a `T` in front of the time. -/
def exactText (t : Timestamp) : String :=
  String.ofList (t.date.chars ++ 'T' :: t.time.exactChars)

end Timestamp

end RecordFilter
