import RecordFilter.Calendar.Basic
import RecordFilter.Calendar.Pattern
import RecordFilter.Text.Blank
import RecordFilter.Text.Digits

/-!
# Reading dates by a pattern

A text is read item by item. Numbers may have blanks in front and fewer digits
than usual; a year with a sign may have any number of digits. What was read is
put together at the end: a date needs a year, a month and a day, a time of day
an hour and a minute, and a second 60 is a leap second.
-/

namespace RecordFilter

/-- Why a text is not a date of the pattern. -/
inductive DateError
  | outOfRange | impossible | notEnough | invalid | tooShort | tooLong | badPattern
  deriving DecidableEq, Repr

/-- What is wrong, in words. -/
def DateError.message : DateError → String
  | .outOfRange => "input is out of range"
  | .impossible => "no possible date and time matching input"
  | .notEnough => "input is not enough for unique date and time"
  | .invalid => "input contains invalid characters"
  | .tooShort => "premature end of input"
  | .tooLong => "trailing input"
  | .badPattern => "bad or unsupported format string"

/-- The fields read so far. -/
structure DateParts where
  year : Option Int := none
  shortYear : Option Nat := none
  month : Option Nat := none
  day : Option Nat := none
  hour : Option Nat := none
  minute : Option Nat := none
  second : Option Nat := none
  nano : Option Nat := none

namespace DatePattern

/-! ## Patterns as text -/

/-- The pattern a text describes, as far as its fields are covered. -/
def ofChars : List Char → DatePattern
  | [] => []
  | '%' :: 'Y' :: rest => .number .year :: ofChars rest
  | '%' :: 'm' :: rest => .number .month :: ofChars rest
  | '%' :: 'd' :: rest => .number .day :: ofChars rest
  | '%' :: 'H' :: rest => .number .hour :: ofChars rest
  | '%' :: 'M' :: rest => .number .minute :: ofChars rest
  | '%' :: 'S' :: rest => .number .second :: ofChars rest
  | '%' :: 'y' :: rest => .number .shortYear :: ofChars rest
  | '%' :: 'b' :: rest => .monthName :: ofChars rest
  | '%' :: '3' :: 'f' :: rest => .millis :: ofChars rest
  | '%' :: 'F' :: rest =>
    .number .year :: .char '-' :: .number .month :: .char '-' :: .number .day :: ofChars rest
  | '%' :: 'T' :: rest =>
    .number .hour :: .char ':' :: .number .minute :: .char ':' :: .number .second :: ofChars rest
  | '%' :: '%' :: rest => .char '%' :: ofChars rest
  | '%' :: rest => .unknown :: ofChars rest
  | c :: rest => (if Text.isBlank c then .blanks else .char c) :: ofChars rest

/-- The pattern a text describes. -/
def ofString (text : String) : DatePattern :=
  ofChars text.toList

end DatePattern

/-! ## Reading fields -/

namespace DateParts

/-- Stores a field, unless another value is there already. -/
def agree {α : Type} [DecidableEq α] (old : Option α) (new : α) : Except DateError (Option α) :=
  if old = none ∨ old = some new then .ok (some new) else .error .impossible

/-- Stores a number, which has to be in the range of its field. -/
def set (parts : DateParts) (field : DateField) (n : Int) : Except DateError DateParts := do
  let within (low high : Int) : Except DateError Nat :=
    if low ≤ n ∧ n ≤ high then .ok n.toNat else .error .outOfRange
  match field with
  | .year =>
    if -2147483648 ≤ n ∧ n ≤ 2147483647 then return { parts with year := ← agree parts.year n }
    else throw .outOfRange
  | .shortYear => return { parts with shortYear := ← agree parts.shortYear (← within 0 99) }
  | .month => return { parts with month := ← agree parts.month (← within 1 12) }
  | .day => return { parts with day := ← agree parts.day (← within 1 31) }
  | .hour => return { parts with hour := ← agree parts.hour (← within 0 23) }
  | .minute => return { parts with minute := ← agree parts.minute (← within 0 59) }
  | .second => return { parts with second := ← agree parts.second (← within 0 60) }

/-- Stores the nanoseconds. -/
def setNano (parts : DateParts) (n : Nat) : Except DateError DateParts := do
  return { parts with nano := ← agree parts.nano n }

end DateParts

/-- At least `least` digits, and at most `most` if there is a limit: their value,
    how many they are and what follows them. -/
def readDigits (least : Nat) (most : Option Nat) (cs : List Char) :
    Except DateError (Nat × Nat × List Char) :=
  let window :=
    match most with
    | some width => cs.take width
    | none => cs
  let digits := window.takeWhile Char.isDigit
  if cs.length < least then .error .tooShort
  else if digits.length < least then .error .invalid
  else .ok (Text.digitsValue digits, digits.length, cs.drop digits.length)

/-- The number of a field. Only a year can have a sign, and with a sign it can
    have any number of digits. -/
def readNumber (field : DateField) (cs : List Char) : Except DateError (Int × List Char) := do
  let cs := Text.trimLeft cs
  match field, cs with
  | .year, '-' :: rest =>
    let (n, _, rest) ← readDigits 1 none rest
    return (-n, rest)
  | .year, '+' :: rest =>
    let (n, _, rest) ← readDigits 1 none rest
    return (n, rest)
  | .year, cs =>
    let (n, _, rest) ← readDigits 1 (some 4) cs
    return (n, rest)
  | _, cs =>
    let (n, _, rest) ← readDigits 1 (some 2) cs
    return (n, rest)

/-- The English names of the months, shortened to three letters. -/
def monthNames : List (List Char) :=
  ["jan", "feb", "mar", "apr", "may", "jun", "jul", "aug", "sep", "oct", "nov", "dec"].map
    String.toList

/-- Reads one item of a pattern. -/
def PatternItem.read (item : PatternItem) (parts : DateParts) (cs : List Char) :
    Except DateError (DateParts × List Char) := do
  match item with
  | .number field =>
    let (n, rest) ← readNumber field cs
    return (← parts.set field n, rest)
  | .monthName =>
    if cs.length < 3 then throw .tooShort
    match monthNames.idxOf? ((cs.take 3).map Char.toLower) with
    | some i => return (← parts.set .month (i + 1), cs.drop 3)
    | none => throw .invalid
  | .millis =>
    let (n, _, rest) ← readDigits 3 (some 3) cs
    return (← parts.setNano (n * 1000000), rest)
  | .fraction =>
    match cs with
    | '.' :: digits =>
      let (n, count, rest) ← readDigits 1 (some 9) digits
      return (← parts.setNano (n * Nat.pow 10 (9 - count)), rest.dropWhile Char.isDigit)
    | _ => return (parts, cs)
  | .blanks => return (parts, Text.trimLeft cs)
  | .char c =>
    match cs with
    | [] => throw .tooShort
    | d :: rest => if d = c then return (parts, rest) else throw .invalid
  | .unknown => throw .badPattern

/-- Reads the items of a pattern in turn. -/
def DatePattern.readItems : DatePattern → DateParts → List Char →
    Except DateError (DateParts × List Char)
  | [], parts, cs => .ok (parts, cs)
  | item :: items, parts, cs => do
    let (parts, rest) ← item.read parts cs
    DatePattern.readItems items parts rest

/-- Reads a whole text by a pattern. -/
def DatePattern.read (pattern : DatePattern) (cs : List Char) : Except DateError DateParts := do
  let (parts, rest) ← pattern.readItems {} cs
  if rest.isEmpty then return parts else throw .tooLong

/-! ## Putting fields together -/

namespace DateParts

/-- The year. Both forms of it have to agree; two digits alone mean a year from
    1970 to 2069. -/
def fullYear (parts : DateParts) : Except DateError (Option Int) :=
  match parts.year, parts.shortYear with
  | year, none => .ok year
  | some year, some short =>
    if 0 ≤ year ∧ year % 100 = short then .ok (some year) else .error .impossible
  | none, some short => .ok (some (short + if short < 70 then 2000 else 1900))

/-- The date of the fields. -/
def date (parts : DateParts) : Except DateError Date := do
  match ← parts.fullYear, parts.month, parts.day with
  | some year, some month, some day =>
    match Date.ofParts? year month day with
    | some date => return date
    | none => throw .outOfRange
  | _, _, _ => throw .notEnough

/-- The time of day of the fields. -/
def time (parts : DateParts) : Except DateError Time := do
  let some hour := parts.hour | throw .notEnough
  let some minute := parts.minute | throw .notEnough
  let (second, leap) :=
    match parts.second with
    | some 60 => (59, 1000000000)
    | some second => (second, 0)
    | none => (0, 0)
  if parts.nano.isSome ∧ parts.second.isNone then throw .notEnough
  match Time.ofParts? hour minute second (leap + parts.nano.getD 0) with
  | some time => return time
  | none => throw .outOfRange

/-- The moment of the fields. If both halves are wrong, the date is to blame. -/
def timestamp (parts : DateParts) : Except DateError Timestamp := do
  let date ← parts.date
  let time ← parts.time
  return ⟨date, time⟩

end DateParts

/-! ## Literals of a filter -/

/-- The date a text holds, as in `2020-01-31`. -/
def Date.ofText (cs : List Char) : Except DateError Date := do
  (← DatePattern.read [.number .year, .char '-', .number .month, .char '-', .number .day] cs).date

/-- The items of a time of day with a fraction of a second. -/
def clockItems : DatePattern :=
  [.number .hour, .char ':', .number .minute, .char ':', .number .second, .fraction]

/-- The time of day a text holds, as in `12:30:00.5`. -/
def Time.ofText (cs : List Char) : Except DateError Time := do
  (← clockItems.read cs).time

/-- The moment a text holds, with blanks or a `T` in front of the time of day. -/
def Timestamp.ofText (cs : List Char) : Except DateError Timestamp :=
  let dateItems : DatePattern :=
    [.number .year, .char '-', .number .month, .char '-', .number .day]
  let attempt (separator : PatternItem) : Except DateError Timestamp := do
    (← (dateItems ++ separator :: clockItems).read cs).timestamp
  match attempt .blanks with
  | .ok t => .ok t
  | .error _ => attempt (.char 'T')

/-! ## Data exchange -/

/-- The date in a text for data exchange: blanks are allowed everywhere but
    inside numbers. -/
def Date.ofExactText? (cs : List Char) : Option Date :=
  let pattern : DatePattern :=
    [.number .year, .blanks, .char '-', .number .month, .blanks, .char '-', .number .day, .blanks]
  (pattern.read cs >>= DateParts.date).toOption

/-- The time of day in a text for data exchange. The seconds may be missing. -/
def Time.ofExactText? (cs : List Char) : Option Time :=
  let brief : DatePattern := [.number .hour, .blanks, .char ':', .number .minute, .blanks]
  let full : DatePattern := brief ++ [.char ':', .number .second, .fraction, .blanks]
  match full.read cs with
  | .ok parts => parts.time.toOption
  | .error _ => (brief.read cs >>= DateParts.time).toOption

/-- The moment in a text for data exchange. -/
def Timestamp.ofExactText? (cs : List Char) : Option Timestamp :=
  let pattern : DatePattern :=
    [.number .year, .blanks, .char '-', .number .month, .blanks, .char '-', .number .day, .blanks,
     .char 'T', .number .hour, .blanks, .char ':', .number .minute, .blanks, .char ':',
     .number .second, .fraction, .blanks]
  (pattern.read cs >>= DateParts.timestamp).toOption

end RecordFilter
