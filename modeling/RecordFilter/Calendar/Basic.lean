/-!
# Dates and times of day

The proleptic Gregorian calendar, with a year 0 and negative years before it,
and the time of day to the nanosecond. A moment has no time zone; where a point
in time is wanted it is read as UTC and counted in milliseconds from the
beginning of 1970.

A leap second is the second 59 with a billion nanoseconds or more.
-/

namespace RecordFilter

/-! ## Dates -/

/-- Whether a year has a 29th of February. -/
def isLeapYear (year : Int) : Bool :=
  year % 4 == 0 && (year % 100 != 0 || year % 400 == 0)

/-- The number of days in a month. -/
def daysInMonth (year : Int) (month : Nat) : Nat :=
  match month with
  | 2 => if isLeapYear year then 29 else 28
  | 4 | 6 | 9 | 11 => 30
  | _ => 31

/-- Whether a year, a month and a day make a date. Years are limited to about
    262 thousand on either side of year 0. -/
def IsDate (year : Int) (month day : Nat) : Prop :=
  -262143 ≤ year ∧ year ≤ 262142 ∧ 1 ≤ month ∧ month ≤ 12 ∧ 1 ≤ day ∧ day ≤ daysInMonth year month

instance (year : Int) (month day : Nat) : Decidable (IsDate year month day) :=
  inferInstanceAs (Decidable (_ ∧ _))

/-- A date. -/
structure Date where
  year : Int
  month : Nat
  day : Nat
  isDate : IsDate year month day
  deriving DecidableEq

namespace Date

/-- The date of a year, a month and a day, if there is one. -/
def ofParts? (year : Int) (month day : Nat) : Option Date :=
  if h : IsDate year month day then some ⟨year, month, day, h⟩ else none

/-- Dates are ordered by year, then by month, then by day. -/
def compare (a b : Date) : Ordering :=
  (Ord.compare a.year b.year).then
    ((Ord.compare a.month b.month).then (Ord.compare a.day b.day))

/-- The number of days of a year that lie before a month. -/
def daysBeforeMonth (year : Int) (month : Nat) : Nat :=
  (List.range (month - 1)).foldl (fun days i => days + daysInMonth year (i + 1)) 0

/-- The number of days from the first day of year 1 to the first day of a year. -/
def daysBeforeYear (year : Int) : Int :=
  let past := year - 1
  365 * past + past / 4 - past / 100 + past / 400

/-- The number of days from the first day of 1970. -/
def epochDay (d : Date) : Int :=
  daysBeforeYear d.year - daysBeforeYear 1970 + daysBeforeMonth d.year d.month + d.day - 1

/-- The milliseconds from the beginning of 1970 to midnight of the date. -/
def epochMillis (d : Date) : Int :=
  d.epochDay * 86400000

end Date

/-! ## Times of day -/

/-- Whether an hour, a minute, a second and a nanosecond make a time of day. -/
def IsTime (hour minute second nano : Nat) : Prop :=
  hour < 24 ∧ minute < 60 ∧ second < 60 ∧ nano < 2000000000 ∧ (1000000000 ≤ nano → second = 59)

instance (hour minute second nano : Nat) : Decidable (IsTime hour minute second nano) :=
  inferInstanceAs (Decidable (_ ∧ _))

/-- A time of day. -/
structure Time where
  hour : Nat
  minute : Nat
  second : Nat
  /-- The nanoseconds in the second; a billion or more in a leap second. -/
  nano : Nat
  isTime : IsTime hour minute second nano
  deriving DecidableEq

namespace Time

/-- The time of an hour, a minute, a second and a nanosecond, if there is one. -/
def ofParts? (hour minute second nano : Nat) : Option Time :=
  if h : IsTime hour minute second nano then some ⟨hour, minute, second, nano, h⟩ else none

/-- The beginning of a day. -/
def midnight : Time where
  hour := 0
  minute := 0
  second := 0
  nano := 0
  isTime := by decide

/-- The whole seconds since midnight. -/
def secondOfDay (t : Time) : Nat :=
  t.hour * 3600 + t.minute * 60 + t.second

/-- Times are ordered by second, then by nanosecond. -/
def compare (a b : Time) : Ordering :=
  (Ord.compare a.secondOfDay b.secondOfDay).then (Ord.compare a.nano b.nano)

/-- The milliseconds since midnight. -/
def dayMillis (t : Time) : Nat :=
  t.secondOfDay * 1000 + t.nano / 1000000

end Time

/-! ## Moments -/

/-- A time of day on a date. -/
structure Timestamp where
  date : Date
  time : Time
  deriving DecidableEq

namespace Timestamp

/-- Moments are ordered by date, then by time. -/
def compare (a b : Timestamp) : Ordering :=
  (a.date.compare b.date).then (a.time.compare b.time)

/-- The milliseconds since the beginning of 1970. -/
def epochMillis (t : Timestamp) : Int :=
  t.date.epochMillis + t.time.dayMillis

end Timestamp

end RecordFilter
