import RecordFilter.DateText
import RecordFilter.Decimal.Reading
import RecordFilter.Literal

/-!
# Comparing values

Values of different kinds are compared as numbers, dates and times by their
milliseconds: exactly, or as doubles if one of them is a double. Two strings are
compared by their characters. A string and another value are compared by the date
that the string is, or else, with a number, by the number that it is.

NULL is not comparable, nor is not-a-number, nor a string that is neither.
-/

namespace RecordFilter

/-- The order of two doubles; there is none if one is not a number. -/
def compareFloats? (a b : Float) : Option Ordering :=
  match decide (a ≤ b), decide (b ≤ a) with
  | true, true => some .eq
  | true, false => some .lt
  | false, true => some .gt
  | false, false => none

namespace Literal

/-- The order of two values that are not strings. Two dates are compared as such,
    and so are two times and two moments. -/
def compareValues? : Literal → Literal → Option Ordering
  | .date a, .date b => some (a.compare b)
  | .time a, .time b => some (a.compare b)
  | .timestamp a, .timestamp b => some (a.compare b)
  | .double a, b => b.toFloat?.bind (compareFloats? a)
  | a, .double b => a.toFloat?.bind (compareFloats? · b)
  | a, b => do return compare (← a.millis?) (← b.millis?)

/-- The order of a string and a value that is none. -/
def compareText? (patterns : List DatePattern) (text : String) (other : Literal) :
    Option Ordering :=
  if other.isNumeric || other.isTemporal then
    match DateText.millis? patterns text with
    | some millis => compareValues? (.long (Int64.ofInt millis)) other
    | none =>
      if other.isNumeric then do
        compareFloats? (← Decimal.readFloat? (Text.trim text.toList)) (← other.toFloat?)
      else none
  else none

/-- The order of two values, if they are comparable. -/
def compare? (patterns : List DatePattern) : Literal → Literal → Option Ordering
  | .string a, .string b => some (compare a b)
  | .string a, b => compareText? patterns a b
  | a, .string b => (compareText? patterns b a).map Ordering.swap
  | a, b => compareValues? a b

/-- Whether two values are comparable and the same. -/
def equals (patterns : List DatePattern) (a b : Literal) : Bool :=
  a.compare? patterns b == some .eq

end Literal

end RecordFilter
