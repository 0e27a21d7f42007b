import RecordFilter.Decimal.Shortest
import RecordFilter.Text.Digits

/-!
# Reading doubles

A written number has an optional sign, digits with an optional point among or
around them, and an optional exponent; or it is one of the words `inf`,
`infinity` and `nan`, in any case. It is read as the double nearest to its
exact value.
-/

namespace RecordFilter.Decimal

/-- The double nearest to `digits * 10 ^ exponent`. Far outside the range of
    doubles the result is known without computing the power of ten. -/
def toFloat (d : Decimal) : Float :=
  let leading := (Text.digits d.digits).length + d.exponent
  if d.digits = 0 then 0
  else if leading > 400 then 1.0 / 0.0
  else if leading < -400 then 0
  else Float.ofScientific d.digits (d.exponent < 0) d.exponent.natAbs

/-- The exponent of a number, after its mark. -/
def readExponent? (cs : List Char) : Option Int :=
  let (negative, digits) :=
    match cs with
    | '-' :: rest => (true, rest)
    | '+' :: rest => (false, rest)
    | rest => (false, rest)
  if digits ≠ [] ∧ digits.all Char.isDigit then
    some (if negative then -(Text.digitsValue digits : Int) else Text.digitsValue digits)
  else none

/-- A number without a sign. -/
def readUnsigned? (cs : List Char) : Option Decimal := do
  let whole := cs.takeWhile Char.isDigit
  let (fraction, rest) :=
    match cs.dropWhile Char.isDigit with
    | '.' :: rest => (rest.takeWhile Char.isDigit, rest.dropWhile Char.isDigit)
    | rest => ([], rest)
  guard (whole ≠ [] ∨ fraction ≠ [])
  let exponent ←
    match rest with
    | [] => some 0
    | c :: rest => if c = 'e' ∨ c = 'E' then readExponent? rest else none
  return ⟨Text.digitsValue (whole ++ fraction), exponent - fraction.length⟩

/-- A magnitude in words or in digits. -/
def readMagnitude? (cs : List Char) : Option Float :=
  let word := String.ofList (cs.map Char.toLower)
  if word = "inf" ∨ word = "infinity" then some (1.0 / 0.0)
  else if word = "nan" then some (0.0 / 0.0)
  else (readUnsigned? cs).map toFloat

/-- The double a text stands for. -/
def readFloat? : List Char → Option Float
  | '-' :: rest => (readMagnitude? rest).map fun x => -x
  | '+' :: rest => readMagnitude? rest
  | rest => readMagnitude? rest

end RecordFilter.Decimal
