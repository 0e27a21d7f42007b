import RecordFilter.Json.Basic
import RecordFilter.Text.Digits

/-!
# JSON numbers

A number without a fraction and an exponent is a whole number if it fits into 64
bits, unsigned or with a minus sign; minus zero does not. Every other number is a
double. Its digits are gathered as long as they fit into 64 bits, and the result is
scaled by one multiplication or division by a power of ten, so it may miss the
nearest double by little.
-/

namespace RecordFilter

/-- A number as it is written. -/
structure NumberText where
  negative : Bool
  /-- The digits in front of the point. -/
  whole : List Char
  /-- The digits after the point. -/
  fraction : List Char
  exponent : Option Int

namespace NumberText

/-- The largest significand. -/
def significandMax : Nat :=
  18446744073709551615

/-- Appends digits to a significand until one does not fit; gives the digits left. -/
def gather (significand : Nat) : List Char → Nat × List Char
  | [] => (significand, [])
  | c :: cs =>
    let next := 10 * significand + (c.toNat - '0'.toNat)
    if next ≤ significandMax then gather next cs else (significand, c :: cs)

/-- Multiplies by a power of ten, in steps if the power is too small for a double.
    There is no result if it is too large. -/
def scale? (x : Float) (exponent : Int) : Option Float :=
  if exponent > 308 then if x == 0 then some x else none
  else if 0 ≤ exponent then
    let result := x * Float.ofScientific 1 false exponent.toNat
    if result.isInf then none else some result
  else if -308 ≤ exponent then some (x / Float.ofScientific 1 false exponent.natAbs)
  else if x == 0 then some x
  else scale? (x / 1e308) (exponent + 308)
termination_by exponent.natAbs

/-- The number as a double, if it is not too large. -/
def double? (n : NumberText) : Option Float :=
  let (significand, wholeLeft) := gather 0 n.whole
  let (significand, fractionLeft) := gather significand n.fraction
  let exponent := n.exponent.getD 0 + wholeLeft.length + fractionLeft.length - n.fraction.length
  (scale? (Float.ofNat significand) exponent).map fun x => if n.negative then -x else x

/-- The number as a whole number, if it is one. -/
def whole? (n : NumberText) : Option Int :=
  let magnitude := Text.digitsValue n.whole
  if n.fraction ≠ [] ∨ n.exponent.isSome then none
  else if n.negative then
    if 0 < magnitude ∧ magnitude ≤ 9223372036854775808 then some (-magnitude) else none
  else if magnitude ≤ significandMax then some magnitude
  else none

/-- The value of a number. -/
def value (n : NumberText) : Json :=
  match n.whole? with
  | some v => .whole v
  | none =>
    match n.double? with
    | some x => .double x
    | none => .unusable

end NumberText

end RecordFilter
