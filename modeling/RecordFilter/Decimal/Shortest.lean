/-!
# The shortest decimal of a double

A double stands for all real numbers that round to it. Its shortest decimal is,
of the decimals with the fewest digits among them, the one nearest to the
double. The digits are found by exact integer arithmetic: for one digit, two
digits and so on, the two neighbours of the double on the grid of that many
digits are tested.

Seventeen digits always suffice. Were they ever not to, the exact value of the
double would be taken, so that nothing is ever guessed.
-/

namespace RecordFilter

/-- The decimal number `digits * 10 ^ exponent`. -/
structure Decimal where
  digits : Nat
  exponent : Int
  deriving DecidableEq, Repr

namespace Decimal

/-- A finite positive double, `significand * 2 ^ exponent`. -/
structure Binary where
  significand : Nat
  exponent : Int
  /-- Whether the next smaller double is only half as far away as the next larger one. -/
  narrowBelow : Bool

/-- The magnitude of the finite double with the given bits. -/
def Binary.ofBits (bits : UInt64) : Binary :=
  let exponent := ((bits >>> 52) &&& 0x7FF).toNat
  let fraction := (bits &&& 0xFFFFFFFFFFFFF).toNat
  if exponent = 0 then ⟨fraction, -1074, false⟩
  else ⟨Nat.pow 2 52 + fraction, exponent - 1075, fraction == 0 && exponent > 1⟩

/-- Which of two equally near decimals is taken. -/
inductive Tie
  | up
  | toEven
  deriving DecidableEq, Repr

/-- Compares `a * 10 ^ i` with `b * 2 ^ j`. -/
def compareScaled (a : Nat) (i : Int) (b : Nat) (j : Int) : Ordering :=
  compare (a * Nat.pow 10 i.toNat * Nat.pow 2 (-j).toNat)
    (b * Nat.pow 2 j.toNat * Nat.pow 10 (-i).toNat)

/-- Whether a decimal rounds to the double: it lies between the midpoints to the
    neighbours, and may be a midpoint if the significand is even. -/
def Binary.covers (x : Binary) (d : Decimal) : Bool :=
  let low := if x.narrowBelow then 4 * x.significand - 1 else 4 * x.significand - 2
  let high := 4 * x.significand + 2
  let even := x.significand % 2 == 0
  let fromLow := compareScaled d.digits d.exponent low (x.exponent - 2)
  let fromHigh := compareScaled d.digits d.exponent high (x.exponent - 2)
  (fromLow == .gt || even && fromLow == .eq) && (fromHigh == .lt || even && fromHigh == .eq)

/-- The least power of ten above the double, as an exponent. The estimate by
    the binary logarithm is off by little. -/
def Binary.magnitude (x : Binary) : Int :=
  let estimate := ((x.significand.log2 : Int) + x.exponent) * 30103 / 100000
  let candidates := (List.range 5).map fun (i : Nat) => estimate - 1 + i
  (candidates.find? fun k => compareScaled 1 k x.significand x.exponent == .gt).getD (estimate + 4)

/-- The decimal on the grid of multiples of `10 ^ exponent` that is nearest to
    the double among those that round to it. -/
def Binary.onGrid? (x : Binary) (exponent : Int) (tie : Tie) : Option Decimal :=
  let numerator := x.significand * Nat.pow 2 x.exponent.toNat * Nat.pow 10 (-exponent).toNat
  let denominator := Nat.pow 2 (-x.exponent).toNat * Nat.pow 10 exponent.toNat
  let below : Decimal := ⟨numerator / denominator, exponent⟩
  let above : Decimal := ⟨below.digits + 1, exponent⟩
  match x.covers below, x.covers above with
  | true, true =>
    match compare (2 * numerator) ((2 * below.digits + 1) * denominator), tie with
    | .lt, _ => some below
    | .gt, _ => some above
    | .eq, .up => some above
    | .eq, .toEven => if below.digits % 2 = 0 then some below else some above
  | true, false => some below
  | false, true => some above
  | false, false => none

/-- The exact value of the double. -/
def Binary.exact (x : Binary) : Decimal :=
  if 0 ≤ x.exponent then ⟨x.significand * Nat.pow 2 x.exponent.toNat, 0⟩
  else ⟨x.significand * Nat.pow 5 (-x.exponent).toNat, x.exponent⟩

/-- The decimal without the zeros its digits end in. -/
def dropZeros (d : Decimal) : Decimal :=
  go d.digits d
where
  /-- Divides by ten at most `fuel` times. -/
  go : (fuel : Nat) → Decimal → Decimal
    | 0, d => d
    | fuel + 1, d =>
      if d.digits ≠ 0 ∧ d.digits % 10 = 0 then go fuel ⟨d.digits / 10, d.exponent + 1⟩ else d

/-- The shortest decimal of a positive double. -/
def Binary.shortest (x : Binary) (tie : Tie) : Decimal :=
  let magnitude := x.magnitude
  let found := (List.range 17).findSome? fun (i : Nat) => x.onGrid? (magnitude - (i + 1)) tie
  (found.getD x.exact).dropZeros

end Decimal

end RecordFilter
