import RecordFilter.Decimal.Shortest
import RecordFilter.Text.Digits

/-!
# Writing doubles

A double is written with the digits of its shortest decimal, positionally or
with an exponent. What the forms in use disagree on is gathered in a record,
`Decimal.Layout`.
-/

namespace RecordFilter.Decimal

/-- How a double is laid out. -/
structure Layout where
  /-- The decimal exponents of the leading digit for which the double is written
      positionally; all of them if there is no range. -/
  positionalRange : Option (Int × Int)
  /-- Whether a whole number written positionally ends in `.0`. -/
  pointZero : Bool
  /-- Whether a positive exponent has a sign. -/
  exponentSign : Bool
  /-- Which of two equally near decimals is taken. -/
  tie : Tie

/-- A decimal in positional notation. -/
def positional (l : Layout) (d : Decimal) : List Char :=
  let digits := Text.digits d.digits
  let point := (digits.length : Int) + d.exponent
  if 0 ≤ d.exponent then
    digits ++ List.replicate d.exponent.toNat '0' ++ (if l.pointZero then ['.', '0'] else [])
  else if 0 < point then digits.take point.toNat ++ '.' :: digits.drop point.toNat
  else '0' :: '.' :: (List.replicate (-point).toNat '0' ++ digits)

/-- A decimal with one digit in front of the point and an exponent. -/
def scientific (l : Layout) (d : Decimal) : List Char :=
  let digits := Text.digits d.digits
  let exponent := (digits.length : Int) + d.exponent - 1
  let fraction := if digits.length ≤ 1 then [] else '.' :: digits.drop 1
  let sign := if exponent < 0 then ['-'] else if l.exponentSign then ['+'] else []
  digits.take 1 ++ fraction ++ 'e' :: sign ++ Text.digits exponent.natAbs

/-- A positive decimal, laid out. -/
def layOut (l : Layout) (d : Decimal) : List Char :=
  let leading := ((Text.digits d.digits).length : Int) + d.exponent - 1
  match l.positionalRange with
  | none => positional l d
  | some (low, high) =>
    if low ≤ leading ∧ leading ≤ high then positional l d else scientific l d

/-- A double, laid out. Zero keeps its sign, not-a-number has none. -/
def Layout.render (l : Layout) (x : Float) : String :=
  let bits := x.toBits
  if x.isNaN then "NaN"
  else
    let sign := if bits >>> 63 = 1 then ['-'] else []
    let magnitude :=
      if x.isInf then ['i', 'n', 'f']
      else if bits &&& 0x7FFFFFFFFFFFFFFF = 0 then positional l ⟨0, 0⟩
      else layOut l ((Binary.ofBits bits).shortest l.tie)
    String.ofList (sign ++ magnitude)

/-- A double as it is written in a filter: with a point or an exponent, and
    positionally from `1e-4` to below `1e16`. -/
def literalLayout : Layout where
  positionalRange := some (-4, 15)
  pointZero := true
  exponentSign := false
  tie := .up

/-- A double as plain text: without an exponent, and without a point if it is whole. -/
def plainLayout : Layout where
  positionalRange := none
  pointZero := false
  exponentSign := false
  tie := .up

/-- A double as a JSON number: with a point or a signed exponent, and
    positionally from `1e-5` to below `1e16`. -/
def jsonLayout : Layout where
  positionalRange := some (-5, 15)
  pointZero := true
  exponentSign := true
  tie := .toEven

end RecordFilter.Decimal
