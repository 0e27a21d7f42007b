/-!
# Mappings of characters by distance

A mapping of characters is given by runs of code points that all move by the
same distance, as the letters `a` to `z` move by 32 to their capitals. In some
runs only every second code point moves, where small and capital letters
alternate.
-/

namespace RecordFilter.Text

/-- A run of code points that move together. -/
structure CodeShift where
  /-- The first code point that moves. -/
  first : Nat
  /-- The last code point that moves. -/
  last : Nat
  /-- The distance from one that moves to the next. -/
  step : Nat
  /-- How far each one moves. -/
  offset : Int

/-- Runs in ascending order, apart from each other. -/
abbrev CodeShifts := List CodeShift

/-- Moves a code point, if it is in one of the runs. -/
def CodeShifts.applyNat : CodeShifts → Nat → Nat
  | [], n => n
  | run :: runs, n =>
    if n < run.first then n
    else if n ≤ run.last then
      if (n - run.first) % run.step = 0 then (n + run.offset).toNat
      else CodeShifts.applyNat runs n
    else CodeShifts.applyNat runs n

/-- Moves a character, if it is in one of the runs. -/
def CodeShifts.apply (runs : CodeShifts) (c : Char) : Char :=
  Char.ofNat (runs.applyNat c.toNat)

end RecordFilter.Text
