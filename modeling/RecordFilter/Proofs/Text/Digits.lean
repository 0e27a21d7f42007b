import Mathlib.Algebra.GroupWithZero.Nat
import RecordFilter.Text.Digits

/-!
# Digits that are read back

The digits of a number, with or without leading zeros, have the number as their
value.
-/

namespace RecordFilter.Text

/-! ## Runs -/

/-- A run of characters with a property is taken whole if what follows does not go on with it. -/
theorem takeWhile_append_stop {p : Char → Bool} {cs rest : List Char} (h : cs.all p)
    (hr : ∀ c ∈ rest.head?, p c = false) : (cs ++ rest).takeWhile p = cs := by
  rw [List.takeWhile_append_of_pos (List.all_eq_true.1 h)]
  cases rest with
  | nil => simp
  | cons c rest => simp [hr c rfl]

/-- Behind such a run stands exactly what follows it. -/
theorem dropWhile_append_stop {p : Char → Bool} {cs rest : List Char} (h : cs.all p)
    (hr : ∀ c ∈ rest.head?, p c = false) : (cs ++ rest).dropWhile p = rest := by
  rw [List.dropWhile_append_of_pos (List.all_eq_true.1 h)]
  cases rest with
  | nil => rfl
  | cons c rest => simp [hr c rfl]

/-! ## Values -/

/-- The value of digits is the one the standard library gives them. -/
theorem digitsValue_eq (cs : List Char) : digitsValue cs = Nat.ofDigitChars 10 cs 0 := by
  rw [digitsValue, Nat.ofDigitChars_eq_foldl]

@[simp]
theorem digitsValue_digits (n : Nat) : digitsValue (digits n) = n := by
  rw [digitsValue_eq, digits, Nat.ofDigitChars_ten_toDigits]

theorem isDigit_of_mem_digits {n : Nat} {c : Char} (h : c ∈ digits n) : c.isDigit :=
  Nat.isDigit_of_mem_toDigits (by decide) (by decide) h

theorem digits_ne_nil (n : Nat) : digits n ≠ [] :=
  Nat.toDigits_ne_nil

/-- Leading zeros do not change the value. -/
theorem digitsValue_zeros_append (n : Nat) (cs : List Char) :
    digitsValue (List.replicate n '0' ++ cs) = digitsValue cs := by
  rw [digitsValue_eq, Nat.ofDigitChars_append, Nat.ofDigitChars_replicate_zero, Nat.mul_zero,
    ← digitsValue_eq]

/-- Each zero at the end multiplies the value by ten. -/
theorem digitsValue_append_zeros (cs : List Char) (n : Nat) :
    digitsValue (cs ++ List.replicate n '0') = digitsValue cs * 10 ^ n := by
  rw [digitsValue_eq, Nat.ofDigitChars_append, Nat.ofDigitChars_replicate_zero, ← digitsValue_eq,
    Nat.mul_comm]

@[simp]
theorem digitsValue_paddedDigits (width n : Nat) : digitsValue (paddedDigits width n) = n := by
  rw [paddedDigits, digitsValue_zeros_append, digitsValue_digits]

theorem isDigit_of_mem_paddedDigits {width n : Nat} {c : Char} (h : c ∈ paddedDigits width n) :
    c.isDigit := by
  rcases List.mem_append.1 h with hc | hc
  · rw [List.eq_of_mem_replicate hc]
    rfl
  · exact isDigit_of_mem_digits hc

theorem all_isDigit_paddedDigits (width n : Nat) : (paddedDigits width n).all Char.isDigit := by
  rw [List.all_eq_true]
  exact fun c hc => isDigit_of_mem_paddedDigits hc

/-- Padded digits are as many as wanted, or more if the number needs them. -/
theorem length_paddedDigits (width n : Nat) :
    (paddedDigits width n).length = max width (digits n).length := by
  rw [paddedDigits, List.length_append, List.length_replicate]
  omega

/-- A number that is small enough is written with exactly as many digits as wanted. -/
theorem length_paddedDigits_of_lt {width n : Nat} (hw : 0 < width) (h : n < 10 ^ width) :
    (paddedDigits width n).length = width := by
  rw [length_paddedDigits]
  have := (Nat.length_toDigits_le_iff (by decide) hw).2 h
  exact Nat.max_eq_left this

theorem paddedDigits_ne_nil {width n : Nat} : paddedDigits width n ≠ [] := by
  intro h
  exact digits_ne_nil n (List.append_eq_nil_iff.1 h).2

end RecordFilter.Text
