import Mathlib.Algebra.Order.Field.Power
import Mathlib.Data.Rat.Cast.Order
import Mathlib.Tactic.FieldSimp
import Mathlib.Tactic.Linarith
import Mathlib.Tactic.NormNum
import Mathlib.Tactic.Ring
import RecordFilter.Decimal.Shortest

/-!
# What the shortest decimal of a double is worth

Decimals and finite doubles are rational numbers. A double stands for all numbers
between the midpoints to its neighbours, and for the midpoints too if its significand is
even (`Decimal.Binary.Rounds`). The shortest decimal of a double is one of them
(`Decimal.Binary.rounds_shortest`).
-/

namespace RecordFilter.Decimal

/-- The number that a decimal is. -/
def value (d : Decimal) : ℚ :=
  d.digits * 10 ^ d.exponent

namespace Binary

/-- The number that a double is. -/
def value (x : Binary) : ℚ :=
  x.significand * 2 ^ x.exponent

/-- The number midway between a double and the next smaller one. -/
def low (x : Binary) : ℚ :=
  (x.significand - if x.narrowBelow then 1 / 4 else 1 / 2) * 2 ^ x.exponent

/-- The number midway between a double and the next larger one. -/
def high (x : Binary) : ℚ :=
  (x.significand + 1 / 2) * 2 ^ x.exponent

/-- Whether a number is one that a double stands for. -/
structure Rounds (x : Binary) (v : ℚ) : Prop where
  low_le : x.low ≤ v
  le_high : v ≤ x.high
  /-- Of the midpoints a double takes those on which others with an odd significand border. -/
  even : v = x.low ∨ v = x.high → x.significand % 2 = 0

end Binary

/-! ## Comparing -/

theorem pow_toNat {a : ℚ} (ha : a ≠ 0) (i : Int) : a ^ i.toNat = a ^ i * a ^ (-i).toNat := by
  rw [← zpow_natCast, ← zpow_natCast, ← zpow_add₀ ha]
  congr 1
  omega

theorem compare_mul_right {a b c : ℚ} (hc : 0 < c) : compare (a * c) (b * c) = compare a b := by
  rcases lt_trichotomy a b with h | rfl | h
  · rw [compare_lt_iff_lt.2 h, compare_lt_iff_lt.2 (mul_lt_mul_of_pos_right h hc)]
  · rw [compare_eq_iff_eq.2 rfl, compare_eq_iff_eq.2 rfl]
  · rw [compare_gt_iff_gt.2 h, compare_gt_iff_gt.2 (mul_lt_mul_of_pos_right h hc)]

theorem compare_natCast (a b : Nat) : compare (a : ℚ) b = compare a b := by
  rcases lt_trichotomy a b with h | rfl | h
  · rw [compare_lt_iff_lt.2 h, compare_lt_iff_lt.2 (Nat.cast_lt.2 h)]
  · rw [compare_eq_iff_eq.2 rfl, compare_eq_iff_eq.2 rfl]
  · rw [compare_gt_iff_gt.2 h, compare_gt_iff_gt.2 (Nat.cast_lt.2 h)]

/-- The comparison of scaled whole numbers, made without fractions, is that of the rational
    numbers. -/
theorem compareScaled_eq (a : Nat) (i : Int) (b : Nat) (j : Int) :
    compareScaled a i b j = compare ((a : ℚ) * 10 ^ i) (b * 2 ^ j) := by
  -- Both sides are multiplied by what makes all exponents non-negative.
  have hc : (0 : ℚ) < 10 ^ (-i).toNat * 2 ^ (-j).toNat := by positivity
  rw [compareScaled, ← compare_natCast]
  push_cast [Nat.pow_eq]
  rw [pow_toNat (a := 10) (by norm_num) i, pow_toNat (a := 2) (by norm_num) j]
  rw [show (a : ℚ) * (10 ^ i * 10 ^ (-i).toNat) * 2 ^ (-j).toNat =
      a * 10 ^ i * (10 ^ (-i).toNat * 2 ^ (-j).toNat) by ring,
    show (b : ℚ) * (2 ^ j * 2 ^ (-j).toNat) * 10 ^ (-i).toNat =
      b * 2 ^ j * (10 ^ (-i).toNat * 2 ^ (-j).toNat) by ring, compare_mul_right hc]

namespace Binary

variable {x : Binary} {d : Decimal}

theorem scaled_low (h : 0 < x.significand) : x.low =
    (if x.narrowBelow then 4 * x.significand - 1 else 4 * x.significand - 2 : Nat) *
      2 ^ (x.exponent - 2) := by
  rw [low, zpow_sub₀ (by norm_num)]
  split
  · rw [Nat.cast_sub (by omega)]
    push_cast
    ring
  · rw [Nat.cast_sub (by omega)]
    push_cast
    ring

theorem scaled_high : x.high = (4 * x.significand + 2 : Nat) * 2 ^ (x.exponent - 2) := by
  rw [high, zpow_sub₀ (by norm_num)]
  push_cast
  ring

/-- The test for the interval of a double, made on whole numbers, is that a decimal rounds to this
    double. -/
theorem covers_iff (h : 0 < x.significand) : x.covers d ↔ x.Rounds d.value := by
  -- An end of the interval belongs to it if the significand is even.
  have hlow : (compare d.value x.low == .gt || x.significand % 2 == 0 && compare d.value x.low == .eq)
      = true ↔ x.low ≤ d.value ∧ (d.value = x.low → x.significand % 2 = 0) := by
    rcases lt_trichotomy d.value x.low with h | h | h
    · simp [compare_lt_iff_lt.2 h, h]
    · simp [h]
    · simp [compare_gt_iff_gt.2 h, h.le, h.ne']
  have hhigh : (compare d.value x.high == .lt || x.significand % 2 == 0 && compare d.value x.high == .eq)
      = true ↔ d.value ≤ x.high ∧ (d.value = x.high → x.significand % 2 = 0) := by
    rcases lt_trichotomy d.value x.high with h | h | h
    · simp [compare_lt_iff_lt.2 h, h.le, h.ne]
    · simp [h]
    · simp [compare_gt_iff_gt.2 h, h]
  unfold covers
  simp only [compareScaled_eq, Bool.and_eq_true]
  rw [← scaled_low h, ← scaled_high, ← Decimal.value, hlow, hhigh]
  constructor
  · rintro ⟨⟨hl, hle⟩, hh, hhe⟩
    exact ⟨hl, hh, fun heq => heq.elim hle hhe⟩
  · rintro ⟨hl, hh, he⟩
    exact ⟨⟨hl, fun h => he (.inl h)⟩, hh, fun h => he (.inr h)⟩

/-! ## The shortest decimal -/

/-- A decimal that is found on a grid is checked to round to the double. -/
theorem covers_of_onGrid? {exponent : Int} {tie : Tie} (h : x.onGrid? exponent tie = some d) :
    x.covers d := by
  unfold onGrid? at h
  simp only at h
  split at h
  · next hbelow habove =>
    split at h
    · cases h; exact hbelow
    · cases h; exact habove
    · cases h; exact habove
    · split at h <;> cases h <;> assumption
  · next hbelow _ => cases h; exact hbelow
  · next _ habove => cases h; exact habove
  · cases h

theorem value_exact (x : Binary) : x.exact.value = x.value := by
  unfold exact
  split
  · next h =>
    obtain ⟨n, hn⟩ := Int.eq_ofNat_of_zero_le h
    simp [Decimal.value, value, hn]
  · next h =>
    obtain ⟨n, hn⟩ : ∃ n : Nat, x.exponent = -n := ⟨x.exponent.natAbs, by omega⟩
    have hten : (10 : ℚ) ^ n = 2 ^ n * 5 ^ n := by
      rw [← mul_pow]
      norm_num
    simp only [Decimal.value, value, hn, neg_neg, Int.toNat_natCast, Nat.pow_eq, zpow_neg,
      zpow_natCast, hten]
    push_cast
    field_simp

/-- Every double's own value rounds to it. -/
theorem rounds_value (x : Binary) : x.Rounds x.value := by
  have hpow : (0 : ℚ) < 2 ^ x.exponent := by positivity
  have hlow : x.low < x.value := by
    refine mul_lt_mul_of_pos_right ?_ hpow
    split <;> linarith
  have hhigh : x.value < x.high := mul_lt_mul_of_pos_right (by linarith) hpow
  exact ⟨hlow.le, hhigh.le, fun h => h.elim (fun h => absurd h hlow.ne') fun h => absurd h hhigh.ne⟩

end Binary

theorem value_go (fuel : Nat) (d : Decimal) : (dropZeros.go fuel d).value = d.value := by
  induction fuel generalizing d with
  | zero => rfl
  | succ fuel ih =>
    rw [dropZeros.go]
    split
    · next h =>
      obtain ⟨n, hn⟩ := Nat.dvd_of_mod_eq_zero h.2
      rw [ih, value, value, hn, Nat.mul_div_cancel_left n (by decide), zpow_add_one₀ (by norm_num)]
      push_cast
      ring
    · rfl

theorem value_dropZeros (d : Decimal) : d.dropZeros.value = d.value :=
  value_go d.digits d

/-- The shortest decimal of a double is a number that the double stands for. -/
theorem Binary.rounds_shortest {x : Binary} (h : 0 < x.significand) (tie : Tie) :
    x.Rounds (x.shortest tie).value := by
  unfold shortest
  simp only [value_dropZeros]
  cases hfound : (List.range 17).findSome? fun (i : Nat) => x.onGrid? (x.magnitude - (i + 1)) tie with
  | none => exact value_exact x ▸ x.rounds_value
  | some d =>
    obtain ⟨i, -, hi⟩ := List.exists_of_findSome?_eq_some hfound
    exact (covers_iff h).1 (covers_of_onGrid? hi)

end RecordFilter.Decimal
