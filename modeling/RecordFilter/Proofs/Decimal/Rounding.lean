import Mathlib
import RecordFilter.Proofs.Decimal.Value

/-!
# Rounding to doubles

How the quotient of two numbers is rounded to a double: it is truncated to as many bits
as a double has, and what was cut off decides whether the last bit goes up. The result is
the double that stands for the exact quotient (`div_eq_of_rounds`).

Only doubles of full precision are considered that are larger than the least ones of
them (`Binary.IsNormal`).
-/

namespace RecordFilter.Decimal

open Float.Model (UnpackedFloat Format totalExponent)
open Float.Model.UnpackedFloat

/-! ## Truncated numbers -/

/-- Whether a part of a unit is as it was recorded when a number was truncated. -/
def IsRest (accuracy : Accuracy) (rest : ℚ) : Prop :=
  match accuracy with
  | .exact => rest = 0
  | .inexact .lt => 0 < rest ∧ rest < 1 / 2
  | .inexact .eq => rest = 1 / 2
  | .inexact .gt => 1 / 2 < rest ∧ rest < 1

/-- Whether a number is a mantissa and a part of a unit. -/
def Truncates (mantissa : Nat) (exponent : Int) (accuracy : Accuracy) (v : ℚ) : Prop :=
  ∃ rest, IsRest accuracy rest ∧ v = (mantissa + rest) * 2 ^ exponent

/-- What is left over is less than one unit of the last bit. -/
theorem IsRest.bounds {accuracy : Accuracy} {rest : ℚ} (h : IsRest accuracy rest) :
    0 ≤ rest ∧ rest < 1 := by
  unfold IsRest at h
  split at h <;> constructor <;> linarith

/-- A bit in front of a rest becomes the first bit of the rest. -/
theorem IsRest.cons {m n : Nat} {bit roundBit stickyBit : Bool} {rest : ℚ}
    (h : IsRest (ExtendedMantissa.mk m roundBit stickyBit).accuracy rest) :
    IsRest (ExtendedMantissa.mk n bit (roundBit || stickyBit)).accuracy ((bit.toNat + rest) / 2) := by
  -- The first two bits of a rest say on which side of a half it is, all others only whether it is
  -- exact.
  cases bit <;> cases roundBit <;> cases stickyBit <;>
    simp only [ExtendedMantissa.accuracy, IsRest, Bool.or_false, Bool.or_true, Bool.toNat_false,
      Bool.toNat_true, Nat.cast_zero, Nat.cast_one] at h ⊢ <;>
    first | linarith | (constructor <;> linarith)

/-- One more bit is cut off. -/
theorem Truncates.shiftRightOne {em : ExtendedMantissa} {exponent : Int} {v : ℚ}
    (h : Truncates em.mantissa exponent em.accuracy v) :
    Truncates em.shiftRightOne.mantissa (exponent + 1) em.shiftRightOne.accuracy v := by
  obtain ⟨rest, hrest, rfl⟩ := h
  have hbit : (em.mantissa % 2 != 0).toNat = em.mantissa % 2 := by
    rcases Nat.mod_two_eq_zero_or_one em.mantissa with h | h <;> rw [h] <;> rfl
  have hsplit : (em.mantissa : ℚ) = 2 * (em.mantissa / 2 : Nat) + (em.mantissa % 2 : Nat) := by
    exact_mod_cast (Nat.div_add_mod em.mantissa 2).symm
  refine ⟨_, hrest.cons, ?_⟩
  rw [zpow_add_one₀ two_ne_zero, hbit, hsplit]
  simp only [ExtendedMantissa.shiftRightOne]
  ring

/-- A shift to the right keeps the number that is cut off: the bits that are lost go into the
    accuracy. -/
theorem Truncates.shiftRight {em : ExtendedMantissa} {exponent : Int} {v : ℚ} (n : Nat)
    (h : Truncates em.mantissa exponent em.accuracy v) :
    Truncates (em >>> n).mantissa (exponent + n) (em >>> n).accuracy v := by
  induction n with
  | zero =>
    rw [Nat.cast_zero, add_zero]
    exact h
  | succ n ih =>
    have := ih.shiftRightOne
    rw [Nat.cast_succ, ← add_assoc]
    exact this

/-- A number that is cut at a larger exponent. -/
theorem Truncates.shiftToTargetExponent {mantissa : Nat} {exponent : Int} {accuracy : Accuracy}
    {v : ℚ} (h : Truncates mantissa exponent accuracy v)
    (he : exponent ≤ Format.binary64.targetExponent (totalExponent mantissa exponent)) :
    ∃ em, shiftToTargetExponent Format.binary64 mantissa exponent accuracy =
        (em, Format.binary64.targetExponent (totalExponent mantissa exponent)) ∧
      Truncates em.mantissa (Format.binary64.targetExponent (totalExponent mantissa exponent))
        em.accuracy v := by
  generalize htarget : Format.binary64.targetExponent (totalExponent mantissa exponent) = target at he ⊢
  have hshift : exponent + (target - exponent).toNat = target := by omega
  have hstart : Truncates (ExtendedMantissa.ofMantissaAndAccuracy mantissa accuracy).mantissa exponent
      (ExtendedMantissa.ofMantissaAndAccuracy mantissa accuracy).accuracy v := by
    unfold ExtendedMantissa.ofMantissaAndAccuracy
    split <;> exact h
  refine ⟨_, ?_, hshift ▸ hstart.shiftRight (target - exponent).toNat⟩
  rw [Float.Model.UnpackedFloat.shiftToTargetExponent, htarget, shiftToExponent, hshift]

/-- The number that is nearest to a truncated one is what it is rounded to. -/
theorem roundToNearestEven_eq {accuracy : Accuracy} {rest : ℚ} {m n : Nat}
    (h : IsRest accuracy rest) (hlow : (n : ℚ) - 1 / 2 ≤ m + rest) (hhigh : m + rest ≤ (n : ℚ) + 1 / 2)
    (heven : (m : ℚ) + rest = n - 1 / 2 ∨ (m : ℚ) + rest = n + 1 / 2 → n % 2 = 0) :
    accuracy.roundToNearestEven m = n := by
  obtain ⟨hnonneg, hlt⟩ := h.bounds
  have hle : n ≤ m + 1 := by
    have : (n : ℚ) < m + 2 := by linarith
    have : n < m + 2 := by exact_mod_cast this
    omega
  have hge : m ≤ n := by
    have : (m : ℚ) < n + 1 := by linarith
    have : m < n + 1 := by exact_mod_cast this
    omega
  unfold IsRest at h
  -- The mantissa is the number itself or the one below it, which decides the direction.
  rcases Nat.le_iff_lt_or_eq.1 hle with hn | rfl
  · obtain rfl : n = m := by omega
    split at h
    · rfl
    · rfl
    · have := heven (.inr (by linarith))
      simp only [Accuracy.roundToNearestEven]
      omega
    · linarith
  · push_cast at hlow hhigh heven
    split at h
    · linarith
    · linarith
    · have := heven (.inl (by linarith))
      simp only [Accuracy.roundToNearestEven]
      omega
    · rfl

/-- Where the first bit of a truncated number is. -/
theorem Truncates.bounds {mantissa : Nat} {exponent : Int} {accuracy : Accuracy} {v : ℚ}
    (h : Truncates mantissa exponent accuracy v) (hpos : 0 < mantissa) :
    2 ^ (totalExponent mantissa exponent - 1) ≤ v ∧ v < 2 ^ totalExponent mantissa exponent := by
  obtain ⟨rest, hrest, rfl⟩ := h
  obtain ⟨hnonneg, hlt⟩ := hrest.bounds
  have hpow : (0 : ℚ) < 2 ^ exponent := by positivity
  have hlow : (2 : ℚ) ^ mantissa.log2 ≤ mantissa := by exact_mod_cast Nat.log2_self_le hpos.ne'
  have hhigh : (mantissa : ℚ) + 1 ≤ 2 ^ (mantissa.log2 + 1) := by exact_mod_cast Nat.lt_log2_self
  constructor
  · rw [totalExponent, show (mantissa.log2 : ℤ) + 1 + exponent - 1 = mantissa.log2 + exponent by omega,
      zpow_add₀ two_ne_zero, zpow_natCast]
    exact mul_le_mul_of_nonneg_right (by linarith) hpow.le
  · rw [totalExponent, zpow_add₀ two_ne_zero, ← Nat.cast_succ, zpow_natCast, Nat.succ_eq_add_one]
    exact mul_lt_mul_of_pos_right (by linarith) hpow

theorem lt_of_two_zpow_lt {i j : Int} {v : ℚ} (hi : 2 ^ i ≤ v) (hj : v < 2 ^ j) : i < j :=
  (zpow_lt_zpow_iff_right₀ one_lt_two).1 (hi.trans_lt hj)

/-- The exponent that the rounding aims at is the one of the power of two above the value. -/
theorem totalExponent_eq {mantissa : Nat} {exponent : Int} {accuracy : Accuracy} {v : ℚ} {k : Int}
    (h : Truncates mantissa exponent accuracy v) (hpos : 0 < mantissa) (hlow : 2 ^ (k - 1) ≤ v)
    (hhigh : v < 2 ^ k) : totalExponent mantissa exponent = k := by
  obtain ⟨hbelow, habove⟩ := h.bounds hpos
  have := lt_of_two_zpow_lt hbelow hhigh
  have := lt_of_two_zpow_lt hlow habove
  omega

/-! ## Rounded numbers -/

/-- Whether a double has all bits of a double and there is a smaller one that has. -/
structure Binary.IsNormal (x : Binary) : Prop where
  le_significand : 2 ^ 52 ≤ x.significand
  significand_lt : x.significand < 2 ^ 53
  lt_exponent : -1074 < x.exponent
  exponent_le : x.exponent ≤ 971
  narrow : x.narrowBelow = true ↔ x.significand = 2 ^ 52

namespace Binary.IsNormal

variable {x : Binary}

theorem pos (h : x.IsNormal) : 0 < x.significand :=
  lt_of_lt_of_le (by decide) h.le_significand

theorem log2_significand (h : x.IsNormal) : x.significand.log2 = 52 :=
  (Nat.log2_eq_iff h.pos.ne').2 ⟨h.le_significand, h.significand_lt⟩

end Binary.IsNormal

/-- The exponent of a double whose first bit is at a position. -/
theorem targetExponent_eq (k : Int) : Format.binary64.targetExponent k = max (k - 53) (-1074) :=
  rfl

/-- What is left to do when the last bit is settled: a carry can make one bit too many. -/
theorem roundWithAccuracy_of_shift {mantissa : Nat} {exponent target : Int} {accuracy : Accuracy}
    {em : ExtendedMantissa} {n k : Nat} {s : Sign} (hk : 0 < k)
    (h : shiftToTargetExponent Format.binary64 mantissa exponent accuracy = (em, target))
    (hn : Format.binary64.targetExponent (totalExponent em.roundedMantissa target) = target + n)
    (hm : (ExtendedMantissa.mk em.roundedMantissa false false >>> n).mantissa = k) :
    roundWithAccuracy Format.binary64 s mantissa exponent accuracy =
      .finite s k (target + n) hk := by
  have hshift : shiftToTargetExponent Format.binary64 em.roundedMantissa target .exact =
      (ExtendedMantissa.mk em.roundedMantissa false false >>> n, target + n) := by
    simp only [Float.Model.UnpackedFloat.shiftToTargetExponent, hn, shiftToExponent,
      add_sub_cancel_left, Int.toNat_natCast, ExtendedMantissa.ofMantissaAndAccuracy]
  subst hm
  simp only [roundWithAccuracy, h, hshift]
  rw [dif_neg hk.ne']

/-- No number that such a double stands for is tiny. -/
theorem Binary.Rounds.two_zpow_le {x : Binary} (hx : x.IsNormal) {v : ℚ} (hv : x.Rounds v) :
    2 ^ (-1022 : ℤ) ≤ v := by
  have hpow : (0 : ℚ) < 2 ^ x.exponent := by positivity
  have hle : (2 : ℚ) ^ 52 ≤ x.significand := by exact_mod_cast hx.le_significand
  have hexponent : (2 : ℚ) ^ (-1073 : ℤ) ≤ 2 ^ x.exponent :=
    zpow_le_zpow_right₀ one_le_two (by have := hx.lt_exponent; omega)
  calc (2 : ℚ) ^ (-1022 : ℤ) = 2 ^ 51 * 2 ^ (-1073 : ℤ) := by
        rw [show (-1022 : ℤ) = 51 + -1073 by rfl, zpow_add₀ two_ne_zero, zpow_ofNat]
    _ ≤ 2 ^ 51 * 2 ^ x.exponent := mul_le_mul_of_nonneg_left hexponent (by positivity)
    _ ≤ x.low := by
        refine mul_le_mul_of_nonneg_right ?_ hpow.le
        split <;> linarith
    _ ≤ v := hv.low_le

section Round

variable {x : Binary} {mantissa : Nat} {exponent : Int} {accuracy : Accuracy} {v : ℚ}

/-- The first bit of the number is where the first bit of the double is. -/
theorem roundWithAccuracy_of_le (hx : x.IsNormal) (h : Truncates mantissa exponent accuracy v)
    (hv : x.Rounds v) (hpos : 0 < mantissa)
    (he : exponent ≤ Format.binary64.targetExponent (totalExponent mantissa exponent)) (s : Sign)
    (hfirst : (2 : ℚ) ^ (x.exponent + 52) ≤ v) :
    roundWithAccuracy Format.binary64 s mantissa exponent accuracy =
      .finite s x.significand x.exponent hx.pos := by
  have hexponent := hx.lt_exponent
  have hpow : (0 : ℚ) < 2 ^ x.exponent := by positivity
  have hbelow : v < 2 ^ (x.exponent + 53) := by
    have hlt : (x.significand : ℚ) + 1 ≤ 2 ^ 53 := by exact_mod_cast hx.significand_lt
    refine hv.le_high.trans_lt ?_
    rw [zpow_add₀ two_ne_zero, zpow_ofNat, mul_comm]
    exact mul_lt_mul_of_pos_right (by linarith) hpow
  have htotal : totalExponent mantissa exponent = x.exponent + 53 :=
    totalExponent_eq h hpos (by rwa [show x.exponent + 53 - 1 = x.exponent + 52 by omega]) hbelow
  have htarget : max (x.exponent + 53 - 53) (-1074) = x.exponent + (0 : Nat) := by omega
  obtain ⟨em, hshift, hem⟩ := h.shiftToTargetExponent he
  rw [htotal, targetExponent_eq, htarget, Nat.cast_zero, add_zero] at hshift hem
  obtain ⟨rest, hrest, rfl⟩ := hem
  -- Both ends of the interval of `x` are at most half a unit away from it, so the nearest mantissa
  -- is that of `x`.
  have hhalf : (x.significand - 1 / 2 : ℚ) * 2 ^ x.exponent ≤ x.low := by
    refine mul_le_mul_of_nonneg_right ?_ hpow.le
    split <;> linarith
  have hrounded : em.roundedMantissa = x.significand := by
    refine roundToNearestEven_eq hrest ?_ ?_ ?_
    · exact le_of_mul_le_mul_right (hhalf.trans hv.low_le) hpow
    · exact le_of_mul_le_mul_right hv.le_high hpow
    · rintro (heq | heq)
      · refine hv.even (.inl (le_antisymm ?_ hv.low_le))
        rw [heq]
        exact hhalf
      · exact hv.even (.inr (by rw [heq, Binary.high]))
  refine (roundWithAccuracy_of_shift (n := 0) hx.pos hshift ?_ hrounded).trans ?_
  · rw [hrounded, totalExponent, hx.log2_significand, targetExponent_eq, ← htarget]
    congr 1
    omega
  · simp

/-- The first bit of the number is one place behind that of the double. Then the double is
    a power of two, and it is reached by a carry. -/
theorem roundWithAccuracy_of_lt (hx : x.IsNormal) (h : Truncates mantissa exponent accuracy v)
    (hv : x.Rounds v) (hpos : 0 < mantissa)
    (he : exponent ≤ Format.binary64.targetExponent (totalExponent mantissa exponent)) (s : Sign)
    (hfirst : v < (2 : ℚ) ^ (x.exponent + 52)) :
    roundWithAccuracy Format.binary64 s mantissa exponent accuracy =
      .finite s x.significand x.exponent hx.pos := by
  have hexponent := hx.lt_exponent
  have hpow : (0 : ℚ) < 2 ^ x.exponent := by positivity
  have hpow' : (0 : ℚ) < 2 ^ (x.exponent - 1) := by positivity
  -- All but the least significand is reached from the position of its own first bit.
  have hleast : x.significand = 2 ^ 52 := by
    by_contra hne
    have hlt : 2 ^ 52 + 1 ≤ x.significand := lt_of_le_of_ne hx.le_significand (Ne.symm hne)
    have hlt : (2 : ℚ) ^ 52 + 1 ≤ x.significand := by exact_mod_cast hlt
    refine hfirst.not_ge (le_trans ?_ hv.low_le)
    rw [zpow_add₀ two_ne_zero, zpow_ofNat, mul_comm]
    refine mul_le_mul_of_nonneg_right ?_ hpow.le
    split <;> linarith
  have hlow : (2 ^ 53 - 1 / 2) * 2 ^ (x.exponent - 1) ≤ v := by
    have := hv.low_le
    rw [Binary.low, if_pos (hx.narrow.2 hleast), hleast] at this
    rw [zpow_sub_one₀ two_ne_zero]
    push_cast at this
    linarith
  have hhigh : v < 2 ^ 53 * 2 ^ (x.exponent - 1) := by
    rw [zpow_add₀ two_ne_zero, zpow_ofNat] at hfirst
    rw [zpow_sub_one₀ two_ne_zero]
    linarith
  have htotal : totalExponent mantissa exponent = x.exponent + 52 := by
    refine totalExponent_eq h hpos ?_ hfirst
    rw [show x.exponent + 52 - 1 = x.exponent - 1 + 52 by omega, zpow_add₀ two_ne_zero, zpow_ofNat,
      mul_comm]
    refine le_trans (mul_le_mul_of_nonneg_right ?_ hpow'.le) hlow
    norm_num
  have htarget : max (x.exponent + 52 - 53) (-1074) = x.exponent - 1 := by omega
  obtain ⟨em, hshift, hem⟩ := h.shiftToTargetExponent he
  rw [htotal, targetExponent_eq, htarget] at hshift hem
  obtain ⟨rest, hrest, rfl⟩ := hem
  -- Below a power of two doubles are twice as dense, so 53 bits are kept, all of them set.
  have hrounded : em.roundedMantissa = 2 ^ 53 := by
    have hbelow := le_of_mul_le_mul_right hlow hpow'
    have habove := lt_of_mul_lt_mul_right hhigh hpow'.le
    refine roundToNearestEven_eq hrest ?_ ?_ fun _ => by decide
    · push_cast
      exact hbelow
    · push_cast
      linarith
  have htarget' : Format.binary64.targetExponent (totalExponent em.roundedMantissa (x.exponent - 1)) =
      x.exponent - 1 + (1 : Nat) := by
    rw [hrounded, totalExponent, Nat.log2_two_pow, targetExponent_eq]
    omega
  refine (roundWithAccuracy_of_shift (n := 1) hx.pos hshift htarget' ?_).trans ?_
  · rw [hrounded, hleast]
    rfl
  · simp

/-- A number is rounded to the double that stands for it. -/
theorem roundWithAccuracy_eq (hx : x.IsNormal) (h : Truncates mantissa exponent accuracy v)
    (hv : x.Rounds v) (hpos : 0 < mantissa)
    (he : exponent ≤ Format.binary64.targetExponent (totalExponent mantissa exponent)) (s : Sign) :
    roundWithAccuracy Format.binary64 s mantissa exponent accuracy =
      .finite s x.significand x.exponent hx.pos :=
  (le_or_gt (2 ^ (x.exponent + 52)) v).elim (roundWithAccuracy_of_le hx h hv hpos he s)
    (roundWithAccuracy_of_lt hx h hv hpos he s)

end Round

/-! ## Quotients -/

/-- A remainder of a division is classified as the fraction that it is. -/
theorem isRest_accuracyOfFraction {a b : Nat} (h : a < b) :
    IsRest (accuracyOfFraction a b) ((a : ℚ) / b) := by
  have hpos : (0 : ℚ) < b := by exact_mod_cast Nat.zero_lt_of_lt h
  have hlt : (a : ℚ) / b < 1 := (div_lt_one hpos).2 (by exact_mod_cast h)
  unfold accuracyOfFraction
  split
  · next hzero =>
    rw [hzero, Nat.cast_zero, zero_div]
    rfl
  · next hne =>
    have ha : (0 : ℚ) < a / b := div_pos (by exact_mod_cast Nat.pos_of_ne_zero hne) hpos
    rcases lt_trichotomy (2 * a) b with hab | hab | hab
    · rw [Nat.compare_eq_lt.2 hab]
      have : (2 * a : ℚ) < b := by exact_mod_cast hab
      exact ⟨ha, (div_lt_iff₀ hpos).2 (by linarith)⟩
    · rw [Nat.compare_eq_eq.2 hab]
      have : (2 * a : ℚ) = b := by exact_mod_cast hab
      exact (div_eq_iff hpos.ne').2 (by linarith)
    · rw [Nat.compare_eq_gt.2 hab]
      have : (b : ℚ) < 2 * a := by exact_mod_cast hab
      exact ⟨(lt_div_iff₀ hpos).2 (by linarith), hlt⟩

/-- The exponent down to which a quotient is computed. -/
def quotientExponent (m₁ : Nat) (e₁ : Int) (m₂ : Nat) (e₂ : Int) : Int :=
  min (e₁ - e₂) (max (totalExponent m₁ e₁ - totalExponent m₂ e₂ - 53) (-1074))

/-- A quotient is computed to some bit and the rest is cut off. -/
theorem divCore_truncates (m₁ : Nat) {m₂ : Nat} (e₁ e₂ : Int) (h₂ : 0 < m₂) : ∃ m accuracy,
    divCore Format.binary64 m₁ e₁ m₂ e₂ = (m, quotientExponent m₁ e₁ m₂ e₂, accuracy) ∧
      Truncates m (quotientExponent m₁ e₁ m₂ e₂) accuracy (m₁ * 2 ^ e₁ / (m₂ * 2 ^ e₂)) := by
  obtain ⟨n, hn⟩ : ∃ n : Nat, e₁ - e₂ - quotientExponent m₁ e₁ m₂ e₂ = n := by
    refine Int.eq_ofNat_of_zero_le ?_
    unfold quotientExponent
    omega
  refine ⟨m₁ <<< n / m₂, accuracyOfFraction (m₁ <<< n % m₂) m₂, ?_,
    _, isRest_accuracyOfFraction (Nat.mod_lt _ h₂), ?_⟩
  · have hn' : (e₁ - e₂ - quotientExponent m₁ e₁ m₂ e₂).toNat = n := by omega
    rw [← hn']
    rfl
  · have hpos : (m₂ : ℚ) ≠ 0 := by exact_mod_cast h₂.ne'
    have hsplit : ((m₁ <<< n : Nat) : ℚ) = (m₁ <<< n / m₂ : Nat) * m₂ + (m₁ <<< n % m₂ : Nat) := by
      exact_mod_cast (Nat.div_add_mod' (m₁ <<< n) m₂).symm
    -- The dividend is shifted by `n` bits before it is divided, which the exponent takes back.
    have hexponent : e₁ = e₂ + n + quotientExponent m₁ e₁ m₂ e₂ := by omega
    calc (m₁ * 2 ^ e₁ / (m₂ * 2 ^ e₂) : ℚ)
        = (m₁ <<< n : Nat) / m₂ * 2 ^ quotientExponent m₁ e₁ m₂ e₂ := by
          conv_lhs => rw [hexponent]
          rw [zpow_add₀ two_ne_zero, zpow_add₀ two_ne_zero, zpow_natCast, Nat.shiftLeft_eq]
          push_cast
          field_simp
      _ = _ := by
          rw [hsplit]
          field_simp

theorem exact_truncates (m : Nat) (e : Int) : Truncates m e .exact (m * 2 ^ e) :=
  ⟨0, rfl, by rw [add_zero]⟩

/-- How large a quotient is, by the first bits of the two numbers. -/
theorem quotient_bounds {m₁ m₂ : Nat} (e₁ e₂ : Int) (h₁ : 0 < m₁) (h₂ : 0 < m₂) :
    2 ^ (totalExponent m₁ e₁ - totalExponent m₂ e₂ - 1) ≤ (m₁ * 2 ^ e₁ / (m₂ * 2 ^ e₂) : ℚ) ∧
      (m₁ * 2 ^ e₁ / (m₂ * 2 ^ e₂) : ℚ) < 2 ^ (totalExponent m₁ e₁ - totalExponent m₂ e₂ + 1) := by
  obtain ⟨hlow₁, hhigh₁⟩ := (exact_truncates m₁ e₁).bounds h₁
  obtain ⟨hlow₂, hhigh₂⟩ := (exact_truncates m₂ e₂).bounds h₂
  have hpos : (0 : ℚ) < m₂ * 2 ^ e₂ := by positivity
  constructor
  · rw [le_div_iff₀ hpos]
    refine le_trans (mul_le_mul_of_nonneg_left hhigh₂.le (by positivity)) (le_trans (le_of_eq ?_) hlow₁)
    rw [← zpow_add₀ two_ne_zero]
    congr 1
    omega
  · rw [div_lt_iff₀ hpos]
    refine hhigh₁.trans_le (le_trans (le_of_eq ?_) (mul_le_mul_of_nonneg_left hlow₂ (by positivity)))
    rw [← zpow_add₀ two_ne_zero]
    congr 1
    omega

/-- The quotient of two numbers is rounded to the double that stands for it. -/
theorem div_eq_of_rounds {x : Binary} (hx : x.IsNormal) {m₁ m₂ : Nat} {e₁ e₂ : Int} (h₁ : 0 < m₁)
    (h₂ : 0 < m₂) (hv : x.Rounds (m₁ * 2 ^ e₁ / (m₂ * 2 ^ e₂))) (s₁ s₂ : Sign) :
    div Format.binary64 (.finite s₁ m₁ e₁ h₁) (.finite s₂ m₂ e₂ h₂) =
      .finite (s₁ / s₂) x.significand x.exponent hx.pos := by
  obtain ⟨m, accuracy, hcore, hm⟩ := divCore_truncates m₁ e₁ e₂ h₂
  obtain ⟨hlow, hhigh⟩ := quotient_bounds e₁ e₂ h₁ h₂
  generalize hposition : totalExponent m₁ e₁ - totalExponent m₂ e₂ = position at hlow hhigh
  have hleast := lt_of_two_zpow_lt (hv.two_zpow_le hx) hhigh
  have hexponent : quotientExponent m₁ e₁ m₂ e₂ ≤ max (position - 53) (-1074) := by
    rw [quotientExponent, hposition]
    exact min_le_right _ _
  generalize quotientExponent m₁ e₁ m₂ e₂ = exponent at hcore hm hexponent
  -- The quotient is computed to 52 bits at least, so its mantissa is not zero.
  have hpos : 0 < m := by
    obtain ⟨rest, hrest, hvalue⟩ := hm
    rw [hvalue] at hlow
    have hpow : (2 : ℚ) ^ exponent ≤ 2 ^ (position - 1) :=
      zpow_le_zpow_right₀ one_le_two (by omega)
    by_contra hzero
    obtain rfl : m = 0 := by omega
    have : (2 : ℚ) ^ exponent ≤ (0 + rest) * 2 ^ exponent := by
      simpa using hpow.trans hlow
    have hpositive : (0 : ℚ) < 2 ^ exponent := by positivity
    have := le_of_mul_le_mul_right ((one_mul _).trans_le this) hpositive
    linarith [hrest.bounds.2]
  have htotal := lt_of_two_zpow_lt hlow (hm.bounds hpos).2
  have he : exponent ≤ Format.binary64.targetExponent (totalExponent m exponent) := by
    rw [targetExponent_eq]
    omega
  simp only [div, hcore]
  exact roundWithAccuracy_eq hx hm hv hpos he _

end RecordFilter.Decimal
