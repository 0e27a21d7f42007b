import RecordFilter.Proofs.Decimal.Rounding
import RecordFilter.Proofs.Text.Digits
import RecordFilter.Decimal.Reading

/-!
# Decimals as doubles

A decimal is read as the double that stands for it, whichever of the two ways of computing
it is taken (`toFloat_eq_of_rounds`). Small digits are divided by a power of ten that is
itself a double, all others exactly.
-/

namespace RecordFilter.Decimal

open Float.Model (UnpackedFloat Format totalExponent)
open Float.Model.UnpackedFloat

/-! ## Doubles as bits -/

/-- A normal number is packed into its exponent and the mantissa without its first bit. -/
theorem pack_finite {m : Nat} {e : Int} (s : Sign) (h : 0 < m) (hlow : 2 ^ 52 ≤ m)
    (hhigh : m < 2 ^ 53) (he : e ≤ 971) :
    pack Format.binary64 (.finite s m e h) =
      packComponents Format.binary64 s (BitVec.ofNat 11 (e + 1075).toNat) (BitVec.ofNat 52 m) := by
  have hlog : m.log2 = 52 := (Nat.log2_eq_iff h.ne').2 ⟨hlow, hhigh⟩
  have hbias : (e + Format.binary64.exponentBias + Format.binary64.mantissaBitsWithoutImplicit).toNat =
      (e + 1075).toNat := by
    rw [add_assoc]
    rfl
  unfold pack
  simp only [hlog, hbias]
  rw [if_neg (by omega), if_pos (by rfl)]

theorem toNat_mantissa {m : Nat} (hlow : 2 ^ 52 ≤ m) (hhigh : m < 2 ^ 53) :
    (1#1 ++ BitVec.ofNat 52 m).toNat = m := by
  rw [BitVec.toNat_append, ← Nat.shiftLeft_add_eq_or_of_lt (BitVec.isLt _), BitVec.toNat_ofNat]
  change 2 ^ 52 + m % 2 ^ 52 = m
  omega

/-- A double with all its bits is unpacked as it was packed. -/
theorem unpack_pack {m : Nat} {e : Int} (s : Sign) (h : 0 < m) (hlow : 2 ^ 52 ≤ m)
    (hhigh : m < 2 ^ 53) (he : -1074 ≤ e) (he' : e ≤ 971) :
    (Float.Model.pack (.finite s m e h)).unpack = .finite s m e h := by
  change unpack Format.binary64 (pack Format.binary64 (.finite s m e h)) = _
  have hexponent : (BitVec.ofNat 11 (e + 1075).toNat).toNat = (e + 1075).toNat := by
    rw [BitVec.toNat_ofNat, Nat.mod_eq_of_lt (by omega)]
  -- The exponent is neither that of infinities nor that of tiny numbers, both of which are unpacked
  -- in their own way.
  have hne {b : BitVec 11} (hb : (e + 1075).toNat ≠ b.toNat) :
      BitVec.ofNat 11 (e + 1075).toNat ≠ b := by
    rintro rfl
    exact hb hexponent.symm
  rw [pack_finite s h hlow hhigh he']
  unfold unpack
  simp only [unpackMantissa_packComponents, unpackExponent_packComponents, unpackSign_packComponents]
  rw [if_neg (hne (by change _ ≠ 2047; omega)), if_neg (hne (by change _ ≠ 0; omega))]
  simp only [toNat_mantissa hlow hhigh, hexponent, Sign.ofBitVec_toBitVec]
  congr 1
  change ((e + 1075).toNat : Int) - 1075 = e
  omega

/-! ## Whole numbers -/

/-- The double that is a whole number, by its bits. -/
def ofNatBinary (n : Nat) : Binary :=
  ⟨n <<< (52 - n.log2), n.log2 - 52, n <<< (52 - n.log2) == 2 ^ 52⟩

section OfNat

variable {n : Nat}

theorem isNormal_ofNatBinary (hpos : 0 < n) (hn : n < 2 ^ 53) : (ofNatBinary n).IsNormal := by
  have hlog : n.log2 < 53 := (Nat.log2_lt hpos.ne').2 hn
  have hpow : 2 ^ n.log2 * 2 ^ (52 - n.log2) = 2 ^ 52 := by
    rw [← pow_add]
    congr 1
    omega
  have hshift : (ofNatBinary n).significand = n * 2 ^ (52 - n.log2) := Nat.shiftLeft_eq _ _
  refine ⟨?_, ?_, ?_, ?_, ?_⟩
  · rw [hshift, ← hpow]
    exact Nat.mul_le_mul_right _ (Nat.log2_self_le hpos.ne')
  · rw [hshift, show 2 ^ 53 = 2 * (2 ^ n.log2 * 2 ^ (52 - n.log2)) by rw [hpow]; rfl, ← mul_assoc,
      ← pow_succ']
    exact Nat.mul_lt_mul_of_pos_right Nat.lt_log2_self (by positivity)
  · change -1074 < (n.log2 : ℤ) - 52
    omega
  · change (n.log2 : ℤ) - 52 ≤ 971
    omega
  · exact beq_iff_eq

/-- A whole number of at most 53 bits is a double as it is. -/
theorem value_ofNatBinary (hn : n.log2 ≤ 52) : (ofNatBinary n).value = n := by
  change ((n <<< (52 - n.log2) : Nat) : ℚ) * 2 ^ ((n.log2 : ℤ) - 52) = n
  rw [Nat.shiftLeft_eq, show (n.log2 : ℤ) - 52 = -((52 - n.log2 : Nat) : ℤ) by omega, zpow_neg,
    zpow_natCast]
  push_cast
  field_simp

/-- A whole number that a double holds is the double with its first bits. -/
theorem unpack_toFloat (hpos : 0 < n) (hn : n < 2 ^ 53) : n.toUInt64.toFloat.toModel.unpack =
    .finite .positive (ofNatBinary n).significand (ofNatBinary n).exponent
      (isNormal_ofNatBinary hpos hn).pos := by
  have hnormal := isNormal_ofNatBinary hpos hn
  have hlog : n.log2 < 53 := (Nat.log2_lt hpos.ne').2 hn
  -- A whole number of 53 bits is rounded to itself: all its bits are kept.
  have hround : UnpackedFloat.ofNat Format.binary64 n =
      .finite .positive (ofNatBinary n).significand (ofNatBinary n).exponent hnormal.pos := by
    have hcompare : compare (n : ℤ) 0 = .gt := Int.compare_eq_gt.2 (by omega)
    have htarget : Format.binary64.targetExponent (totalExponent n 0) = (n.log2 : ℤ) - 52 := by
      rw [targetExponent_eq, totalExponent]
      omega
    have hshift : (0 - ((n.log2 : ℤ) - 52)).toNat = 52 - n.log2 := by omega
    have hexponent : (0 : ℤ) - (52 - n.log2 : Nat) = n.log2 - 52 := by omega
    simp only [UnpackedFloat.ofNat, UnpackedFloat.ofInt, UnpackedFloat.normalize, hcompare,
      UnpackedFloat.round, Int.toNat_natCast, htarget, decreaseExponent, hshift, hexponent]
    refine roundWithAccuracy_eq hnormal (exact_truncates _ _) (Binary.rounds_value _) hnormal.pos ?_ _
    rw [totalExponent, hnormal.log2_significand, targetExponent_eq]
    omega
  have hmodel : n.toUInt64.toFloat.toModel = Float.Model.pack (UnpackedFloat.ofNat Format.binary64 n) := by
    have : n.toUInt64.toNat = n := Nat.mod_eq_of_lt (by omega)
    conv_rhs => rw [← this]
    rfl
  rw [hmodel, hround]
  exact unpack_pack _ _ hnormal.le_significand hnormal.significand_lt hnormal.lt_exponent.le
    hnormal.exponent_le

end OfNat

/-! ## Powers of ten -/

/-- Whether a double is a power of ten. Such powers are multiples of `2 ^ -52`. -/
def isPowerOfTen (u : UnpackedFloat) (k : Nat) : Bool :=
  match u with
  | .finite .positive m e _ => -52 ≤ e && m * 2 ^ (e + 52).toNat == 10 ^ k * 2 ^ 52
  | _ => false

/-- Each entry of the table is the power of ten that it is listed for. -/
theorem isPowerOfTen_table (k : Fin 23) :
    isPowerOfTen Float.exactlyRepresentablePowersOfTen[k].toModel.unpack k := by
  decide +kernel +revert

theorem exists_of_isPowerOfTen {u : UnpackedFloat} {k : Nat} (h : isPowerOfTen u k) :
    ∃ (m : Nat) (e : Int) (hpos : 0 < m),
      u = .finite .positive m e hpos ∧ (m * 2 ^ e : ℚ) = 10 ^ k := by
  unfold isPowerOfTen at h
  split at h
  · next m e hpos =>
    rw [Bool.and_eq_true, decide_eq_true_iff, beq_iff_eq] at h
    refine ⟨m, e, hpos, rfl, ?_⟩
    have hvalue : (m * 2 ^ (e + 52).toNat : ℚ) = 10 ^ k * 2 ^ 52 := by exact_mod_cast h.2
    rw [← zpow_natCast, Int.toNat_of_nonneg (by omega), zpow_add₀ two_ne_zero, zpow_ofNat,
      ← mul_assoc] at hvalue
    exact mul_right_cancel₀ (by positivity) hvalue
  · cases h

/-! ## Decimals -/

section Scientific

variable {x : Binary} {m k : Nat}

/-- Small digits and a small power of ten are both doubles, and are divided as such. -/
theorem toFloat_div (hx : x.IsNormal) (hpos : 0 < m) (hm : m < 2 ^ 53) (hk : k < 23)
    (hv : x.Rounds (m / 10 ^ k)) :
    m.toUInt64.toFloat / Float.exactlyRepresentablePowersOfTen[k] =
      .ofModel (.pack (.finite .positive x.significand x.exponent hx.pos)) := by
  obtain ⟨m₂, e₂, hpos₂, hpower, hten⟩ := exists_of_isPowerOfTen (isPowerOfTen_table ⟨k, hk⟩)
  have hlog : m.log2 < 53 := (Nat.log2_lt hpos.ne').2 hm
  have hvalue : x.Rounds ((ofNatBinary m).significand * 2 ^ (ofNatBinary m).exponent / (m₂ * 2 ^ e₂)) := by
    rw [hten, ← Binary.value, value_ofNatBinary (by omega)]
    exact hv
  have hdiv := div_eq_of_rounds hx (isNormal_ofNatBinary hpos hm).pos hpos₂ hvalue .positive .positive
  rw [← unpack_toFloat hpos hm, ← hpower] at hdiv
  exact congrArg (fun u => Float.ofModel (.pack u)) hdiv

/-- All other digits are divided as whole numbers. -/
theorem ofScientific_div (hx : x.IsNormal) (hpos : 0 < m) (hk : 0 < k)
    (hv : x.Rounds (m / 10 ^ k)) :
    UnpackedFloat.ofScientific Format.binary64 m (-k) =
      .finite .positive x.significand x.exponent hx.pos := by
  -- The quotient is not so small that it is taken for zero.
  have hlarge : ¬(-k : ℤ) < -(2 ^ 11 + m.log2) := by
    intro hsmall
    have hlow := hv.two_zpow_le hx
    have hhigh : (m / 10 ^ k : ℚ) < 2 ^ ((m.log2 : ℤ) + 1 - k) := by
      rw [zpow_sub₀ two_ne_zero, ← Nat.cast_succ, zpow_natCast, zpow_natCast]
      have hm : (m : ℚ) < 2 ^ (m.log2 + 1) := by exact_mod_cast Nat.lt_log2_self
      have hten : (2 : ℚ) ^ k ≤ 10 ^ k := pow_le_pow_left₀ (by norm_num) (by norm_num) k
      calc (m / 10 ^ k : ℚ) ≤ m / 2 ^ k := div_le_div_of_nonneg_left (by positivity) (by positivity) hten
        _ < _ := div_lt_div_of_pos_right hm (by positivity)
    have := lt_of_two_zpow_lt hlow hhigh
    omega
  have hten : (10 : ℚ) ^ k = (10 ^ k : Nat) * 2 ^ (0 : ℤ) := by
    push_cast
    ring
  have hm : (m : ℚ) = m * 2 ^ (0 : ℤ) := by ring
  rw [hm, hten] at hv
  unfold UnpackedFloat.ofScientific
  rw [dif_neg hpos.ne', if_neg (by change ¬-(k : ℤ) > 2 ^ 11; omega), if_neg hlarge, if_neg (by omega)]
  simp only [neg_neg, Int.toNat_natCast]
  exact div_eq_of_rounds hx hpos (by positivity) hv .positive .positive

end Scientific

/-- The position of the first digit of a decimal. -/
def leading (d : Decimal) : Int :=
  (Text.digits d.digits).length + d.exponent

/-- A decimal other than zero lies between the powers of ten on both sides of its leading digit. -/
theorem value_bounds {d : Decimal} (hpos : 0 < d.digits) :
    10 ^ (d.leading - 1) ≤ d.value ∧ d.value < 10 ^ d.leading := by
  have hpow : (0 : ℚ) < 10 ^ d.exponent := by positivity
  obtain ⟨n, hn⟩ : ∃ n, (Text.digits d.digits).length = n + 1 :=
    Nat.exists_eq_succ_of_ne_zero (List.length_pos_iff.2 (Text.digits_ne_nil _)).ne'
  have hhigh : d.digits < 10 ^ (n + 1) :=
    (Nat.length_toDigits_le_iff (by decide) (by omega)).1 hn.le
  -- With one digit less it would be below this power.
  have hlow : 10 ^ n ≤ d.digits := by
    by_contra hlt
    rcases Nat.eq_zero_or_pos n with rfl | hn'
    · omega
    · have : (Nat.toDigits 10 d.digits).length ≤ n :=
        (Nat.length_toDigits_le_iff (by decide) hn').2 (by omega)
      change (Nat.toDigits 10 d.digits).length = n + 1 at hn
      omega
  rw [leading, hn, value]
  constructor
  · rw [show ((n + 1 : Nat) : ℤ) + d.exponent - 1 = n + d.exponent by omega,
      zpow_add₀ (by norm_num), zpow_natCast]
    exact mul_le_mul_of_nonneg_right (by exact_mod_cast hlow) hpow.le
  · rw [zpow_add₀ (by norm_num), zpow_natCast]
    exact mul_lt_mul_of_pos_right (by exact_mod_cast hhigh) hpow

/-- What rounds to a normal double lies below the first power of two that is no double. -/
theorem Binary.Rounds.lt_two_zpow {x : Binary} (hx : x.IsNormal) {v : ℚ} (hv : x.Rounds v) :
    v < 2 ^ (1024 : ℤ) := by
  have hpow : (0 : ℚ) < 2 ^ x.exponent := by positivity
  have hlt : (x.significand : ℚ) + 1 ≤ 2 ^ 53 := by exact_mod_cast hx.significand_lt
  have hexponent : (2 : ℚ) ^ x.exponent ≤ 2 ^ (971 : ℤ) :=
    zpow_le_zpow_right₀ one_le_two hx.exponent_le
  calc v ≤ x.high := hv.le_high
    _ < 2 ^ 53 * 2 ^ x.exponent := mul_lt_mul_of_pos_right (by linarith) hpow
    _ ≤ 2 ^ 53 * 2 ^ (971 : ℤ) := mul_le_mul_of_nonneg_left hexponent (by positivity)
    _ = 2 ^ (1024 : ℤ) := by
        rw [show (1024 : ℤ) = 53 + 971 by rfl, zpow_add₀ two_ne_zero, zpow_ofNat, zpow_ofNat]

theorem two_zpow_le_ten_zpow {i : Int} (hi : 0 ≤ i) : (2 : ℚ) ^ (3 * i) ≤ 10 ^ i := by
  rw [zpow_mul]
  exact zpow_le_zpow_left₀ hi (by norm_num) (by norm_num)

theorem ten_zpow_le_two_zpow {i : Int} (hi : i ≤ 0) : (10 : ℚ) ^ i ≤ 2 ^ (3 * i) := by
  have := two_zpow_le_ten_zpow (i := -i) (by omega)
  rw [mul_neg, zpow_neg, zpow_neg] at this
  exact (inv_le_inv₀ (by positivity) (by positivity)).1 this

/-- A decimal with digits behind the point is read as the double that stands for it. -/
theorem toFloat_eq_of_rounds {x : Binary} (hx : x.IsNormal) {d : Decimal} (hd : d.exponent < 0)
    (hv : x.Rounds d.value) :
    d.toFloat = .ofModel (.pack (.finite .positive x.significand x.exponent hx.pos)) := by
  have hleast := hv.two_zpow_le hx
  have hlargest := hv.lt_two_zpow hx
  have hpos : 0 < d.digits := by
    refine Nat.pos_of_ne_zero fun hzero => ?_
    rw [value, hzero, Nat.cast_zero, zero_mul] at hleast
    exact absurd hleast (not_le.2 (by positivity))
  obtain ⟨hlow, hhigh⟩ := value_bounds hpos
  -- No number of a double is so large or so small that the digits do not count.
  have hle : ¬d.leading > 400 := by
    intro hgt
    have := lt_of_two_zpow_lt ((two_zpow_le_ten_zpow (by omega)).trans hlow) hlargest
    omega
  have hge : ¬d.leading < -400 := by
    intro hlt
    have := lt_of_two_zpow_lt hleast (hhigh.trans_le (ten_zpow_le_two_zpow (by omega)))
    omega
  obtain ⟨k, hk⟩ : ∃ k : Nat, d.exponent = -k := ⟨d.exponent.natAbs, by omega⟩
  rw [value, hk, zpow_neg, zpow_natCast, ← div_eq_mul_inv] at hv
  unfold toFloat
  simp only
  rw [← leading, if_neg hpos.ne', if_neg hle, if_neg hge, hk, Int.natAbs_neg, Int.natAbs_natCast,
    decide_eq_true (by omega), Float.ofScientific]
  split
  · next h => exact toFloat_div hx hpos h.1 (by omega) hv
  · exact congrArg (fun u => Float.ofModel (.pack u)) (ofScientific_div hx hpos (by omega) hv)

end RecordFilter.Decimal
