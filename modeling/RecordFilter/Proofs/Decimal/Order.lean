import RecordFilter.Comparison
import RecordFilter.Proofs.Decimal.Nearest

/-!
# The order of doubles

Doubles are ordered as what they are unpacked to (`compareFloats?_eq_compare`), so the order
turned round is the order the other way (`compareFloats?_swap`), and two doubles have one
unless one of them is not a number (`compareFloats?_eq_none`). No whole number is taken for
such a double (`isNaN_ofInt`).
-/

namespace RecordFilter

open Float.Model (UnpackedFloat Format)
open Float.Model.UnpackedFloat

/-! ## Unpacked doubles -/

namespace Decimal

/-- Numbers that change places are compared the other way round. -/
theorem unpacked_compare_swap (u v : UnpackedFloat) :
    v.compare u = (u.compare v).map Ordering.swap := by
  cases u with
  | notANumber => cases v <;> rfl
  | infinity s =>
    cases v with
    | infinity t => cases s <;> cases t <;> rfl
    | _ => cases s <;> rfl
  | zero s =>
    cases v with
    | infinity t | finite t => cases t <;> rfl
    | _ => rfl
  | finite s m e h =>
    cases v with
    | finite t n f h' =>
      -- Of two finite numbers the exponents are compared first and then the significands, for
      -- negative ones the other way round.
      have hexponent : compare f e = (compare e f).swap := Std.OrientedCmp.eq_swap
      have hmantissa : compare n m = (compare m n).swap := Std.OrientedCmp.eq_swap
      cases s <;> cases t <;>
        simp [UnpackedFloat.compare, Ordering.swap_then, hexponent, hmantissa]
    | infinity t => cases t <;> cases s <;> rfl
    | zero t => cases s <;> rfl
    | notANumber => rfl

/-- Only what is not a number cannot be compared. -/
theorem unpacked_compare_eq_none {u v : UnpackedFloat} :
    u.compare v = none ↔ u.isNaN ∨ v.isNaN := by
  unfold UnpackedFloat.compare
  split <;> simp_all [isNaN]

theorem unpacked_compare_self {u : UnpackedFloat} (h : u.isNaN = false) :
    u.compare u = some .eq := by
  cases u with
  | notANumber => cases h
  | infinity s => cases s <;> rfl
  | zero => rfl
  | finite s => cases s <;> simp [UnpackedFloat.compare]

end Decimal

/-! ## Doubles -/

/-- Doubles are compared as what they are unpacked to. -/
theorem compareFloats?_eq_compare (a b : Float) :
    compareFloats? a b = a.toModel.unpack.compare b.toModel.unpack := by
  have hle (a b : Float) : decide (a ≤ b) =
      (a.toModel.unpack.compare b.toModel.unpack).any (·.isLE) := by
    change decide (a.le b = true) = _
    rw [Bool.decide_eq_true]
    change decide (Float.Model.le _ _ = true) = _
    rw [Bool.decide_eq_true]
    rfl
  unfold compareFloats?
  rw [hle, hle, Decimal.unpacked_compare_swap a.toModel.unpack]
  rcases a.toModel.unpack.compare b.toModel.unpack with _ | _ | _ | _ <;> rfl

theorem compareFloats?_swap (a b : Float) :
    compareFloats? b a = (compareFloats? a b).map Ordering.swap := by
  rw [compareFloats?_eq_compare, compareFloats?_eq_compare, Decimal.unpacked_compare_swap]

/-- Only what is not a number has no order. -/
theorem compareFloats?_eq_none {a b : Float} :
    compareFloats? a b = none ↔ a.isNaN ∨ b.isNaN := by
  rw [compareFloats?_eq_compare]
  exact Decimal.unpacked_compare_eq_none

theorem compareFloats?_self {a : Float} (h : a.isNaN = false) : compareFloats? a a = some .eq := by
  rw [compareFloats?_eq_compare]
  exact Decimal.unpacked_compare_self h

/-! ## Whole numbers -/

namespace Decimal

theorem isNaN_unpack_packComponents (s : Sign) {exponent : BitVec 11} (mantissa : BitVec 52)
    (h : exponent ≠ -1#11) :
    (unpack Format.binary64 (packComponents Format.binary64 s exponent mantissa)).isNaN =
      false := by
  unfold unpack
  simp only [unpackMantissa_packComponents, unpackExponent_packComponents]
  rw [if_neg h]
  split
  · split <;> rfl
  · rfl

/-- What is a number is packed as one. -/
theorem isNaN_unpack_pack {u : UnpackedFloat} (h : u.isNaN = false) :
    (unpack Format.binary64 (pack Format.binary64 u)).isNaN = false := by
  have hinfinity (s : Sign) :
      (unpack Format.binary64 (packedInfinity Format.binary64 s)).isNaN = false := by
    cases s <;> decide +kernel
  cases u with
  | notANumber => cases h
  | infinity s => exact hinfinity s
  | zero s => exact isNaN_unpack_packComponents s _ (by decide)
  | finite s m e hm =>
    unfold pack
    dsimp only
    split
    · exact hinfinity s
    · next hbias =>
      split
      · -- The exponent of an infinity has all its bits, and this one is too small for that.
        refine isNaN_unpack_packComponents s _ fun heq => ?_
        have := congrArg BitVec.toNat heq
        rw [BitVec.toNat_ofNat] at this
        change ¬2 ^ 11 ≤ _ at hbias
        change _ % 2 ^ 11 = 2047 at this
        omega
      · exact isNaN_unpack_packComponents s _ (by decide)

/-- A product of finite numbers is a number, infinity included. -/
theorem isNaN_mul_finite (s t : Sign) {m n : Nat} (e f : Int) (hm : 0 < m) (hn : 0 < n) :
    (mul Format.binary64 (.finite s m e hm) (.finite t n f hn)).isNaN = false := by
  change (roundWithAccuracy Format.binary64 (s * t) (m * n) (e + f) .exact).isNaN = false
  unfold roundWithAccuracy
  dsimp only
  split <;> rfl

end Decimal

theorem isNaN_ofNat (n : Nat) : (Float.ofNat n).isNaN = false := by
  rcases Nat.eq_zero_or_pos n with rfl | hpos
  · decide +kernel
  change (unpack Format.binary64 (Float.ofScientific n false 0).toModel.toBits.toBitVec).isNaN = _
  unfold Float.ofScientific
  split
  · next h =>
    -- Below 53 bits the number is multiplied by a power of ten, here by the first one.
    obtain ⟨m, e, hm, hone, -⟩ := Decimal.exists_of_isPowerOfTen (Decimal.isPowerOfTen_table 0)
    refine Decimal.isNaN_unpack_pack ?_
    change (mul Format.binary64 n.toUInt64.toFloat.toModel.unpack
      Float.exactlyRepresentablePowersOfTen[(0 : Fin 23)].toModel.unpack).isNaN = false
    rw [Decimal.unpack_toFloat hpos h.1, hone]
    exact Decimal.isNaN_mul_finite ..
  · refine Decimal.isNaN_unpack_pack ?_
    change (ofScientific Format.binary64 n 0).isNaN = false
    have hsmall : ¬(0 : Int) < -((2 ^ Format.binary64.exponentBits : Int) + n.log2) := by
      change ¬(0 : Int) < -(2 ^ 11 + n.log2)
      omega
    unfold ofScientific
    rw [dif_neg hpos.ne', if_neg (by decide), if_neg hsmall, if_pos (Int.le_refl 0)]
    exact Decimal.isNaN_mul_finite ..

theorem isNaN_ofInt (n : Int) : (Float.ofInt n).isNaN = false := by
  cases n with
  | ofNat n => exact isNaN_ofNat n
  | negSucc n =>
    have h : (Float.ofNat n.succ).toModel.unpack.isNaN = false := isNaN_ofNat n.succ
    refine Decimal.isNaN_unpack_pack (u := (Float.ofNat n.succ).toModel.unpack.neg) ?_
    generalize (Float.ofNat n.succ).toModel.unpack = u at h ⊢
    cases u with
    | notANumber => cases h
    | _ => rfl

end RecordFilter
