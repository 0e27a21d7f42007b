import RecordFilter.Decimal.Reading

/-!
# Signs of doubles

A number that is written without a sign is read as a double without a sign bit
(`hasNoSign_toFloat`): of the operations that reading is made of, none makes a
negative double of others.
-/

namespace RecordFilter.Decimal

open Float.Model (UnpackedFloat Format)
open Float.Model.UnpackedFloat

/-! ## Doubles taken apart -/

/-- Whether a double has no minus sign. -/
def IsUnsigned : UnpackedFloat → Prop
  | .infinity sign | .zero sign | .finite sign .. => sign = .positive
  | .notANumber => True

theorem isUnsigned_dite {c : Prop} [Decidable c] {u : c → UnpackedFloat} {v : ¬c → UnpackedFloat}
    (hu : ∀ h, IsUnsigned (u h)) (hv : ∀ h, IsUnsigned (v h)) : IsUnsigned (dite c u v) := by
  by_cases h : c
  · rw [dif_pos h]
    exact hu h
  · rw [dif_neg h]
    exact hv h

theorem msb_packComponents (exponent : BitVec 11) (mantissa : BitVec 52) :
    (packComponents Format.binary64 .positive exponent mantissa).msb = false := by
  change ((0#1 ++ exponent : BitVec 12) ++ mantissa : BitVec 64).msb = false
  rw [BitVec.msb_append (w := 12) (v := 52), BitVec.msb_append (w := 1) (v := 11)]
  rfl

theorem msb_pack {u : UnpackedFloat} (h : IsUnsigned u) : (pack Format.binary64 u).msb = false := by
  cases u with
  | notANumber => exact msb_packComponents _ _
  | infinity sign | zero sign =>
    obtain rfl := h
    exact msb_packComponents _ _
  | finite sign mantissa exponent =>
    obtain rfl := h
    -- Normal, tiny or too large: the sign bit is that of the number in each case.
    unfold pack
    dsimp only
    split
    · exact msb_packComponents _ _
    · split <;> exact msb_packComponents _ _

/-- Bits without the sign bit are a number without a sign. -/
theorem isUnsigned_unpack {b : BitVec Format.binary64.numBits} (h : b.msb = false) :
    IsUnsigned (unpack Format.binary64 b) := by
  have hsign : Sign.ofBitVec (unpackSign b) = .positive := by
    have : unpackSign b = 0#1 := by
      apply BitVec.eq_of_getLsbD_eq
      intro i hi
      obtain rfl : i = 0 := by omega
      rw [BitVec.msb_eq_getLsbD_last] at h
      change ((b.extractLsb 63 63).cast rfl).getLsbD 0 = _
      simpa using h
    rw [this]
    rfl
  unfold unpack
  dsimp only
  rw [hsign]
  refine iteInduction (motive := IsUnsigned) (fun _ => ?_) fun _ => ?_
  · exact iteInduction (motive := IsUnsigned) (fun _ => rfl) fun _ => trivial
  · refine iteInduction (motive := IsUnsigned) (fun _ => ?_) fun _ => rfl
    exact isUnsigned_dite (fun _ => rfl) fun _ => rfl

/-- The rounding of a positive number has no sign, when it overflows or vanishes as well. -/
theorem isUnsigned_roundWithAccuracy (mantissa : Nat) (exponent : Int) (accuracy : Accuracy) :
    IsUnsigned (roundWithAccuracy Format.binary64 .positive mantissa exponent accuracy) := by
  exact isUnsigned_dite (fun _ => rfl) fun _ => rfl

theorem isUnsigned_mul {u v : UnpackedFloat} (hu : IsUnsigned u) (hv : IsUnsigned v) :
    IsUnsigned (mul Format.binary64 u v) := by
  cases u with
  | notANumber => cases v <;> trivial
  | infinity sign | zero sign | finite sign =>
    obtain rfl := hu
    cases v with
    | notANumber => trivial
    | infinity sign | zero sign | finite sign =>
      obtain rfl := hv
      -- Products with zeros and infinities are known at once, all others are rounded.
      first | rfl | trivial | exact isUnsigned_roundWithAccuracy _ _ _

theorem isUnsigned_div {u v : UnpackedFloat} (hu : IsUnsigned u) (hv : IsUnsigned v) :
    IsUnsigned (div Format.binary64 u v) := by
  cases u with
  | notANumber => cases v <;> trivial
  | infinity sign | zero sign | finite sign =>
    obtain rfl := hu
    cases v with
    | notANumber => trivial
    | infinity sign | zero sign | finite sign =>
      obtain rfl := hv
      first | rfl | trivial | exact isUnsigned_roundWithAccuracy _ _ _

theorem isUnsigned_ofScientific (m : Nat) (e : Int) :
    IsUnsigned (UnpackedFloat.ofScientific Format.binary64 m e) := by
  refine isUnsigned_dite (fun _ => rfl) fun _ => ?_
  refine iteInduction (motive := IsUnsigned) (fun _ => rfl) fun _ => ?_
  refine iteInduction (motive := IsUnsigned) (fun _ => rfl) fun _ => ?_
  refine iteInduction (motive := IsUnsigned) (fun _ => ?_) fun _ => ?_
  · exact isUnsigned_mul rfl rfl
  · exact isUnsigned_div rfl rfl

theorem isUnsigned_ofNat (n : Nat) : IsUnsigned (UnpackedFloat.ofNat Format.binary64 n) := by
  unfold UnpackedFloat.ofNat UnpackedFloat.ofInt UnpackedFloat.normalize
  split
  · next h =>
    exact absurd (Int.compare_eq_lt.1 h) (Int.not_lt.2 (Int.natCast_nonneg n))
  · rfl
  · exact isUnsigned_roundWithAccuracy _ _ _

/-! ## Doubles -/

/-- Whether a double has no sign bit. -/
def HasNoSign (x : Float) : Prop :=
  x.toBits.toBitVec.msb = false

instance (x : Float) : Decidable (HasNoSign x) :=
  inferInstanceAs (Decidable (_ = _))

theorem hasNoSign_pack {u : UnpackedFloat} (h : IsUnsigned u) :
    HasNoSign (.ofModel (.pack u)) :=
  msb_pack h

theorem HasNoSign.mul {x y : Float} (hx : HasNoSign x) (hy : HasNoSign y) : HasNoSign (x * y) :=
  hasNoSign_pack (isUnsigned_mul (isUnsigned_unpack hx) (isUnsigned_unpack hy))

theorem HasNoSign.div {x y : Float} (hx : HasNoSign x) (hy : HasNoSign y) : HasNoSign (x / y) :=
  hasNoSign_pack (isUnsigned_div (isUnsigned_unpack hx) (isUnsigned_unpack hy))

/-- A double that is made from digits and a decimal exponent has no sign. -/
theorem hasNoSign_ofScientific (m : Nat) (s : Bool) (e : Nat) :
    HasNoSign (Float.ofScientific m s e) := by
  unfold Float.ofScientific
  split
  · next h =>
    have hpower : ∀ x ∈ Float.exactlyRepresentablePowersOfTen, HasNoSign x := by
      have hall : Float.exactlyRepresentablePowersOfTen.all fun x => HasNoSign x := by
        decide +kernel
      exact fun x hx => of_decide_eq_true (Array.all_eq_true_iff_forall_mem.1 hall x hx)
    have hm : HasNoSign m.toUInt64.toFloat := hasNoSign_pack (isUnsigned_ofNat _)
    simp only
    split
    · exact hm.div (hpower _ (Array.getElem_mem _))
    · exact hm.mul (hpower _ (Array.getElem_mem _))
  · exact hasNoSign_pack (isUnsigned_ofScientific _ _)

/-- A number that is written without a sign is read as a double without one. -/
theorem hasNoSign_toFloat (d : Decimal) : HasNoSign d.toFloat := by
  unfold toFloat
  simp only
  split
  · decide +kernel
  · split
    · decide +kernel
    · split
      · decide +kernel
      · exact hasNoSign_ofScientific _ _ _

end RecordFilter.Decimal
