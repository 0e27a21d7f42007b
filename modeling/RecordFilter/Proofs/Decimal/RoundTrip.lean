import RecordFilter.Proofs.Decimal.Layout
import RecordFilter.Proofs.Decimal.Nearest

/-!
# Doubles that are read back

A double that is written in plain digits is read from them as the same double
(`readFloat?_render`). What is written is its shortest decimal, which is one of the
numbers that the double stands for, and a decimal is read as the double that stands
for it.
-/

namespace RecordFilter.Decimal

open Float.Model (UnpackedFloat Format)
open Float.Model.UnpackedFloat

/-! ## Decimals as text -/

/-- Digits around a point are one number of all the digits, with an exponent for those behind the
    point. -/
theorem readUnsigned?_pointed {whole fraction : List Char} (hne : whole ≠ [])
    (hw : whole.all Char.isDigit) (hf : fraction.all Char.isDigit) :
    readUnsigned? (whole ++ '.' :: fraction) =
      some ⟨Text.digitsValue (whole ++ fraction), -fraction.length⟩ := by
  have hpoint : ∀ c ∈ ('.' :: fraction).head?, c.isDigit = false := by
    rintro c ⟨⟩
    rfl
  have hend : ∀ c ∈ ([] : List Char).head?, c.isDigit = false := by
    rintro c ⟨⟩
  have htake := Text.takeWhile_append_stop hf hend
  have hdrop := Text.dropWhile_append_stop hf hend
  rw [List.append_nil] at htake hdrop
  unfold readUnsigned?
  simp only [Text.takeWhile_append_stop hw hpoint, Text.dropWhile_append_stop hw hpoint, htake, hdrop]
  simp [guard, hne]

theorem readUnsigned?_digits {whole : List Char} (hne : whole ≠ []) (hw : whole.all Char.isDigit) :
    readUnsigned? whole = some ⟨Text.digitsValue whole, 0⟩ := by
  have hend : ∀ c ∈ ([] : List Char).head?, c.isDigit = false := by
    rintro c ⟨⟩
  have htake := Text.takeWhile_append_stop hw hend
  have hdrop := Text.dropWhile_append_stop hw hend
  rw [List.append_nil] at htake hdrop
  unfold readUnsigned?
  simp only [htake, hdrop]
  simp [guard, hne]

/-- A text that begins with a digit is none of the words that are numbers. -/
theorem readMagnitude?_of_isDigit {c : Char} {cs : List Char} (hc : c.isDigit) :
    readMagnitude? (c :: cs) = (readUnsigned? (c :: cs)).map toFloat := by
  have hlower : c.toLower = c := by grind [Char.toLower, Char.isDigit]
  have hword (w : Char) (ws : List Char) (hw : w.isDigit = false) :
      String.ofList ((c :: cs).map Char.toLower) ≠ String.ofList (w :: ws) := by
    intro h
    have := (List.cons.inj (String.ofList_injective h)).1
    rw [hlower] at this
    rw [this, hw] at hc
    cases hc
  unfold readMagnitude?
  simp only
  rw [if_neg, if_neg]
  · exact hword 'n' ['a', 'n'] rfl
  · rw [not_or]
    exact ⟨hword 'i' ['n', 'f'] rfl, hword 'i' ['n', 'f', 'i', 'n', 'i', 't', 'y'] rfl⟩

/-- What begins with digits is read as a magnitude in digits. -/
theorem readMagnitude?_append {whole : List Char} (hne : whole ≠ []) (hw : whole.all Char.isDigit)
    (rest : List Char) :
    readMagnitude? (whole ++ rest) = (readUnsigned? (whole ++ rest)).map toFloat := by
  obtain ⟨c, cs, rfl⟩ := List.exists_cons_of_ne_nil hne
  rw [List.all_cons, Bool.and_eq_true] at hw
  exact readMagnitude?_of_isDigit hw.1

/-- A decimal without an exponent is read as the double of its value. -/
theorem readMagnitude?_positional (d : Decimal) : ∃ d' : Decimal,
    readMagnitude? (positional literalLayout d) = some d'.toFloat ∧ d'.value = d.value ∧
      d'.exponent < 0 := by
  obtain ⟨whole, fraction, n, ⟨hne, hw⟩, ⟨hne', hf⟩, heq, hdigits, hlength⟩ := exists_positional d
  refine ⟨⟨Text.digitsValue (whole ++ fraction), -fraction.length⟩, ?_, ?_, ?_⟩
  · rw [heq, readMagnitude?_append hne hw, readUnsigned?_pointed hne hw hf, Option.map_some]
  · rw [value, value, hlength, hdigits, neg_sub, zpow_sub₀ (by norm_num), zpow_natCast]
    push_cast
    field_simp
  · have := List.length_pos_iff.2 hne'
    change -(fraction.length : Int) < 0
    omega

/-! ## Doubles as bits -/

theorem toNat_exponent (bits : UInt64) :
    ((bits >>> 52) &&& 0x7FF).toNat = bits.toNat / 2 ^ 52 % 2 ^ 11 := by
  rw [UInt64.toNat_and, UInt64.toNat_shiftRight, Nat.shiftRight_eq_div_pow]
  exact Nat.and_two_pow_sub_one_eq_mod _ 11

theorem toNat_fraction (bits : UInt64) : (bits &&& 0xFFFFFFFFFFFFF).toNat = bits.toNat % 2 ^ 52 := by
  rw [UInt64.toNat_and]
  exact Nat.and_two_pow_sub_one_eq_mod _ 52

theorem toNat_magnitude (bits : UInt64) :
    (bits &&& 0x7FFFFFFFFFFFFFFF).toNat = bits.toNat % 2 ^ 63 := by
  rw [UInt64.toNat_and]
  exact Nat.and_two_pow_sub_one_eq_mod _ 63

theorem toNat_sign (bits : UInt64) : (bits >>> 63).toNat = bits.toNat / 2 ^ 63 := by
  rw [UInt64.toNat_shiftRight, Nat.shiftRight_eq_div_pow]
  rfl

/-- What a double is by its bits. -/
theorem Binary.ofBits_cases (bits : UInt64) :
    (bits.toNat / 2 ^ 52 % 2 ^ 11 = 0 ∧ ofBits bits = ⟨bits.toNat % 2 ^ 52, -1074, false⟩) ∨
    (0 < bits.toNat / 2 ^ 52 % 2 ^ 11 ∧
      ofBits bits = ⟨2 ^ 52 + bits.toNat % 2 ^ 52, (bits.toNat / 2 ^ 52 % 2 ^ 11 : Nat) - 1075,
        bits.toNat % 2 ^ 52 == 0 && bits.toNat / 2 ^ 52 % 2 ^ 11 > 1⟩) := by
  unfold ofBits
  simp only [toNat_exponent, toNat_fraction]
  split
  · next h => exact .inl ⟨h, rfl⟩
  · next h => exact .inr ⟨Nat.pos_of_ne_zero h, rfl⟩

/-- A double that is not zero has a significand, and one of moderate size has all bits of
    it. -/
theorem Binary.isNormal_ofBits {bits : UInt64} {v : ℚ} (hv : (ofBits bits).Rounds v)
    (hlow : 10 ^ (-4 : ℤ) ≤ v) (hhigh : v < 10 ^ (16 : ℤ)) : (ofBits bits).IsNormal := by
  have hfraction : bits.toNat % 2 ^ 52 < 2 ^ 52 := Nat.mod_lt _ (by decide)
  have hpow : (0 : ℚ) < 2 ^ (ofBits bits).exponent := by positivity
  -- Powers of two around `v` bound the exponent on both sides.
  have htiny : (2 : ℚ) ^ (-20 : ℤ) ≤ v := le_trans (by norm_num) hlow
  have hbelow : v < 2 ^ (53 + (ofBits bits).exponent) := by
    have hlt : (ofBits bits).significand < 2 ^ 53 := by
      rcases ofBits_cases bits with ⟨-, h⟩ | ⟨-, h⟩ <;> rw [h] <;> simp only <;> omega
    have hlt : ((ofBits bits).significand : ℚ) + 1 ≤ 2 ^ 53 := by exact_mod_cast hlt
    refine hv.le_high.trans_lt ?_
    rw [zpow_add₀ two_ne_zero, zpow_ofNat]
    exact mul_lt_mul_of_pos_right (by linarith) hpow
  have hexponent := lt_of_two_zpow_lt htiny hbelow
  rcases ofBits_cases bits with ⟨-, h⟩ | ⟨hpos, h⟩
  · rw [h] at hexponent
    simp only at hexponent
    omega
  · have habove : (2 : ℚ) ^ (51 + (ofBits bits).exponent) ≤ v := by
      have hle : 2 ^ 52 ≤ (ofBits bits).significand := by
        rw [h]
        exact Nat.le_add_right _ _
      have hle : (2 : ℚ) ^ 52 ≤ (ofBits bits).significand := by exact_mod_cast hle
      refine le_trans ?_ hv.low_le
      rw [zpow_add₀ two_ne_zero, zpow_ofNat]
      refine mul_le_mul_of_nonneg_right ?_ hpow.le
      split <;> linarith
    have hlarge : v < (2 : ℚ) ^ (54 : ℤ) := hhigh.trans_le (by norm_num)
    have hexponent' := lt_of_two_zpow_lt habove hlarge
    rw [h] at hexponent hexponent' ⊢
    simp only at hexponent hexponent'
    refine ⟨Nat.le_add_right _ _, by simp only; omega, by simp only; omega, by simp only; omega, ?_⟩
    simp only [Bool.and_eq_true, beq_iff_eq, decide_eq_true_iff]
    omega

/-- The sign of a double. -/
def sign (x : Float) : Sign :=
  if x.toBits >>> 63 = 1 then .negative else .positive

/-- The bits of a double as a number: sign, exponent and mantissa, each at its place. -/
theorem toNat_packComponents (s : Sign) (exponent : BitVec 11) (mantissa : BitVec 52) :
    (packComponents Format.binary64 s exponent mantissa).toNat =
      s.toBitVec.toNat * 2 ^ 63 + exponent.toNat * 2 ^ 52 + mantissa.toNat := by
  change ((s.toBitVec ++ exponent : BitVec 12) ++ mantissa : BitVec 64).toNat = _
  rw [BitVec.toNat_append, ← Nat.shiftLeft_add_eq_or_of_lt mantissa.isLt, BitVec.toNat_append,
    ← Nat.shiftLeft_add_eq_or_of_lt exponent.isLt, Nat.shiftLeft_eq, Nat.shiftLeft_eq]
  omega

theorem toNat_toBitVec_sign (x : Float) : (sign x).toBitVec.toNat = x.toBits.toNat / 2 ^ 63 := by
  have hlt := x.toBits.toNat_lt
  unfold sign
  split
  · next h =>
    rw [← toNat_sign, h]
    rfl
  · next h =>
    have hne : (x.toBits >>> 63).toNat ≠ 1 := fun h' => h (UInt64.toNat_inj.1 h')
    rw [toNat_sign] at hne
    change 0 = _
    omega

/-- A double is made of its sign, its significand and its exponent. -/
theorem pack_ofBits {x : Float} (hx : (Binary.ofBits x.toBits).IsNormal) :
    Float.ofModel (.pack (.finite (sign x) (Binary.ofBits x.toBits).significand
      (Binary.ofBits x.toBits).exponent hx.pos)) = x := by
  refine Float.toBits_inj.1 (UInt64.toNat_inj.1 ?_)
  change (pack Format.binary64 _).toNat = _
  rw [pack_finite _ hx.pos hx.le_significand hx.significand_lt hx.exponent_le, toNat_packComponents,
    toNat_toBitVec_sign, BitVec.toNat_ofNat, BitVec.toNat_ofNat]
  have hexponent := hx.lt_exponent
  have hlt := x.toBits.toNat_lt
  -- A normal double has the first bit that is not stored; the rest is arithmetic of the three
  -- fields.
  rcases Binary.ofBits_cases x.toBits with ⟨-, h⟩ | ⟨-, h⟩
  · rw [h] at hexponent
    exact absurd hexponent (lt_irrefl _)
  · rw [h]
    simp only
    omega

/-- The negation of a packed number has the other sign and the same value. -/
theorem neg_pack {x : Binary} (hx : x.IsNormal) :
    -Float.ofModel (.pack (.finite .positive x.significand x.exponent hx.pos)) =
      .ofModel (.pack (.finite .negative x.significand x.exponent hx.pos)) := by
  have h := unpack_pack .positive hx.pos hx.le_significand hx.significand_lt hx.lt_exponent.le
    hx.exponent_le
  change Float.ofModel (.pack (Float.Model.unpack _).neg) = _
  rw [h]
  rfl

/-! ## Doubles as text -/

/-- A double is written with a minus just if its sign bit is set. -/
theorem sign_cases (x : Float) : (sign x = .positive ∧ signChars x = []) ∨
    (sign x = .negative ∧ signChars x = ['-']) := by
  unfold sign signChars
  split
  · exact .inr ⟨rfl, rfl⟩
  · exact .inl ⟨rfl, rfl⟩

theorem readFloat?_of_isDigit {c : Char} {cs : List Char} (hc : c.isDigit) :
    readFloat? (c :: cs) = readMagnitude? (c :: cs) := by
  unfold readFloat?
  split
  · next heq =>
    obtain ⟨rfl, -⟩ := List.cons.inj heq
    exact absurd hc (by decide)
  · next heq =>
    obtain ⟨rfl, -⟩ := List.cons.inj heq
    exact absurd hc (by decide)
  · rfl

/-- What begins with digits has no sign in front. -/
theorem readFloat?_append {whole : List Char} (hne : whole ≠ []) (hw : whole.all Char.isDigit)
    (rest : List Char) : readFloat? (whole ++ rest) = readMagnitude? (whole ++ rest) := by
  obtain ⟨c, cs, rfl⟩ := List.exists_cons_of_ne_nil hne
  rw [List.all_cons, Bool.and_eq_true] at hw
  exact readFloat?_of_isDigit hw.1

/-- What the positional layout writes begins with a digit and so is read without a sign. -/
theorem readFloat?_positional (d : Decimal) :
    readFloat? (positional literalLayout d) = readMagnitude? (positional literalLayout d) := by
  obtain ⟨whole, fraction, hne, hw, -, -, heq⟩ := isPointed_positional d
  rw [heq, readFloat?_append hne hw]

theorem digits_pos_of_rounds {x : Binary} {d : Decimal} (hx : 0 < x.significand)
    (hd : x.Rounds d.value) : 0 < d.digits := by
  have hsignificand : (1 : ℚ) ≤ x.significand := by exact_mod_cast hx
  have hlow : 0 < x.low := by
    refine mul_pos ?_ (by positivity)
    split <;> linarith
  refine Nat.pos_of_ne_zero fun hzero => ?_
  have := hlow.trans_le hd.low_le
  rw [value, hzero, Nat.cast_zero, zero_mul] at this
  exact lt_irrefl _ this

/-- The shortest decimal of a double of moderate size is read as the double, apart from its
    sign. -/
theorem toFloat_shortest {x : Float} {d : Decimal} (hne : x.toBits &&& 0x7FFFFFFFFFFFFFFF ≠ 0)
    (hvalue : d.value = ((Binary.ofBits x.toBits).shortest .up).value) (hd : d.exponent < 0)
    (hlow : -3 ≤ ((Binary.ofBits x.toBits).shortest .up).leading)
    (hhigh : ((Binary.ofBits x.toBits).shortest .up).leading ≤ 16) :
    ∃ hx : (Binary.ofBits x.toBits).IsNormal, d.toFloat =
      .ofModel (.pack (.finite .positive (Binary.ofBits x.toBits).significand
        (Binary.ofBits x.toBits).exponent hx.pos)) := by
  have hpos : 0 < (Binary.ofBits x.toBits).significand := by
    rw [Ne, ← UInt64.toNat_inj, toNat_magnitude] at hne
    change _ ≠ 0 at hne
    rcases Binary.ofBits_cases x.toBits with ⟨hzero, h⟩ | ⟨-, h⟩
    · rw [h]
      simp only
      omega
    · rw [h]
      exact Nat.add_pos_left (by decide) _
  have hrounds := Binary.rounds_shortest hpos .up
  have hdigits := digits_pos_of_rounds hpos hrounds
  obtain ⟨hlow', hhigh'⟩ := value_bounds hdigits
  -- The exponents of the plain layout keep the double far from the tiny and the infinite ones.
  have hx := Binary.isNormal_ofBits hrounds
    (le_trans (zpow_le_zpow_right₀ (by norm_num) (by omega)) hlow')
    (hhigh'.trans_le (zpow_le_zpow_right₀ (by norm_num) hhigh))
  rw [← hvalue] at hrounds
  exact ⟨hx, toFloat_eq_of_rounds hx hd hrounds⟩

/-- The digits of a zero are read as the zero without a sign bit; the sign in front of them makes
    it the other zero. -/
theorem toFloat_zero {x : Float} {d : Decimal} (hzero : x.toBits &&& 0x7FFFFFFFFFFFFFFF = 0)
    (hd : d.value = 0) :
    (sign x = .positive → d.toFloat = x) ∧ (sign x = .negative → -d.toFloat = x) := by
  have hdigits : d.digits = 0 := by
    have hpow : (10 : ℚ) ^ d.exponent ≠ 0 := by positivity
    exact_mod_cast (mul_eq_zero.1 hd).resolve_right hpow
  -- Zero is read as zero before any rounding.
  have hfloat : d.toFloat = 0 := by
    unfold toFloat
    simp only
    rw [if_pos hdigits]
  rw [← UInt64.toNat_inj, toNat_magnitude] at hzero
  change _ = 0 at hzero
  have hbits := toNat_toBitVec_sign x
  rw [hfloat]
  constructor
  · intro hsign
    refine Float.toBits_inj.1 (UInt64.toNat_inj.1 ?_)
    have hplus : (0 : Float).toBits.toNat = 0 := by decide +kernel
    rw [hsign] at hbits
    change 0 = _ at hbits
    omega
  · intro hsign
    refine Float.toBits_inj.1 (UInt64.toNat_inj.1 ?_)
    have hminus : (-0 : Float).toBits.toNat = 2 ^ 63 := by decide +kernel
    rw [hsign] at hbits
    change 1 = _ at hbits
    have := x.toBits.toNat_lt
    omega

/-- A double that is written in plain digits is read from them. -/
theorem readFloat?_render {x : Float} (h : IsPlain x) :
    readFloat? (literalLayout.render x).toList = some x := by
  obtain ⟨d, hrender, hd⟩ := toList_render_cases h
  obtain ⟨d', hread, hvalue, hexponent⟩ := readMagnitude?_positional d
  have hfloat : (sign x = .positive → d'.toFloat = x) ∧ (sign x = .negative → -d'.toFloat = x) := by
    rcases hd with ⟨hzero, rfl⟩ | ⟨hne, rfl, hlow, hhigh⟩
    · exact toFloat_zero hzero (hvalue.trans (by rw [value, Nat.cast_zero, zero_mul]))
    · obtain ⟨hx, hd'⟩ := toFloat_shortest hne hvalue hexponent (by unfold leading; omega)
        (by unfold leading; omega)
      have hpack := pack_ofBits hx
      constructor
      · intro hsign
        rw [hsign] at hpack
        rw [hd', hpack]
      · intro hsign
        rw [hsign] at hpack
        rw [hd', neg_pack hx, hpack]
  rw [hrender]
  rcases sign_cases x with ⟨hsign, hchars⟩ | ⟨hsign, hchars⟩
  · rw [hchars, List.nil_append, readFloat?_positional, hread, hfloat.1 hsign]
  · rw [hchars, List.singleton_append, readFloat?, hread, Option.map_some, hfloat.2 hsign]

end RecordFilter.Decimal
