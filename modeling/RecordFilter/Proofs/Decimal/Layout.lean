import RecordFilter.Decimal.Layout
import RecordFilter.Proofs.Decimal.Sign
import RecordFilter.Proofs.Text.Digits

/-!
# Doubles in plain digits

A double that is written without an exponent, and is not infinite, is written as
digits around a point, behind a minus sign if it has one
(`exists_toList_render`).
-/

namespace RecordFilter.Decimal

/-- Whether a double is written in a filter with no more than digits, a point and a
    sign. -/
def IsPlain (x : Float) : Prop :=
  ∀ c ∈ (literalLayout.render x).toList, c.isDigit ∨ c = '.' ∨ c = '-'

instance (x : Float) : Decidable (IsPlain x) :=
  List.decidableBAll _ (literalLayout.render x).toList

/-- Whether a text is made of digits around a point. -/
def IsPointed (cs : List Char) : Prop :=
  ∃ whole fraction : List Char, whole ≠ [] ∧ whole.all Char.isDigit ∧ fraction ≠ [] ∧
    fraction.all Char.isDigit ∧ cs = whole ++ '.' :: fraction

theorem all_isDigit_digits (n : Nat) : (Text.digits n).all Char.isDigit :=
  List.all_eq_true.2 fun _ => Text.isDigit_of_mem_digits

theorem all_isDigit_replicate (n : Nat) : (List.replicate n '0').all Char.isDigit := by
  rw [List.all_replicate]
  split <;> rfl

/-- What is read from a decimal without an exponent: its digits with zeros behind them,
    of which as many are behind the point as the exponent and the zeros ask for. -/
theorem exists_positional (d : Decimal) : ∃ (whole fraction : List Char) (n : Nat),
    (whole ≠ [] ∧ whole.all Char.isDigit) ∧ (fraction ≠ [] ∧ fraction.all Char.isDigit) ∧
      positional literalLayout d = whole ++ '.' :: fraction ∧
      Text.digitsValue (whole ++ fraction) = d.digits * 10 ^ n ∧
      (fraction.length : Int) = n - d.exponent := by
  have hdigits := all_isDigit_digits d.digits
  have hne := Text.digits_ne_nil d.digits
  unfold positional
  simp only
  split
  · next hexponent =>
    -- A whole number: zeros are put behind the digits, and one behind the point.
    refine ⟨Text.digits d.digits ++ List.replicate d.exponent.toNat '0', ['0'], d.exponent.toNat + 1,
      ⟨List.append_ne_nil_of_left_ne_nil hne _, ?_⟩, ⟨List.cons_ne_nil _ _, rfl⟩, rfl, ?_, ?_⟩
    · rw [List.all_append, hdigits, all_isDigit_replicate]
      rfl
    · rw [List.append_assoc, ← List.replicate_succ', Text.digitsValue_append_zeros,
        Text.digitsValue_digits]
    · rw [List.length_singleton]
      omega
  · next hexponent =>
    split
    · next hpoint =>
      -- The point is among the digits, some of which stand on either side of it.
      have hlength : 0 < (Text.digits d.digits).length := List.length_pos_iff.2 hne
      rw [List.all_eq_true] at hdigits
      refine ⟨_, _, 0, ⟨?_, ?_⟩, ⟨?_, ?_⟩, rfl, ?_, ?_⟩
      · rw [← List.length_pos_iff, List.length_take]
        omega
      · exact List.all_eq_true.2 fun c hc => hdigits c (List.mem_of_mem_take hc)
      · rw [← List.length_pos_iff, List.length_drop]
        omega
      · exact List.all_eq_true.2 fun c hc => hdigits c (List.mem_of_mem_drop hc)
      · rw [List.take_append_drop, Text.digitsValue_digits, Nat.pow_zero, Nat.mul_one]
      · rw [List.length_drop]
        omega
    · next hpoint =>
      -- All digits are behind the point, with zeros in front of them that do not count.
      refine ⟨['0'], _, 0, ⟨List.cons_ne_nil _ _, rfl⟩, ⟨?_, ?_⟩, rfl, ?_, ?_⟩
      · exact List.append_ne_nil_of_right_ne_nil _ hne
      · rw [List.all_append, hdigits, all_isDigit_replicate]
        rfl
      · rw [← List.append_assoc, List.singleton_append, ← List.replicate_succ,
          Text.digitsValue_zeros_append, Text.digitsValue_digits, Nat.pow_zero, Nat.mul_one]
      · rw [List.length_append, List.length_replicate]
        omega

/-- The positional layout always writes a point with digits on both sides. -/
theorem isPointed_positional (d : Decimal) : IsPointed (positional literalLayout d) := by
  obtain ⟨whole, fraction, -, ⟨hne, hw⟩, ⟨hne', hf⟩, heq, -⟩ := exists_positional d
  exact ⟨whole, fraction, hne, hw, hne', hf, heq⟩

/-- The sign of a double as it is written. -/
def signChars (x : Float) : List Char :=
  if x.toBits >>> 63 = 1 then ['-'] else []

theorem signChars_of_hasNoSign {x : Float} (h : HasNoSign x) : signChars x = [] := by
  have hlt : x.toBits.toNat < 2 ^ 63 := by
    have := BitVec.msb_eq_false_iff_two_mul_lt.1 h
    change 2 * x.toBits.toNat < 2 ^ 64 at this
    omega
  have hshift : (x.toBits >>> 63).toNat = 0 := by
    rw [UInt64.toNat_shiftRight, Nat.shiftRight_eq_div_pow]
    exact Nat.div_eq_of_lt hlt
  refine if_neg fun h => ?_
  rw [h] at hshift
  exact absurd hshift (by decide)

/-- A number with an exponent has the mark of the exponent. -/
theorem mem_scientific (l : Layout) (d : Decimal) : 'e' ∈ scientific l d := by
  simp [scientific]

/-- A decimal is written without an exponent just if its first digit is near the point. -/
theorem layOut_literalLayout_cases (d : Decimal) :
    (layOut literalLayout d = positional literalLayout d ∧
      -4 ≤ (Text.digits d.digits).length + d.exponent - 1 ∧
      (Text.digits d.digits).length + d.exponent - 1 ≤ 15) ∨
    layOut literalLayout d = scientific literalLayout d := by
  unfold layOut
  simp only [literalLayout]
  split
  · next h => exact .inl ⟨rfl, h⟩
  · exact .inr rfl

/-- A double in plain digits is zero, or its shortest decimal is written without an
    exponent. -/
theorem toList_render_cases {x : Float} (h : IsPlain x) : ∃ d : Decimal,
    (literalLayout.render x).toList = signChars x ++ positional literalLayout d ∧
      (x.toBits &&& 0x7FFFFFFFFFFFFFFF = 0 ∧ d = ⟨0, 0⟩ ∨
        x.toBits &&& 0x7FFFFFFFFFFFFFFF ≠ 0 ∧ d = (Binary.ofBits x.toBits).shortest .up ∧
          -4 ≤ (Text.digits d.digits).length + d.exponent - 1 ∧
          (Text.digits d.digits).length + d.exponent - 1 ≤ 15) := by
  -- The texts for infinities and for what is not a number have letters, and so has an exponent.
  have hplain (c : Char) (hc : c ∈ ['N', 'i', 'e']) : c ∉ (literalLayout.render x).toList := by
    intro hmem
    have hnone : c ∈ ['N', 'i', 'e'] → ¬(c.isDigit ∨ c = '.' ∨ c = '-') := by
      simp only [List.mem_cons, List.not_mem_nil, or_false]
      rintro (rfl | rfl | rfl) <;> decide
    exact hnone hc (h c hmem)
  unfold Layout.render at hplain ⊢
  simp only at hplain ⊢
  split
  · next hnan =>
    rw [if_pos hnan] at hplain
    exact absurd (by decide) (hplain 'N' (by decide))
  · next hnan =>
    rw [if_neg hnan, String.toList_ofList] at hplain
    rw [String.toList_ofList]
    rw [← signChars] at hplain ⊢
    split
    · next hinf =>
      rw [if_pos hinf] at hplain
      exact absurd (by simp) (hplain 'i' (by decide))
    · next hinf =>
      rw [if_neg hinf] at hplain
      split
      · next hzero => exact ⟨⟨0, 0⟩, rfl, .inl ⟨hzero, rfl⟩⟩
      · next hzero =>
        rw [if_neg hzero] at hplain
        rcases layOut_literalLayout_cases ((Binary.ofBits x.toBits).shortest literalLayout.tie)
          with ⟨hlayout, hrange⟩ | hlayout
        · rw [hlayout]
          exact ⟨_, rfl, .inr ⟨hzero, rfl, hrange⟩⟩
        · rw [hlayout] at hplain
          exact absurd (List.mem_append_right _ (mem_scientific _ _)) (hplain 'e' (by decide))

/-- A plain double is written as its sign and a number with a point. -/
theorem exists_toList_render {x : Float} (h : IsPlain x) :
    ∃ cs, IsPointed cs ∧ (literalLayout.render x).toList = signChars x ++ cs := by
  obtain ⟨d, hd, -⟩ := toList_render_cases h
  exact ⟨_, isPointed_positional d, hd⟩

end RecordFilter.Decimal
