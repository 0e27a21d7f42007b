import Mathlib.Data.List.Basic
import RecordFilter.Proofs.Calendar.RoundTrip
import RecordFilter.Proofs.Decimal.RoundTrip
import RecordFilter.Proofs.Expr.Printing

/-!
# Constants that are read back

Every constant prints that a text can hold in full: strings, dates, times and moments
of whole milliseconds, whole numbers but the least one, and doubles in plain digits.
A negative number prints where a sign may stand, every other constant everywhere.
-/

namespace RecordFilter

open RecordFilter.Parser RecordFilter.Token

/-! ## Whole numbers as text -/

theorem toList_toString_natCast (n : Nat) : (toString (n : Int)).toList = Text.digits n := by
  change (Nat.repr n).toList = _
  rw [Nat.toList_repr]
  rfl

theorem toList_toString_negCast {n : Nat} (h : 0 < n) :
    (toString (-(n : Int))).toList = '-' :: Text.digits n := by
  obtain ⟨m, rfl⟩ := Nat.exists_eq_succ_of_ne_zero (Nat.ne_of_gt h)
  change ("-" ++ Nat.repr (m + 1)).toList = _
  rw [String.toList_append, Nat.toList_repr]
  rfl

/-! ## Constants as text -/

namespace Constant

@[simp]
theorem text_long (v : Int64) : (long v).text = toString v.toInt :=
  rfl

@[simp]
theorem text_double (x : Float) : (double x).text = Decimal.literalLayout.render x :=
  rfl

@[simp]
theorem text_string (s : String) : (string s).text = Text.quoted s :=
  rfl

@[simp]
theorem text_date (d : Date) : (date d).text = "DATE '" ++ d.text ++ "'" :=
  rfl

@[simp]
theorem text_time (t : Time) : (time t).text = "TIME '" ++ t.text ++ "'" :=
  rfl

@[simp]
theorem text_timestamp (t : Timestamp) : (timestamp t).text = "TIMESTAMP '" ++ t.text ++ "'" :=
  rfl

end Constant

theorem Parser.dateConstant_date (text : String) :
    dateConstant .date text = .date <$> Date.ofText text.toList :=
  rfl

theorem Parser.dateConstant_time (text : String) :
    dateConstant .time text = .time <$> Time.ofText text.toList :=
  rfl

theorem Parser.dateConstant_timestamp (text : String) :
    dateConstant .timestamp text = .timestamp <$> Timestamp.ofText text.toList :=
  rfl

namespace Expr.Prints

/-! ## Strings, dates and words -/

/-- A string is read back from its quoted text, whatever its characters. -/
theorem string (text : String) : (Expr.constant (.string text)).Prints .primary :=
  of_primary .string (lexes_string text)
    ⟨'\'', _, by rw [Expr.text, Constant.text_string]; exact String.toList_ofList, by decide, by decide⟩

theorem boolean (value : Bool) : (Expr.boolean value).Prints .primary := by
  cases value with
  | false => exact of_primary .boolean (lexes_keyword .false) (followsMinus_keyword .false [])
  | true => exact of_primary .boolean (lexes_keyword .true) (followsMinus_keyword .true [])

theorem null : (Expr.constant .null).Prints .primary :=
  of_primary .null (lexes_keyword .null) (followsMinus_keyword .null [])

/-- A text without quotes in it needs none doubled. -/
theorem quoted_eq {cs : List Char} (h : '\'' ∉ cs) :
    (Text.quoted (String.ofList cs)).toList = '\'' :: (cs ++ ['\'']) := by
  have hsame : Text.doubleQuotes '\'' cs = cs := by
    have hone : ∀ c ∈ cs, (if c = '\'' then ['\'', '\''] else [c]) = [c] := by
      rintro c hc
      rw [if_neg]
      rintro rfl
      exact h hc
    rw [Text.doubleQuotes, List.flatMap_congr hone, List.flatMap_singleton']
  rw [Text.quoted, String.toList_ofList, String.toList_ofList, hsame, List.cons_append]

/-- A constant that is written as a keyword and a string. -/
theorem dated {kind : Keyword} {name : String} {c : Constant} {cs : List Char}
    (hkind : keywordName? kind = some name) (hc : dateConstant kind (String.ofList cs) = .ok c)
    (hcs : '\'' ∉ cs) (htext : c.text.toList = kind.text.toList ++ ' ' :: '\'' :: (cs ++ ['\''])) :
    (Expr.constant c).Prints .primary := by
  have hlex := (lexes_keyword kind).spaced (lexes_string (String.ofList cs))
  rw [quoted_eq hcs, ← htext] at hlex
  refine of_primary (.dated hkind hc) ?_ ?_
  · rw [text]
    exact hlex
  · rw [text, htext]
    exact followsMinus_keyword kind _

theorem quote_notMem_paddedDigits (width n : Nat) : '\'' ∉ Text.paddedDigits width n := by
  intro h
  exact absurd (Text.isDigit_of_mem_paddedDigits h) (by decide)

theorem quote_notMem_date (d : Date) : '\'' ∉ d.chars := by
  have hyear : '\'' ∉ yearText d.year := by
    unfold yearText
    split
    · exact quote_notMem_paddedDigits _ _
    · rw [List.mem_cons, not_or]
      refine ⟨?_, quote_notMem_paddedDigits _ _⟩
      split <;> decide
  simp [Date.chars, hyear, quote_notMem_paddedDigits]

theorem quote_notMem_time (t : Time) : '\'' ∉ t.millisChars := by
  simp [Time.millisChars, Time.clockChars, quote_notMem_paddedDigits]

/-- Every date is read back, years of any number of digits and negative ones too. -/
theorem date (d : Date) : (Expr.constant (.date d)).Prints .primary := by
  have hkind : keywordName? .date = some "date" := rfl
  refine dated hkind ?_ (quote_notMem_date d) ?_
  · rw [dateConstant_date, String.toList_ofList, Date.ofText_chars]
    rfl
  · simp [Date.text, Keyword.text]

/-- A time of whole milliseconds is read back; only these are written. -/
theorem time {t : Time} (h : t.nano % 1000000 = 0) : (Expr.constant (.time t)).Prints .primary := by
  have hkind : keywordName? .time = some "time" := rfl
  refine dated hkind ?_ (quote_notMem_time t) ?_
  · rw [dateConstant_time, String.toList_ofList, Time.ofText_millisChars, Time.wholeMillis_eq_self.2 h]
    rfl
  · simp [Time.text, Keyword.text]

theorem timestamp {t : Timestamp} (h : t.time.nano % 1000000 = 0) :
    (Expr.constant (.timestamp t)).Prints .primary := by
  have hkind : keywordName? .timestamp = some "timestamp" := rfl
  have hquote : '\'' ∉ t.date.chars ++ ' ' :: t.time.millisChars := by
    simp [quote_notMem_date, quote_notMem_time]
  refine dated hkind ?_ hquote ?_
  · rw [dateConstant_timestamp, String.toList_ofList, Timestamp.ofText_chars,
      Time.wholeMillis_eq_self.2 h]
    rfl
  · simp [Timestamp.text, Keyword.text]

/-! ## Whole numbers -/

/-- The digits of a number below `2 ^ 63` stand for a whole number of 64 bits. -/
theorem numberConstant?_digits {n : Nat} (h : n < 2 ^ 63) :
    numberConstant? (String.ofList (Text.digits n)) = some (.long (Int64.ofNat n)) := by
  have hcond : Text.digits n ≠ [] ∧ (Text.digits n).all Char.isDigit ∧ n < Nat.pow 2 63 :=
    ⟨Text.digits_ne_nil n, Decimal.all_isDigit_digits n, h⟩
  simp only [numberConstant?, String.toList_ofList, Text.digitsValue_digits, if_pos hcond]

theorem isNumber_digits (n : Nat) : IsNumber (Text.digits n) :=
  ⟨Text.digits n, Text.digits_ne_nil n, Decimal.all_isDigit_digits n, .inl rfl⟩

theorem followsMinus_of_isNumber {cs : List Char} (h : IsNumber cs) : FollowsMinus cs := by
  obtain ⟨c, ds, rfl, hc⟩ := h.exists_cons
  refine ⟨c, ds, rfl, ?_, ?_⟩ <;> rintro rfl <;> exact absurd hc (by decide)

/-- A constant that is written as an unsigned number. -/
theorem unsigned {digits : String} {c : Constant} (hc : numberConstant? digits = some c)
    (hn : IsNumber digits.toList) (htext : c.text.toList = digits.toList) :
    (Expr.constant c).Prints .primary := by
  refine of_primary (.number hc) ?_ ?_
  · rw [text, htext]
    exact lexes_number hn
  · rw [text, htext]
    exact followsMinus_of_isNumber hn

/-- A constant that is written as a minus sign and a number. -/
theorem signed {digits : String} {c d : Constant} (hc : numberConstant? digits = some c)
    (hn : IsNumber digits.toList) (hneg : negate (.constant c) = .constant d)
    (htext : d.text.toList = '-' :: digits.toList) : (Expr.constant d).Prints .sign := by
  have haccess : Phrase (.expression .access (.constant c)) [.number digits] :=
    Phrase.of_next rfl (.number hc)
  have hphrase := Phrase.minus (.unsigned haccess)
  rw [hneg] at hphrase
  refine of_phrase hphrase ?_ (by decide)
  rw [text, htext]
  exact (lexes_number hn).minus (followsMinus_of_isNumber hn)

/-- A whole number that is not negative prints without a sign. -/
theorem long_ofNat {n : Nat} (h : n < 2 ^ 63) :
    (Expr.constant (.long (Int64.ofNat n))).Prints .primary := by
  refine unsigned (numberConstant?_digits h) ?_ ?_
  · rw [String.toList_ofList]
    exact isNumber_digits n
  · rw [String.toList_ofList, Constant.text_long, Int64.toInt_ofNat_of_lt h,
      toList_toString_natCast]

/-- Every whole number but the least one is read from its text. -/
theorem long {v : Int64} (h : v ≠ Int64.minValue) : (Expr.constant (.long v)).Prints .sign := by
  have hlow := v.le_toInt
  have hhigh := v.toInt_lt
  -- The text of a negative number is a sign and the digits of its negative, which is a whole number
  -- because the least one is left out.
  by_cases hv : 0 ≤ v.toInt
  · have hlt : v.toInt.toNat < 2 ^ 63 := by omega
    have hsame : Int64.ofNat v.toInt.toNat = v := by
      rw [← Int64.toInt_inj, Int64.toInt_ofNat_of_lt hlt, Int.toNat_of_nonneg hv]
    rw [← hsame]
    exact (long_ofNat hlt).sign_of_primary
  · have hne : v.toInt ≠ -2 ^ 63 := fun hmin => h (Int64.toInt_inj.1 hmin)
    obtain ⟨n, hn, hpos⟩ : ∃ n : Nat, v.toInt = -n ∧ 0 < n := ⟨v.toInt.natAbs, by omega, by omega⟩
    have hlt : n < 2 ^ 63 := by omega
    have hsame : -Int64.ofNat n = v := by
      rw [← Int64.toInt_inj, Int64.toInt_neg_ofNat_of_le (Nat.le_of_lt hlt), hn]
    refine signed (numberConstant?_digits hlt) ?_ (congrArg (Expr.constant ∘ Constant.long) hsame) ?_
    · rw [String.toList_ofList]
      exact isNumber_digits n
    · rw [String.toList_ofList, Constant.text_long, hn]
      exact toList_toString_negCast hpos

/-! ## Doubles -/

/-- Digits around a point are a number. -/
theorem isNumber_of_isPointed {cs : List Char} (h : Decimal.IsPointed cs) : IsNumber cs := by
  obtain ⟨whole, fraction, hne, hw, hne', hf, hcs⟩ := h
  exact ⟨whole, hne, hw, .inr ⟨fraction, hne', hf, hcs⟩⟩

/-- A number with a point in it is a double. -/
theorem numberConstant?_of_isPointed {cs : List Char} (h : Decimal.IsPointed cs) :
    numberConstant? (String.ofList cs) = (Decimal.readFloat? cs).map .double := by
  obtain ⟨whole, fraction, -, -, -, -, rfl⟩ := h
  have hcond : ¬(whole ++ '.' :: fraction ≠ [] ∧ (whole ++ '.' :: fraction).all Char.isDigit ∧
      Text.digitsValue (whole ++ '.' :: fraction) < Nat.pow 2 63) := by
    rintro ⟨-, hall, -⟩
    rw [List.all_append, List.all_cons] at hall
    simp at hall
  simp only [numberConstant?, String.toList_ofList, if_neg hcond]

/-- Without a sign in front a number is read as its magnitude. -/
theorem readFloat?_of_isNumber {cs : List Char} (h : IsNumber cs) :
    Decimal.readFloat? cs = Decimal.readMagnitude? cs := by
  obtain ⟨c, ds, rfl, hc⟩ := h.exists_cons
  exact Decimal.readFloat?_of_isDigit hc

/-- What is read from a number without a sign has no sign. -/
theorem hasNoSign_readMagnitude? {cs : List Char} {x : Float}
    (h : Decimal.readMagnitude? cs = some x) : Decimal.HasNoSign x := by
  unfold Decimal.readMagnitude? at h
  simp only at h
  split at h
  · obtain rfl := Option.some.inj h
    decide +kernel
  · split at h
    · obtain rfl := Option.some.inj h
      decide +kernel
    · obtain ⟨d, -, rfl⟩ := Option.map_eq_some_iff.1 h
      exact Decimal.hasNoSign_toFloat d

/-- A double that is written in plain digits without a sign. -/
theorem double_unsigned {x : Float} (hplain : Decimal.IsPlain x)
    (hsign : Decimal.signChars x = []) : (Expr.constant (.double x)).Prints .primary := by
  have hread := Decimal.readFloat?_render hplain
  obtain ⟨cs, hcs, hrender⟩ := Decimal.exists_toList_render hplain
  rw [hsign, List.nil_append] at hrender
  rw [hrender] at hread
  have hc : numberConstant? (String.ofList cs) = some (.double x) := by
    rw [numberConstant?_of_isPointed hcs, hread]
    rfl
  refine unsigned hc ?_ ?_
  · rw [String.toList_ofList]
    exact isNumber_of_isPointed hcs
  · rw [String.toList_ofList, Constant.text_double, hrender]

/-- A double that is written in plain digits is read back from them. The minus sign is read on
    its own, in front of the magnitude. -/
theorem double {x : Float} (hplain : Decimal.IsPlain x) :
    (Expr.constant (.double x)).Prints .sign := by
  by_cases hsign : Decimal.signChars x = []
  · exact (double_unsigned hplain hsign).sign_of_primary
  · have hread := Decimal.readFloat?_render hplain
    obtain ⟨cs, hcs, hrender⟩ := Decimal.exists_toList_render hplain
    have hminus : Decimal.signChars x = ['-'] := by
      unfold Decimal.signChars at hsign ⊢
      split at hsign
      · next h => rw [if_pos h]
      · exact absurd rfl hsign
    rw [hminus, List.cons_append, List.nil_append] at hrender
    rw [hrender] at hread
    obtain ⟨y, hy, hneg⟩ := Option.map_eq_some_iff.1 hread
    have hc : numberConstant? (String.ofList cs) = some (.double y) := by
      rw [numberConstant?_of_isPointed hcs, readFloat?_of_isNumber (isNumber_of_isPointed hcs), hy]
      rfl
    refine signed hc ?_ (congrArg (Expr.constant ∘ Constant.double) hneg) ?_
    · rw [String.toList_ofList]
      exact isNumber_of_isPointed hcs
    · rw [String.toList_ofList, Constant.text_double, hrender]

end Expr.Prints

end RecordFilter
