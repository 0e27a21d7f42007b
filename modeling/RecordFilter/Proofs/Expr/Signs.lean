import RecordFilter.Proofs.Expr.Operands
import RecordFilter.Proofs.Expr.Precedence
import RecordFilter.Proofs.Grammar.Blame
import RecordFilter.Proofs.Token.Separators

/-!
# Signs in front of numbers

A sign in front of a number becomes part of it when it is read. The number behind the signs has
none, so it is at most the greatest whole number of 64 bits, and neither it nor what minus signs
make of it is the least one, the only number whose negative does not fit. So signs are exact,
however many there are (`Expr.parse_signs`). Every number of a text stands for a constant: what is
too large for a whole number is a double.
-/

namespace RecordFilter

open RecordFilter.Parser

/-! ## Signs as text -/

namespace Token

/-- The token of a sign. -/
def sign (negative : Bool) : Token :=
  .symbol (if negative then .minus else .plus)

/-- Whether a text is made of signs with gaps behind them. A minus sign directly behind another
    one would begin a comment with it. -/
inductive IsSigns : (signs : List Bool) → List Char → Prop
  | nil : IsSigns [] []
  | cons {negative : Bool} {signs : List Bool} {gap cs : List Char} : IsGap gap →
    (negative → (gap ++ cs).head? ≠ some '-') → IsSigns signs cs →
    IsSigns (negative :: signs) ((if negative then '-' else '+') :: (gap ++ cs))

/-- Signs end in front of a digit. -/
theorem IsSigns.followsMinus {signs : List Bool} {gap cs : List Char} (h : IsSigns signs cs)
    (hgap : IsGap gap) (hne : (gap ++ cs).head? ≠ some '-') {c : Char} (hc : c.isDigit)
    (rest : List Char) : FollowsMinus (gap ++ (cs ++ c :: rest)) := by
  cases hgap with
  | comment => exact absurd rfl hne
  | @blank b gap hb _ =>
    refine ⟨b, _, rfl, ?_, ?_⟩ <;> rintro rfl <;> exact absurd hb (by decide)
  | nil =>
    cases h with
    | nil => refine ⟨c, rest, rfl, ?_, ?_⟩ <;> rintro rfl <;> exact absurd hc (by decide)
    | @cons negative =>
      cases negative with
      | true => exact absurd rfl hne
      | false => exact ⟨'+', _, rfl, by decide, by decide⟩

theorem tokens_plus (cs : List Char) : tokens ('+' :: cs) = sign false :: tokens cs :=
  tokens_symbol rfl (fun _ _ => rfl) fun h => absurd h (by decide)

/-- In front of a digit, signs are tokens of their own. -/
theorem IsSigns.tokens_append {signs : List Bool} {cs : List Char} (h : IsSigns signs cs)
    {c : Char} (hc : c.isDigit) (rest : List Char) :
    tokens (cs ++ c :: rest) = signs.map sign ++ tokens (c :: rest) := by
  induction h with
  | nil => rfl
  | @cons negative signs gap cs hgap hne hcs ih =>
    rw [List.cons_append, List.append_assoc, List.map_cons, List.cons_append, ← ih,
      ← hgap.tokens_append (cs ++ c :: rest)]
    cases negative with
    | false => exact tokens_plus _
    | true => exact (hcs.followsMinus hgap (hne rfl) hc rest).tokens

/-- Signs and digits, in front of what is not a part of the digits. -/
theorem IsSigns.tokens_digits {signs : List Bool} {cs digits tail : List Char}
    (h : IsSigns signs cs) (hne : digits ≠ []) (hdigits : digits.all Char.isDigit)
    (htail : EndsDigits tail) : tokens (cs ++ (digits ++ tail)) =
      signs.map sign ++ .number (String.ofList digits) :: tokens tail := by
  have hscan := scanNumber_digits hdigits htail
  obtain ⟨c, others, rfl⟩ := List.exists_cons_of_ne_nil hne
  rw [List.all_cons, Bool.and_eq_true] at hdigits
  rw [List.cons_append] at hscan ⊢
  rw [h.tokens_append hdigits.1, tokens_digit hdigits.1, hscan]

end Token

/-! ## Signs that are folded -/

namespace Parser

theorem lt_toInt {v : Int64} (h : v ≠ Int64.minValue) : -2 ^ 63 < v.toInt := by
  have hmin : v.toInt ≠ -2 ^ 63 := fun hv => h (Int64.toInt_inj.1 hv)
  have hlow := v.le_toInt
  omega

/-- The negative of a whole number is exact, if there is one. -/
theorem toInt_neg_of_ne {v : Int64} (h : v ≠ Int64.minValue) : (-v).toInt = -v.toInt := by
  have hlow := lt_toInt h
  have hhigh := v.toInt_lt
  rw [Int64.toInt_neg]
  exact Int.bmod_eq_of_le (by omega) (by omega)

/-- Any number of negations is exact, if the first one is. -/
theorem toInt_iterate_neg {v : Int64} (h : v ≠ Int64.minValue) (k : Nat) :
    (Neg.neg^[k] v).toInt = (-1) ^ k * v.toInt := by
  induction k generalizing v with
  | zero => rw [Function.iterate_zero, id, pow_zero, one_mul]
  | succ k ih =>
    rw [Function.iterate_succ_apply, ih (neg_ne_minValue h), toInt_neg_of_ne h, pow_succ,
      mul_neg_one, neg_mul, mul_neg]

/-- Minus signs in front of a whole number are all taken into it. -/
theorem iterate_negate_long (k : Nat) (v : Int64) :
    negate^[k] (.constant (.long v)) = .constant (.long (Neg.neg^[k] v)) :=
  (Function.Semiconj.iterate_right (f := fun v => Expr.constant (.long v)) (fun _ => rfl) k v).symm

theorem iterate_negate_double (k : Nat) (x : Float) :
    negate^[k] (.constant (.double x)) = .constant (.double (Neg.neg^[k] x)) :=
  (Function.Semiconj.iterate_right (f := fun x => Expr.constant (.double x)) (fun _ => rfl) k x).symm

/-! ## Signs that are read -/

variable {n : Nat} {ts rest : List Token}

/-- Each sign takes one step. -/
theorem expression_signs {e : Expr} (h : expression n .sign ts = .ok e rest) (signs : List Bool) :
    expression (n + signs.length) .sign (signs.map Token.sign ++ ts) =
      .ok (negate^[signs.count true] e) rest := by
  induction signs with
  | nil => exact h
  | cons negative signs ih =>
    rw [List.length_cons, ← Nat.add_assoc, expression, List.map_cons, List.cons_append, peek_bind]
    cases negative with
    | false =>
      rw [List.count_cons_of_ne (by decide)]
      exact ih
    | true =>
      rw [List.count_cons_self, Function.iterate_succ_apply']
      -- The sign is applied to what is read behind it, hence from outside.
      change (do return negate (← expression (n + signs.length) .sign) : Parser Expr)
        (signs.map Token.sign ++ ts) = _
      exact bind_eq_ok.2 ⟨_, rest, ih, rfl⟩

/-- A number is read from its token, if no arrow follows it. -/
theorem expression_number {digits : String} {c : Constant} (hc : numberConstant? digits = some c)
    (hr : rest.headD .endOfInput ≠ .symbol .arrow) :
    expression (n + 4) .sign (.number digits :: rest) = .ok (.constant c) rest := by
  have hprimary : expression (n + 2) .primary (.number digits :: rest) = .ok (.constant c) rest := by
    rw [expression, primary, peek_bind]
    simp only [List.headD_cons, advance_bind, List.tail_cons, hc]
    rfl
  have hjoin : Level.access.join? (rest.headD .endOfInput) = none := by
    unfold Level.join?
    split <;> first | rfl | simp_all
  have hjoined : joined (n + 2) .access (.constant c) rest = .ok (.constant c) rest := by
    rw [joined, peek_bind, hjoin]
    rfl
  -- Without a sign the level of arrows is entered, which reads a primary expression and then looks
  -- for an arrow.
  change (do joined (n + 2) .access (← expression (n + 2) .primary) : Parser Expr)
    (.number digits :: rest) = _
  exact bind_eq_ok.2 ⟨_, rest, hprimary, hjoined⟩

/-- Whether a constant is a whole number with a number of minus signs in front: a whole number
    of 64 bits if it is small enough, else the nearest double. -/
structure IsSignedNumber (minus value : Nat) (c : Constant) : Prop where
  long : value < 2 ^ 63 → ∃ v, c = .long v ∧ v.toInt = (-1) ^ minus * value
  double : 2 ^ 63 ≤ value → c = .double (Neg.neg^[minus] (Decimal.toFloat ⟨value, 0⟩))

/-- Digits, with any number of minus signs in front, stand for the number they are written for. -/
theorem exists_numberConstant? {digits : List Char} (hne : digits ≠ [])
    (hdigits : digits.all Char.isDigit) : ∃ c, numberConstant? (String.ofList digits) = some c ∧
      ∀ k, ∃ d, negate^[k] (.constant c) = .constant d ∧
        IsSignedNumber k (Text.digitsValue digits) d := by
  simp only [numberConstant?, String.toList_ofList]
  by_cases hlt : Text.digitsValue digits < 2 ^ 63
  · refine ⟨_, if_pos ⟨hne, hdigits, hlt⟩, fun k => ⟨_, iterate_negate_long k _, fun _ => ?_, ?_⟩⟩
    · refine ⟨_, rfl, ?_⟩
      rw [toInt_iterate_neg (ofNat_ne_minValue hlt), Int64.toInt_ofNat_of_lt hlt]
    · exact fun hle => absurd hlt (Nat.not_lt.2 hle)
  · -- More than 63 bits are read as a double, rounded from all digits.
    have hread := Decimal.readFloat?_append hne hdigits []
    rw [Decimal.readMagnitude?_append hne hdigits, List.append_nil,
      Decimal.readUnsigned?_digits hne hdigits, Option.map_some] at hread
    rw [if_neg fun h => hlt h.2.2, hread, Option.map_some]
    exact ⟨_, rfl, fun k => ⟨_, iterate_negate_double k _, fun h => absurd h hlt, fun _ => rfl⟩⟩

/-- Every number that is read in a text stands for a constant. -/
theorem numberConstant?_ne_none {digits : String} (h : Token.IsNumber digits.toList) :
    numberConstant? digits ≠ none := by
  obtain ⟨whole, hne, hw, hcs | ⟨fraction, -, hf, hcs⟩⟩ := h
  · obtain ⟨c, hc, -⟩ := exists_numberConstant? hne hw
    rw [← hcs, String.ofList_toList] at hc
    simp [hc]
  · have hread := Decimal.readFloat?_append hne hw ('.' :: fraction)
    rw [Decimal.readMagnitude?_append hne hw, Decimal.readUnsigned?_pointed hne hw hf,
      Option.map_some, ← hcs] at hread
    simp only [numberConstant?]
    split
    · exact Option.some_ne_none _
    · rw [hread]
      exact Option.some_ne_none _

/-- Signs and digits are read as the number they are written for, whatever follows that is
    neither an arrow nor a part of the digits. -/
theorem expression_signed {signs : List Bool} {cs digits tail : List Char}
    (hcs : Token.IsSigns signs cs) (hne : digits ≠ []) (hdigits : digits.all Char.isDigit)
    (htail : Token.EndsDigits tail)
    (harrow : (Token.tokens tail).headD .endOfInput ≠ .symbol .arrow) :
    ∃ c, IsSignedNumber (signs.count true) (Text.digitsValue digits) c ∧
      ∀ n, (Token.tokens (cs ++ (digits ++ tail))).length + 4 ≤ n →
        expression n .sign (Token.tokens (cs ++ (digits ++ tail))) =
          .ok (.constant c) (Token.tokens tail) := by
  obtain ⟨c, hc, hsigned⟩ := exists_numberConstant? hne hdigits
  obtain ⟨d, hd, hsigned⟩ := hsigned (signs.count true)
  refine ⟨d, hsigned, fun n hn => ?_⟩
  rw [hcs.tokens_digits hne hdigits htail] at hn ⊢
  rw [List.length_append, List.length_map, List.length_cons] at hn
  obtain ⟨m, rfl⟩ : ∃ m, n = m + 4 + signs.length := ⟨n - 4 - signs.length, by omega⟩
  rw [expression_signs (expression_number hc harrow) signs, hd]

/-- An error about the tokens of a text is not about a number. -/
theorem ne_badNumber {α : Type} {o : Outcome α} {cs : List Char} (h : o.Blames ts)
    (hts : ts <:+ Token.tokens cs) (digits : String) : o ≠ .error (.badNumber digits) rest := by
  rintro rfl
  obtain ⟨passed, rfl, hpassed, hnone⟩ := h
  -- The number that is to blame is among the tokens of the text, and those are all well formed.
  have hmem : .number digits ∈ passed := hpassed.subset List.mem_cons_self
  have htokens : .number digits ∈ Token.tokens cs := hts.subset (List.mem_append_left rest hmem)
  exact numberConstant?_ne_none (Token.isNumber_of_mem_tokens htokens) hnone

end Parser

namespace Phrase

theorem ne_minValue {level : Level} {v : Int64} {ts : List Token}
    (h : Phrase (.expression level (.constant (.long v))) ts) : v ≠ Int64.minValue := by
  rintro rfl
  exact h.isAboveLeast rfl

end Phrase

namespace Expr

/-- The whole numbers of an expression that was read have negatives. -/
theorem toInt_bounds_of_parse {text : String} {e : Expr} (h : Expr.parse text = .ok e) {v : Int64}
    (hv : (Expr.constant (.long v)).IsPart e) : -2 ^ 63 < v.toInt ∧ v.toInt < 2 ^ 63 := by
  obtain ⟨ts, -, -, pe⟩ := Expr.parse_eq_ok_iff.1 h
  obtain ⟨level, us, pv⟩ := pe.isRead_of_isPart hv
  exact ⟨lt_toInt pv.ne_minValue, v.toInt_lt⟩

/-- A text of signs and digits, with nothing behind them but blanks and comments, is read as the
    number that they are read as in front of anything. -/
theorem parse_signed {signs : List Bool} {cs digits tail : List Char} {c : Constant} {n : Nat}
    (hcs : Token.IsSigns signs cs) (hne : digits ≠ []) (hdigits : digits.all Char.isDigit)
    (htail : Token.EndsDigits tail) (hend : Token.tokens tail = [.endOfInput])
    (h : expression n .sign (Token.tokens (cs ++ (digits ++ tail))) =
      .ok (.constant c) (Token.tokens tail)) :
    Expr.parse (String.ofList (cs ++ (digits ++ tail))) = .ok (.constant c) := by
  have htokens := hcs.tokens_digits hne hdigits htail
  obtain ⟨us, hus, pe⟩ := sound n (.expression .sign (.constant c)) _ _ h
  rw [hend] at hus htokens
  refine Expr.parse_eq_ok_iff.2 ⟨us, ?_, ?_, pe.disjunction_of_sign⟩
  · rw [Token.ofString, String.toList_ofList, hus]
  · rw [← unterminatedQuote?_append_endOfInput, ← hus, htokens, unterminatedQuote?,
      List.findSome?_eq_none_iff]
    intro t ht
    simp only [List.mem_append, List.mem_map, List.mem_cons, List.not_mem_nil, or_false] at ht
    rcases ht with ⟨negative, -, rfl⟩ | rfl | rfl <;> rfl

/-- No text is refused for a number in it. -/
theorem parse_ne_badNumber (text digits : String) : Expr.parse text ≠ .error (.badNumber digits) := by
  unfold Expr.parse
  split
  · exact nofun
  · next cause rest h =>
    rintro ⟨⟩
    exact ne_badNumber blames_filter (List.suffix_refl _) digits h

/-- Signs are exact: every whole number that is read has a negative, and signs and digits are
    read as the number they are written for. No number of a text is bad. -/
theorem parse_signs :
    (∀ text e, Expr.parse text = .ok e → ∀ v, (Expr.constant (.long v)).IsPart e →
      -2 ^ 63 < v.toInt ∧ v.toInt < 2 ^ 63) ∧
    (∀ n ts v rest, expression n .sign ts = .ok (.constant (.long v)) rest →
      (-v).toInt = -v.toInt) ∧
    (∀ signs cs digits tail, Token.IsSigns signs cs → digits ≠ [] → digits.all Char.isDigit →
      Token.EndsDigits tail → (Token.tokens tail).headD .endOfInput ≠ .symbol .arrow →
      ∃ c, IsSignedNumber (signs.count true) (Text.digitsValue digits) c ∧
        (∀ n, (Token.tokens (cs ++ (digits ++ tail))).length + 4 ≤ n →
          expression n .sign (Token.tokens (cs ++ (digits ++ tail))) =
            .ok (.constant c) (Token.tokens tail)) ∧
        (Token.tokens tail = [.endOfInput] →
          Expr.parse (String.ofList (cs ++ (digits ++ tail))) = .ok (.constant c))) ∧
    (∀ text digits, Expr.parse text ≠ .error (.badNumber digits)) ∧
    ∀ text ts, ts <:+ Token.ofString text → ∀ n level digits rest,
      expression n level ts ≠ .error (.badNumber digits) rest := by
  refine ⟨fun _ _ he _ hv => toInt_bounds_of_parse he hv, fun n ts v rest h => ?_,
    fun signs cs digits tail hcs hne hdigits htail harrow => ?_, parse_ne_badNumber,
    fun text ts hts n level digits rest => ?_⟩
  · obtain ⟨us, -, pv⟩ := sound n (.expression .sign _) _ _ h
    exact toInt_neg_of_ne pv.ne_minValue
  · obtain ⟨c, hsigned, hread⟩ := expression_signed hcs hne hdigits htail harrow
    exact ⟨c, hsigned, hread,
      fun hend => parse_signed hcs hne hdigits htail hend (hread _ (Nat.le_refl _))⟩
  · exact ne_badNumber (blames n).expression hts digits

/-- The greatest whole number behind three minus signs and a plus sign, and the next one, which is
    none of 64 bits, behind one. -/
theorem parse_signs_greatest :
    (∃ v : Int64, v.toInt = -9223372036854775807 ∧
      Expr.parse "- +\n- -9223372036854775807 " = .ok (.constant (.long v)) ∧
      (-2 ^ 63 < v.toInt ∧ v.toInt < 2 ^ 63)) ∧
    Expr.parse "+-9223372036854775808" =
      .ok (.constant (.double (-Decimal.toFloat ⟨9223372036854775808, 0⟩))) ∧
    (expression 5 .sign [.symbol .minus, .number "7"] = .ok (.constant (.long (-7))) [] ∧
      (- -7 : Int64).toInt = 7) ∧
    ([.number "1.5", .endOfInput] <:+ Token.ofString "-1.5" ∧
      ∀ n digits rest, expression n .sign [.number "1.5", .endOfInput] ≠
        .error (.badNumber digits) rest) := by
  obtain ⟨hbounds, hneg, hread, -, hbad⟩ := parse_signs
  have hblank {c : Char} (h : Text.isBlank c) : Token.IsGap [c] := .blank h .nil
  have hthree : Token.IsSigns [true, false, true, true] "- +\n- -".toList :=
    .cons (hblank (c := ' ') rfl) (by decide) <| .cons (hblank (c := '\n') rfl) (by decide) <|
      .cons (hblank (c := ' ') rfl) (by decide) <| .cons .nil (by decide) .nil
  have hone : Token.IsSigns [false, true] "+-".toList :=
    .cons .nil (by decide) <| .cons .nil (by decide) .nil
  have hends : Token.EndsDigits [] := Token.stops_nil.endsDigits
  have hblankEnds : Token.EndsDigits [' '] := (Token.stops_blank []).endsDigits
  refine ⟨?_, ?_, ⟨rfl, ?_⟩, ?_⟩
  · obtain ⟨c, hsigned, -, hparse⟩ := hread _ _ "9223372036854775807".toList [' '] hthree
      (by decide) (by decide) hblankEnds (by decide +kernel)
    have hvalue : Text.digitsValue "9223372036854775807".toList = 9223372036854775807 := rfl
    rw [hvalue] at hsigned
    obtain ⟨v, rfl, hv⟩ := hsigned.long (by decide)
    have hparse := hparse (by decide +kernel)
    exact ⟨v, hv, hparse, hbounds _ _ hparse v .self⟩
  · obtain ⟨c, hsigned, -, hparse⟩ := hread _ _ "9223372036854775808".toList [] hone
      (by decide) (by decide) hends (by decide +kernel)
    have hvalue : Text.digitsValue "9223372036854775808".toList = 9223372036854775808 := rfl
    rw [hvalue] at hsigned
    obtain rfl := hsigned.double (by decide)
    exact hparse (by decide +kernel)
  · exact hneg 5 [.symbol .minus, .number "7"] (-7) [] rfl
  · have hsuffix : [.number "1.5", .endOfInput] <:+ Token.ofString "-1.5" := by decide +kernel
    exact ⟨hsuffix, fun n digits rest => hbad _ _ hsuffix n _ digits rest⟩

end Expr

end RecordFilter
