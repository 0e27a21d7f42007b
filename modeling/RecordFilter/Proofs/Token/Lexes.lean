import RecordFilter.Proofs.Text.Digits
import RecordFilter.Proofs.Token.Classes

/-!
# Texts that are split into given tokens

What tokens a text has depends on what follows it: `NOT` in front of `1` is part of
a name. In front of a *stop*, a blank, a parenthesis, a comma or the end of the text,
no token goes on (`Token.Stops`), and the texts of which whole expressions are put
together are split there always in the same way (`Token.Lexes`).
-/

namespace RecordFilter.Token

/-! ## The first token -/

/-- The tokens of a text are the one that its first character behind blanks and comments begins and
    those of what is left. -/
theorem tokens_of_skip {cs : List Char} {c : Char} {rest : List Char}
    (h : skip false cs = c :: rest) : tokens cs = (scan c rest).1 :: tokens (scan c rest).2 := by
  rw [tokens]
  split
  · next h' => cases h.symm.trans h'
  · next h' =>
    obtain ⟨rfl, rfl⟩ := List.cons.inj (h.symm.trans h')
    rfl

/-- A text of blanks and comments has no token but the end of the input. -/
theorem tokens_of_skip_nil {cs : List Char} (h : skip false cs = []) :
    tokens cs = [.endOfInput] := by
  rw [tokens]
  split
  · rfl
  · next h' => cases h.symm.trans h'

theorem tokens_nil : tokens [] = [.endOfInput] :=
  tokens_of_skip_nil rfl

/-- What is skipped in front of a text has no tokens. -/
theorem tokens_congr {cs ds : List Char} (h : skip false cs = skip false ds) :
    tokens cs = tokens ds := by
  cases hds : skip false ds with
  | nil => rw [tokens_of_skip_nil hds, tokens_of_skip_nil (h.trans hds)]
  | cons c rest => rw [tokens_of_skip hds, tokens_of_skip (h.trans hds)]

@[simp]
theorem tokens_blank (cs : List Char) : tokens (' ' :: cs) = tokens cs :=
  tokens_congr rfl

/-- Nothing is skipped in front of a character that is no blank and begins no comment. -/
theorem skip_of_not_blank {c : Char} {rest : List Char} (hb : Text.isBlank c = false)
    (hc : c = '-' → rest.head? ≠ some '-') : skip false (c :: rest) = c :: rest := by
  unfold skip
  split
  · next h => cases h
  · next h _ => cases h
  · next h =>
    obtain ⟨rfl, rfl⟩ := List.cons.inj h
    exact absurd rfl (hc rfl)
  · next h =>
    obtain ⟨rfl, rfl⟩ := List.cons.inj h
    rw [if_neg (by simp [hb])]

/-- The first token, if its character is neither a blank nor begins a comment. -/
theorem tokens_cons {c : Char} {rest : List Char} (hb : Text.isBlank c = false)
    (hc : c = '-' → rest.head? ≠ some '-') :
    tokens (c :: rest) = (scan c rest).1 :: tokens (scan c rest).2 :=
  tokens_of_skip (skip_of_not_blank hb hc)

/-! ## Stops -/

/-- Whether no token goes on with the character. -/
def isStop (c : Char) : Bool :=
  Text.isBlank c || ['(', ')', ','].contains c

theorem isStop_of_isBlank {c : Char} (h : Text.isBlank c) : isStop c := by
  rw [isStop, h]
  rfl

theorem continuesName_of_isStop {c : Char} (h : isStop c) : continuesName c = false := by
  rw [isStop, Bool.or_eq_true, List.contains_iff_mem] at h
  rcases h with h | h
  · rw [Bool.eq_false_iff]
    intro hc
    rw [isBlank_of_continuesName hc] at h
    cases h
  · have hparens : ['(', ')', ','].all (continuesName · == false) := by decide +kernel
    exact eq_of_beq (List.all_eq_true.1 hparens c h)

theorem isDigit_of_isStop {c : Char} (h : isStop c) : c.isDigit = false := by
  rw [Bool.eq_false_iff]
  intro hc
  have hascii := forall_ascii (p := fun c => c.isDigit = true → isStop c = false)
    (by decide +kernel) (toNat_lt_of_isDigit hc) hc
  rw [h] at hascii
  cases hascii

/-- Whether no token goes on with the text. -/
def Stops (cs : List Char) : Prop :=
  ∀ c ∈ cs.head?, isStop c

theorem stops_nil : Stops [] := by
  simp [Stops]

theorem stops_cons {c : Char} {cs : List Char} : Stops (c :: cs) ↔ isStop c := by
  simp [Stops]

theorem stops_blank (cs : List Char) : Stops (' ' :: cs) :=
  stops_cons.2 rfl

/-- If no token goes on with either of two texts, none goes on with both together. -/
theorem Stops.append {cs ds : List Char} (hc : Stops cs) (hd : Stops ds) : Stops (cs ++ ds) := by
  cases cs with
  | nil => exact hd
  | cons c cs => exact hc

/-- What no token goes on with does not begin with a character that is no stop. -/
theorem Stops.ne {cs : List Char} (h : Stops cs) {d : Char} (hd : isStop d = false) :
    cs.head? ≠ some d := by
  intro hc
  rw [h d hc] at hd
  cases hd

/-- No symbol of two characters ends with a stop. -/
theorem Stops.pairSymbol? {cs : List Char} (h : Stops cs) (c : Char) :
    cs.head?.bind (Token.pairSymbol? c) = none := by
  rw [Option.bind_eq_none_iff]
  intro d hd
  have hstop := h d hd
  unfold Token.pairSymbol?
  split <;> first | rfl | exact absurd hstop (by decide)

/-- Whether a text is split into the tokens wherever it stands in front of a stop. -/
def Lexes (cs : List Char) (ts : List Token) : Prop :=
  ∀ rest, Stops rest → tokens (cs ++ rest) = ts ++ tokens rest

theorem isBlank_of_symbol? {c : Char} {s : Symbol} (h : symbol? c = some s) :
    Text.isBlank c = false := by
  unfold symbol? at h
  split at h <;> first | decide | cases h

/-- A symbol of one character, if it does not begin one of two characters or a comment. -/
theorem tokens_symbol {c : Char} {s : Symbol} {cs : List Char} (hs : symbol? c = some s)
    (hpair : ∀ d ∈ cs.head?, pairSymbol? c d = none) (hc : c = '-' → cs.head? ≠ some '-') :
    tokens (c :: cs) = .symbol s :: tokens cs := by
  have hscan : scan c cs = (.symbol s, cs) := by
    simp only [scan, Option.bind_eq_none_iff.2 hpair, hs]
  rw [tokens_cons (isBlank_of_symbol? hs) hc, hscan]

namespace Lexes

/-! ## Putting texts together -/

theorem nil : Lexes [] [] :=
  fun _ _ => rfl

/-- Two texts are split one after the other if no token goes on with the second one. -/
theorem append {cs ds : List Char} {ts us : List Token} (hc : Lexes cs ts) (hd : Lexes ds us)
    (hs : Stops ds) : Lexes (cs ++ ds) (ts ++ us) := by
  intro rest hr
  rw [List.append_assoc, List.append_assoc, hc _ (hs.append hr), hd rest hr]

theorem blank {cs : List Char} {ts : List Token} (h : Lexes cs ts) : Lexes (' ' :: cs) ts := by
  intro rest hr
  rw [List.cons_append, tokens_blank, h rest hr]

theorem spaced {cs ds : List Char} {ts us : List Token} (hc : Lexes cs ts) (hd : Lexes ds us) :
    Lexes (cs ++ ' ' :: ds) (ts ++ us) :=
  hc.append hd.blank (stops_blank ds)

/-- A symbol in front of a text, if no symbol of two characters begins like it. -/
theorem delimited {c : Char} {s : Symbol} {cs : List Char} {ts : List Token}
    (hc : c ∈ ['(', ')', ',', '.']) (hs : symbol? c = some s) (h : Lexes cs ts) :
    Lexes (c :: cs) (.symbol s :: ts) := by
  intro rest hr
  have hpair (d : Char) : pairSymbol? c d = none := by
    unfold pairSymbol?
    split <;> first | rfl | exact absurd hc (by decide)
  have hminus : c = '-' → (cs ++ rest).head? ≠ some '-' := by
    rintro rfl
    exact absurd hc (by decide)
  rw [List.cons_append, tokens_symbol hs (fun d _ => hpair d) hminus, h rest hr]
  rfl

theorem leftParen {cs : List Char} {ts : List Token} (h : Lexes cs ts) :
    Lexes ('(' :: cs) (.symbol .leftParen :: ts) :=
  delimited (by decide) rfl h

theorem rightParen {cs : List Char} {ts : List Token} (h : Lexes cs ts) :
    Lexes (')' :: cs) (.symbol .rightParen :: ts) :=
  delimited (by decide) rfl h

theorem comma {cs : List Char} {ts : List Token} (h : Lexes cs ts) :
    Lexes (',' :: cs) (.symbol .comma :: ts) :=
  delimited (by decide) rfl h

theorem parens {cs : List Char} {ts : List Token} (h : Lexes cs ts) :
    Lexes ('(' :: (cs ++ [')'])) (.symbol .leftParen :: (ts ++ [.symbol .rightParen])) :=
  leftParen (h.append (rightParen nil) (stops_cons.2 (by decide)))

end Lexes

/-- Whether a text begins with a character that a minus sign in front of it does not
    take for the rest of a comment mark or an arrow. -/
def FollowsMinus (cs : List Char) : Prop :=
  ∃ c rest, cs = c :: rest ∧ c ≠ '-' ∧ c ≠ '>'

theorem FollowsMinus.append {cs ds : List Char} (h : FollowsMinus cs) :
    FollowsMinus (cs ++ ds) := by
  obtain ⟨c, rest, rfl, hc⟩ := h
  exact ⟨c, rest ++ ds, rfl, hc⟩

/-- A minus sign in front of such a text is a token of its own. -/
theorem FollowsMinus.tokens {cs : List Char} (h : FollowsMinus cs) :
    tokens ('-' :: cs) = .symbol .minus :: tokens cs := by
  obtain ⟨c, rest, rfl, hminus, harrow⟩ := h
  refine tokens_symbol rfl ?_ fun _ hc => hminus (Option.some.inj hc)
  rintro _ ⟨⟩
  unfold pairSymbol?
  split <;> first | rfl | exact absurd rfl harrow | simp_all

theorem Lexes.minus {cs : List Char} {ts : List Token} (h : Lexes cs ts) (hcs : FollowsMinus cs) :
    Lexes ('-' :: cs) (.symbol .minus :: ts) := by
  intro rest hr
  rw [List.cons_append, hcs.append.tokens, h rest hr]
  rfl

/-! ## Single tokens -/

/-- A token whose first character begins neither a blank nor a comment. -/
theorem lexes_of_scan {c : Char} {cs : List Char} {t : Token} (hb : Text.isBlank c = false)
    (hc : c = '-' → ∀ rest, Stops rest → (cs ++ rest).head? ≠ some '-')
    (h : ∀ rest, Stops rest → scan c (cs ++ rest) = (t, rest)) : Lexes (c :: cs) [t] := by
  intro rest hr
  rw [List.cons_append, tokens_cons hb fun he => hc he rest hr, h rest hr]
  rfl

/-- A symbol of one character is split off in front of every stop, the minus sign too, as no stop
    makes a comment of it. -/
theorem lexes_single {c : Char} {s : Symbol} (h : symbol? c = some s) : Lexes [c] [.symbol s] := by
  refine lexes_of_scan (isBlank_of_symbol? h) ?_ ?_
  · exact fun _ rest hr => hr.ne (by decide)
  · intro rest hr
    simp only [List.nil_append, scan, hr.pairSymbol?, h]

/-- A symbol of two characters is one token, not two. -/
theorem lexes_pair {c d : Char} {s : Symbol} (hb : Text.isBlank c = false) (hd : d ≠ '-')
    (h : pairSymbol? c d = some s) : Lexes [c, d] [.symbol s] := by
  refine lexes_of_scan hb ?_ ?_
  · exact fun _ rest _ hm => hd (Option.some.inj hm)
  · intro rest _
    simp only [List.cons_append, List.nil_append, scan, List.head?_cons, Option.bind_some, h,
      List.tail_cons]

theorem lexes_symbol (s : Symbol) : Lexes s.text.toList [.symbol s] := by
  cases s with
  | notEqual | lessEqual | greaterEqual | concat | arrow =>
    exact lexes_pair (by decide) (by decide) rfl
  | _ => exact lexes_single rfl

/-! ### Words -/

/-- A word is read to its end if nothing follows that it could go on with. -/
theorem scan_word {c : Char} {cs rest : List Char} (hc : beginsName c) (hcs : cs.all continuesName)
    (hr : ∀ d ∈ rest.head?, continuesName d = false) :
    scan c (cs ++ rest) = (ofWord (String.ofList (c :: cs)), rest) := by
  have hsymbol := symbol?_of_beginsName hc
  have hpair : (cs ++ rest).head?.bind (pairSymbol? c) = none := by
    rw [Option.bind_eq_none_iff]
    intro d _
    refine pairSymbol?_of_symbol? hsymbol ?_ d
    rintro rfl
    exact absurd hc (by decide +kernel)
  have hquote : c ≠ '\'' ∧ c ≠ '"' ∧ c ≠ '\x60' := by
    refine ⟨?_, ?_, ?_⟩ <;> rintro rfl <;> exact absurd hc (by decide +kernel)
  simp only [scan, hpair, hsymbol, hquote, or_self, if_false, hc, if_true,
    Text.takeWhile_append_stop hcs hr, Text.dropWhile_append_stop hcs hr]

/-- Whether a text is a single word. -/
def isWord : List Char → Bool
  | [] => false
  | c :: cs => beginsName c && cs.all continuesName

/-- Whether a name can be written without quotes. -/
def IsBare (name : String) : Prop :=
  isWord name.toList ∧ Keyword.ofName? name = none

instance (name : String) : Decidable (IsBare name) :=
  inferInstanceAs (Decidable (_ ∧ _))

theorem ofWord_of_none {word : String} (h : Keyword.ofName? word = none) :
    ofWord word = .name word := by
  rw [ofWord, h]

theorem ofWord_of_some {word : String} {kind : Keyword} (h : Keyword.ofName? word = some kind) :
    ofWord word = .keyword kind := by
  rw [ofWord, h]

theorem ofWord_of_isBare {name : String} (h : IsBare name) : ofWord name = .name name :=
  ofWord_of_none h.2

/-- A word is a keyword or a name. -/
theorem ofWord_cases (word : String) :
    (∃ kind, ofWord word = .keyword kind) ∨
      Keyword.ofName? word = none ∧ ofWord word = .name word := by
  cases h : Keyword.ofName? word with
  | none => exact .inr ⟨rfl, ofWord_of_none h⟩
  | some kind => exact .inl ⟨kind, ofWord_of_some h⟩

/-- A word in front of what it could not go on with. -/
theorem tokens_word {cs rest : List Char} (h : isWord cs)
    (hr : ∀ d ∈ rest.head?, continuesName d = false) :
    tokens (cs ++ rest) = ofWord (String.ofList cs) :: tokens rest := by
  cases cs with
  | nil => cases h
  | cons c cs =>
    rw [isWord, Bool.and_eq_true] at h
    have hminus : c = '-' → (cs ++ rest).head? ≠ some '-' := by
      rintro rfl
      exact absurd h.1 (by decide +kernel)
    rw [List.cons_append, tokens_cons (isBlank_of_beginsName h.1) hminus, scan_word h.1 h.2 hr]

/-- A word is one token, a keyword or a name. -/
theorem lexes_word {cs : List Char} (h : isWord cs) : Lexes cs [ofWord (String.ofList cs)] :=
  fun _ hr => tokens_word h fun c hc => continuesName_of_isStop (hr c hc)

theorem lexes_keyword (k : Keyword) : Lexes k.text.toList [.keyword k] := by
  have hword : isWord k.text.toList ∧ ofWord k.text = .keyword k := by
    cases k <;> decide +kernel
  have h := lexes_word hword.1
  rwa [String.ofList_toList, hword.2] at h

/-- A name that needs no quotes is read from its letters. -/
theorem lexes_name {name : String} (h : IsBare name) : Lexes name.toList [.name name] := by
  have hlex := lexes_word h.1
  rwa [String.ofList_toList, ofWord_of_isBare h] at hlex

/-- Two words with a point between them. -/
theorem lexes_qualified {left right : String} (hl : isWord left.toList) (hr : isWord right.toList) :
    Lexes (left.toList ++ '.' :: right.toList) [ofWord left, .symbol .dot, ofWord right] := by
  intro rest hs
  have hword := lexes_word hr
  rw [String.ofList_toList] at hword
  have hpoint := Lexes.delimited (c := '.') (by decide) rfl hword
  rw [List.append_assoc, tokens_word hl, String.ofList_toList]
  · exact congrArg _ (hpoint rest hs)
  · rintro _ ⟨⟩
    decide +kernel

/-! ### Numbers -/

/-- Whether a text is a number: digits, or digits around a point. -/
def IsNumber (cs : List Char) : Prop :=
  ∃ whole, whole ≠ [] ∧ whole.all Char.isDigit ∧
    (cs = whole ∨ ∃ fraction, fraction ≠ [] ∧ fraction.all Char.isDigit ∧
      cs = whole ++ '.' :: fraction)

theorem IsNumber.exists_cons {cs : List Char} (h : IsNumber cs) :
    ∃ c ds, cs = c :: ds ∧ c.isDigit := by
  obtain ⟨whole, hne, hw, hcs⟩ := h
  obtain ⟨c, whole, rfl⟩ := List.exists_cons_of_ne_nil hne
  rw [List.all_cons, Bool.and_eq_true] at hw
  rcases hcs with rfl | ⟨fraction, -, -, rfl⟩
  · exact ⟨c, whole, rfl, hw.1⟩
  · exact ⟨c, _, rfl, hw.1⟩

/-- Whether a text does not go on with the digits in front of it. -/
def EndsDigits (cs : List Char) : Prop :=
  (∀ c ∈ cs.head?, c.isDigit = false) ∧ ∀ c rest, cs = '.' :: c :: rest → c.isDigit = false

/-- Digits do not go on in front of a stop. -/
theorem Stops.endsDigits {cs : List Char} (h : Stops cs) : EndsDigits cs := by
  refine ⟨fun c hc => isDigit_of_isStop (h c hc), ?_⟩
  rintro c rest rfl
  exact absurd rfl (h.ne (d := '.') (by decide))

theorem scanNumber_digits {whole cs : List Char} (hw : whole.all Char.isDigit)
    (h : EndsDigits cs) : scanNumber (whole ++ cs) = (whole, cs) := by
  unfold scanNumber
  rw [Text.takeWhile_append_stop hw h.1, Text.dropWhile_append_stop hw h.1]
  split
  · next d rest =>
    rw [if_neg]
    simp [h.2 d rest rfl]
  · rfl

/-- A number is read to its end in front of a stop. -/
theorem scanNumber_append {cs rest : List Char} (h : IsNumber cs) (hr : Stops rest) :
    scanNumber (cs ++ rest) = (cs, rest) := by
  have hdigit := hr.endsDigits.1
  obtain ⟨whole, -, hw, rfl | ⟨fraction, hne, hf, rfl⟩⟩ := h
  · exact scanNumber_digits hw hr.endsDigits
  · have hpoint : ∀ c ∈ ('.' :: (fraction ++ rest)).head?, c.isDigit = false := by
      rintro _ ⟨⟩
      rfl
    unfold scanNumber
    rw [List.append_assoc, List.cons_append, Text.takeWhile_append_stop hw hpoint,
      Text.dropWhile_append_stop hw hpoint]
    -- The point is only passed because a digit stands behind it.
    cases fraction with
    | nil => exact absurd rfl hne
    | cons d fraction =>
      rw [List.all_cons, Bool.and_eq_true] at hf
      simp only [List.cons_append, hf.1, if_true, Text.takeWhile_append_stop hf.2 hdigit,
        Text.dropWhile_append_stop hf.2 hdigit]

/-- What is read from a digit on is a number; a point belongs to it only if a digit follows. -/
theorem isNumber_scanNumber {c : Char} (hc : c.isDigit) (rest : List Char) :
    IsNumber (scanNumber (c :: rest)).1 := by
  have hwhole : ((c :: rest).takeWhile Char.isDigit).all Char.isDigit := List.all_takeWhile
  have hne : (c :: rest).takeWhile Char.isDigit ≠ [] := by simp [hc]
  unfold scanNumber
  split
  · next d after _ =>
    split
    · next hd =>
      refine ⟨_, hne, hwhole, .inr ⟨d :: after.takeWhile Char.isDigit, by simp, ?_, rfl⟩⟩
      rw [List.all_cons, hd, List.all_takeWhile]
      rfl
    · exact ⟨_, hne, hwhole, .inl rfl⟩
  · exact ⟨_, hne, hwhole, .inl rfl⟩

theorem tokens_digit {c : Char} (hc : c.isDigit) (rest : List Char) :
    tokens (c :: rest) = .number (String.ofList (scanNumber (c :: rest)).1) ::
      tokens (scanNumber (c :: rest)).2 := by
  have hname := beginsName_of_isDigit hc
  have hsymbol := symbol?_of_isDigit hc
  have hother : ∀ d ∈ ['-', '!', '\'', '"', '\x60'], c ≠ d := by
    rintro d hd rfl
    have hnone : (['-', '!', '\'', '"', '\x60'].all fun d => !d.isDigit) = true := by decide
    have hc' := List.all_eq_true.1 hnone c hd
    rw [hc] at hc'
    cases hc'
  have hpair : rest.head?.bind (pairSymbol? c) = none := by
    rw [Option.bind_eq_none_iff]
    exact fun d _ => pairSymbol?_of_symbol? hsymbol (hother _ (by decide)) d
  have hsingle : c ≠ '\'' := hother _ (by decide)
  have hdouble : ¬(c = '"' ∨ c = '\x60') := not_or.2 ⟨hother _ (by decide), hother _ (by decide)⟩
  rw [tokens_cons (isBlank_of_isDigit hc) fun he => absurd he (hother _ (by decide))]
  simp only [scan, hpair, hsymbol, if_neg hsingle, if_neg hdouble, hname, hc, if_true]
  rfl

/-- A number is one token, with the text it is written in. -/
theorem lexes_number {digits : String} (h : IsNumber digits.toList) :
    Lexes digits.toList [.number digits] := by
  obtain ⟨c, cs, hcs, hc⟩ := h.exists_cons
  intro rest hr
  have hscan := scanNumber_append h hr
  rw [hcs, List.cons_append] at hscan
  rw [hcs, List.cons_append, tokens_digit hc, hscan, ← hcs, String.ofList_toList]
  rfl

/-! ### Quoted texts -/

/-- A text whose quotes are doubled is read back between quotes, and the reading stops behind the
    closing one. -/
theorem readQuoted_doubleQuotes (quote : Char) (cs : List Char) {rest : List Char}
    (hr : rest.head? ≠ some quote) :
    Text.readQuoted quote (Text.doubleQuotes quote cs ++ quote :: rest) = some (cs, rest) := by
  induction cs with
  | nil =>
    cases rest with
    | nil => simp [Text.doubleQuotes, Text.readQuoted]
    | cons d rest =>
      -- The quote at the end closes the text unless another one follows it.
      have hd : d ≠ quote := fun h => hr (congrArg some h)
      simp [Text.doubleQuotes, Text.readQuoted, hd]
  | cons c cs ih =>
    by_cases hc : c = quote
    · subst hc
      simp only [Text.doubleQuotes, List.flatMap_cons, if_true, List.cons_append, List.nil_append,
        Text.readQuoted] at ih ⊢
      rw [ih]
      rfl
    · simp only [Text.doubleQuotes, List.flatMap_cons, if_neg hc, List.cons_append,
        List.nil_append] at ih ⊢
      -- The equations of the reader need to know the character after this one, which may be a
      -- quote; so its definition is opened instead.
      rw [Text.readQuoted.eq_def]
      simp only [if_neg hc, ih]
      rfl

/-- A text between quotes is a single token, whatever its characters are. -/
theorem lexes_scanQuoted {quote : Char} {token : String → Token} (hstop : isStop quote = false)
    (hminus : quote ≠ '-') (hscan : ∀ rest, scan quote rest = scanQuoted quote rest token)
    (text : String) :
    Lexes (quote :: (Text.doubleQuotes quote text.toList ++ [quote])) [token text] := by
  have hb : Text.isBlank quote = false := by
    rw [isStop, Bool.or_eq_false_iff] at hstop
    exact hstop.1
  refine lexes_of_scan hb (fun h => absurd h hminus) ?_
  intro rest hr
  have hread : Text.readQuoted quote ((Text.doubleQuotes quote text.toList ++ [quote]) ++ rest) =
      some (text.toList, rest) := by
    rw [List.append_assoc]
    exact readQuoted_doubleQuotes quote text.toList (hr.ne hstop)
  rw [hscan, scanQuoted, hread]
  simp only [String.ofList_toList]

/-- A single quote begins a string, the other quotes begin a name. -/
theorem scan_quote {quote : Char} (h : quote ∈ ['\'', '"', '\x60']) (rest : List Char) :
    scan quote rest = scanQuoted quote rest (if quote = '\'' then .string else .name) := by
  have hsymbol : symbol? quote = none ∧ quote ≠ '!' := by
    simp only [List.mem_cons, List.not_mem_nil, or_false] at h
    rcases h with rfl | rfl | rfl <;> decide
  have hpair : rest.head?.bind (pairSymbol? quote) = none := by
    rw [Option.bind_eq_none_iff]
    exact fun d _ => pairSymbol?_of_symbol? hsymbol.1 hsymbol.2 d
  simp only [scan, hpair, hsymbol.1]
  simp only [List.mem_cons, List.not_mem_nil, or_false] at h
  rcases h with rfl | rfl | rfl <;> rfl

/-- Every text is read back from its quoted form as a string. -/
theorem lexes_string (text : String) : Lexes (Text.quoted text).toList [.string text] := by
  rw [Text.quoted, String.toList_ofList]
  exact lexes_scanQuoted (by decide) (by decide) (scan_quote (by decide)) text

/-- A name between double quotes or backquotes. -/
theorem lexes_quotedName {quote : Char} (h : quote = '"' ∨ quote = '\x60') (name : String) :
    Lexes (quote :: (Text.doubleQuotes quote name.toList ++ [quote])) [.name name] := by
  rcases h with rfl | rfl <;>
    exact lexes_scanQuoted (by decide) (by decide) (scan_quote (by decide)) name

/-! ## Tokens of a text -/

/-- A character that begins no token of more characters. -/
theorem lexes_illegal {c : Char} (hb : Text.isBlank c = false) (hs : symbol? c = none)
    (hquote : c ≠ '\'' ∧ ¬(c = '"' ∨ c = '\x60')) (hname : beginsName c = false)
    (hdigit : c.isDigit = false) : Lexes [c] [.illegal c] := by
  refine lexes_of_scan hb ?_ ?_
  · rintro rfl
    cases hs
  · intro rest hr
    simp [scan, hr.pairSymbol?, hs, hquote, hname, hdigit]

/-- What is read as a word is one. -/
theorem isWord_takeWhile {c : Char} (hc : beginsName c) (rest : List Char) :
    isWord (c :: rest.takeWhile continuesName) := by
  rw [isWord, hc, List.all_takeWhile]
  rfl

/-- The tokens that a character can begin. -/
inductive Begins (c : Char) : Token → Prop
  | symbol (s : Symbol) : Begins c (.symbol s)
  | string (text : String) : Begins c (.string text)
  | name (text : String) : c = '"' ∨ c = '\x60' → Begins c (.name text)
  | unterminated (quote : Char) : Begins c (.unterminated quote)
  | word {word : String} : isWord word.toList → Begins c (ofWord word)
  | number {digits : String} : IsNumber digits.toList → Begins c (.number digits)
  | illegal : symbol? c = none → c ≠ '\'' ∧ ¬(c = '"' ∨ c = '\x60') → beginsName c = false →
    c.isDigit = false → Begins c (.illegal c)

/-- What begins with a quote is a token of the text between quotes, or a quote that is not
    closed. -/
theorem begins_scanQuoted {c quote : Char} {rest : List Char} {token : String → Token}
    (h : ∀ text, Begins c (token text)) : Begins c (scanQuoted quote rest token).1 := by
  unfold scanQuoted
  split
  · exact h _
  · exact .unterminated quote

/-- Every token that is read is one that its first character can begin. -/
theorem begins_scan (c : Char) (rest : List Char) : Begins c (scan c rest).1 := by
  have h := scans c rest
  generalize scan c rest = scanned at h
  cases h with
  | pair | symbol => exact .symbol _
  | string => exact begins_scanQuoted .string
  | name hquote => exact begins_scanQuoted fun text => .name text hquote
  | word hname =>
    dsimp only
    refine .word ?_
    rw [String.toList_ofList]
    exact isWord_takeWhile hname rest
  | number hdigit =>
    refine .number ?_
    rw [String.toList_ofList]
    exact isNumber_scanNumber hdigit rest
  | illegal hsymbol hquote hname hdigit => exact .illegal hsymbol hquote hname hdigit

theorem Begins.ne_endOfInput {c : Char} {t : Token} (h : Begins c t) : t ≠ .endOfInput := by
  cases h with
  | @word word _ => rcases ofWord_cases word with ⟨kind, h⟩ | ⟨-, h⟩ <;> simp [h]
  | _ => simp

/-- A name that is not written between quotes is bare. -/
theorem isBare_of_begins {c : Char} {name : String} (h : Begins c (.name name))
    (hc : ¬(c = '"' ∨ c = '\x60')) : IsBare name := by
  generalize ht : Token.name name = t at h
  cases h with
  | name _ hq => exact absurd hq hc
  | @word word hw =>
    -- A name can only come from a word that is no keyword.
    rcases ofWord_cases word with ⟨kind, h⟩ | ⟨hk, h⟩
    · cases ht.trans h
    · obtain rfl := Token.name.inj (ht.trans h)
      exact ⟨hw, hk⟩
  | _ => cases ht

/-- Whether a token is read again from its own text. -/
structure IsLegible (t : Token) : Prop where
  lexes : Lexes t.text.toList [t]
  isBare : ∀ name, t = .name name → IsBare name
  isNumber : ∀ digits, t = .number digits → IsNumber digits.toList

/-- What was read is legible, if it is not a name that needs quotes. -/
theorem isLegible_of_begins {c : Char} {t : Token} (h : Begins c t)
    (hb : Text.isBlank c = false) (hname : ∀ name, t = .name name → IsBare name)
    (hquote : ∀ quote, t ≠ .unterminated quote) : t.IsLegible := by
  cases h with
  | symbol s => exact ⟨lexes_symbol s, hname, by simp⟩
  | string text => exact ⟨lexes_string text, hname, by simp⟩
  | name text _ => exact ⟨lexes_name (hname text rfl), hname, by simp⟩
  | unterminated quote => exact absurd rfl (hquote quote)
  | @word word hw =>
    rcases ofWord_cases word with ⟨kind, h⟩ | ⟨-, h⟩ <;> rw [h] at hname ⊢
    · exact ⟨lexes_keyword kind, hname, by simp⟩
    · exact ⟨lexes_name (hname word rfl), hname, by simp⟩
  | number hn =>
    refine ⟨lexes_number hn, hname, ?_⟩
    rintro _ ⟨⟩
    exact hn
  | illegal hs hc hn hd =>
    refine ⟨?_, hname, by simp⟩
    rw [text, Char.toString_eq_singleton, String.toList_singleton]
    exact lexes_illegal hb hs hc hn hd

theorem isBlank_of_skip {b : Bool} {cs : List Char} {c : Char} {rest : List Char}
    (h : skip b cs = c :: rest) : Text.isBlank c = false := by
  fun_induction skip b cs with
  | case1 => cases h
  | case5 _ _ _ hb =>
    obtain ⟨rfl, -⟩ := List.cons.inj h
    exact Bool.eq_false_iff.2 hb
  | _ => simp_all

/-- Each token of a text is begun by a character that is not a blank. -/
theorem exists_begins {cs : List Char} {t : Token} (h : t ∈ tokens cs) (hend : t ≠ .endOfInput) :
    ∃ c, Text.isBlank c = false ∧ Begins c t := by
  induction cs using tokens.induct with
  | case1 cs hs =>
    rw [tokens_of_skip_nil hs, List.mem_singleton] at h
    exact absurd h hend
  | case2 cs c rest hs _ ih =>
    rw [tokens_of_skip hs, List.mem_cons] at h
    rcases h with rfl | h
    · exact ⟨c, isBlank_of_skip hs, begins_scan c rest⟩
    · exact ih h

/-- A token of a text is legible, if it is not a name that needs quotes. -/
theorem isLegible_of_mem_tokens {cs : List Char} {t : Token} (h : t ∈ tokens cs)
    (hend : t ≠ .endOfInput) (hname : ∀ name, t = .name name → IsBare name)
    (hquote : ∀ quote, t ≠ .unterminated quote) : t.IsLegible := by
  obtain ⟨c, hb, hc⟩ := exists_begins h hend
  exact isLegible_of_begins hc hb hname hquote

end RecordFilter.Token
