import RecordFilter.Proofs.Expr.Constants
import RecordFilter.Proofs.Expr.Primaries

/-!
# Reading undoes writing

An expression that was read from a text is read again from its own text
(`Expr.parse_text`). The text it was read from does not have to be its own: it may
have other blanks, comments, quotes that are not needed and numbers with more digits.
What cannot be read again is what the text of an expression leaves out, and this is
excluded by name (`Expr.IsFaithful`, `Token.IsBare`).
-/

namespace RecordFilter

open RecordFilter.Parser RecordFilter.Token

/-! ## Texts that print -/

namespace Token

/-- A quote without an end takes all that follows it. -/
theorem scanQuoted_unterminated {c quote : Char} {rest : List Char} {token : String → Token}
    (h : (scanQuoted c rest token).1 = .unterminated quote)
    (ht : ∀ text, token text ≠ .unterminated quote) : (scanQuoted c rest token).2 = [] := by
  unfold scanQuoted at h ⊢
  split at h
  · exact absurd h (ht _)
  · rfl

/-- A quote that is not closed takes the rest of the text. -/
theorem scan_unterminated {c quote : Char} {rest : List Char}
    (h : (scan c rest).1 = .unterminated quote) : (scan c rest).2 = [] := by
  have hscan := scans c rest
  generalize scan c rest = scanned at h hscan
  cases hscan with
  | string | name => exact scanQuoted_unterminated h (by simp)
  | word =>
    rcases ofWord_cases (String.ofList (c :: rest.takeWhile continuesName)) with
      ⟨kind, hword⟩ | ⟨-, hword⟩ <;> rw [hword] at h <;> cases h
  | _ => cases h

/-- Behind a quote that is not closed is the end of the input. -/
theorem eq_of_tokens_unterminated {cs : List Char} {ts us : List Token} {quote : Char}
    (h : tokens cs = ts ++ .unterminated quote :: us) : us = [.endOfInput] := by
  induction cs using tokens.induct generalizing ts with
  | case1 cs hs =>
    rw [tokens_of_skip_nil hs] at h
    cases ts <;> simp at h
  | case2 cs c rest hs _ ih =>
    rw [tokens_of_skip hs] at h
    cases ts with
    | nil =>
      obtain ⟨hfirst, hrest⟩ := List.cons.inj h
      rw [scan_unterminated hfirst, tokens_nil] at hrest
      exact hrest.symm
    | cons t ts => exact ih (List.cons.inj h).2

/-- An open quote is the last token in front of the end of the input. -/
theorem tokens_unterminated {cs : List Char} {quote : Char} (h : .unterminated quote ∈ tokens cs) :
    ∃ ts, tokens cs = ts ++ [.unterminated quote, .endOfInput] := by
  obtain ⟨ts, us, hts⟩ := List.append_of_mem h
  exact ⟨ts, by rw [hts, eq_of_tokens_unterminated hts]⟩

/-- A text that is split alike in front of every stop has no open quote: the quote would
    take the stop too. -/
theorem Lexes.unterminatedQuote? {cs : List Char} {ts : List Token} (h : Lexes cs ts) :
    Parser.unterminatedQuote? ts = none := by
  rw [Parser.unterminatedQuote?, List.findSome?_eq_none_iff]
  intro t ht
  split
  · next quote =>
    -- In front of a comma the tokens would end with the comma, by the lexing, and with the quote,
    -- if it is open.
    have hcomma : tokens (cs ++ [',']) = ts ++ [.symbol .comma, .endOfInput] := by
      have hend := Lexes.nil.comma [] stops_nil
      rw [List.append_nil, tokens_nil] at hend
      rw [h [','] (stops_cons.2 (by decide)), hend]
      rfl
    have hmem : .unterminated quote ∈ tokens (cs ++ [',']) := by
      rw [hcomma]
      exact List.mem_append_left _ ht
    obtain ⟨us, hus⟩ := tokens_unterminated hmem
    have hlast := (List.append_inj' (hcomma.symm.trans hus) rfl).2
    cases hlast
  · rfl

end Token

theorem Expr.Prints.parse_eq {e : Expr} (h : e.Prints .disjunction) :
    Expr.parse e.text = .ok e := by
  obtain ⟨ts, he, hlex, -⟩ := h
  refine Expr.parse_eq_ok_iff.2 ⟨ts, ?_, hlex.unterminatedQuote?, he⟩
  have hts := hlex [] stops_nil
  rwa [List.append_nil, tokens_nil] at hts

/-! ## Expressions that keep everything in their text -/

/-- Whether the text of an expression holds all of it. -/
structure Expr.IsFaithful (e : Expr) : Prop where
  /-- The types of casts are ASCII. -/
  types : ∀ {operand type}, (Expr.cast operand type).IsPart e → ∀ c ∈ type.toList, c.toNat < 128
  /-- Doubles are finite and written without an exponent. -/
  doubles : ∀ {x}, (Expr.constant (.double x)).IsPart e → Decimal.IsPlain x
  /-- Times are whole milliseconds. -/
  times : ∀ {t}, (Expr.constant (.time t)).IsPart e → t.nano % 1000000 = 0
  /-- Moments are whole milliseconds. -/
  timestamps : ∀ {t}, (Expr.constant (.timestamp t)).IsPart e → t.time.nano % 1000000 = 0
  /-- No minus sign is in front of another one. -/
  signs : ∀ {operand}, ¬(Expr.negative (.negative operand)).IsPart e

theorem Expr.IsFaithful.part {p e : Expr} (h : e.IsFaithful) (hp : p.IsPart e) : p.IsFaithful where
  types hq := h.types (hq.trans hp)
  doubles hq := h.doubles (hq.trans hp)
  times hq := h.times (hq.trans hp)
  timestamps hq := h.timestamps (hq.trans hp)
  signs hq := h.signs (hq.trans hp)

theorem Expr.IsFaithful.operands {e : Expr} (h : e.IsFaithful) : ∀ p ∈ e.operands, p.IsFaithful :=
  fun _ hp => h.part (Expr.isPart_of_mem hp)

/-- What has a sign in front or can take one in. -/
def Expr.IsSigned : Expr → Prop
  | .constant (.long _) | .constant (.double _) | .negative _ => True
  | _ => False

/-- What is shown of a piece of the grammar: that the expressions print that it makes, if they
    are faithful. An operand that a minus sign can be in front of prints without one. -/
def Form.Prints : Form → Prop
  | .expression level e => e.IsFaithful →
    e.Prints level ∧ (level = .sign → ¬e.IsSigned → e.Prints .access)
  | .joined level left e => e.IsFaithful → left.Prints level → e.Prints level
  | .condition subject e => e.IsFaithful → subject.Prints .bitwise → e.Prints .comparison
  | .list es => (∀ e ∈ es, e.IsFaithful) → es ≠ [] ∧ ∀ e ∈ es, e.Prints .disjunction
  | .named head e => e.IsFaithful → Expr.Prints.IsHead head → e.Prints .primary
  | .branches bs => (∀ b ∈ bs, b.1.IsFaithful ∧ b.2.IsFaithful) →
    ∀ b ∈ bs, b.1.Prints .disjunction ∧ b.2.Prints .disjunction
  | .optional _ e => (∀ x ∈ e, x.IsFaithful) → ∀ x ∈ e, x.Prints .disjunction

/-- Only where a sign can be in front is there more to show. -/
theorem Form.prints_expression {level : Level} {e : Expr} (hl : level ≠ .sign)
    (h : e.IsFaithful → e.Prints level) : (Form.expression level e).Prints :=
  fun he => ⟨h he, fun hs => absurd hs hl⟩

/-- A primary expression has no sign that could be taken off. -/
theorem Form.prints_primary {e : Expr} (h : e.IsFaithful → e.Prints .primary) :
    (Form.expression .primary e).Prints :=
  prints_expression (by decide) h

/-- How a minus sign is put in front: it is taken into a number, or it is kept. -/
theorem Parser.negate_cases (e : Expr) : (∃ v, e = .constant (.long v)) ∨
    (∃ x, e = .constant (.double x)) ∨
      (negate e = .negative e ∧ (e.IsSigned → ∃ operand, e = .negative operand)) := by
  cases e with
  | constant c =>
    cases c with
    | long v => exact .inl ⟨v, rfl⟩
    | double x => exact .inr (.inl ⟨x, rfl⟩)
    | _ => exact .inr (.inr ⟨rfl, False.elim⟩)
  | negative operand => exact .inr (.inr ⟨rfl, fun _ => ⟨operand, rfl⟩⟩)
  | _ => exact .inr (.inr ⟨rfl, False.elim⟩)

/-- What a minus sign was put in front of has a sign. -/
theorem Parser.isSigned_negate (e : Expr) : (negate e).IsSigned := by
  rcases negate_cases e with ⟨v, rfl⟩ | ⟨x, rfl⟩ | ⟨hkeep, -⟩
  · trivial
  · trivial
  · rw [hkeep]
    trivial

/-- A minus sign in front of what can have one. -/
theorem Expr.Prints.negate {e : Expr} {ts : List Token} (h : Phrase (.expression .sign e) ts)
    (he : (negate e).IsFaithful) (haccess : e.IsFaithful → ¬e.IsSigned → e.Prints .access) :
    (negate e).Prints .sign := by
  rcases negate_cases e with ⟨v, rfl⟩ | ⟨x, rfl⟩ | ⟨hkeep, hsigned⟩
  · refine Prints.long fun hmin => negate_ne_leastConstant h.isAboveLeast ?_
    rw [Parser.negate, hmin, leastConstant]
  · exact Prints.double (he.doubles .self)
  · rw [hkeep] at he ⊢
    refine Prints.negative (haccess (he.operands _ List.mem_cons_self) fun hs => ?_) hkeep
    obtain ⟨operand, rfl⟩ := hsigned hs
    exact he.signs .self

/-- A number as it was read has no sign, so it prints without one. -/
theorem Expr.Prints.number {digits : String} {c : Constant} (hc : numberConstant? digits = some c)
    (hd : Token.IsNumber digits.toList) (he : (Expr.constant c).IsFaithful) :
    (Expr.constant c).Prints .primary := by
  rcases numberConstant?_cases hc with ⟨n, hn, rfl⟩ | ⟨x, hx, rfl⟩
  · exact long_ofNat hn
  · refine double_unsigned (he.doubles .self) ?_
    rw [readFloat?_of_isNumber hd] at hx
    exact Decimal.signChars_of_hasNoSign (hasNoSign_readMagnitude? hx)

/-- A date or a time as it was read; a fraction of a millisecond would not be written. -/
theorem Expr.Prints.dateConstant {kind : Keyword} {text : String} {c : Constant}
    (hc : Parser.dateConstant kind text = .ok c) (he : (Expr.constant c).IsFaithful) :
    (Expr.constant c).Prints .primary := by
  rcases dateConstant_cases hc with ⟨d, rfl⟩ | ⟨t, rfl⟩ | ⟨t, rfl⟩
  · exact date d
  · exact time (he.times .self)
  · exact timestamp (he.timestamps .self)

/-- A cast to a type as it was read. -/
theorem Expr.Prints.cast_of_isType {e : Expr} {type : String} {us : List Token}
    (h : e.Prints .disjunction) (ht : IsType type us) (hus : ∀ t ∈ us, t.IsLegible)
    (he : (Expr.cast e type).IsFaithful) : (Expr.cast e type).Prints .primary := by
  obtain ⟨vs, hvs, hlex⟩ := lexes_type ht (fun t ht => (hus t ht).lexes)
    (fun name hname => (hus _ hname).isBare name rfl) (he.types .self)
  exact h.cast hvs hlex

/-! ## Rules of the grammar -/

namespace Form

/-- A first operand prints at the level of the operators behind it. -/
theorem prints_chain {level : Level} {l e : Expr} {us : List Token} (hl : level.isChain)
    (pe : Phrase (.joined level l e) us) (hfirst : (expression level.next l).Prints)
    (hjoined : (joined level l e).Prints) : (expression level e).Prints := by
  refine prints_expression ?_ fun he => ?_
  · rintro rfl
    cases hl
  · -- The first operand is a part of the whole, so it is faithful like it.
    exact hjoined he ((hfirst (he.part pe.isPart_left)).1.of_next hl)

/-- One more operator and its right operand. -/
theorem prints_join {level : Level} {t : Token} {f : Expr → Expr → Expr} {l r e : Expr}
    {us : List Token} (hj : level.join? t = some f) (pe : Phrase (.joined level (f l r) e) us)
    (hright : (expression level.next r).Prints) (hjoined : (joined level (f l r) e).Prints) :
    (joined level l e).Prints := by
  intro he hl
  have hmem : r ∈ (f l r).operands := by
    rw [Level.operands_join hj]
    exact List.mem_cons_of_mem l List.mem_cons_self
  have hr := (hright ((he.part pe.isPart_left).operands r hmem)).1
  exact hjoined he (hl.join hj hr)

/-- A condition with one more operand. -/
theorem prints_beside {s r e : Expr} (hr : r ∈ e.operands) (hright : (expression .bitwise r).Prints)
    (h : s.Prints .bitwise → r.Prints .bitwise → e.Prints .comparison) :
    (condition s e).Prints :=
  fun he hs => h hs (hright (he.operands r hr)).1

/-- A range of operands that print, as parts of the whole. -/
theorem prints_between {s low high : Expr} {negated : Bool}
    (hlow : (expression .bitwise low).Prints) (hhigh : (expression .bitwise high).Prints) :
    (condition s (.between negated s low high)).Prints := by
  intro he hs
  have hl := (hlow (he.operands low (by simp [Expr.operands]))).1
  have hh := (hhigh (he.operands high (by simp [Expr.operands]))).1
  exact hs.between negated hl hh

theorem prints_more {e : Expr} {es : List Expr} (hfirst : (expression .disjunction e).Prints)
    (hothers : (list es).Prints) : (list (e :: es)).Prints := by
  intro h
  obtain ⟨he, hes⟩ := List.forall_mem_cons.1 h
  exact ⟨List.cons_ne_nil e es, List.forall_mem_cons.2 ⟨(hfirst he).1, (hothers hes).2⟩⟩

/-- One more branch in front of the other ones. -/
theorem prints_branch {c r : Expr} {bs : List (Expr × Expr)}
    (hcondition : (expression .disjunction c).Prints) (hresult : (expression .disjunction r).Prints)
    (hothers : (branches bs).Prints) : (branches ((c, r) :: bs)).Prints := by
  intro h
  obtain ⟨⟨hc, hr⟩, hbs⟩ := List.forall_mem_cons.1 h
  exact List.forall_mem_cons.2 ⟨⟨(hcondition hc).1, (hresult hr).1⟩, hothers hbs⟩

/-- A `CASE` of pieces that print. -/
theorem prints_case {operand otherwise : Option Expr} {bs : List (Expr × Expr)} (hne : bs ≠ [])
    (ho : (optional [] operand).Prints) (hb : (branches bs).Prints)
    (he : (optional [.else] otherwise).Prints) :
    (expression .primary (.case operand bs otherwise)).Prints := by
  refine prints_primary fun h => ?_
  obtain ⟨hoperand, hbranches, hotherwise⟩ := Expr.forall_mem_operands_case.1 h.operands
  exact .case (ho hoperand) hne (hb hbranches) (he hotherwise)

end Form

/-- By the rules of the grammar: what a rule makes of operands that print does so itself. The
    tokens matter only where names, numbers and types are read, and the texts of sub-selects. -/
theorem Phrase.prints {form : Form} {ts : List Token} (h : Phrase form ts)
    (hts : ∀ t ∈ ts, t.IsLegible) : form.Prints := by
  induction h with
  | chain hl _ pe ihl ihe =>
    obtain ⟨hts, hus⟩ := List.forall_mem_append.1 hts
    exact Form.prints_chain hl pe (ihl hts) (ihe hus)
  | last => exact fun _ => id
  | join hj _ pe ihr ihe =>
    obtain ⟨hts, hus⟩ := List.forall_mem_append.1 (List.forall_mem_cons.1 hts).2
    exact Form.prints_join hj pe (ihr hts) (ihe hus)
  | not _ ih =>
    refine Form.prints_expression (by decide) fun he => ?_
    exact (ih (List.forall_mem_cons.1 hts).2 (he.operands _ List.mem_cons_self)).1.not
  | positive _ ih =>
    exact Form.prints_expression (by decide) fun he => (ih hts he).1.negation_of_comparison
  | plus _ ih => exact ih (List.forall_mem_cons.1 hts).2
  | minus pe ih =>
    intro he
    have hsign := ih (List.forall_mem_cons.1 hts).2
    -- A sign in front of a number goes into it. In front of another sign it would begin a comment;
    -- that is excluded by what is asked of the signs.
    refine ⟨Expr.Prints.negate pe he fun he => (hsign he).2 rfl, fun _ hn => ?_⟩
    exact absurd (isSigned_negate _) hn
  | unsigned _ ih => exact fun he => ⟨(ih hts he).1.sign_of_access, fun _ _ => (ih hts he).1⟩
  | comparison _ pe ihs ihe =>
    obtain ⟨hts, hus⟩ := List.forall_mem_append.1 hts
    refine Form.prints_expression (by decide) fun he => ?_
    exact ihe hus he (ihs hts (he.part pe.isPart_left)).1
  | subject => exact fun _ hs => hs.subject
  | isNull => exact fun _ hs => hs.isNull _
  -- Sub-selects are kept as texts, so for them the tokens themselves have to be legible.
  | inSubselect hb => exact fun _ hs => hs.inSubselect _ hb fun t ht => (hts t (by grind)).lexes
  | inList _ ih =>
    intro he hs
    obtain ⟨hne, hitems⟩ := ih (fun t ht => hts t (by simp [ht]))
      fun e hmem => he.operands e (List.mem_cons_of_mem _ hmem)
    exact hs.inList _ hne hitems
  | between _ _ ihl ihh =>
    exact Form.prints_between (ihl fun t ht => hts t (by simp [ht]))
      (ihh fun t ht => hts t (by simp [ht]))
  | like _ ih =>
    exact Form.prints_beside (by simp [Expr.operands]) (ih fun t ht => hts t (by simp [ht]))
      (Expr.Prints.like _)
  | regex _ ih =>
    exact Form.prints_beside (by simp [Expr.operands]) (ih fun t ht => hts t (by simp [ht]))
      Expr.Prints.regex
  | compare _ _ ih =>
    exact Form.prints_beside (by simp [Expr.operands]) (ih fun t ht => hts t (by simp [ht]))
      (Expr.Prints.compare _)
  | one _ ih =>
    intro he
    have hprints := (ih hts (he _ List.mem_cons_self)).1
    exact ⟨List.cons_ne_nil _ _, List.forall_mem_singleton.2 hprints⟩
  | more _ _ ih ihes =>
    obtain ⟨hts, hus⟩ := List.forall_mem_append.1 hts
    exact Form.prints_more (ih hts) (ihes (List.forall_mem_cons.1 hus).2)
  | @number digits c hc =>
    have hdigits := (hts (.number digits) List.mem_cons_self).isNumber digits rfl
    exact Form.prints_primary (.number hc hdigits)
  | string => exact Form.prints_primary fun _ => .string _
  | boolean => exact Form.prints_primary fun _ => .boolean _
  | null => exact Form.prints_primary fun _ => .null
  | dated _ hc => exact Form.prints_primary (.dateConstant hc)
  | @name name e ts _ ih =>
    obtain ⟨hn, hts⟩ := List.forall_mem_cons.1 hts
    exact Form.prints_primary fun he => ih hts he (.inl (hn.isBare name rfl))
  | keyword hk _ ih =>
    exact Form.prints_primary fun he => ih (List.forall_mem_cons.1 hts).2 he (.inr ⟨_, hk⟩)
  | column => exact fun _ hn => .column hn
  | @qualified name column =>
    have hcolumn := (hts (.name column) (by simp)).isBare column rfl
    exact fun _ hn => .qualified hn hcolumn
  | call => exact fun _ hn => .call hn fun e he => absurd he List.not_mem_nil
  | callWith _ ih =>
    exact fun he hn => .call hn (ih (fun t ht => hts t (by simp [ht])) he.operands).2
  | paren _ ih =>
    refine Form.prints_primary fun he => ?_
    exact (ih (fun t ht => hts t (by simp [ht])) (he.operands _ List.mem_cons_self)).1.paren
  | subselect hb =>
    exact Form.prints_primary fun _ => .subselect hb fun t ht => (hts t (by grind)).lexes
  | «exists» hb =>
    exact Form.prints_primary fun _ => .exists hb fun t ht => (hts t (by simp [ht])).lexes
  | case _ hne _ _ iho ihb ihe =>
    exact Form.prints_case hne (iho fun t ht => hts t (by simp [ht]))
      (ihb fun t ht => hts t (by simp [ht])) (ihe fun t ht => hts t (by simp [ht]))
  | cast _ ht ih =>
    refine Form.prints_primary fun he => ?_
    have hprints := ih (fun t ht => hts t (by simp [ht])) (he.operands _ List.mem_cons_self)
    exact hprints.1.cast_of_isType ht (fun t ht => hts t (by simp [ht])) he
  | noBranch => exact fun _ b hb => absurd hb List.not_mem_nil
  | branch _ _ _ ihc ihr ihb =>
    exact Form.prints_branch (ihc fun t ht => hts t (by simp [ht]))
      (ihr fun t ht => hts t (by simp [ht])) (ihb fun t ht => hts t (by simp [ht]))
  | missing => exact fun _ x hx => by cases hx
  | marked _ ih =>
    rintro he x ⟨⟩
    exact (ih (List.forall_mem_append.1 hts).2 (he _ rfl)).1

/-- An expression that was read from a text is read from its own text, if the names in
    the text need no quotes and the text of the expression holds all of it. A name that
    was written without quotes needs none (`Token.isBare_of_begins`). -/
theorem Expr.parse_text {text : String} {e : Expr} (h : Expr.parse text = .ok e)
    (hnames : ∀ name, .name name ∈ Token.ofString text → IsBare name) (he : e.IsFaithful) :
    Expr.parse e.text = .ok e := by
  obtain ⟨ts, hts, hq, pe⟩ := Expr.parse_eq_ok_iff.1 h
  -- What the lexer gave is legible, except for names that need quotes, quotes that are open and the
  -- end of the input. The phrase has none of these.
  have hlegible : ∀ t ∈ ts, t.IsLegible := by
    intro t ht
    have hmem : t ∈ Token.ofString text := by
      rw [hts]
      exact List.mem_append_left _ ht
    refine isLegible_of_mem_tokens hmem ?_ ?_ ?_
    · rintro rfl
      exact pe.endOfInput_notMem ht
    · rintro name rfl
      exact hnames name hmem
    · rintro quote rfl
      rw [Parser.unterminatedQuote?, List.findSome?_eq_none_iff] at hq
      cases hq _ ht
  exact (pe.prints hlegible he).1.parse_eq

namespace Expr

/-- A filter with blanks, a comment and numbers that its expression writes in another way. -/
def sampleText : String :=
  "NOT a -> 'k''s' = -1.50 -- a comment\n OR (f(b, 007)BETWEEN -x AND 2)" ++
    " AND cast(c as varchar(10)) IN (SELECT d FROM t)"

/-- The expression of the filter. -/
def sample : Expr :=
  .or (.not (.compare .eq
      (.binary .jsonAccess (.column ⟨none, "a"⟩) (.constant (.string "k's")))
      (.constant (.double (-Decimal.toFloat ⟨150, -2⟩)))))
    (.and
      (.paren (.between false (.call "f" [.column ⟨none, "b"⟩, .constant (.long 7)])
        (.negative (.column ⟨none, "x"⟩)) (.constant (.long 2))))
      (.inSubselect false (.cast (.column ⟨none, "c"⟩) "VARCHAR(10)") "SELECT d FROM t"))

/-- A filter with a negated comparison, a range and a cast over a sub-select is written and read
    back. -/
theorem parse_text_sample :
    sample.text = "NOT a -> 'k''s' = -1.5 OR (f(b, 7) BETWEEN -x AND 2)" ++
      " AND CAST(c AS VARCHAR(10)) IN (SELECT d FROM t)" ∧
    Expr.parse sample.text = .ok sample := by
  have htokens : Token.ofString sampleText = [.keyword .not, .name "a", .symbol .arrow,
      .string "k's", .symbol .equal, .symbol .minus, .number "1.50", .keyword .or,
      .symbol .leftParen, .name "f", .symbol .leftParen, .name "b", .symbol .comma,
      .number "007", .symbol .rightParen, .keyword .between, .symbol .minus, .name "x",
      .keyword .and, .number "2", .symbol .rightParen, .keyword .and, .keyword .cast,
      .symbol .leftParen, .name "c", .keyword .as, .name "varchar", .symbol .leftParen,
      .number "10", .symbol .rightParen, .symbol .rightParen, .keyword .in, .symbol .leftParen,
      .keyword .select, .name "d", .keyword .from, .name "t", .symbol .rightParen,
      .endOfInput] := by
    decide +kernel
  have hparse : Expr.parse sampleText = .ok sample := by
    rw [Expr.parse, htokens]
    rfl
  refine ⟨by decide +kernel, Expr.parse_text hparse ?_ ?_⟩
  · rw [htokens]
    have hbare : ∀ name ∈ ["a", "f", "b", "x", "c", "varchar", "d", "t"], IsBare name := by
      decide +kernel
    intro name hname
    refine hbare name ?_
    simpa using hname
  · constructor
    · intro operand type hp
      have htype : type = "VARCHAR(10)" := by
        have := (by simpa [sample, isPart_iff, operands] using hp : _ ∧ type = "VARCHAR(10)")
        exact this.2
      simp [htype]
    · intro x hp
      have hx : x = -Decimal.toFloat ⟨150, -2⟩ := by
        simpa [sample, isPart_iff, operands] using hp
      rw [hx]
      decide +kernel
    · intro t hp
      simp [sample, isPart_iff, operands] at hp
    · intro t hp
      simp [sample, isPart_iff, operands] at hp
    · intro operand hp
      simp [sample, isPart_iff, operands] at hp

end Expr

end RecordFilter
