import RecordFilter.Proofs.Token.Lexes

/-!
# Tokens with separators between them

Reading tokens undoes writing them, whatever tokens meet. Every token is written by its
text; names can be put between quotes instead (`Token.Spells`). Between two tokens stands
a separator: a blank, behind which there may be more blanks and comments, each of which
ends with its line (`Token.IsSeparator`). A text of this form has the tokens that were
written and no other ones (`Token.ofString_written`).

A separator has to begin with a blank, because not every token ends in front of a comment:
behind a minus sign, the comment would begin with the sign.
-/

namespace RecordFilter.Token

/-! ## Gaps -/

/-- Whether a text is made of blanks and of comments that end with their line. -/
inductive IsGap : List Char → Prop
  | nil : IsGap []
  | blank {c : Char} {cs : List Char} : Text.isBlank c → IsGap cs → IsGap (c :: cs)
  | comment (remark : List Char) {cs : List Char} : '\n' ∉ remark → IsGap cs →
    IsGap ('-' :: '-' :: (remark ++ '\n' :: cs))

theorem skip_blank {c : Char} (h : Text.isBlank c) (cs : List Char) :
    skip false (c :: cs) = skip false cs := by
  rw [skip.eq_def]
  split
  · next hnil => cases hnil
  · next hfalse _ => cases hfalse
  · next hdash =>
    obtain ⟨rfl, -⟩ := List.cons.inj hdash
    exact absurd h (by decide)
  · next hcons =>
    obtain ⟨rfl, rfl⟩ := List.cons.inj hcons
    rw [if_pos h]

/-- A comment goes as far as its line. -/
theorem skip_remark {remark : List Char} (h : '\n' ∉ remark) (cs : List Char) :
    skip true (remark ++ '\n' :: cs) = skip false cs := by
  induction remark with
  | nil => rfl
  | cons c remark ih =>
    rw [List.mem_cons, not_or] at h
    have hc : (c != '\n') = true := bne_iff_ne.2 (Ne.symm h.1)
    rw [List.cons_append, skip, hc, ih h.2]

/-- A gap of blanks and comments is skipped whole. -/
theorem IsGap.skip_append {gap : List Char} (h : IsGap gap) (cs : List Char) :
    skip false (gap ++ cs) = skip false cs := by
  induction h with
  | nil => rfl
  | blank hc _ ih => rw [List.cons_append, skip_blank hc, ih]
  | comment remark hremark _ ih =>
    rw [List.cons_append, List.cons_append, List.append_assoc, List.cons_append, skip,
      skip_remark hremark, ih]

theorem IsGap.tokens_append {gap : List Char} (h : IsGap gap) (cs : List Char) :
    tokens (gap ++ cs) = tokens cs :=
  tokens_congr (h.skip_append cs)

/-- Whether a text can stand between two tokens, whichever they are. -/
structure IsSeparator (sep : List Char) : Prop where
  gap : IsGap sep
  begins : ∃ c ∈ sep.head?, Text.isBlank c

/-- No token goes on over a separator. -/
theorem IsSeparator.stops {sep : List Char} (h : IsSeparator sep) (cs : List Char) :
    Stops (sep ++ cs) := by
  obtain ⟨c, hc, hblank⟩ := h.begins
  obtain ⟨rest, rfl⟩ := List.head?_eq_some_iff.1 hc
  exact stops_cons.2 (isStop_of_isBlank hblank)

/-! ## Written tokens -/

/-- Whether a character is read as a token of its own that is none of the language. -/
def IsIllegal (c : Char) : Prop :=
  ∃ text, .illegal c ∈ ofString text

/-- A character that begins no token is one of its own. -/
theorem lexes_of_isIllegal {c : Char} (h : IsIllegal c) : Lexes [c] [.illegal c] := by
  obtain ⟨text, hmem⟩ := h
  obtain ⟨d, hblank, hbegins⟩ := exists_begins hmem (by simp)
  generalize ht : Token.illegal c = t at hbegins
  cases hbegins with
  | illegal hsymbol hquote hname hdigit =>
    obtain rfl := Token.illegal.inj ht
    exact lexes_illegal hblank hsymbol hquote hname hdigit
  | @word word _ => rcases ofWord_cases word with ⟨kind, h⟩ | ⟨-, h⟩ <;> cases ht.trans h
  | _ => cases ht

/-- Whether a token is written as the given text. The end of the input and a quote that
    is not closed cannot be written in front of other tokens. -/
inductive Spells : Token → List Char → Prop
  | bare {name : String} : IsBare name → Spells (.name name) name.toList
  | quoted {quote : Char} (name : String) : quote = '"' ∨ quote = '\x60' →
    Spells (.name name) (quote :: (Text.doubleQuotes quote name.toList ++ [quote]))
  | number {digits : String} : IsNumber digits.toList → Spells (.number digits) digits.toList
  | string (text : String) : Spells (.string text) (Token.string text).text.toList
  | keyword (word : Keyword) : Spells (.keyword word) (Token.keyword word).text.toList
  | symbol (symbol : Symbol) : Spells (.symbol symbol) (Token.symbol symbol).text.toList
  | illegal {c : Char} : IsIllegal c → Spells (.illegal c) [c]

/-- Each spelling of a token is read as the token, in front of every stop. -/
theorem Spells.lexes {t : Token} {cs : List Char} (h : Spells t cs) : Lexes cs [t] := by
  cases h with
  | bare hname => exact lexes_name hname
  | quoted name hquote => exact lexes_quotedName hquote name
  | number hdigits => exact lexes_number hdigits
  | string text => exact lexes_string text
  | keyword word => exact lexes_keyword word
  | symbol symbol => exact lexes_symbol symbol
  | illegal hc => exact lexes_of_isIllegal hc

/-- Whether a text is made of the tokens, as they are written, with separators between
    them. There may be a separator behind the last one. -/
inductive IsWritten : List Token → List Char → Prop
  | nil : IsWritten [] []
  | last {t : Token} {cs : List Char} : Spells t cs → IsWritten [t] cs
  | cons {t : Token} {ts : List Token} {cs sep ds : List Char} : Spells t cs →
    IsSeparator sep → IsWritten ts ds → IsWritten (t :: ts) (cs ++ (sep ++ ds))

/-- However a list of tokens is written, it is read back. The induction is on how it is written,
    token by token from the left. -/
theorem IsWritten.tokens_eq {ts : List Token} {cs : List Char} (h : IsWritten ts cs) :
    tokens cs = ts ++ [.endOfInput] := by
  induction h with
  | nil => exact tokens_nil
  | @last t cs ht =>
    have hlex := ht.lexes [] stops_nil
    rwa [List.append_nil, tokens_nil] at hlex
  | @cons t ts cs sep ds ht hsep _ ih =>
    rw [ht.lexes _ (hsep.stops ds), hsep.gap.tokens_append, ih]
    rfl

/-- The tokens of a text in which tokens are written with separators between them are these
    tokens, and then the end of the input. -/
theorem ofString_written (gap : List Char) (ts : List Token) (cs : List Char) (hgap : IsGap gap)
    (h : IsWritten ts cs) : ofString (String.ofList (gap ++ cs)) = ts ++ [.endOfInput] := by
  rw [ofString, String.toList_ofList, hgap.tokens_append]
  exact h.tokens_eq

/-- The signs in front of which a token may or may not end: minus signs that begin no
    comment, marks of a comment in a string, and an exclamation mark that is no part of
    `!=`. -/
theorem ofString_written_signs : ∃ gap cs, IsGap gap ∧
    IsWritten [.name "a\"b", .symbol .minus, .symbol .minus, .string "--'", .illegal '!',
      .symbol .equal] cs ∧
    String.ofList (gap ++ cs) = "--x\n\"a\"\"b\" -\t--y\n- '--''' !\n=" ∧
    ofString "--x\n\"a\"\"b\" -\t--y\n- '--''' !\n=" = [.name "a\"b", .symbol .minus,
      .symbol .minus, .string "--'", .illegal '!', .symbol .equal, .endOfInput] := by
  have hgap : IsGap ['-', '-', 'x', '\n'] := .comment ['x'] (by decide) .nil
  have hblank {c : Char} (h : Text.isBlank c) : IsSeparator [c] := ⟨.blank h .nil, c, rfl, h⟩
  have hremark : IsSeparator ['\t', '-', '-', 'y', '\n'] :=
    ⟨.blank rfl (.comment ['y'] (by decide) .nil), '\t', rfl, rfl⟩
  have hillegal : IsIllegal '!' := ⟨"!", by decide +kernel⟩
  have hwritten :=
    IsWritten.cons (.quoted "a\"b" (.inl rfl)) (hblank (c := ' ') rfl) <|
    .cons (.symbol .minus) hremark <|
    .cons (.symbol .minus) (hblank (c := ' ') rfl) <|
    .cons (.string "--'") (hblank (c := ' ') rfl) <|
    .cons (.illegal hillegal) (hblank (c := '\n') rfl) <|
    .last (.symbol .equal)
  have htokens := ofString_written _ _ _ hgap hwritten
  refine ⟨_, _, hgap, hwritten, by decide +kernel, ?_⟩
  exact htokens

end RecordFilter.Token
