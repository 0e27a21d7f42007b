import RecordFilter.Proofs.Expr.RoundTrip
import RecordFilter.Proofs.Grammar.Progress

/-!
# One call after the other

A text is read token by token, and a parser can be asked for a filter again after it has given
one or failed. Then it goes on where it stopped. Neither ever goes back or past the end
(`Token.goesForward`, `Parser.goesForward`).
-/

namespace RecordFilter

namespace Token

/-! ## Reading tokens -/

/-- The next token is the end of the input if nothing is left, or else a token of at least one
    character. -/
theorem next_cases (cs : List Char) :
    (tokens cs = [.endOfInput] ∧ next cs = (.endOfInput, [])) ∨
      (tokens cs = (next cs).1 :: tokens (next cs).2 ∧ (next cs).1 ≠ .endOfInput ∧
        (next cs).2 <:+ cs ∧ (next cs).2.length < cs.length) := by
  cases hs : skip false cs with
  | nil => exact .inl ⟨tokens_of_skip_nil hs, by rw [next, hs]⟩
  | cons c rest =>
    have hnext : next cs = scan c rest := by rw [next, hs]
    rw [hnext]
    refine .inr ⟨tokens_of_skip hs, (begins_scan c rest).ne_endOfInput, ?_, length_scan_lt hs⟩
    exact (scan_suffix c rest).trans ((List.suffix_cons c rest).trans (hs ▸ skip_suffix false cs))

/-- The text left after a number of tokens were read. -/
def textAfter (cs : List Char) : (count : Nat) → List Char
  | 0 => cs
  | count + 1 => (next (textAfter cs count)).2

/-- The token that is read after a number of other ones. -/
def nth (cs : List Char) (count : Nat) : Token :=
  (next (textAfter cs count)).1

/-- The number of characters that were passed with a number of tokens. -/
def offset (cs : List Char) (count : Nat) : Nat :=
  cs.length - (textAfter cs count).length

theorem next_suffix (cs : List Char) : (next cs).2 <:+ cs := by
  rcases next_cases cs with ⟨-, h⟩ | ⟨-, -, h, -⟩
  · rw [h]
    exact List.nil_suffix
  · exact h

theorem textAfter_suffix (cs : List Char) (count : Nat) : textAfter cs count <:+ cs := by
  induction count with
  | zero => exact List.suffix_refl cs
  | succ count ih => exact (next_suffix _).trans ih

/-- What is left of a text is what stands behind the characters that were passed. -/
theorem textAfter_eq_drop (cs : List Char) (count : Nat) :
    textAfter cs count = cs.drop (offset cs count) :=
  List.suffix_iff_eq_drop.1 (textAfter_suffix cs count)

/-- Reading one token first and then a number of other ones is reading one token more. -/
theorem textAfter_succ (cs : List Char) (count : Nat) :
    textAfter cs (count + 1) = textAfter (next cs).2 count := by
  induction count with
  | zero => rfl
  | succ count ih => exact congrArg (fun cs => (next cs).2) ih

/-- A call gives the end of the input, and nothing is left, or it passes a character. -/
theorem nth_cases (cs : List Char) (count : Nat) :
    (nth cs count = .endOfInput ∧ offset cs (count + 1) = cs.length) ∨
      (nth cs count ≠ .endOfInput ∧ offset cs count < offset cs (count + 1)) := by
  have hle := (textAfter_suffix cs count).length_le
  unfold nth offset
  rcases next_cases (textAfter cs count) with ⟨-, h⟩ | ⟨-, hne, -, hlt⟩
  · exact .inl ⟨by rw [h], by rw [textAfter, h]; rfl⟩
  · exact .inr ⟨hne, by rw [textAfter]; omega⟩

/-- The tokens of a text are those that are read one after the other, up to the first end of the
    input. -/
theorem exists_tokens_eq_map (cs : List Char) :
    ∃ n, tokens cs = (List.range (n + 1)).map (nth cs) ∧ nth cs n = .endOfInput ∧
      ∀ count < n, nth cs count ≠ .endOfInput := by
  induction cs using tokens.induct with
  | case1 cs hs =>
    have hnext : next cs = (.endOfInput, []) := by rw [next, hs]
    have hnth : nth cs 0 = .endOfInput := congrArg Prod.fst hnext
    exact ⟨0, by simp [tokens_of_skip_nil hs, hnth], hnth, by simp⟩
  | case2 cs c rest hs _ ih =>
    have hnext : next cs = scan c rest := by rw [next, hs]
    -- One token is read first, so what the rest has at a place is found one place later.
    obtain ⟨n, htokens, hend, hne⟩ := ih
    have hsucc (count : Nat) : nth cs (count + 1) = nth (scan c rest).2 count := by
      rw [nth, textAfter_succ, hnext, nth]
    have hzero : nth cs 0 = (scan c rest).1 := congrArg Prod.fst hnext
    refine ⟨n + 1, ?_, (hsucc n).trans hend, fun count hcount => ?_⟩
    · rw [tokens_of_skip hs, htokens, List.range_succ_eq_map (n := n + 1), List.map_cons,
        List.map_map, hzero]
      exact congrArg _ (List.map_congr_left fun count _ => (hsucc count).symm)
    · cases count with
      | zero =>
        rw [hzero]
        exact (begins_scan c rest).ne_endOfInput
      | succ count =>
        rw [hsucc]
        exact hne count (Nat.lt_of_succ_lt_succ hcount)

/-- Reading the tokens of a text one after the other passes at least a character each time, stays
    within the text and gives the end of the input after all other tokens. -/
structure GoesForward (cs : List Char) : Prop where
  textAfter_eq : ∀ count, textAfter cs count = cs.drop (offset cs count)
  offset_le : ∀ count, offset cs count ≤ cs.length
  nth_cases : ∀ count, (nth cs count = .endOfInput ∧ offset cs (count + 1) = cs.length) ∨
    (nth cs count ≠ .endOfInput ∧ offset cs count < offset cs (count + 1))
  tokens_eq : ∃ n, tokens cs = (List.range (n + 1)).map (nth cs) ∧ nth cs n = .endOfInput ∧
    ∀ count < n, nth cs count ≠ .endOfInput

/-- Every text is read forward. -/
theorem goesForward (cs : List Char) : GoesForward cs where
  textAfter_eq := textAfter_eq_drop cs
  offset_le _ := Nat.sub_le ..
  nth_cases := nth_cases cs
  tokens_eq := exists_tokens_eq_map cs

/-- The only quote of a text that can be open is the one found. -/
theorem unterminatedQuote?_tokens {cs : List Char} {quote : Char}
    (h : .unterminated quote ∈ tokens cs) :
    Parser.unterminatedQuote? (tokens cs) = some quote := by
  induction cs using tokens.induct with
  | case1 cs hs =>
    rw [tokens_of_skip_nil hs, List.mem_singleton] at h
    cases h
  | case2 cs c rest hs _ ih =>
    rw [tokens_of_skip hs] at h ⊢
    -- A quote that is not closed takes the rest of the text, so its token can only be followed by
    -- the end of the input. All other tokens are passed over.
    by_cases hopen : ∃ other, (scan c rest).1 = .unterminated other
    · obtain ⟨other, hopen⟩ := hopen
      rw [hopen, scan_unterminated hopen, tokens_nil] at h ⊢
      obtain rfl : quote = other := by simpa using h
      rfl
    · have hmem := (List.mem_cons.1 h).resolve_left fun he => hopen ⟨quote, he.symm⟩
      cases ht : (scan c rest).1 with
      | unterminated other => exact absurd ⟨other, ht⟩ hopen
      | _ => exact ih hmem

end Token

/-! ## Asking for filters -/

/-- The tokens an outcome leaves. -/
def Outcome.rest {α : Type} : Outcome α → List Token
  | .ok _ rest => rest
  | .error _ rest => rest

namespace Parser

variable {ts : List Token}

/-- The tokens left after a number of calls for a filter, which failed or not. -/
def left (ts : List Token) : (calls : Nat) → List Token
  | 0 => ts
  | calls + 1 => (filter (left ts calls)).rest

/-- The place of the current token after a number of calls. -/
def position (ts : List Token) (calls : Nat) : Nat :=
  ts.length - (left ts calls).length

theorem keeps_filter (ts : List Token) : (filter ts).Keeps True 0 ts := by
  have he : (expression (allowance ts.length) .disjunction ts).Keeps True 1 ts :=
    keeps_of (isSteady _).expression (by simp only [allowance, Level.rank]; omega)
  -- `filters` says once what a call does: it fails at once, or it gives what its expression gives,
  -- or an error of what is left behind the expression.
  have h := filters ts
  generalize filter ts = o at h
  cases h with
  | empty | unterminated => exact keeps_fail (by simp)
  | error _ _ ho =>
    rw [ho] at he
    exact he
  | trailing _ _ ho _ =>
    rw [ho] at he
    exact ⟨he.1, fun _ => by simp⟩
  | ok _ _ ho _ =>
    rw [ho] at he
    exact ⟨he.1, he.1.length_le⟩

/-- A call for a filter only passes tokens in front of the end of the input, whether it succeeds or
    fails. -/
theorem passes_filter (ts : List Token) : Passes ts (filter ts).rest := by
  have h := keeps_filter ts
  cases ho : filter ts with
  | ok e rest =>
    rw [ho] at h
    exact h.1
  | error cause rest =>
    rw [ho] at h
    exact h.1

/-- No call for a filter uses up its allowance. -/
theorem filter_ne_tooDeep (ts rest : List Token) : filter ts ≠ .error .tooDeep rest := by
  intro ho
  have h := keeps_filter ts
  rw [ho] at h
  exact h.2 trivial rfl

/-- Any number of calls only passes tokens in front of the end of the input. -/
theorem passes_left (ts : List Token) (calls : Nat) : Passes ts (left ts calls) := by
  induction calls with
  | zero => exact .refl ts
  | succ calls ih => exact ih.trans (passes_filter _)

/-- The tokens left are those from the current place on. -/
theorem left_eq_drop (ts : List Token) (calls : Nat) :
    left ts calls = ts.drop (position ts calls) :=
  List.suffix_iff_eq_drop.1 (passes_left ts calls).suffix

theorem position_le_succ (ts : List Token) (calls : Nat) :
    position ts calls ≤ position ts (calls + 1) := by
  have : (left ts (calls + 1)).length ≤ (left ts calls).length :=
    (passes_filter (left ts calls)).length_le
  unfold position
  omega

/-- The end of the input is never passed. -/
theorem endOfInput_mem_left (h : .endOfInput ∈ ts) (calls : Nat) : .endOfInput ∈ left ts calls := by
  obtain ⟨us, hus, hne⟩ := passes_left ts calls
  rw [hus, List.mem_append] at h
  exact h.resolve_left hne

/-- The current place stays within the tokens. -/
theorem position_lt (h : .endOfInput ∈ ts) (calls : Nat) : position ts calls < ts.length := by
  have := (passes_left ts calls).length_le
  have := List.length_pos_of_mem (endOfInput_mem_left h calls)
  unfold position
  omega

/-- A filter that is given takes all tokens. -/
theorem headD_of_filter_eq_ok {e : Expr} {rest : List Token} (h : filter ts = .ok e rest) :
    rest.headD .endOfInput = .endOfInput := by
  have ho := filters ts
  rw [h] at ho
  cases ho with
  | ok _ _ _ hend => exact hend

/-- At the end of the input a call fails, as there is no filter, and takes nothing. -/
theorem filter_of_headD (h : ts.headD .endOfInput = .endOfInput) :
    filter ts = .error .empty ts := by
  have ho := filters ts
  generalize filter ts = o at ho ⊢
  cases ho with
  | empty => rfl
  | _ => contradiction

/-- At the end of the input nothing else is left. -/
theorem eq_singleton_of_headD {us rest : List Token} (hpass : Passes (us ++ [.endOfInput]) rest)
    (hus : .endOfInput ∉ us) (h : rest.headD .endOfInput = .endOfInput) :
    rest = [.endOfInput] := by
  obtain ⟨vs, hvs, hne⟩ := hpass
  obtain rfl := eq_of_append_endOfInput hvs hus hne h
  exact (List.append_cancel_left hvs).symm

/-- The end of the input is reached exactly where only the last token is left. -/
theorem headD_left_iff {us : List Token} (hus : .endOfInput ∉ us) (calls : Nat) :
    (left (us ++ [.endOfInput]) calls).headD .endOfInput = .endOfInput ↔
      position (us ++ [.endOfInput]) calls + 1 = (us ++ [Token.endOfInput]).length := by
  have hpass := passes_left (us ++ [.endOfInput]) calls
  have hle := hpass.length_le
  -- The end of the input is never taken, so at least one token is left in any case.
  have hmem : .endOfInput ∈ left (us ++ [.endOfInput]) calls := endOfInput_mem_left (by simp) calls
  have hpos := List.length_pos_of_mem hmem
  constructor
  · intro h
    have hlen : (left (us ++ [.endOfInput]) calls).length = 1 := by
      rw [eq_singleton_of_headD hpass hus h]
      rfl
    unfold position
    omega
  · intro h
    have hlen : (left (us ++ [.endOfInput]) calls).length = 1 := by
      unfold position at h
      omega
    obtain ⟨t, ht⟩ := List.length_eq_one_iff.1 hlen
    rw [ht, List.mem_singleton] at hmem
    rw [ht, ← hmem]
    rfl

/-- Once the end of the input is reached no call changes what is left. -/
theorem left_of_headD {calls : Nat} (h : (left ts calls).headD .endOfInput = .endOfInput)
    (more : Nat) : left ts (calls + more) = left ts calls := by
  induction more with
  | zero => rfl
  | succ more ih =>
    change (filter (left ts (calls + more))).rest = _
    rw [ih, filter_of_headD h]
    rfl

/-- In front of a quote that is not closed a call fails for it and takes nothing. -/
theorem filter_of_unterminated {quote : Char} (h : unterminatedQuote? ts = some quote)
    (hne : ts.headD .endOfInput ≠ .endOfInput) : filter ts = .error (.unterminated quote) ts := by
  have ho := filters ts
  generalize filter ts = o at ho ⊢
  cases ho with
  | empty hend => exact absurd hend hne
  | unterminated _ hquote => rw [Option.some.inj (hquote.symm.trans h)]
  | error _ hquote | trailing _ hquote | ok _ hquote => cases hquote.symm.trans h

/-- If a call fails and takes nothing, so do all calls after it. -/
theorem left_of_filter {cause : ParseError} (h : filter ts = .error cause ts) (calls : Nat) :
    left ts calls = ts := by
  induction calls with
  | zero => rfl
  | succ calls ih =>
    change (filter (left ts calls)).rest = _
    rw [ih, h]
    rfl

/-- A parser that is asked for filters again and again goes forward and stays within its tokens;
    at the end of the input, or with a quote that is not closed, it always fails alike. -/
structure GoesForward (ts : List Token) : Prop where
  left_eq : ∀ calls, left ts calls = ts.drop (position ts calls)
  position_lt : ∀ calls, position ts calls < ts.length
  position_le_succ : ∀ calls, position ts calls ≤ position ts (calls + 1)
  ne_tooDeep : ∀ calls rest, filter (left ts calls) ≠ .error .tooDeep rest
  position_of_ok : ∀ calls e rest, filter (left ts calls) = .ok e rest →
    position ts (calls + 1) + 1 = ts.length
  at_end : ∀ calls, position ts calls + 1 = ts.length → ∀ more,
    position ts (calls + more) = position ts calls ∧
      filter (left ts (calls + more)) = .error .empty [.endOfInput]
  unterminated : ∀ quote, .unterminated quote ∈ ts → ∀ calls, position ts calls = 0 ∧
    filter (left ts calls) = .error (.unterminated quote) ts

/-- A parser of the tokens of a text goes forward. -/
theorem goesForward (cs : List Char) : GoesForward (Token.tokens cs) := by
  obtain ⟨us, hts, hus⟩ := Token.exists_tokens_eq cs
  have hunterminated (quote : Char) (hquote : .unterminated quote ∈ Token.tokens cs)
      (calls : Nat) : position (Token.tokens cs) calls = 0 ∧
        filter (left (Token.tokens cs) calls) = .error (.unterminated quote) (Token.tokens cs) := by
    have hfront : (Token.tokens cs).headD .endOfInput ≠ .endOfInput := by
      rw [hts] at hquote ⊢
      cases us with
      | nil => simp at hquote
      | cons t us => exact fun h => hus (h ▸ List.mem_cons_self)
    have hfilter := filter_of_unterminated (Token.unterminatedQuote?_tokens hquote) hfront
    have hsame := left_of_filter hfilter calls
    exact ⟨by rw [position, hsame, Nat.sub_self], by rw [hsame, hfilter]⟩
  rw [hts] at hunterminated ⊢
  refine ⟨left_eq_drop _, position_lt (by simp), position_le_succ _, fun _ => filter_ne_tooDeep _,
    fun calls e rest h => ?_, fun calls h more => ?_, hunterminated⟩
  · rw [← headD_left_iff hus, left, h]
    exact headD_of_filter_eq_ok h
  · -- In front of the end of the input nothing is taken, so every call finds the same.
    have hhead := (headD_left_iff hus calls).2 h
    have hsame := left_of_headD hhead more
    have hlast := eq_singleton_of_headD (passes_left _ calls) hus hhead
    exact ⟨by rw [position, hsame, position], by rw [hsame, filter_of_headD hhead, hlast]⟩

-- The second call reads the token at which the first one failed.
example : (List.range 4).map (position (Token.ofString "a b")) = [0, 1, 2, 2] := by
  decide +kernel

end Parser

/-- Reading the tokens of a text comes to its end, and a parser of them, asked for filters again
    and again, and every parser that it calls, go forward. -/
theorem Expr.parsing_goesForward (text : String) :
    Token.GoesForward text.toList ∧ Parser.GoesForward (Token.ofString text) ∧
      ∀ n, Parser.IsSteady n :=
  ⟨Token.goesForward _, Parser.goesForward _, Parser.isSteady⟩

end RecordFilter
