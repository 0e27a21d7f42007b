import RecordFilter.Proofs.Grammar.Calls

/-!
# The bodies of sub-selects

The body of a sub-select goes as far as the first parenthesis that closes nothing in it. The parser
finds it by counting, from the left, how many parentheses are open (`Parser.depth`). What it finds
is described by how parentheses match: a closing parenthesis belongs to an opening one if what
stands between them is balanced, and the body ends at the first one that belongs to none
(`Parser.subselect_unmatched`). Only tokens are counted, so a parenthesis in a string is none, and
the text of a body has its tokens again, if no name in it was written between quotes.
-/

namespace RecordFilter

/-- What a token adds to the number of open parentheses. -/
def Token.delta : Token → Int
  | .symbol .leftParen => 1
  | .symbol .rightParen => -1
  | _ => 0

/-- A token that holds another text if it is a string. -/
def Token.mapString (f : String → String) : Token → Token
  | .string text => .string (f text)
  | t => t

namespace Parser

/-! ## Depth -/

/-- How many more parentheses are opened than closed. -/
def depth (ts : List Token) : Int :=
  (ts.map Token.delta).sum

variable {ts us front body rest left : List Token} {t : Token}

@[simp]
theorem depth_nil : depth [] = 0 :=
  rfl

@[simp]
theorem depth_cons (t : Token) (ts : List Token) : depth (t :: ts) = t.delta + depth ts := by
  simp [depth]

@[simp]
theorem depth_append (ts us : List Token) : depth (ts ++ us) = depth ts + depth us := by
  simp [depth]

@[simp]
theorem delta_leftParen : (Token.symbol .leftParen).delta = 1 :=
  rfl

@[simp]
theorem delta_rightParen : (Token.symbol .rightParen).delta = -1 :=
  rfl

/-- Only parentheses change the depth. -/
theorem delta_eq_zero (hopen : t ≠ .symbol .leftParen) (hclose : t ≠ .symbol .rightParen) :
    t.delta = 0 := by
  unfold Token.delta
  split <;> simp_all

/-! ## Balance -/

/-- Whether every parenthesis is closed that is opened, and none before it is opened. -/
structure IsBalanced (ts : List Token) : Prop where
  depth_eq : depth ts = 0
  depth_take : ∀ n, 0 ≤ depth (ts.take n)

/-- Whether the depth falls by some number of parentheses, and is nowhere less than at the end. -/
structure FallsBy (fall : Int) (ts : List Token) : Prop where
  endOfInput_notMem : .endOfInput ∉ ts
  depth_eq : depth ts = -fall
  depth_take : ∀ n, -fall ≤ depth (ts.take n)

theorem fallsBy_cons {fall : Int} (hfall : 0 ≤ fall) (ht : t ≠ .endOfInput) :
    FallsBy fall (t :: ts) ↔ FallsBy (fall + t.delta) ts := by
  constructor
  · rintro ⟨hend, heq, htake⟩
    refine ⟨fun hmem => hend (List.mem_cons_of_mem _ hmem), ?_, fun n => ?_⟩
    · rw [depth_cons] at heq
      omega
    · have hn := htake (n + 1)
      rw [List.take_succ_cons, depth_cons] at hn
      omega
  · rintro ⟨hend, heq, htake⟩
    refine ⟨List.not_mem_cons_of_ne_of_not_mem ht.symm hend, ?_, fun n => ?_⟩
    · rw [depth_cons]
      omega
    · cases n with
      | zero => simpa using hfall
      | succ n =>
        have hn := htake n
        rw [List.take_succ_cons, depth_cons]
        omega

/-- Behind some parentheses that were opened, a body closes them all and no other ones but its
    own. -/
theorem isBody_iff_fallsBy {opened : Nat} : IsBody opened body ↔ FallsBy opened body := by
  fun_induction IsBody opened body with
  | case1 opened =>
    constructor
    · rintro rfl
      exact ⟨List.not_mem_nil, rfl, fun n => by simp⟩
    · intro h
      have heq := h.depth_eq
      rw [depth_nil] at heq
      omega
  | case2 => exact ⟨False.elim, fun h => h.endOfInput_notMem List.mem_cons_self⟩
  -- A parenthesis that closes without one being open lets the depth fall at once.
  | case3 rest =>
    refine ⟨False.elim, fun h => ?_⟩
    have hone := h.depth_take 1
    simp at hone
  | case4 opened rest ih =>
    rw [ih, fallsBy_cons (by omega) (by simp), delta_rightParen, Nat.cast_succ,
      Int.add_neg_cancel_right]
  | case5 opened rest ih =>
    rw [ih, fallsBy_cons (by omega) (by simp), delta_leftParen, Nat.cast_succ]
  -- Other tokens are of no weight; that this one is no parenthesis that closes follows from the two
  -- cases before it, one for each form of `opened`.
  | case6 opened token rest hend hclose₀ hclose hopen ih =>
    have hright : token ≠ .symbol .rightParen := by
      rintro rfl
      cases opened with
      | zero => exact hclose₀ rfl rfl
      | succ opened => exact hclose opened rfl rfl
    rw [ih, fallsBy_cons (by omega) hend, delta_eq_zero hopen hright, Int.add_zero]

theorem isBalanced_of_isBody (h : IsBody 0 body) : IsBalanced body := by
  obtain ⟨-, heq, htake⟩ := isBody_iff_fallsBy.1 h
  exact ⟨by simpa using heq, by simpa using htake⟩

/-! ## The parenthesis that closes a body -/

/-- Whether a parenthesis is closed behind the tokens in front that none of them opens: nowhere
    among them is one opened with everything behind it balanced. -/
structure ClosesBehind (front rest : List Token) : Prop where
  endOfInput_notMem : .endOfInput ∉ front
  isPrefix : front ++ [.symbol .rightParen] <+: rest
  unmatched : ∀ before inside, front = before ++ .symbol .leftParen :: inside →
    ¬IsBalanced inside

/-- For every depth less than the one at the end, a parenthesis was opened there that is still
    open. -/
theorem exists_opened {d : Int} (hd : 0 ≤ d) (h : d < depth front) :
    ∃ before inside, front = before ++ .symbol .leftParen :: inside ∧ depth before = d ∧
      ∀ n, 0 ≤ depth (inside.take n) := by
  induction front using List.reverseRecOn with
  | nil =>
    rw [depth_nil] at h
    omega
  | append_singleton front t ih =>
    rw [depth_append, depth_cons, depth_nil] at h
    by_cases hfront : d < depth front
    · obtain ⟨before, inside, rfl, hbefore, htake⟩ := ih hfront
      rw [depth_append, depth_cons, delta_leftParen] at h
      refine ⟨before, inside ++ [t], by simp, hbefore, fun n => ?_⟩
      rcases Nat.lt_or_ge inside.length n with hn | hn
      · rw [List.take_of_length_le (by simpa using hn), depth_append, depth_cons, depth_nil]
        omega
      · rw [List.take_append_of_le_length hn]
        exact htake n
    · have hopen : t = .symbol .leftParen ∧ t.delta = 1 := by
        unfold Token.delta at h ⊢
        split at h <;> first | exact ⟨rfl, rfl⟩ | omega
      rw [hopen.2] at h
      exact ⟨front, [], by rw [hopen.1], by omega, fun n => by simp⟩

/-- If more parentheses are opened than closed, one of them is still open at the end. -/
theorem exists_unclosed (h : 0 < depth front) :
    ∃ before inside, front = before ++ .symbol .leftParen :: inside ∧ IsBalanced inside := by
  have hlast : depth front - 1 < depth front := by omega
  obtain ⟨before, inside, rfl, hbefore, htake⟩ := exists_opened (by omega) hlast
  refine ⟨before, inside, rfl, ?_, htake⟩
  rw [depth_append, depth_cons, delta_leftParen] at hbefore
  omega

/-- Where the depth falls by more, there is a parenthesis at which it does so first. -/
theorem exists_fallsBy {fall : Int} (hfall : 0 ≤ fall) (hend : .endOfInput ∉ ts)
    (hdepth : depth ts < -fall) :
    ∃ body after, ts = body ++ .symbol .rightParen :: after ∧ FallsBy fall body := by
  induction ts generalizing fall with
  | nil =>
    rw [depth_nil] at hdepth
    omega
  | cons t ts ih =>
    rw [List.mem_cons, not_or] at hend
    rw [depth_cons] at hdepth
    by_cases hfirst : t = .symbol .rightParen ∧ fall = 0
    · obtain ⟨rfl, rfl⟩ := hfirst
      exact ⟨[], ts, rfl, List.not_mem_nil, rfl, fun n => by simp⟩
    · -- Unless this token is the parenthesis that is looked for, the fall that is still to come is
      -- not negative, as the induction needs.
      have hrest : 0 ≤ fall + t.delta := by
        have hdelta : -1 ≤ t.delta ∧ (t.delta = -1 → t = .symbol .rightParen) := by
          unfold Token.delta
          split <;> simp
        by_cases hclose : t.delta = -1
        · have hzero : fall ≠ 0 := fun h => hfirst ⟨hdelta.2 hclose, h⟩
          omega
        · omega
      obtain ⟨body, after, rfl, hbody⟩ := ih hrest hend.2 (by omega)
      exact ⟨t :: body, after, rfl, (fallsBy_cons hfall (Ne.symm hend.1)).2 hbody⟩

/-- In front of a parenthesis that nothing opens there is a body. -/
theorem ClosesBehind.exists_body (h : ClosesBehind front rest) :
    ∃ body after, rest = body ++ .symbol .rightParen :: after ∧ IsBody 0 body ∧ body <+: front := by
  -- With the parenthesis the depth falls below nothing, if it did not before.
  have hdepth : depth (front ++ [.symbol .rightParen]) < 0 := by
    have hfront : ¬0 < depth front := by
      intro hopen
      obtain ⟨before, inside, hfront, hinside⟩ := exists_unclosed hopen
      exact h.unmatched before inside hfront hinside
    rw [depth_append, depth_cons, delta_rightParen, depth_nil]
    omega
  have hend : .endOfInput ∉ front ++ [Token.symbol .rightParen] := by
    rw [List.mem_append, not_or]
    exact ⟨h.endOfInput_notMem, by simp⟩
  obtain ⟨body, after, hfront, hbody⟩ := exists_fallsBy (Int.le_refl 0) hend (by rwa [Int.neg_zero])
  have hfirst : body ++ [.symbol .rightParen] <+: front ++ [.symbol .rightParen] :=
    ⟨after, by rw [hfront, List.append_assoc, List.singleton_append]⟩
  obtain ⟨left, hleft⟩ := hfirst.trans h.isPrefix
  refine ⟨body, left, ?_, isBody_iff_fallsBy.2 hbody, ?_⟩
  · rw [← hleft, List.append_assoc, List.singleton_append]
  · exact List.prefix_of_prefix_length_le ((List.prefix_append body _).trans hfirst)
      (List.prefix_append front _) (by simpa using hfirst.length_le)

/-- The parenthesis behind a body is one that nothing opens. -/
theorem closesBehind_of_isBody (h : IsBody 0 body) (after : List Token) :
    ClosesBehind body (body ++ .symbol .rightParen :: after) where
  endOfInput_notMem := (isBody_iff_fallsBy.1 h).endOfInput_notMem
  isPrefix := ⟨after, by rw [List.append_assoc, List.singleton_append]⟩
  unmatched before inside hbody hinside := by
    -- If the tokens inside weighed nothing, the parenthesis that opens them would be left over, and
    -- the tokens before it would have to close more than they open.
    obtain ⟨heq, htake⟩ := isBalanced_of_isBody h
    have hbefore := htake before.length
    rw [hbody, List.take_left] at hbefore
    rw [hbody, depth_append, depth_cons, delta_leftParen, hinside.depth_eq] at heq
    omega

/-! ## Strings -/

/-- What strings hold makes no difference to where a body ends. -/
theorem splitBody_map (f : String → String) (opened : Nat) (ts : List Token) :
    splitBody opened (ts.map (Token.mapString f)) =
      ((splitBody opened ts).1.map (Token.mapString f),
        (splitBody opened ts).2.map (Token.mapString f)) := by
  fun_induction splitBody opened ts with
  | case1 | case2 | case3 => rfl
  | case4 opened rest body after hs ih | case5 opened rest body after hs ih =>
    rw [hs] at ih
    simp [splitBody, Token.mapString, ih]
  | case6 opened token rest hend hclose₀ hclose hopen body after hs ih =>
    rw [hs] at ih
    -- A token of this case is no parenthesis, and neither is what the map makes of it.
    cases token with
    | endOfInput => exact absurd rfl hend
    | symbol s =>
      cases s with
      | leftParen => exact absurd rfl hopen
      | rightParen =>
        cases opened with
        | zero => exact absurd rfl (hclose₀ rfl)
        | succ opened => exact absurd rfl (hclose opened rfl)
      | _ => simp [splitBody, Token.mapString, ih]
    | _ => simp [splitBody, Token.mapString, ih]

/-- A sub-select is the part that `splitBody` takes, joined by blanks, unless the end of the input
    is in the place of its closing parenthesis. -/
theorem subselect_apply (ts : List Token) : subselect ts =
    if (splitBody 0 ts).2.headD .endOfInput = .endOfInput then
      .error .openSubselect (splitBody 0 ts).2
    else .ok (bodyText (splitBody 0 ts).1) (splitBody 0 ts).2 := by
  simp only [subselect]
  split
  · next hend => rw [if_pos hend]
  · next hne => rw [if_neg hne]; rfl

end Parser

/-! ## Names between quotes -/

namespace Token

/-- Whether the token at a place begins with a quote around names. -/
def IsQuotedAt (cs : List Char) (place : Nat) : Prop :=
  (skip false (textAfter cs place)).head? = some '"' ∨
    (skip false (textAfter cs place)).head? = some '\x60'

instance (cs : List Char) (place : Nat) : Decidable (IsQuotedAt cs place) :=
  inferInstanceAs (Decidable (_ ∨ _))

/-- The token at a place of the list is the one that is read there. -/
theorem nth_of_getElem? {cs : List Char} {place : Nat} {t : Token}
    (h : (tokens cs)[place]? = some t) : nth cs place = t := by
  obtain ⟨n, htokens, -, -⟩ := exists_tokens_eq_map cs
  rw [htokens, List.getElem?_map, Option.map_eq_some_iff] at h
  obtain ⟨i, hi, hnth⟩ := h
  obtain ⟨hlt, hi⟩ := List.getElem?_eq_some_iff.1 hi
  rwa [← hi, List.getElem_range] at hnth

/-- A token that is written without quotes around it is legible, if it is a name. -/
theorem isLegible_nth {cs : List Char} {place : Nat} (hend : nth cs place ≠ .endOfInput)
    (hopen : ∀ quote, nth cs place ≠ .unterminated quote) (hquoted : ¬IsQuotedAt cs place) :
    (nth cs place).IsLegible := by
  unfold nth next at *
  cases hs : skip false (textAfter cs place) with
  | nil =>
    rw [hs] at hend
    exact absurd rfl hend
  | cons c rest =>
    rw [hs] at hopen
    have hbegins := begins_scan c rest
    refine isLegible_of_begins hbegins (isBlank_of_skip hs) (fun name hname => ?_) hopen
    rw [hname] at hbegins
    refine isBare_of_begins hbegins fun hc => hquoted ?_
    rw [IsQuotedAt, hs]
    exact hc.imp (congrArg some) (congrArg some)

end Token

namespace Parser

variable {body left : List Token}

/-- The text of some tokens in a row has these tokens again, if no name among them was written
    between quotes and a parenthesis follows them. -/
theorem ofString_bodyText {cs : List Char} {front : List Token}
    (h : Token.tokens cs = front ++ (body ++ left)) (hend : .endOfInput ∉ body)
    (hleft : .symbol .rightParen ∈ left)
    (hquoted : ∀ place, front.length ≤ place → place < front.length + body.length →
      ¬Token.IsQuotedAt cs place) :
    Token.ofString (bodyText body) = body ++ [.endOfInput] := by
  -- A quote that is not closed would be the last token, but the parenthesis comes behind it.
  have hopen (quote : Char) : .unterminated quote ∉ body := by
    intro hmem
    obtain ⟨before, after, rfl⟩ := List.append_of_mem hmem
    have htokens : Token.tokens cs = (front ++ before) ++ .unterminated quote :: (after ++ left) := by
      simp [h]
    have hclose : .symbol .rightParen ∈ after ++ left := List.mem_append_right after hleft
    rw [Token.eq_of_tokens_unterminated htokens] at hclose
    simp at hclose
  have hlegible : ∀ t ∈ body, t.IsLegible := by
    intro t ht
    obtain ⟨i, hi, hget⟩ := List.mem_iff_getElem.1 ht
    have hnth : Token.nth cs (front.length + i) = t := by
      refine Token.nth_of_getElem? ?_
      rw [h, List.getElem?_append_right (Nat.le_add_right _ _), Nat.add_sub_cancel_left,
        List.getElem?_append_left hi, List.getElem?_eq_getElem hi, hget]
    rw [← hnth] at ht ⊢
    refine Token.isLegible_nth (fun heq => hend (heq ▸ ht)) (fun quote heq => ?_)
      (hquoted _ (by omega) (by omega))
    exact hopen quote (heq ▸ ht)
  have hlex := Expr.Prints.lexes_bodyText (fun t ht => (hlegible t ht).lexes) [] Token.stops_nil
  rwa [List.append_nil, Token.tokens_nil] at hlex

/-! ## Capturing -/

/-- The tokens of an input from a place on. -/
def tokensFrom (us : List Token) (place : Nat) : List Token :=
  (us ++ [Token.endOfInput]).drop place

/-- What is taken of the tokens for the body of a sub-select: the balanced tokens in front of the
    first parenthesis that is closed and not opened. -/
structure IsCaptured (body rest : List Token) : Prop where
  closesBehind : ClosesBehind body rest
  first : ∀ front, ClosesBehind front rest → body <+: front
  isBalanced : IsBalanced body

/-- The body of a sub-select is captured: it is balanced, and the parenthesis behind it is the first
    one that nothing opens. -/
theorem isCaptured_of_isBody (h : IsBody 0 body) (after : List Token) :
    IsCaptured body (body ++ .symbol .rightParen :: after) where
  closesBehind := closesBehind_of_isBody h after
  first front hfront := by
    obtain ⟨other, left, hother, hbody, hprefix⟩ := hfront.exists_body
    have hsplit := splitBody_of_isBody h after
    rw [hother, splitBody_of_isBody hbody] at hsplit
    rwa [(Prod.mk.inj hsplit).1] at hprefix
  isBalanced := isBalanced_of_isBody h

/-- A sub-select is read exactly if some parenthesis behind it is closed that nothing in front of it
    opens. -/
theorem exists_subselect_iff {rest : List Token} : (∃ sql left, subselect rest = .ok sql left) ↔
    ∃ front, ClosesBehind front rest := by
  constructor
  · rintro ⟨sql, left, h⟩
    obtain ⟨body, after, rfl, rfl, hbody, -⟩ := subselect_eq_ok.1 h
    exact ⟨body, closesBehind_of_isBody hbody after⟩
  · rintro ⟨front, h⟩
    obtain ⟨body, after, rfl, hbody, -⟩ := h.exists_body
    exact ⟨_, _, subselect_eq_ok.2 ⟨body, after, rfl, rfl, hbody, rfl⟩⟩

/-- The body of a sub-select is read if some parenthesis that follows is closed and not opened.
    What is taken are the tokens in front of the first such parenthesis, whatever the strings among
    them hold, and they are the tokens of the text that is kept, if no name among them was written
    between quotes. -/
theorem subselect_unmatched (us : List Token) (start : Nat) :
    ((∃ sql left, subselect (tokensFrom us start) = .ok sql left) ↔
      ∃ front, ClosesBehind front (tokensFrom us start)) ∧
    (∀ sql left, subselect (tokensFrom us start) = .ok sql left → ∃ body after,
      tokensFrom us start = body ++ left ∧ left = .symbol .rightParen :: after ∧
      left = tokensFrom us (start + body.length) ∧ sql = bodyText body ∧
      IsCaptured body (tokensFrom us start) ∧
      (∀ f, subselect ((tokensFrom us start).map (Token.mapString f)) =
        .ok (bodyText (body.map (Token.mapString f))) (left.map (Token.mapString f))) ∧
      ∀ cs, Token.tokens cs = us ++ [.endOfInput] →
        (∀ place, start ≤ place → place < start + body.length → ¬Token.IsQuotedAt cs place) →
        Token.ofString sql = body ++ [.endOfInput]) ∧
    ((∀ front, ¬ClosesBehind front (tokensFrom us start)) →
      ∃ cause left, subselect (tokensFrom us start) = .error cause left ∧
        cause.message = "Unterminated sub-select" ∧ left.headD .endOfInput = .endOfInput) := by
  refine ⟨exists_subselect_iff, fun sql left h => ?_, fun hnone => ?_⟩
  · obtain ⟨body, after, htokens, hleft, hbody, hsql⟩ := subselect_eq_ok.1 h
    have hdrop : left = tokensFrom us (start + body.length) := by
      rw [tokensFrom, ← List.drop_drop]
      change left = (tokensFrom us start).drop body.length
      rw [htokens, List.drop_left]
    refine ⟨body, after, htokens, hleft, hdrop, hsql, ?_, fun f => ?_, fun cs hcs hquoted => ?_⟩
    · rw [htokens, hleft]
      exact isCaptured_of_isBody hbody after
    · have hmap := splitBody_map f 0 (tokensFrom us start)
      rw [htokens, hleft, splitBody_of_isBody hbody] at hmap
      rw [subselect_apply, htokens, hleft, hmap]
      rfl
    · have hlength : start ≤ (us ++ [Token.endOfInput]).length := by
        by_contra hlt
        rw [tokensFrom, List.drop_of_length_le (Nat.le_of_not_le hlt), hleft] at htokens
        simp at htokens
      have hsplit : Token.tokens cs = (us ++ [Token.endOfInput]).take start ++ (body ++ left) := by
        rw [hcs, ← htokens, tokensFrom, List.take_append_drop]
      rw [hsql]
      refine ofString_bodyText hsplit (isBody_iff_fallsBy.1 hbody).endOfInput_notMem
        (hleft ▸ List.mem_cons_self) ?_
      rwa [List.length_take_of_le hlength]
  · rw [← not_exists, ← exists_subselect_iff] at hnone
    rw [subselect_apply] at hnone ⊢
    split at hnone
    · next hend => exact ⟨.openSubselect, _, if_pos hend, rfl, hend⟩
    · exact absurd ⟨_, _, rfl⟩ hnone

/-- The tokens of a filter with a sub-select that has a call in it, and a parenthesis in a
    string. -/
def nested : List Token :=
  [.keyword .exists, .symbol .leftParen, .keyword .select, .name "f", .symbol .leftParen,
    .name "a", .symbol .rightParen, .keyword .from, .name "t", .keyword .where, .name "b",
    .symbol .equal, .string ")", .symbol .rightParen, .keyword .or, .name "c"]

/-- A sub-select with a call and a closing parenthesis in a string is captured whole, reads again as
    eleven tokens; from the `OR` on there is no parenthesis that would end another one. -/
theorem subselect_unmatched_nested :
    Token.ofString "EXISTS (SELECT f(a) FROM t WHERE b = ')') OR c" = nested ++ [.endOfInput] ∧
    subselect (tokensFrom nested 2) = .ok "SELECT f ( a ) FROM t WHERE b = ')'"
      [.symbol .rightParen, .keyword .or, .name "c", .endOfInput] ∧
    (∃ body, body.length = 11 ∧
      Token.ofString "SELECT f ( a ) FROM t WHERE b = ')'" = body ++ [.endOfInput]) ∧
    ∃ cause left, subselect (tokensFrom nested 14) = .error cause left ∧
      cause.message = "Unterminated sub-select" := by
  have htokens : Token.ofString "EXISTS (SELECT f(a) FROM t WHERE b = ')') OR c" =
      nested ++ [.endOfInput] := by
    decide +kernel
  have hread : subselect (tokensFrom nested 2) = .ok "SELECT f ( a ) FROM t WHERE b = ')'"
      [.symbol .rightParen, .keyword .or, .name "c", .endOfInput] := by
    rfl
  refine ⟨htokens, hread, ?_, ?_⟩
  · obtain ⟨-, hok, -⟩ := subselect_unmatched nested 2
    obtain ⟨body, after, happend, -, -, -, -, -, hsame⟩ := hok _ _ hread
    have hlength : body.length = 11 := by
      have hlengths := congrArg List.length happend
      rw [List.length_append] at hlengths
      change 15 = body.length + 4 at hlengths
      omega
    refine ⟨body, hlength, hsame _ htokens ?_⟩
    rw [hlength]
    decide +kernel
  · obtain ⟨-, -, herror⟩ := subselect_unmatched nested 14
    have hnone : ∀ front, ¬ClosesBehind front (tokensFrom nested 14) := by
      rw [← not_exists, ← exists_subselect_iff]
      rintro ⟨sql, left, ⟨⟩⟩
    obtain ⟨cause, left, h, hmessage, -⟩ := herror hnone
    exact ⟨cause, left, h, hmessage⟩

end Parser

end RecordFilter
