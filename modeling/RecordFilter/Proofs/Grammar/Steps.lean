import RecordFilter.Proofs.Grammar.Basic

/-!
# Single steps of the parser

What the parsers that pass one token do to the tokens left to read. Everything
larger is put together by `bind`, so these are the facts by which a run of the
parser is taken apart (`bind_eq_ok`) or followed (`bind_of_ok`).
-/

namespace RecordFilter.Parser

variable {α β : Type} {ts mid rest : List Token}

theorem eq_cons_of_headD {t : Token} (h : ts.headD .endOfInput = t) (ht : t ≠ .endOfInput) :
    ts = t :: ts.tail := by
  cases ts with
  | nil => exact absurd h.symm ht
  | cons => rw [← h]; rfl

/-! ## Sequences -/

/-- A sequence gives a value if its parts do, each from what the one before it left. -/
theorem bind_eq_ok {p : Parser α} {f : α → Parser β} {b : β} :
    (p >>= f) ts = .ok b rest ↔ ∃ a mid, p ts = .ok a mid ∧ f a mid = .ok b rest := by
  simp only [Bind.bind]
  cases p ts with
  | ok a mid =>
    constructor
    · intro h
      exact ⟨a, mid, rfl, h⟩
    · rintro ⟨_, _, h, hf⟩
      cases h
      exact hf
  | error => simp

theorem bind_of_ok {p : Parser α} {f : α → Parser β} {a : α} (h : p ts = .ok a mid) :
    (p >>= f) ts = f a mid := by
  simp only [Bind.bind, h]

@[simp]
theorem pure_apply (a : α) : (pure a : Parser α) ts = .ok a ts := rfl

theorem pure_eq_ok {a b : α} : (pure a : Parser α) ts = .ok b rest ↔ a = b ∧ ts = rest := by
  simp

theorem map_eq_ok {p : Parser α} {f : α → β} {b : β} :
    (f <$> p) ts = .ok b rest ↔ ∃ a, p ts = .ok a rest ∧ f a = b := by
  change (p >>= fun a => pure (f a)) ts = _ ↔ _
  rw [bind_eq_ok]
  constructor
  · rintro ⟨a, mid, ha, hb⟩
    obtain ⟨rfl, rfl⟩ := pure_eq_ok.1 hb
    exact ⟨a, ha, rfl⟩
  · rintro ⟨a, ha, rfl⟩
    exact ⟨a, rest, ha, rfl⟩

theorem map_of_ok {p : Parser α} {f : α → β} {a : α} (h : p ts = .ok a rest) :
    (f <$> p) ts = .ok (f a) rest :=
  map_eq_ok.2 ⟨a, h, rfl⟩

@[simp]
theorem fail_ne_ok {cause : ParseError} {a : α} : (fail cause : Parser α) ts ≠ .ok a rest := by
  simp [fail]

/-! ## Single tokens -/

/-- Looking at the next token passes none; behind the last one stands the end of the input. -/
theorem peek_bind {f : Token → Parser β} :
    (peek >>= f) ts = f (ts.headD .endOfInput) ts := rfl

/-- The next token is passed, whatever it is. -/
theorem advance_bind {f : Unit → Parser β} : (advance >>= f) ts = f () ts.tail := rfl

theorem pure_bind {a : α} {f : α → Parser β} : ((pure a : Parser α) >>= f) ts = f a ts := rfl

theorem fail_bind {cause : ParseError} {f : α → Parser β} :
    (fail cause >>= f) ts = .error cause ts := rfl

/-- A token is skipped if it is the wanted one, and otherwise left where it is. -/
theorem skip_apply (wanted : Token) : skip wanted ts =
    if ts.headD .endOfInput = wanted then .ok true ts.tail else .ok false ts := by
  change (if ts.headD .endOfInput = wanted then (do advance; return true) else return false :
    Parser Bool) ts = _
  split <;> rfl

/-- A token that is expected is passed, and another one is an error that names both. -/
theorem expect_apply (wanted : Token) : expect wanted ts =
    if ts.headD .endOfInput = wanted then .ok () ts.tail
    else .error (.expected wanted (ts.headD .endOfInput)) ts := by
  change (if ts.headD .endOfInput = wanted then advance else
    fail (.expected wanted (ts.headD .endOfInput)) : Parser Unit) ts = _
  split <;> rfl

/-- What was skipped stood in front of what is left. The end of the input does not count, as it
    stands behind every list of tokens. -/
theorem skip_eq_true {wanted : Token} (hw : wanted ≠ .endOfInput) :
    skip wanted ts = .ok true rest ↔ ts = wanted :: rest := by
  rw [skip_apply]
  constructor
  · intro h
    split at h
    · next ht =>
      rw [eq_cons_of_headD ht hw]
      simp_all
    · simp at h
  · rintro rfl
    simp

/-- If nothing was skipped, nothing was passed. -/
theorem skip_eq_false {wanted : Token} :
    skip wanted ts = .ok false rest ↔ ts.headD .endOfInput ≠ wanted ∧ ts = rest := by
  rw [skip_apply]
  split <;> simp_all

/-- What was expected stood in front of what is left. -/
theorem expect_eq_ok {wanted : Token} (hw : wanted ≠ .endOfInput) {u : Unit} :
    expect wanted ts = .ok u rest ↔ ts = wanted :: rest := by
  rw [expect_apply]
  constructor
  · intro h
    split at h
    · next ht =>
      rw [eq_cons_of_headD ht hw]
      simp_all
    · simp at h
  · rintro rfl
    simp

theorem expectName_eq_ok {name : String} :
    expectName ts = .ok name rest ↔ ts = .name name :: rest := by
  constructor
  · intro h
    rw [expectName, peek_bind] at h
    cases ts with
    | nil => simp at h
    | cons t ts => cases t <;> simp_all [advance_bind]
  · rintro rfl
    rfl

theorem expectNumber_eq_ok {digits : String} :
    expectNumber ts = .ok digits rest ↔ ts = .number digits :: rest := by
  constructor
  · intro h
    rw [expectNumber, peek_bind] at h
    cases ts with
    | nil => simp at h
    | cons t ts => cases t <;> simp_all [advance_bind]
  · rintro rfl
    rfl

/-- The `NOT` that is passed belongs to `IN`, `BETWEEN` or `LIKE`. -/
theorem skipNegation_sound {negated : Bool} (h : skipNegation ts = .ok negated rest) :
    ts = notTokens negated ++ rest ∧ (negated = true → rest.headD .endOfInput = .keyword .in ∨
      rest.headD .endOfInput = .keyword .between ∨ rest.headD .endOfInput = .keyword .like) := by
  unfold skipNegation at h
  split at h <;> cases h <;> simp [notTokens]

theorem skipNegation_false (h : ts.headD .endOfInput ≠ .keyword .not) :
    skipNegation ts = .ok false ts := by
  unfold skipNegation
  split
  · simp at h
  · simp at h
  · simp at h
  · rfl

/-! ## Sub-selects -/

theorem splitBody_append (opened : Nat) (ts : List Token) :
    (splitBody opened ts).1 ++ (splitBody opened ts).2 = ts := by
  fun_induction splitBody opened ts <;> simp_all

/-- What ends the body of a sub-select is its closing parenthesis or the end of
    the input; in front of the parenthesis everything opened is closed. -/
theorem isBody_splitBody {opened : Nat} {ts : List Token}
    (h : (splitBody opened ts).2.headD .endOfInput ≠ .endOfInput) :
    IsBody opened (splitBody opened ts).1 ∧
      ∃ rest, (splitBody opened ts).2 = .symbol .rightParen :: rest := by
  fun_induction splitBody opened ts with
  | case1 => simp at h
  | case2 => simp at h
  | case3 rest => exact ⟨rfl, rest, rfl⟩
  | case4 opened rest body after hs ih => simp_all [IsBody]
  | case5 opened rest body after hs ih => simp_all [IsBody]
  | case6 opened token rest hend hclose₀ hclose hopen body after hs ih =>
    simp only [hs] at ih ⊢
    obtain ⟨hb, hr⟩ := ih h
    refine ⟨?_, hr⟩
    -- Neither function has a rule of its own for other tokens: that none of the rules before
    -- applies is left to show.
    rw [IsBody]
    · exact hb
    all_goals assumption

/-- A body in which all parentheses are closed is found up to the parenthesis behind it. -/
theorem splitBody_of_isBody {opened : Nat} {body : List Token} (h : IsBody opened body)
    (rest : List Token) : splitBody opened (body ++ .symbol .rightParen :: rest) =
      (body, .symbol .rightParen :: rest) := by
  fun_induction IsBody opened body with
  | case1 opened =>
    subst h
    rfl
  | case2 => exact h.elim
  | case3 => exact h.elim
  | case4 opened body ih => simp [splitBody, ih h]
  | case5 opened body ih => simp [splitBody, ih h]
  | case6 opened token body hend hclose₀ hclose hopen ih =>
    rw [List.cons_append, splitBody]
    · rw [ih h]
    all_goals assumption

/-- A sub-select is read if a body stands in front of a closing parenthesis, which is left. -/
theorem subselect_eq_ok {sql : String} : subselect ts = .ok sql rest ↔
    ∃ body after, ts = body ++ rest ∧ rest = .symbol .rightParen :: after ∧ IsBody 0 body ∧
      sql = bodyText body := by
  constructor
  · intro h
    have hsplit := splitBody_append 0 ts
    by_cases hend : (splitBody 0 ts).2.headD .endOfInput = .endOfInput
    · simp only [subselect, hend, reduceCtorEq] at h
    · obtain ⟨hb, after, ha⟩ := isBody_splitBody hend
      rw [ha] at hsplit
      simp only [subselect, ha, List.headD_cons, Outcome.ok.injEq] at h
      exact ⟨_, after, by rw [← h.2, hsplit], h.2.symm, hb, h.1.symm⟩
  · rintro ⟨body, after, rfl, rfl, hb, rfl⟩
    simp [subselect, splitBody_of_isBody hb, bodyText]

/-! ## Types -/

theorem length_parameters (others : List String) :
    (others.flatMap fun digits => [Token.symbol .comma, .number digits]).length =
      2 * others.length := by
  induction others with
  | nil => rfl
  | cons digits others ih =>
    simp only [List.flatMap_cons, List.length_append, List.length_cons, List.length_nil, ih]
    omega

/-- The further parameters of a type are numbers behind commas. -/
theorem typeParameters_sound {n : Nat} {others : List String}
    (h : typeParameters n ts = .ok others rest) :
    ts = others.flatMap (fun digits => [.symbol .comma, .number digits]) ++ rest := by
  induction n generalizing ts others with
  | zero => simp [typeParameters] at h
  | succ n ih =>
    rw [typeParameters, bind_eq_ok] at h
    obtain ⟨found, mid, hs, h⟩ := h
    cases found with
    | false =>
      obtain ⟨rfl, rfl⟩ := pure_eq_ok.1 h
      exact (skip_eq_false.1 hs).2
    | true =>
      simp only [if_true, bind_eq_ok, expectNumber_eq_ok, pure_eq_ok] at h
      obtain ⟨digits, _, rfl, more, _, hm, rfl, rfl⟩ := h
      rw [(skip_eq_true (by simp)).1 hs, ih hm]
      rfl

/-- Numbers behind commas are all read as parameters, if the allowance is enough for them and no
    further comma follows. -/
theorem typeParameters_complete {n : Nat} {others : List String} (hn : others.length < n)
    (hr : rest.headD .endOfInput ≠ .symbol .comma) :
    typeParameters n (others.flatMap (fun digits => [.symbol .comma, .number digits]) ++ rest) =
      .ok others rest := by
  induction others generalizing n with
  | nil =>
    obtain ⟨n, rfl⟩ : ∃ m, n = m + 1 := ⟨n - 1, by omega⟩
    rw [typeParameters, List.flatMap_nil, List.nil_append,
      bind_of_ok (skip_eq_false.2 ⟨hr, rfl⟩)]
    rfl
  -- Each parameter has its comma, so an allowance for the parameters is one for the tokens as well.
  | cons digits others ih =>
    obtain ⟨n, rfl⟩ : ∃ m, n = m + 1 := ⟨n - 1, by omega⟩
    have hlen : others.length < n := by
      simp only [List.length_cons] at hn
      omega
    refine bind_eq_ok.2 ⟨true, _, (skip_eq_true (by simp)).2 rfl, ?_⟩
    refine bind_eq_ok.2 ⟨digits, _, expectNumber_eq_ok.2 rfl, ?_⟩
    exact bind_eq_ok.2 ⟨others, rest, ih hlen, rfl⟩

/-- What follows the name of a type. -/
theorem typeName_cons {n : Nat} {t : Token} {name : String} (h : typeToken? t = some name) :
    typeName n (t :: ts) =
      (do
        if ← skip (.symbol .leftParen) then
          let first ← expectNumber
          let others ← typeParameters n
          expect (.symbol .rightParen)
          return name ++ "(" ++ ", ".intercalate (first :: others) ++ ")"
        else return name : Parser String) ts := by
  cases t with
  | name => cases h; rfl
  | keyword k => cases k <;> cases h <;> rfl
  | _ => cases h

/-- The first token of a type is a name or one of the keywords that are types. -/
theorem typeToken?_of_typeName {n : Nat} {type : String} (h : typeName n ts = .ok type rest) :
    ∃ t us name, ts = t :: us ∧ typeToken? t = some name := by
  cases ts with
  | nil => simp [typeName, peek_bind, fail_bind] at h
  | cons t us =>
    cases t with
    | name => exact ⟨_, us, _, rfl, rfl⟩
    | keyword k =>
      cases k with
      | date | time | timestamp => exact ⟨_, us, _, rfl, rfl⟩
      | _ => simp [typeName, peek_bind, fail_bind] at h
    | _ => simp [typeName, peek_bind, fail_bind] at h

/-- What is read as a type is one, with or without parameters in parentheses. -/
theorem typeName_sound {n : Nat} {type : String} (h : typeName n ts = .ok type rest) :
    ∃ us, ts = us ++ rest ∧ IsType type us := by
  obtain ⟨t, ts, name, rfl, ht⟩ := typeToken?_of_typeName h
  rw [typeName_cons ht, bind_eq_ok] at h
  obtain ⟨found, mid, hs, h⟩ := h
  cases found with
  | false =>
    obtain ⟨-, rfl⟩ := skip_eq_false.1 hs
    obtain ⟨rfl, rfl⟩ := pure_eq_ok.1 h
    exact ⟨[t], rfl, .plain ht⟩
  | true =>
    obtain rfl := (skip_eq_true (by simp)).1 hs
    simp only [if_true, bind_eq_ok, expectNumber_eq_ok, pure_eq_ok] at h
    obtain ⟨first, _, rfl, others, after, ho, u, _, hr, rfl, rfl⟩ := h
    obtain rfl := (expect_eq_ok (by simp)).1 hr
    rw [typeParameters_sound ho]
    exact ⟨_, by simp, .sized ht⟩

/-- Every type is read to its end, if no parenthesis follows that would begin parameters. -/
theorem typeName_complete {n : Nat} {type : String} {us : List Token} (h : IsType type us)
    (hn : us.length ≤ n) (hr : rest.headD .endOfInput ≠ .symbol .leftParen) :
    typeName n (us ++ rest) = .ok type rest := by
  cases h with
  | plain ht =>
    rw [List.cons_append, typeName_cons ht]
    exact bind_eq_ok.2 ⟨false, _, skip_eq_false.2 ⟨hr, rfl⟩, rfl⟩
  | @sized t name first others ht =>
    have hlen : others.length < n := by
      simp only [List.length_cons, List.length_append, length_parameters] at hn
      omega
    simp only [List.cons_append, List.append_assoc, List.nil_append, typeName_cons ht]
    refine bind_eq_ok.2 ⟨true, _, (skip_eq_true (by simp)).2 rfl, ?_⟩
    refine bind_eq_ok.2 ⟨first, _, expectNumber_eq_ok.2 rfl, ?_⟩
    refine bind_eq_ok.2 ⟨others, _, typeParameters_complete hlen (by simp), ?_⟩
    exact bind_eq_ok.2 ⟨(), _, (expect_eq_ok (by simp)).2 rfl, rfl⟩

/-! ## Whole filters -/

/-- What becomes of tokens that are read as a filter. -/
inductive Filters (ts : List Token) : Outcome Expr → Prop
  | empty : ts.headD .endOfInput = .endOfInput → Filters ts (.error .empty ts)
  | unterminated {quote : Char} : ts.headD .endOfInput ≠ .endOfInput →
    unterminatedQuote? ts = some quote → Filters ts (.error (.unterminated quote) ts)
  | error {cause : ParseError} {rest : List Token} : ts.headD .endOfInput ≠ .endOfInput →
    unterminatedQuote? ts = none →
    expression (allowance ts.length) .disjunction ts = .error cause rest →
    Filters ts (.error cause rest)
  | trailing {e : Expr} {rest : List Token} : ts.headD .endOfInput ≠ .endOfInput →
    unterminatedQuote? ts = none →
    expression (allowance ts.length) .disjunction ts = .ok e rest →
    rest.headD .endOfInput ≠ .endOfInput →
    Filters ts (.error (.trailing (rest.headD .endOfInput)) rest)
  | ok {e : Expr} {rest : List Token} : ts.headD .endOfInput ≠ .endOfInput →
    unterminatedQuote? ts = none →
    expression (allowance ts.length) .disjunction ts = .ok e rest →
    rest.headD .endOfInput = .endOfInput → Filters ts (.ok e rest)

/-- By the order in which a filter is checked: an empty list, an open quote, the expression, and
    what is left behind it. -/
theorem filters (ts : List Token) : Filters ts (filter ts) := by
  unfold filter
  split
  · next hend => exact .empty hend
  · next hquote hne => exact .unterminated hne hquote
  · next hquote hfront =>
    split
    · next he => exact .error hfront hquote he
    · next he =>
      split
      · next hend => exact .ok hfront hquote he hend
      · next hne => exact .trailing hfront hquote he hne

end RecordFilter.Parser
