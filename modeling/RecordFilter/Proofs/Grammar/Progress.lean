import RecordFilter.Proofs.Grammar.Steps

/-!
# The parser goes forward

No parser gives back a token it has passed, none passes the end of the input, and none uses up
its allowance (`Parser.isSteady`). The last is because on the way from one token to the next the
parsers that call each other pass through the levels of precedence at most once, for which the
allowance of one token is enough.
-/

namespace RecordFilter

/-- The one list of tokens goes on as the other one, and the end of the input is not among the
    tokens in front of that. -/
def Passes (ts rest : List Token) : Prop :=
  ∃ us, ts = us ++ rest ∧ .endOfInput ∉ us

namespace Passes

variable {ts mid rest : List Token}

theorem refl (ts : List Token) : Passes ts ts :=
  ⟨[], rfl, List.not_mem_nil⟩

theorem trans (h : Passes ts mid) (h' : Passes mid rest) : Passes ts rest := by
  obtain ⟨us, rfl, hus⟩ := h
  obtain ⟨vs, rfl, hvs⟩ := h'
  exact ⟨us ++ vs, (List.append_assoc ..).symm, by simp [hus, hvs]⟩

theorem cons {t : Token} (ht : t ≠ .endOfInput) (h : Passes ts rest) : Passes (t :: ts) rest := by
  obtain ⟨us, rfl, hus⟩ := h
  exact ⟨t :: us, rfl, by simp [hus, ht.symm]⟩

theorem suffix (h : Passes ts rest) : rest <:+ ts := by
  obtain ⟨us, hus, -⟩ := h
  exact ⟨us, hus.symm⟩

theorem length_le (h : Passes ts rest) : rest.length ≤ ts.length :=
  h.suffix.length_le

end Passes

/-- The outcome leaves the tokens from some place on, of which it passed at least some number if
    there is a value. If the allowance was enough it was not used up. -/
def Outcome.Keeps {α : Type} (enough : Prop) (least : Nat) (ts : List Token) : Outcome α → Prop
  | .ok _ rest => Passes ts rest ∧ rest.length + least ≤ ts.length
  | .error cause rest => Passes ts rest ∧ (enough → cause ≠ .tooDeep)

namespace Parser

variable {α β : Type} {enough : Prop} {ts : List Token} {l n : Nat}

/-! ## Sequences -/

/-- Whatever makes the allowance enough for what was shown can be asked for instead. -/
theorem keeps_of {p : Prop} {o : Outcome α} (h : o.Keeps p l ts) (hp : enough → p) :
    o.Keeps enough l ts := by
  cases o with
  | ok a rest => exact h
  | error cause rest => exact ⟨h.1, fun he => h.2 (hp he)⟩

theorem keeps_zero {o : Outcome α} (h : o.Keeps enough l ts) : o.Keeps enough 0 ts := by
  cases o with
  | ok a rest => exact ⟨h.1, h.1.length_le⟩
  | error cause rest => exact h

/-- A sequence keeps to the tokens if its parts do. It passes at least as many as its first part,
    and what follows it has so many fewer tokens left. -/
theorem keeps_bind {p : Parser α} {f : α → Parser β} (hp : (p ts).Keeps enough l ts)
    (hf : ∀ a rest, rest.length + l ≤ ts.length → (f a rest).Keeps enough 0 rest) :
    ((p >>= f) ts).Keeps enough l ts := by
  simp only [Bind.bind]
  cases h : p ts with
  | error cause rest =>
    rw [h] at hp
    exact hp
  | ok a rest =>
    rw [h] at hp
    obtain ⟨hpass, hlen⟩ := hp
    -- What the first part passed may be nothing, so of the second part only the order of its tokens
    -- is needed.
    have hrest := hf a rest hlen
    simp only
    cases ho : f a rest with
    | error cause after =>
      rw [ho] at hrest
      exact ⟨hpass.trans hrest.1, hrest.2⟩
    | ok b after =>
      rw [ho] at hrest
      have := hrest.1.length_le
      exact ⟨hpass.trans hrest.1, by omega⟩

theorem keeps_pure (a : α) : ((pure a : Parser α) ts).Keeps enough 0 ts :=
  ⟨.refl ts, Nat.le_refl _⟩

theorem keeps_fail {cause : ParseError} (h : cause ≠ .tooDeep) :
    ((fail cause : Parser α) ts).Keeps enough l ts :=
  ⟨.refl ts, fun _ => h⟩

/-- Running out of the allowance is allowed only where it is not enough. -/
theorem keeps_tooDeep (h : ¬ enough) : ((fail .tooDeep : Parser α) ts).Keeps enough l ts :=
  ⟨.refl ts, fun he => absurd he h⟩

/-! ## Single tokens -/

/-- What is kept behind a token is kept in front of it. -/
theorem keeps_cons {t : Token} {o : Outcome α} (ht : t ≠ .endOfInput) (h : o.Keeps enough 0 ts) :
    o.Keeps enough 1 (t :: ts) := by
  cases o with
  | ok a rest => exact ⟨h.1.cons ht, Nat.succ_le_succ h.1.length_le⟩
  | error cause rest => exact ⟨h.1.cons ht, h.2⟩

/-- Passing the current token, which was seen to be no end of the input. -/
theorem keeps_tail {o : Outcome α} (ht : ts.headD .endOfInput ≠ .endOfInput)
    (h : ts.tail.length + 1 ≤ ts.length → o.Keeps enough 0 ts.tail) : o.Keeps enough 1 ts := by
  cases ts with
  | nil => exact absurd rfl ht
  | cons t ts => exact keeps_cons ht (h (Nat.le_refl _))

/-- A token that is skipped is one token less for what follows. -/
theorem keeps_skip_bind {wanted : Token} (hw : wanted ≠ .endOfInput) {f : Bool → Parser β}
    (htrue : ∀ rest, rest.length + 1 ≤ ts.length → (f true rest).Keeps enough 0 rest)
    (hfalse : (f false ts).Keeps enough l ts) (hl : l ≤ 1) :
    ((skip wanted >>= f) ts).Keeps enough l ts := by
  by_cases h : ts.headD .endOfInput = wanted
  · have hskip : skip wanted ts = .ok true ts.tail := by rw [skip_apply, if_pos h]
    rw [bind_of_ok hskip]
    have hone := keeps_tail (h ▸ hw) (htrue _)
    rcases Nat.le_one_iff_eq_zero_or_eq_one.1 hl with rfl | rfl
    · exact keeps_zero hone
    · exact hone
  · rw [bind_of_ok (skip_eq_false.2 ⟨h, rfl⟩)]
    exact hfalse

theorem keeps_expect {wanted : Token} (hw : wanted ≠ .endOfInput) :
    (expect wanted ts).Keeps enough 1 ts := by
  rw [expect_apply]
  split
  · next h => exact keeps_tail (h ▸ hw) fun _ => keeps_pure ()
  · exact keeps_fail (by simp)

theorem keeps_expectName : (expectName ts).Keeps enough 1 ts := by
  rw [expectName, peek_bind]
  cases ts with
  | nil => exact keeps_fail (by simp)
  | cons t ts =>
    cases t with
    | name name => exact keeps_cons (by simp) (keeps_pure name)
    | _ => exact keeps_fail (by simp)

theorem keeps_expectNumber : (expectNumber ts).Keeps enough 1 ts := by
  rw [expectNumber, peek_bind]
  cases ts with
  | nil => exact keeps_fail (by simp)
  | cons t ts =>
    cases t with
    | number digits => exact keeps_cons (by simp) (keeps_pure digits)
    | _ => exact keeps_fail (by simp)

/-- Nothing is passed but the `NOT` of a condition. -/
theorem keeps_skipNegation : (skipNegation ts).Keeps enough 0 ts := by
  unfold skipNegation
  split
  case h_4 => exact keeps_pure false
  all_goals exact keeps_zero (keeps_cons (by simp) (keeps_pure true))

/-- A closing parenthesis ends many expressions. -/
theorem keeps_close {f : Expr} : ((do
    expect (.symbol .rightParen)
    return f : Parser Expr) ts).Keeps enough 0 ts :=
  keeps_zero (keeps_bind (keeps_expect (by simp)) fun _ _ _ => keeps_pure _)

/-- The body of a sub-select stops in front of the end of the input. -/
theorem endOfInput_notMem_splitBody (opened : Nat) (ts : List Token) :
    .endOfInput ∉ (splitBody opened ts).1 := by
  fun_induction splitBody opened ts with
  | case1 => simp
  | case2 => simp
  | case3 => simp
  | case4 _ _ _ _ hs ih | case5 _ _ _ _ hs ih | case6 _ _ _ _ _ _ _ _ _ hs ih =>
    rw [hs] at ih
    simp_all [eq_comm]

theorem keeps_subselect : (subselect ts).Keeps enough 0 ts := by
  have hpass : Passes ts (splitBody 0 ts).2 :=
    ⟨(splitBody 0 ts).1, (splitBody_append 0 ts).symm, endOfInput_notMem_splitBody 0 ts⟩
  simp only [subselect]
  split
  · exact ⟨hpass, by simp⟩
  · exact ⟨hpass, hpass.length_le⟩

/-! ## Types -/

/-- Each parameter of a type takes one of the allowance and two tokens. -/
theorem keeps_typeParameters : (typeParameters n ts).Keeps (16 * ts.length + 1 ≤ n) 0 ts := by
  induction n generalizing ts with
  | zero => exact keeps_tooDeep (by omega)
  | succ n ih =>
    rw [typeParameters]
    refine keeps_skip_bind (by simp) (fun rest hr => ?_) (keeps_pure []) (Nat.zero_le 1)
    rw [if_pos rfl]
    refine keeps_zero (keeps_bind keeps_expectNumber fun _ rest' hr' => ?_)
    exact keeps_bind (keeps_of ih (by omega)) fun _ _ _ => keeps_pure _

theorem keeps_typeName : (typeName n ts).Keeps (16 * ts.length + 1 ≤ n) 1 ts := by
  cases ts with
  | nil => exact keeps_fail (by simp)
  | cons t us =>
    cases ht : typeToken? t with
    | some name =>
      have hend : t ≠ .endOfInput := by
        rintro rfl
        cases ht
      rw [List.length_cons, typeName_cons ht]
      refine keeps_cons hend ?_
      refine keeps_skip_bind (by simp) (fun rest hr => ?_) (keeps_pure name) (Nat.zero_le 1)
      rw [if_pos rfl]
      refine keeps_zero (keeps_bind keeps_expectNumber fun _ rest' hr' => ?_)
      refine keeps_bind (keeps_of keeps_typeParameters (by omega)) fun _ _ _ => ?_
      exact keeps_zero (keeps_bind (keeps_expect (by simp)) fun _ _ _ => keeps_pure _)
    | none =>
      cases t with
      | name => cases ht
      | keyword k =>
        cases k with
        | date | time | timestamp => cases ht
        | _ => exact keeps_fail (by simp)
      | _ => exact keeps_fail (by simp)

/-! ## The descent -/

/-- What each parser leaves. Its allowance is enough if there is one for every token left, and for
    the levels that it passes through in front of the first one. -/
structure IsSteady (n : Nat) : Prop where
  expression : ∀ {level ts},
    (expression n level ts).Keeps (16 * ts.length + (12 - level.rank) ≤ n) 1 ts
  joined : ∀ {level left ts}, (joined n level left ts).Keeps (16 * ts.length + 1 ≤ n) 0 ts
  condition : ∀ {subject ts}, (condition n subject ts).Keeps (16 * ts.length + 1 ≤ n) 0 ts
  expressions : ∀ {ts}, (expressions n ts).Keeps (16 * ts.length + 13 ≤ n) 1 ts
  primary : ∀ {ts}, (primary n ts).Keeps (16 * ts.length + 2 ≤ n) 1 ts
  typed : ∀ {kind name ts}, (typed n kind name ts).Keeps (16 * ts.length + 2 ≤ n) 0 ts
  named : ∀ {name ts}, (named n name ts).Keeps (16 * ts.length + 1 ≤ n) 0 ts
  caseBranches : ∀ {ts}, (caseBranches n ts).Keeps (16 * ts.length + 1 ≤ n) 0 ts

theorem isSteady_zero : IsSteady 0 where
  expression {level ts} := keeps_tooDeep (by cases level <;> simp [Level.rank])
  joined := keeps_tooDeep (by omega)
  condition := keeps_tooDeep (by omega)
  expressions := keeps_tooDeep (by omega)
  primary := keeps_tooDeep (by omega)
  typed := keeps_tooDeep (by omega)
  named := keeps_tooDeep (by omega)
  caseBranches := keeps_tooDeep (by omega)

/-- Each operator of a level and its operand take one of the allowance; the operand passes at least
    a token, so the rest is enough for the operators behind it. -/
theorem keeps_joined (ih : IsSteady n) {level : Level} {left : Expr} :
    (joined (n + 1) level left ts).Keeps (16 * ts.length + 1 ≤ n + 1) 0 ts := by
  rw [joined, peek_bind]
  cases hj : level.join? (ts.headD .endOfInput) with
  | none => exact keeps_pure left
  | some join =>
    have hend : ts.headD .endOfInput ≠ .endOfInput := by
      intro heq
      rw [heq] at hj
      cases level <;> cases hj
    simp only [advance_bind]
    -- The token of the operator pays for going round again.
    refine keeps_zero (keeps_tail hend fun ht => ?_)
    refine keeps_zero (keeps_bind (keeps_of ih.expression (by omega)) fun _ rest hr => ?_)
    exact keeps_of ih.joined (by omega)

theorem keeps_expressions (ih : IsSteady n) :
    (expressions (n + 1) ts).Keeps (16 * ts.length + 13 ≤ n + 1) 1 ts := by
  rw [expressions]
  refine keeps_bind (keeps_of ih.expression (by simp only [Level.rank]; omega)) fun e rest hr => ?_
  refine keeps_skip_bind (by simp) (fun rest' hr' => ?_) (keeps_pure _) (Nat.zero_le 1)
  rw [if_pos rfl]
  exact keeps_zero (keeps_bind (keeps_of ih.expressions (by omega)) fun _ _ _ => keeps_pure _)

theorem keeps_named (ih : IsSteady n) {name : String} :
    (named (n + 1) name ts).Keeps (16 * ts.length + 1 ≤ n + 1) 0 ts := by
  rw [named]
  refine keeps_skip_bind (by simp) (fun rest hr => ?_) ?_ (Nat.zero_le 1)
  · rw [if_pos rfl]
    exact keeps_zero (keeps_bind keeps_expectName fun _ _ _ => keeps_pure _)
  · rw [if_neg Bool.false_ne_true]
    refine keeps_skip_bind (by simp) (fun rest hr => ?_) (keeps_pure _) (Nat.zero_le 1)
    rw [if_pos rfl, peek_bind]
    split
    · exact keeps_close
    · exact keeps_zero (keeps_bind (keeps_of ih.expressions (by omega)) fun _ _ _ => keeps_close)

/-- Each branch of a `CASE` takes one of the allowance and passes at least its keywords. -/
theorem keeps_caseBranches (ih : IsSteady n) :
    (caseBranches (n + 1) ts).Keeps (16 * ts.length + 1 ≤ n + 1) 0 ts := by
  rw [caseBranches]
  refine keeps_skip_bind (by simp) (fun rest hr => ?_) (keeps_pure []) (Nat.zero_le 1)
  rw [if_pos rfl]
  refine keeps_zero (keeps_bind (keeps_of ih.expression (by omega)) fun _ _ _ => ?_)
  refine keeps_zero (keeps_bind (keeps_expect (by simp)) fun _ _ _ => ?_)
  refine keeps_zero (keeps_bind (keeps_of ih.expression (by omega)) fun _ _ _ => ?_)
  exact keeps_bind (keeps_of ih.caseBranches (by omega)) fun _ _ _ => keeps_pure _

/-- A keyword is a constant in front of a string and a name otherwise. -/
theorem keeps_typed (ih : IsSteady n) {kind : Keyword} {name : String} :
    (typed (n + 1) kind name ts).Keeps (16 * ts.length + 2 ≤ n + 1) 0 ts := by
  rw [typed, peek_bind]
  cases ts with
  | nil => exact keeps_of ih.named (by omega)
  | cons t us =>
    cases t with
    | string text =>
      simp only [List.headD_cons, advance_bind, List.tail_cons]
      refine keeps_zero (keeps_cons (by simp) ?_)
      cases dateConstant kind text with
      | ok constant => exact keeps_pure _
      | error cause => exact keeps_fail (by simp)
    | _ => exact keeps_of ih.named (by omega)

/-! ### Conditions -/

/-- What stands behind `IN`: a sub-select or a list, in parentheses. -/
theorem keeps_in (ih : IsSteady n) {s : Expr} {negated : Bool} :
    ((do
      expect (.symbol .leftParen)
      if (← peek) = .keyword .select then
        let sql ← subselect
        expect (.symbol .rightParen)
        return .inSubselect negated s sql
      else
        let items ← expressions n
        expect (.symbol .rightParen)
        return .inList negated s items : Parser Expr) ts).Keeps
      (16 * ts.length + 16 ≤ n) 0 ts := by
  refine keeps_zero (keeps_bind (keeps_expect (by simp)) fun _ rest hr => ?_)
  rw [peek_bind]
  split
  · exact keeps_bind keeps_subselect fun _ _ _ => keeps_close
  · exact keeps_zero (keeps_bind (keeps_of ih.expressions (by omega)) fun _ _ _ => keeps_close)

/-- What stands behind `BETWEEN`: two operands around `AND`. -/
theorem keeps_between (ih : IsSteady n) {s : Expr} {negated : Bool} :
    ((do
      let low ← expression n .bitwise
      expect (.keyword .and)
      return .between negated s low (← expression n .bitwise) : Parser Expr) ts).Keeps
      (16 * ts.length + 16 ≤ n) 0 ts := by
  refine keeps_zero (keeps_bind (keeps_of ih.expression (by omega)) fun _ _ _ => ?_)
  refine keeps_zero (keeps_bind (keeps_expect (by simp)) fun _ _ _ => ?_)
  exact keeps_zero (keeps_bind (keeps_of ih.expression (by omega)) fun _ _ _ => keeps_pure _)

/-- What stands behind an operator of a condition: one more operand. -/
theorem keeps_operand (ih : IsSteady n) {f : Expr → Expr} :
    ((do return f (← expression n .bitwise) : Parser Expr) ts).Keeps
      (16 * ts.length + 16 ≤ n) 0 ts :=
  keeps_zero (keeps_bind (keeps_of ih.expression (by omega)) fun _ _ _ => keeps_pure _)

/-- What stands behind the subject of a condition, if there is anything. -/
theorem keeps_condition (ih : IsSteady n) {s : Expr} :
    (condition (n + 1) s ts).Keeps (16 * ts.length + 1 ≤ n + 1) 0 ts := by
  rw [condition]
  refine keeps_skip_bind (by simp) (fun rest hr => ?_) ?_ (Nat.zero_le 1)
  · rw [if_pos rfl]
    refine keeps_skip_bind (by simp) (fun _ _ => ?_) ?_ (Nat.zero_le 1)
    · exact keeps_zero (keeps_bind (keeps_expect (by simp)) fun _ _ _ => keeps_pure _)
    · exact keeps_zero (keeps_bind (keeps_expect (by simp)) fun _ _ _ => keeps_pure _)
  · rw [if_neg Bool.false_ne_true]
    refine keeps_bind keeps_skipNegation fun negated mid hmid => ?_
    rw [peek_bind]
    -- Each operator is a token that is passed before the next parser is entered: it pays for the 16
    -- steps that an expression may need.
    cases mid with
    | nil => exact keeps_pure s
    | cons t us =>
      rw [List.length_cons] at hmid
      cases t with
      | keyword k =>
        cases k with
        | «in» => exact keeps_zero (keeps_cons (by simp) (keeps_of (keeps_in ih) (by omega)))
        | between =>
          exact keeps_zero (keeps_cons (by simp) (keeps_of (keeps_between ih) (by omega)))
        | like => exact keeps_zero (keeps_cons (by simp) (keeps_of (keeps_operand ih) (by omega)))
        | _ => exact keeps_pure s
      | symbol sym =>
        cases sym with
        | tilde | equal | notEqual | less | greater | lessEqual | greaterEqual =>
          exact keeps_zero (keeps_cons (by simp) (keeps_of (keeps_operand ih) (by omega)))
        | _ => exact keeps_pure s
      | _ => exact keeps_pure s

/-! ### Expressions without operators -/

/-- What stands behind an opening parenthesis: a sub-select or an expression. -/
theorem keeps_paren (ih : IsSteady n) : ((do
      if (← peek) = .keyword .select then
        let sql ← subselect
        expect (.symbol .rightParen)
        return .subselect sql
      else
        let inner ← expression n .disjunction
        expect (.symbol .rightParen)
        return .paren inner : Parser Expr) ts).Keeps (16 * ts.length + 16 ≤ n) 0 ts := by
  rw [peek_bind]
  split
  · exact keeps_bind keeps_subselect fun _ _ _ => keeps_close
  · exact keeps_zero (keeps_bind (keeps_of ih.expression (by omega)) fun _ _ _ => keeps_close)

theorem keeps_exists : ((do
      expect (.symbol .leftParen)
      let sql ← subselect
      expect (.symbol .rightParen)
      return .exists false sql : Parser Expr) ts).Keeps enough 0 ts := by
  refine keeps_zero (keeps_bind (keeps_expect (by simp)) fun _ _ _ => ?_)
  exact keeps_bind keeps_subselect fun _ _ _ => keeps_close

theorem keeps_cast (ih : IsSteady n) : ((do
      expect (.symbol .leftParen)
      let operand ← expression n .disjunction
      expect (.keyword .as)
      let type ← typeName n
      expect (.symbol .rightParen)
      return .cast operand type : Parser Expr) ts).Keeps (16 * ts.length + 16 ≤ n) 0 ts := by
  refine keeps_zero (keeps_bind (keeps_expect (by simp)) fun _ _ _ => ?_)
  refine keeps_zero (keeps_bind (keeps_of ih.expression (by omega)) fun _ _ _ => ?_)
  refine keeps_zero (keeps_bind (keeps_expect (by simp)) fun _ _ _ => ?_)
  exact keeps_zero (keeps_bind (keeps_of keeps_typeName (by omega)) fun _ _ _ => keeps_close)

/-- What stands behind `CASE`: an operand that may be missing, branches, and an `ELSE` that may be
    missing. -/
theorem keeps_case (ih : IsSteady n) : ((do
      let operand ←
        if (← peek) = .keyword .when then pure none
        else some <$> expression n .disjunction
      let branches ← caseBranches n
      if branches.isEmpty then fail .noBranch
      else
        let otherwise ←
          if ← skip (.keyword .else) then some <$> expression n .disjunction
          else pure none
        expect (.keyword .end)
        return .case operand branches otherwise : Parser Expr) ts).Keeps
      (16 * ts.length + 16 ≤ n) 0 ts := by
  have hsome {us : List Token} : ((some <$> expression n .disjunction :
      Parser (Option Expr)) us).Keeps (16 * us.length + 16 ≤ n) 0 us :=
    keeps_zero (keeps_bind (keeps_of ih.expression (by omega)) fun _ _ _ => keeps_pure _)
  have hend {e : Expr} (us : List Token) : ((do
      expect (.keyword .end)
      return e : Parser Expr) us).Keeps (16 * ts.length + 16 ≤ n) 0 us :=
    keeps_zero (keeps_bind (keeps_expect (by simp)) fun _ _ _ => keeps_pure _)
  -- Both ways to read the operand go on with the same parser, from different tokens.
  have hrest (operand : Option Expr) (us : List Token) (hus : us.length ≤ ts.length) : ((do
      let branches ← caseBranches n
      if branches.isEmpty then fail .noBranch
      else
        let otherwise ←
          if ← skip (.keyword .else) then some <$> expression n .disjunction
          else pure none
        expect (.keyword .end)
        return .case operand branches otherwise : Parser Expr) us).Keeps
      (16 * ts.length + 16 ≤ n) 0 us := by
    refine keeps_bind (keeps_of ih.caseBranches (by omega)) fun branches mid hmid => ?_
    split
    · exact keeps_fail (by simp)
    · refine keeps_skip_bind (by simp) (fun rest hr => ?_) (hend _) (Nat.zero_le 1)
      exact keeps_bind (keeps_of hsome (by omega)) fun _ _ _ => hend _
  rw [peek_bind]
  split
  · exact hrest none ts (Nat.le_refl _)
  · exact keeps_bind hsome fun _ _ _ => hrest _ _ (by omega)

theorem keeps_primary (ih : IsSteady n) :
    (primary (n + 1) ts).Keeps (16 * ts.length + 2 ≤ n + 1) 1 ts := by
  rw [primary, peek_bind]
  cases ts with
  | nil => exact keeps_fail (by simp)
  | cons t ts =>
    rw [List.length_cons]
    cases t with
    | number digits =>
      simp only [List.headD_cons, advance_bind, List.tail_cons]
      refine keeps_cons (by simp) ?_
      cases numberConstant? digits with
      | some constant => exact keeps_pure _
      | none => exact keeps_fail (by simp)
    | string text => exact keeps_cons (by simp) (keeps_pure _)
    | name name => exact keeps_cons (by simp) (keeps_of ih.named (by omega))
    | symbol s =>
      cases s with
      | leftParen => exact keeps_cons (by simp) (keeps_of (keeps_paren ih) (by omega))
      | _ => exact keeps_fail (by simp)
    | keyword k =>
      cases k with
      | true | false | null => exact keeps_cons (by simp) (keeps_pure _)
      | date | time | timestamp => exact keeps_cons (by simp) (keeps_of ih.typed (by omega))
      | «exists» => exact keeps_cons (by simp) keeps_exists
      | case => exact keeps_cons (by simp) (keeps_of (keeps_case ih) (by omega))
      | cast => exact keeps_cons (by simp) (keeps_of (keeps_cast ih) (by omega))
      | _ => exact keeps_fail (by simp)
    | _ => exact keeps_fail (by simp)

/-! ### Levels -/

/-- A sign passes a token itself, so the allowance is enough for what it is in front of. -/
theorem keeps_sign (ih : IsSteady n) :
    (expression (n + 1) .sign ts).Keeps (16 * ts.length + 5 ≤ n + 1) 1 ts := by
  rw [expression, peek_bind]
  have hplain : (expression n .access ts).Keeps (16 * ts.length + 5 ≤ n + 1) 1 ts :=
    keeps_of ih.expression (by simp only [Level.rank]; omega)
  cases ts with
  | nil => exact hplain
  | cons t us =>
    have hsign : (expression n .sign us).Keeps (16 * (t :: us).length + 5 ≤ n + 1) 0 us :=
      keeps_zero (keeps_of ih.expression (by simp only [List.length_cons, Level.rank]; omega))
    cases t with
    | symbol s =>
      cases s with
      | plus => exact keeps_cons (by simp) hsign
      | minus => exact keeps_cons (by simp) (keeps_bind hsign fun _ _ _ => keeps_pure _)
      | _ => exact hplain
    | _ => exact hplain

theorem keeps_negation (ih : IsSteady n) :
    (expression (n + 1) .negation ts).Keeps (16 * ts.length + 10 ≤ n + 1) 1 ts := by
  rw [expression]
  refine keeps_skip_bind (by simp) (fun rest hr => ?_) ?_ (Nat.le_refl 1)
  · rw [if_pos rfl]
    exact keeps_zero (keeps_bind (keeps_of ih.expression (by omega)) fun _ _ _ => keeps_pure _)
  · exact keeps_of ih.expression (by simp only [Level.rank]; omega)

/-- A level of operators that are joined from left to right: an operand of the next level and what
    is joined to it. -/
theorem keeps_chain (ih : IsSteady n) {level : Level} :
    ((do joined n level (← expression n level.next) : Parser Expr) ts).Keeps
      (16 * ts.length + (12 - level.next.rank) ≤ n) 1 ts :=
  keeps_bind ih.expression fun _ _ _ => keeps_of ih.joined (by omega)

/-- An expression of any level. The tighter the level, the less of the allowance is needed, as the
    levels are tried in turn. -/
theorem keeps_expression (ih : IsSteady n) {level : Level} :
    (expression (n + 1) level ts).Keeps (16 * ts.length + (12 - level.rank) ≤ n + 1) 1 ts := by
  cases level with
  | negation => exact keeps_negation ih
  | comparison =>
    -- The condition begins behind the subject, which is at least one token.
    refine keeps_bind (keeps_of ih.expression ?_) fun _ _ _ => keeps_of ih.condition (by omega)
    simp only [Level.rank]
    omega
  | sign => exact keeps_sign ih
  | primary => exact keeps_of ih.primary (by simp only [Level.rank]; omega)
  | _ => exact keeps_of (keeps_chain ih) (by simp only [Level.next, Level.rank]; omega)

/-- The parsers go forward, and do not use up an allowance that is enough. -/
theorem isSteady (n : Nat) : IsSteady n := by
  induction n with
  | zero => exact isSteady_zero
  | succ n ih =>
    exact {
      expression := keeps_expression ih
      joined := keeps_joined ih
      condition := keeps_condition ih
      expressions := keeps_expressions ih
      primary := keeps_primary ih
      typed := keeps_typed ih
      named := keeps_named ih
      caseBranches := keeps_caseBranches ih }

end Parser

end RecordFilter
