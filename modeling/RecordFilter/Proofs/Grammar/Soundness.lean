import RecordFilter.Proofs.Grammar.Steps

/-!
# What is read is grammatical

Whenever a parser of expressions succeeds, the tokens it passed are a phrase of
what it read (`Parser.sound`). The induction is on the allowance, all parsers at
once: a parser that has one step more calls the others with one step less.
-/

namespace RecordFilter.Parser

/-- Reading the form with an allowance takes the tokens to the rest. -/
def Reads (n : Nat) : Form → List Token → List Token → Prop
  | .expression level e, ts, rest => expression n level ts = .ok e rest
  | .joined level l e, ts, rest => joined n level l ts = .ok e rest
  | .condition s e, ts, rest => condition n s ts = .ok e rest
  | .list es, ts, rest => expressions n ts = .ok es rest
  | .named name e, ts, rest => named n name ts = .ok e rest
  | .branches bs, ts, rest => caseBranches n ts = .ok bs rest
  | .optional _ none, ts, rest => ts = rest
  | .optional mark (some e), ts, rest =>
    ∃ us, ts = mark.map .keyword ++ us ∧ expression n .disjunction us = .ok e rest

/-- The tokens begin with a phrase of the form, which the rest follows. -/
def Begins (form : Form) (ts rest : List Token) : Prop :=
  ∃ us, ts = us ++ rest ∧ Phrase form us

/-- Everything read with the allowance is a phrase. -/
def IsSound (n : Nat) : Prop :=
  ∀ form ts rest, Reads n form ts rest → Begins form ts rest

variable {n : Nat} {ts rest : List Token}

/-- Without allowance nothing is read but an optional expression that is missing. -/
theorem isSound_zero : IsSound 0 := by
  intro form ts rest h
  cases form with
  | optional mark e =>
    cases e with
    | none => exact ⟨[], h, .missing⟩
    | some e =>
      obtain ⟨us, -, h⟩ := h
      simp [expression] at h
  | expression => simp [Reads, expression] at h
  | joined => simp [Reads, joined] at h
  | condition => simp [Reads, condition] at h
  | list => simp [Reads, expressions] at h
  | named => simp [Reads, named] at h
  | branches => simp [Reads, caseBranches] at h

/-- What is joined to a left operand is either nothing, where no operator of the level stands, or an
    operator, a right operand and what is joined to both. -/
theorem begins_joined (ih : IsSound n) {level : Level} {l e : Expr}
    (h : joined (n + 1) level l ts = .ok e rest) : Begins (.joined level l e) ts rest := by
  rw [joined, peek_bind] at h
  cases hj : level.join? (ts.headD .endOfInput) with
  | none =>
    simp only [hj, pure_eq_ok] at h
    obtain ⟨rfl, rfl⟩ := h
    exact ⟨[], rfl, .last⟩
  | some f =>
    simp only [hj, advance_bind, bind_eq_ok] at h
    obtain ⟨r, mid, hr, hl⟩ := h
    obtain ⟨us, hus, pr⟩ := ih (.expression level.next r) _ _ hr
    obtain ⟨vs, rfl, pl⟩ := ih (.joined level (f l r) e) _ _ hl
    cases ts with
    | nil => cases level <;> simp [Level.join?] at hj
    | cons t ts =>
      obtain rfl : ts = us ++ (vs ++ rest) := hus
      exact ⟨t :: (us ++ vs), by simp, .join hj pr pl⟩

/-! ## Conditions -/

/-- Behind `IN` stands a sub-select or a list, whichever the token after the parenthesis shows. -/
theorem begins_in (ih : IsSound n) {s e : Expr} {negated : Bool}
    (h : (do
      expect (.symbol .leftParen)
      if (← peek) = .keyword .select then
        let sql ← subselect
        expect (.symbol .rightParen)
        return .inSubselect negated s sql
      else
        let items ← expressions n
        expect (.symbol .rightParen)
        return .inList negated s items : Parser Expr) ts = .ok e rest) :
    Begins (.condition s e) (notTokens negated ++ .keyword .in :: ts) rest := by
  rw [bind_eq_ok] at h
  obtain ⟨u, mid, ho, h⟩ := h
  obtain rfl := (expect_eq_ok (by simp)).1 ho
  rw [peek_bind] at h
  by_cases hs : mid.headD .endOfInput = .keyword .select
  · simp only [hs, if_true, bind_eq_ok, subselect_eq_ok, pure_eq_ok] at h
    obtain ⟨sql, _, ⟨body, after, rfl, rfl, hb, rfl⟩, u, _, hc, rfl, rfl⟩ := h
    obtain ⟨-, rfl⟩ := List.cons.inj ((expect_eq_ok (by simp)).1 hc)
    -- An empty body would end at the parenthesis, but the first token is `SELECT`.
    cases body with
    | nil => simp at hs
    | cons t body =>
      obtain rfl : t = .keyword .select := hs
      exact ⟨_, by simp, .inSubselect hb⟩
  · simp only [hs, if_false, bind_eq_ok, pure_eq_ok] at h
    obtain ⟨items, mid, hi, u, _, hc, rfl, rfl⟩ := h
    obtain rfl := (expect_eq_ok (by simp)).1 hc
    obtain ⟨us, rfl, pi⟩ := ih (.list items) _ _ hi
    exact ⟨_, by simp, .inList pi⟩

/-- Behind `BETWEEN` stand two bounds with `AND` in between. -/
theorem begins_between (ih : IsSound n) {s e : Expr} {negated : Bool}
    (h : (do
      let low ← expression n .bitwise
      expect (.keyword .and)
      return .between negated s low (← expression n .bitwise) : Parser Expr) ts = .ok e rest) :
    Begins (.condition s e) (notTokens negated ++ .keyword .between :: ts) rest := by
  simp only [bind_eq_ok, pure_eq_ok] at h
  obtain ⟨low, mid, hl, u, _, ha, high, _, hh, rfl, rfl⟩ := h
  obtain rfl := (expect_eq_ok (by simp)).1 ha
  obtain ⟨us, rfl, pl⟩ := ih (.expression .bitwise low) _ _ hl
  obtain ⟨vs, rfl, ph⟩ := ih (.expression .bitwise high) _ _ hh
  exact ⟨_, by simp, .between pl ph⟩

/-- A single operand behind an operator is a phrase of the bitwise level. -/
theorem begins_operand (ih : IsSound n) {e : Expr} {f : Expr → Expr}
    (h : (do return f (← expression n .bitwise) : Parser Expr) ts = .ok e rest) :
    ∃ r us, ts = us ++ rest ∧ Phrase (.expression .bitwise r) us ∧ e = f r := by
  obtain ⟨r, _, hr, he⟩ := bind_eq_ok.1 h
  obtain ⟨rfl, rfl⟩ := pure_eq_ok.1 he
  obtain ⟨us, rfl, pr⟩ := ih (.expression .bitwise r) _ _ hr
  exact ⟨r, us, rfl, pr, rfl⟩

/-- A token that is no operator of a condition ends it, and no `NOT` was passed. -/
theorem begins_subject {s e : Expr} {negated : Bool}
    (hn : negated = true → ts.headD .endOfInput = .keyword .in ∨
      ts.headD .endOfInput = .keyword .between ∨ ts.headD .endOfInput = .keyword .like)
    (ht : ¬(ts.headD .endOfInput = .keyword .in ∨ ts.headD .endOfInput = .keyword .between ∨
      ts.headD .endOfInput = .keyword .like))
    (h : (pure s : Parser Expr) ts = .ok e rest) :
    Begins (.condition s e) (notTokens negated ++ ts) rest := by
  obtain ⟨rfl, rfl⟩ := pure_eq_ok.1 h
  cases negated with
  | true => exact absurd (hn rfl) ht
  | false => exact ⟨[], rfl, .subject⟩

/-- The part of a condition behind its subject is a phrase, or is empty if no operator of a
    condition follows. -/
theorem begins_condition (ih : IsSound n) {s e : Expr}
    (h : condition (n + 1) s ts = .ok e rest) : Begins (.condition s e) ts rest := by
  rw [condition, bind_eq_ok] at h
  obtain ⟨found, mid, hs, h⟩ := h
  cases found with
  | true =>
    -- `IS` needs `NULL`, with `NOT` in between or not; nothing else can follow it.
    obtain rfl := (skip_eq_true (by simp)).1 hs
    simp only [if_true, bind_eq_ok, pure_eq_ok] at h
    obtain ⟨negated, mid, hn, u, _, he, rfl, rfl⟩ := h
    obtain rfl := (expect_eq_ok (by simp)).1 he
    cases negated with
    | true =>
      obtain rfl := (skip_eq_true (by simp)).1 hn
      exact ⟨_, rfl, @Phrase.isNull s true⟩
    | false =>
      obtain ⟨-, rfl⟩ := skip_eq_false.1 hn
      exact ⟨_, rfl, @Phrase.isNull s false⟩
  | false =>
    obtain ⟨-, rfl⟩ := skip_eq_false.1 hs
    rw [if_neg Bool.false_ne_true, bind_eq_ok] at h
    obtain ⟨negated, mid, hn, h⟩ := h
    -- `NOT` is only passed in front of `IN`, `BETWEEN` and `LIKE`. So in all other cases `hkey`
    -- says that none was, and the passed tokens are no more than `ts`.
    obtain ⟨rfl, hkey⟩ := skipNegation_sound hn
    rw [peek_bind] at h
    cases mid with
    | nil => exact begins_subject hkey (by simp) h
    | cons t us =>
      cases t with
      | keyword k =>
        cases k with
        | «in» => exact begins_in ih h
        | between => exact begins_between ih h
        | like =>
          obtain ⟨r, vs, rfl, pr, rfl⟩ := begins_operand ih h
          exact ⟨_, by simp, .like pr⟩
        | _ => exact begins_subject hkey (by simp) h
      | symbol sym =>
        have hneg : negated = false := by
          cases negated with
          | false => rfl
          | true => simp at hkey
        subst hneg
        cases sym with
        | tilde =>
          obtain ⟨r, vs, rfl, pr, rfl⟩ := begins_operand ih h
          exact ⟨_, rfl, .regex pr⟩
        | equal | notEqual | less | greater | lessEqual | greaterEqual =>
          obtain ⟨r, vs, rfl, pr, rfl⟩ := begins_operand ih h
          exact ⟨_, rfl, .compare rfl pr⟩
        | _ => exact begins_subject hkey (by simp) h
      | _ => exact begins_subject hkey (by simp) h

/-! ## Lists, names and branches -/

theorem begins_list (ih : IsSound n) {es : List Expr}
    (h : expressions (n + 1) ts = .ok es rest) : Begins (.list es) ts rest := by
  rw [expressions, bind_eq_ok] at h
  obtain ⟨e, mid, he, h⟩ := h
  obtain ⟨us, rfl, pe⟩ := ih (.expression .disjunction e) _ _ he
  rw [bind_eq_ok] at h
  obtain ⟨found, mid', hc, h⟩ := h
  cases found with
  | false =>
    obtain ⟨-, rfl⟩ := skip_eq_false.1 hc
    obtain ⟨rfl, rfl⟩ := pure_eq_ok.1 h
    exact ⟨us, rfl, .one pe⟩
  | true =>
    obtain rfl := (skip_eq_true (by simp)).1 hc
    rw [if_pos rfl, bind_eq_ok] at h
    obtain ⟨es, _, hes, h⟩ := h
    obtain ⟨rfl, rfl⟩ := pure_eq_ok.1 h
    obtain ⟨vs, rfl, pes⟩ := ih (.list es) _ _ hes
    exact ⟨_, by simp, .more pe pes⟩

/-- What is read behind a name makes a column of it, a column of a table or a call. -/
theorem begins_named (ih : IsSound n) {name : String} {e : Expr}
    (h : named (n + 1) name ts = .ok e rest) : Begins (.named name e) ts rest := by
  rw [named, bind_eq_ok] at h
  obtain ⟨found, mid, hd, h⟩ := h
  cases found with
  | true =>
    obtain rfl := (skip_eq_true (by simp)).1 hd
    simp only [if_true, bind_eq_ok, expectName_eq_ok, pure_eq_ok] at h
    obtain ⟨column, _, rfl, rfl, rfl⟩ := h
    exact ⟨_, rfl, .qualified⟩
  | false =>
    obtain ⟨-, rfl⟩ := skip_eq_false.1 hd
    rw [if_neg Bool.false_ne_true, bind_eq_ok] at h
    obtain ⟨found, mid, ho, h⟩ := h
    cases found with
    | false =>
      obtain ⟨-, rfl⟩ := skip_eq_false.1 ho
      obtain ⟨rfl, rfl⟩ := pure_eq_ok.1 h
      exact ⟨[], rfl, .column⟩
    | true =>
      obtain rfl := (skip_eq_true (by simp)).1 ho
      rw [if_pos rfl, peek_bind] at h
      by_cases hc : mid.headD .endOfInput = .symbol .rightParen
      · simp only [hc, if_true, pure_bind, bind_eq_ok, pure_eq_ok] at h
        obtain ⟨u, _, hc, rfl, rfl⟩ := h
        obtain rfl := (expect_eq_ok (by simp)).1 hc
        exact ⟨_, rfl, .call⟩
      · simp only [hc, if_false, bind_eq_ok, pure_eq_ok] at h
        obtain ⟨es, mid, hes, u, _, hc, rfl, rfl⟩ := h
        obtain rfl := (expect_eq_ok (by simp)).1 hc
        obtain ⟨us, rfl, pes⟩ := ih (.list es) _ _ hes
        exact ⟨_, by simp, .callWith pes⟩

theorem begins_branches (ih : IsSound n) {bs : List (Expr × Expr)}
    (h : caseBranches (n + 1) ts = .ok bs rest) : Begins (.branches bs) ts rest := by
  rw [caseBranches, bind_eq_ok] at h
  obtain ⟨found, mid, hw, h⟩ := h
  cases found with
  | false =>
    obtain ⟨-, rfl⟩ := skip_eq_false.1 hw
    obtain ⟨rfl, rfl⟩ := pure_eq_ok.1 h
    exact ⟨[], rfl, .noBranch⟩
  | true =>
    obtain rfl := (skip_eq_true (by simp)).1 hw
    simp only [if_true, bind_eq_ok, pure_eq_ok] at h
    obtain ⟨c, mid, hc, u, _, ht, r, mid', hr, bs, _, hb, rfl, rfl⟩ := h
    obtain rfl := (expect_eq_ok (by simp)).1 ht
    obtain ⟨us, rfl, pc⟩ := ih (.expression .disjunction c) _ _ hc
    obtain ⟨vs, rfl, pr⟩ := ih (.expression .disjunction r) _ _ hr
    obtain ⟨ws, rfl, pb⟩ := ih (.branches bs) _ _ hb
    exact ⟨_, by simp, .branch pc pr pb⟩

/-! ## Expressions without operators -/

/-- A keyword that can be a name, and what follows it. Its own parser has one step
    of the allowance for itself. -/
theorem begins_typed (ih : ∀ m, m ≤ n → IsSound m) {kind : Keyword} {name : String} {e : Expr}
    (hk : keywordName? kind = some name) (h : typed n kind name ts = .ok e rest) :
    Begins (.expression .primary e) (.keyword kind :: ts) rest := by
  cases n with
  | zero => simp [typed] at h
  | succ n =>
    rw [typed, peek_bind] at h
    have hnamed : named n name ts = .ok e rest →
        Begins (.expression .primary e) (.keyword kind :: ts) rest := by
      intro h
      obtain ⟨us, rfl, pe⟩ := ih n (Nat.le_succ n) (.named name e) _ _ h
      exact ⟨_, rfl, .keyword hk pe⟩
    cases ts with
    | nil => exact hnamed h
    | cons t ts =>
      cases t with
      | string text =>
        cases hd : dateConstant kind text with
        | error cause => simp [hd, advance_bind] at h
        | ok c =>
          simp only [List.headD_cons, hd, advance_bind, List.tail_cons, pure_eq_ok] at h
          obtain ⟨rfl, rfl⟩ := h
          exact ⟨_, rfl, .dated hk hd⟩
      | _ => exact hnamed h

/-- A parenthesis that is not behind a name holds a sub-select or one expression. -/
theorem begins_paren (ih : IsSound n) {e : Expr}
    (h : (do
      if (← peek) = .keyword .select then
        let sql ← subselect
        expect (.symbol .rightParen)
        return .subselect sql
      else
        let inner ← expression n .disjunction
        expect (.symbol .rightParen)
        return .paren inner : Parser Expr) ts = .ok e rest) :
    Begins (.expression .primary e) (.symbol .leftParen :: ts) rest := by
  rw [peek_bind] at h
  by_cases hs : ts.headD .endOfInput = .keyword .select
  · simp only [hs, if_true, bind_eq_ok, subselect_eq_ok, pure_eq_ok] at h
    obtain ⟨sql, _, ⟨body, after, rfl, rfl, hb, rfl⟩, u, _, hc, rfl, rfl⟩ := h
    obtain ⟨-, rfl⟩ := List.cons.inj ((expect_eq_ok (by simp)).1 hc)
    cases body with
    | nil => simp at hs
    | cons t body =>
      obtain rfl : t = .keyword .select := hs
      exact ⟨_, by simp, .subselect hb⟩
  · simp only [hs, if_false, bind_eq_ok, pure_eq_ok] at h
    obtain ⟨inner, mid, hi, u, _, hc, rfl, rfl⟩ := h
    obtain rfl := (expect_eq_ok (by simp)).1 hc
    obtain ⟨us, rfl, pi⟩ := ih (.expression .disjunction inner) _ _ hi
    exact ⟨_, by simp, .paren pi⟩

/-- Behind `EXISTS` stands a sub-select whose body may begin with any token. -/
theorem begins_exists {e : Expr}
    (h : (do
      expect (.symbol .leftParen)
      let sql ← subselect
      expect (.symbol .rightParen)
      return .exists false sql : Parser Expr) ts = .ok e rest) :
    Begins (.expression .primary e) (.keyword .exists :: ts) rest := by
  simp only [bind_eq_ok, subselect_eq_ok, pure_eq_ok] at h
  obtain ⟨u, _, ho, sql, _, ⟨body, after, rfl, rfl, hb, rfl⟩, v, _, hc, rfl, rfl⟩ := h
  obtain rfl := (expect_eq_ok (by simp)).1 ho
  obtain ⟨-, rfl⟩ := List.cons.inj ((expect_eq_ok (by simp)).1 hc)
  exact ⟨_, by simp, .exists hb⟩

/-- Behind `CAST` stand an expression and a type, with `AS` in between, in parentheses. -/
theorem begins_cast (ih : IsSound n) {e : Expr}
    (h : (do
      expect (.symbol .leftParen)
      let operand ← expression n .disjunction
      expect (.keyword .as)
      let type ← typeName n
      expect (.symbol .rightParen)
      return .cast operand type : Parser Expr) ts = .ok e rest) :
    Begins (.expression .primary e) (.keyword .cast :: ts) rest := by
  simp only [bind_eq_ok, pure_eq_ok] at h
  obtain ⟨u, _, ho, e, mid, he, v, _, ha, type, _, ht, w, _, hc, rfl, rfl⟩ := h
  obtain rfl := (expect_eq_ok (by simp)).1 ho
  obtain rfl := (expect_eq_ok (by simp)).1 ha
  obtain ⟨vs, rfl, pt⟩ := typeName_sound ht
  obtain rfl := (expect_eq_ok (by simp)).1 hc
  obtain ⟨us, rfl, pe⟩ := ih (.expression .disjunction e) _ _ he
  exact ⟨_, by simp, .cast pe pt⟩

/-- An expression that is read unless a given token comes next, and what is done
    with it. -/
theorem begins_unless (ih : IsSound n) {stop : Token} {k : Option Expr → Parser Expr} {e : Expr}
    (h : (do
      if (← peek) = stop then k (← pure none)
      else k (← some <$> expression n .disjunction) : Parser Expr) ts = .ok e rest) :
    ∃ operand mid, Begins (.optional [] operand) ts mid ∧ k operand mid = .ok e rest := by
  rw [peek_bind] at h
  by_cases hs : ts.headD .endOfInput = stop
  · rw [if_pos hs, pure_bind] at h
    exact ⟨none, ts, ⟨[], rfl, .missing⟩, h⟩
  · rw [if_neg hs, bind_eq_ok] at h
    obtain ⟨o, mid, ho, h⟩ := h
    obtain ⟨operand, he, rfl⟩ := map_eq_ok.1 ho
    obtain ⟨us, rfl, pe⟩ := ih (.expression .disjunction operand) _ _ he
    exact ⟨some operand, mid, ⟨us, rfl, .marked pe⟩, h⟩

/-- An expression that is read behind a given keyword, and what is done with it. -/
theorem begins_marked (ih : IsSound n) {mark : Keyword}
    {k : Option Expr → Parser Expr} {e : Expr}
    (h : (do
      if ← skip (.keyword mark) then k (← some <$> expression n .disjunction)
      else k (← pure none) : Parser Expr) ts = .ok e rest) :
    ∃ operand mid, Begins (.optional [mark] operand) ts mid ∧ k operand mid = .ok e rest := by
  rw [bind_eq_ok] at h
  obtain ⟨found, mid, hs, h⟩ := h
  cases found with
  | false =>
    obtain ⟨-, rfl⟩ := skip_eq_false.1 hs
    exact ⟨none, ts, ⟨[], rfl, .missing⟩, h⟩
  | true =>
    obtain rfl := (skip_eq_true (by simp)).1 hs
    rw [if_pos rfl, bind_eq_ok] at h
    obtain ⟨o, after, ho, h⟩ := h
    obtain ⟨operand, he, rfl⟩ := map_eq_ok.1 ho
    obtain ⟨us, rfl, pe⟩ := ih (.expression .disjunction operand) _ _ he
    exact ⟨some operand, after, ⟨_, rfl, .marked pe⟩, h⟩

/-- A `CASE` has at least one branch; its operand and the part behind `ELSE` may be missing. -/
theorem begins_case (ih : IsSound n) {e : Expr}
    (h : (do
      let operand ←
        if (← peek) = .keyword .when then pure none
        else some <$> expression n .disjunction
      let branches ← caseBranches n
      if branches.isEmpty then fail .noBranch
      else
        let otherwise ←
          if ← skip (.keyword .else) then some <$> expression n .disjunction
          else pure none
        expect (.keyword .end)
        return .case operand branches otherwise : Parser Expr) ts = .ok e rest) :
    Begins (.expression .primary e) (.keyword .case :: ts) rest := by
  obtain ⟨operand, mid, ⟨us, rfl, po⟩, hb⟩ := begins_unless ih h
  obtain ⟨bs, after, hb, ho⟩ := bind_eq_ok.1 hb
  obtain ⟨vs, rfl, pb⟩ := ih (.branches bs) _ _ hb
  by_cases hne : bs.isEmpty
  · simp only [hne, if_true, fail_ne_ok] at ho
  · rw [if_neg hne] at ho
    obtain ⟨otherwise, mid, ⟨ws, rfl, pw⟩, he⟩ := begins_marked ih ho
    obtain ⟨u, after, he, hp⟩ := bind_eq_ok.1 he
    obtain rfl := (expect_eq_ok (by simp)).1 he
    obtain ⟨rfl, rfl⟩ := pure_eq_ok.1 hp
    exact ⟨_, by simp, .case po (by simpa using hne) pb pw⟩

/-- What is read as a primary expression is one. A keyword that may be a name comes here with two
    steps less, hence the hypothesis for all smaller allowances. -/
theorem begins_primary (ih : ∀ m, m ≤ n → IsSound m) {e : Expr}
    (h : primary (n + 1) ts = .ok e rest) : Begins (.expression .primary e) ts rest := by
  have ihn := ih n (Nat.le_refl n)
  rw [primary, peek_bind] at h
  cases ts with
  | nil => exact absurd h fail_ne_ok
  | cons t ts =>
    cases t with
    | number digits =>
      cases hd : numberConstant? digits with
      | none => simp [hd, advance_bind] at h
      | some c =>
        simp only [List.headD_cons, hd, advance_bind, List.tail_cons, pure_eq_ok] at h
        obtain ⟨rfl, rfl⟩ := h
        exact ⟨[_], rfl, .number hd⟩
    | string text =>
      obtain ⟨rfl, rfl⟩ := pure_eq_ok.1 h
      exact ⟨[_], rfl, .string⟩
    | name name =>
      obtain ⟨us, rfl, pe⟩ := ihn (.named name e) _ _ h
      exact ⟨_, rfl, .name pe⟩
    | symbol s =>
      cases s with
      | leftParen => exact begins_paren ihn h
      | _ => exact absurd h fail_ne_ok
    | keyword k =>
      cases k with
      | true =>
        obtain ⟨rfl, rfl⟩ := pure_eq_ok.1 h
        exact ⟨[_], rfl, @Phrase.boolean true⟩
      | false =>
        obtain ⟨rfl, rfl⟩ := pure_eq_ok.1 h
        exact ⟨[_], rfl, @Phrase.boolean false⟩
      | null =>
        obtain ⟨rfl, rfl⟩ := pure_eq_ok.1 h
        exact ⟨[_], rfl, .null⟩
      | date | time | timestamp => exact begins_typed ih rfl h
      | «exists» => exact begins_exists h
      | case => exact begins_case ihn h
      | cast => exact begins_cast ihn h
      | _ => exact absurd h fail_ne_ok
    | _ => exact absurd h fail_ne_ok

/-! ## Levels -/

/-- Where a sign or another operator may stand in front. -/
theorem begins_sign (ih : IsSound n) {e : Expr}
    (h : expression (n + 1) .sign ts = .ok e rest) : Begins (.expression .sign e) ts rest := by
  rw [expression, peek_bind] at h
  have hplain : expression n .access ts = .ok e rest → Begins (.expression .sign e) ts rest := by
    intro h
    obtain ⟨us, rfl, pe⟩ := ih (.expression .access e) _ _ h
    exact ⟨us, rfl, .unsigned pe⟩
  cases ts with
  | nil => exact hplain h
  | cons t ts =>
    cases t with
    | symbol s =>
      cases s with
      | plus =>
        obtain ⟨us, rfl, pe⟩ := ih (.expression .sign e) _ _ h
        exact ⟨_, rfl, .plus pe⟩
      | minus =>
        simp only [List.headD_cons, advance_bind, List.tail_cons, bind_eq_ok, pure_eq_ok] at h
        obtain ⟨e', _, he, rfl, rfl⟩ := h
        obtain ⟨us, rfl, pe⟩ := ih (.expression .sign e') _ _ he
        exact ⟨_, rfl, .minus pe⟩
      | _ => exact hplain h
    | _ => exact hplain h

/-- What is read with `NOT` in front, or without it, is a phrase of the level of negations. -/
theorem begins_negation (ih : IsSound n) {e : Expr}
    (h : expression (n + 1) .negation ts = .ok e rest) :
    Begins (.expression .negation e) ts rest := by
  rw [expression, bind_eq_ok] at h
  obtain ⟨found, mid, hs, h⟩ := h
  cases found with
  | false =>
    obtain ⟨-, rfl⟩ := skip_eq_false.1 hs
    obtain ⟨us, rfl, pe⟩ := ih (.expression .comparison e) _ _ h
    exact ⟨us, rfl, .positive pe⟩
  | true =>
    obtain rfl := (skip_eq_true (by simp)).1 hs
    obtain ⟨e', mid, he, hp⟩ := bind_eq_ok.1 h
    obtain ⟨rfl, rfl⟩ := pure_eq_ok.1 hp
    obtain ⟨us, rfl, pe⟩ := ih (.expression .negation e') _ _ he
    exact ⟨_, rfl, .not pe⟩

/-- A level that joins operands from left to right reads a first operand and what is joined to
    it. -/
theorem begins_chain (ih : IsSound n) {level : Level} (hc : level.isChain) {e : Expr}
    (h : (do joined n level (← expression n level.next) : Parser Expr) ts = .ok e rest) :
    Begins (.expression level e) ts rest := by
  obtain ⟨l, mid, hl, hj⟩ := bind_eq_ok.1 h
  obtain ⟨us, rfl, pl⟩ := ih (.expression level.next l) _ _ hl
  obtain ⟨vs, rfl, pe⟩ := ih (.joined level l e) _ _ hj
  exact ⟨us ++ vs, by simp, .chain hc pl pe⟩

/-- The step of the induction for expressions: every level reads phrases of its own if all smaller
    allowances do. -/
theorem begins_expression (ih : ∀ m, m ≤ n → IsSound m) {level : Level} {e : Expr}
    (h : expression (n + 1) level ts = .ok e rest) : Begins (.expression level e) ts rest := by
  have ihn := ih n (Nat.le_refl n)
  cases level with
  | negation => exact begins_negation ihn h
  | comparison =>
    obtain ⟨s, mid, hs, hc⟩ := bind_eq_ok.1 h
    obtain ⟨us, rfl, ps⟩ := ihn (.expression .bitwise s) _ _ hs
    obtain ⟨vs, rfl, pe⟩ := ihn (.condition s e) _ _ hc
    exact ⟨us ++ vs, by simp, .comparison ps pe⟩
  | sign => exact begins_sign ihn h
  | primary =>
    -- Two parsers are entered before a token is read, so one step of allowance reads nothing.
    cases n with
    | zero => exact absurd h (by simp [expression, primary])
    | succ n => exact begins_primary (fun m hm => ih m (Nat.le_succ_of_le hm)) h
  | disjunction | conjunction | bitwise | additive | multiplicative | access =>
    exact begins_chain ihn rfl h

/-- What a parser of expressions passes is a phrase of what it reads. -/
theorem sound (n : Nat) : IsSound n := by
  induction n using Nat.strongRecOn with
  | ind n ih =>
    cases n with
    | zero => exact isSound_zero
    | succ n =>
      have ih : ∀ m, m ≤ n → IsSound m := fun m hm => ih m (Nat.lt_succ_of_le hm)
      have ihn := ih n (Nat.le_refl n)
      intro form ts rest h
      cases form with
      | expression level e => exact begins_expression ih h
      | joined level l e => exact begins_joined ihn h
      | condition s e => exact begins_condition ihn h
      | list es => exact begins_list ihn h
      | named name e => exact begins_named ihn h
      | branches bs => exact begins_branches ihn h
      | optional mark e =>
        cases e with
        | none => exact ⟨[], h, .missing⟩
        -- The parser behind the mark is an expression with the same allowance, which the hypothesis
        -- for smaller ones does not cover.
        | some e =>
          obtain ⟨us, rfl, h⟩ := h
          obtain ⟨vs, rfl, pe⟩ := begins_expression ih h
          exact ⟨mark.map .keyword ++ vs, by simp, .marked pe⟩

end RecordFilter.Parser
