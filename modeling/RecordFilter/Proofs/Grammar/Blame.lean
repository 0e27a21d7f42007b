import RecordFilter.Proofs.Grammar.Steps

/-!
# What errors are about

An error tells what stands at the place where the parser stopped: the token it found there, which
is another one than it wanted, or the constant right in front of it that is none
(`Parser.blames`). So an error that no token of a filter gives rise to does not occur.
-/

namespace RecordFilter

open RecordFilter.Parser

/-- Whether an error is about the place between the tokens that were passed and those that are
    left. -/
def ParseError.IsAbout (passed rest : List Token) : ParseError → Prop
  | .empty | .openSubselect => rest.headD .endOfInput = .endOfInput
  | .unterminated quote => .unterminated quote ∈ rest
  | .trailing found => rest.headD .endOfInput = found ∧ found ≠ .endOfInput
  | .unexpected found | .expectedName found | .expectedNumber found | .expectedType found =>
    rest.headD .endOfInput = found
  | .expected wanted found => rest.headD .endOfInput = found ∧ found ≠ wanted
  | .noBranch => rest.headD .endOfInput ≠ .keyword .when
  | .badLiteral kind text cause => [.keyword kind, .string text] <:+ passed ∧
    dateConstant kind text = .error cause
  | .badNumber digits => [.number digits] <:+ passed ∧ numberConstant? digits = none
  | .tooDeep => True

/-- What an error is about stays where it is if more tokens are passed before. -/
theorem ParseError.IsAbout.append {passed rest : List Token} {cause : ParseError}
    (h : cause.IsAbout passed rest) (front : List Token) : cause.IsAbout (front ++ passed) rest := by
  cases cause with
  | badLiteral | badNumber => exact ⟨h.1.trans (List.suffix_append front passed), h.2⟩
  | _ => exact h

/-- The outcome leaves the tokens from some place on, and an error is about this place. -/
def Outcome.Blames {α : Type} (ts : List Token) : Outcome α → Prop
  | .ok _ rest => rest <:+ ts
  | .error cause rest => ∃ passed, ts = passed ++ rest ∧ cause.IsAbout passed rest

/-- An outcome of an end of the tokens is one of all of them. -/
theorem Outcome.Blames.of_suffix {α : Type} {ts rest : List Token} {o : Outcome α}
    (h : o.Blames rest) (hr : rest <:+ ts) : o.Blames ts := by
  cases o with
  | ok a after => exact h.trans hr
  | error cause after =>
    obtain ⟨passed, rfl, hcause⟩ := h
    obtain ⟨front, rfl⟩ := hr
    exact ⟨front ++ passed, (List.append_assoc ..).symm, hcause.append front⟩

namespace Parser

variable {α β : Type} {ts : List Token} {n : Nat}

/-! ## Sequences -/

theorem blames_pure (a : α) : ((pure a : Parser α) ts).Blames ts :=
  List.suffix_refl ts

theorem blames_fail {cause : ParseError} (h : cause.IsAbout [] ts) :
    ((fail cause : Parser α) ts).Blames ts :=
  ⟨[], rfl, h⟩

/-- A sequence fails where one of its parts does. The second part is asked only about tokens that
    the first one has left. -/
theorem blames_bind {p : Parser α} {f : α → Parser β} (hp : (p ts).Blames ts)
    (hf : ∀ a rest, p ts = .ok a rest → (f a rest).Blames rest) : ((p >>= f) ts).Blames ts := by
  simp only [Bind.bind]
  cases h : p ts with
  | error cause rest =>
    rw [h] at hp
    exact hp
  | ok a rest =>
    rw [h] at hp
    exact (hf a rest h).of_suffix hp

theorem blames_map {p : Parser α} (hp : (p ts).Blames ts) (f : α → β) :
    ((f <$> p) ts).Blames ts :=
  blames_bind hp fun _ _ _ => blames_pure _

/-! ## Single tokens -/

/-- What goes wrong behind a token that was passed is about the tokens behind it. -/
theorem blames_advance {f : Unit → Parser β} (h : (f () ts.tail).Blames ts.tail) :
    ((advance >>= f) ts).Blames ts :=
  h.of_suffix (List.tail_suffix ts)

/-- Where a token was not skipped, another one stands there. -/
theorem blames_skip_bind {wanted : Token} {f : Bool → Parser β}
    (htrue : (f true ts.tail).Blames ts.tail)
    (hfalse : ts.headD .endOfInput ≠ wanted → (f false ts).Blames ts) :
    ((skip wanted >>= f) ts).Blames ts := by
  by_cases h : ts.headD .endOfInput = wanted
  · have hskip : skip wanted ts = .ok true ts.tail := by rw [skip_apply, if_pos h]
    rw [bind_of_ok hskip]
    exact htrue.of_suffix (List.tail_suffix ts)
  · rw [bind_of_ok (skip_eq_false.2 ⟨h, rfl⟩)]
    exact hfalse h

/-- A token that was expected and is not there is named together with the one that is. -/
theorem blames_expect (wanted : Token) : (expect wanted ts).Blames ts := by
  rw [expect_apply]
  split
  · exact List.tail_suffix ts
  · next h => exact blames_fail ⟨rfl, h⟩

theorem blames_expectName : (expectName ts).Blames ts := by
  rw [expectName, peek_bind]
  cases ht : ts.headD .endOfInput with
  | name name => exact blames_advance (blames_pure _)
  | _ => exact blames_fail ht

theorem blames_expectNumber : (expectNumber ts).Blames ts := by
  rw [expectNumber, peek_bind]
  cases ht : ts.headD .endOfInput with
  | number digits => exact blames_advance (blames_pure _)
  | _ => exact blames_fail ht

/-- Looking for the `NOT` of a condition never fails. -/
theorem blames_skipNegation : (skipNegation ts).Blames ts := by
  unfold skipNegation
  split
  case h_4 => exact List.suffix_refl _
  all_goals exact List.suffix_cons _ _

/-- A token behind which only a value is given. -/
theorem blames_close (wanted : Token) (a : α) :
    ((do expect wanted; return a : Parser α) ts).Blames ts :=
  blames_bind (blames_expect wanted) fun _ _ _ => blames_pure a

/-- A sub-select that is not closed is about the end of the input, at which its body stops. -/
theorem blames_subselect : (subselect ts).Blames ts := by
  have hsplit := splitBody_append 0 ts
  simp only [subselect]
  split
  · next hend => exact ⟨_, hsplit.symm, hend⟩
  · exact ⟨_, hsplit⟩

/-- The text of a sub-select and the parenthesis behind it. -/
theorem blames_subselect_close (f : String → Expr) : ((do
    let sql ← subselect
    expect (.symbol .rightParen)
    return f sql : Parser Expr) ts).Blames ts :=
  blames_bind blames_subselect fun _ _ _ => blames_close _ _

/-! ## Types -/

theorem blames_typeParameters : (typeParameters n ts).Blames ts := by
  induction n generalizing ts with
  | zero => exact blames_fail trivial
  | succ n ih =>
    rw [typeParameters]
    refine blames_skip_bind ?_ fun _ => blames_pure []
    rw [if_pos rfl]
    exact blames_bind blames_expectNumber fun _ _ _ => blames_map ih _

theorem blames_typeName : (typeName n ts).Blames ts := by
  cases ts with
  | nil => exact blames_fail rfl
  | cons t us =>
    cases ht : typeToken? t with
    | some name =>
      rw [typeName_cons ht]
      refine Outcome.Blames.of_suffix ?_ (List.suffix_cons t us)
      refine blames_skip_bind ?_ fun _ => blames_pure name
      rw [if_pos rfl]
      refine blames_bind blames_expectNumber fun _ _ _ => ?_
      exact blames_bind blames_typeParameters fun _ _ _ => blames_close _ _
    -- Whatever the token is, it is to blame: only those with a name in `typeToken?` are read.
    | none =>
      cases t with
      | name => cases ht
      | keyword k =>
        cases k with
        | date | time | timestamp => cases ht
        | _ => exact blames_fail rfl
      | _ => exact blames_fail rfl

/-! ## The descent -/

/-- The errors of each parser. A bad date is about the keyword in front of it as well. -/
structure IsBlaming (n : Nat) : Prop where
  expression : ∀ {level ts}, (expression n level ts).Blames ts
  joined : ∀ {level left ts}, (joined n level left ts).Blames ts
  condition : ∀ {subject ts}, (condition n subject ts).Blames ts
  expressions : ∀ {ts}, (expressions n ts).Blames ts
  primary : ∀ {ts}, (primary n ts).Blames ts
  typed : ∀ {kind name ts}, (typed n kind name ts).Blames (.keyword kind :: ts)
  named : ∀ {name ts}, (named n name ts).Blames ts
  caseBranches : ∀ {ts}, (caseBranches n ts).Blames ts

theorem isBlaming_zero : IsBlaming 0 where
  expression := blames_fail trivial
  joined := blames_fail trivial
  condition := blames_fail trivial
  expressions := blames_fail trivial
  primary := blames_fail trivial
  typed := Outcome.Blames.of_suffix (blames_fail trivial) (List.suffix_cons _ _)
  named := blames_fail trivial
  caseBranches := blames_fail trivial

theorem blames_joined (ih : IsBlaming n) {level : Level} {left : Expr} :
    (joined (n + 1) level left ts).Blames ts := by
  rw [joined, peek_bind]
  cases level.join? (ts.headD .endOfInput) with
  | some join => exact blames_advance <| blames_bind ih.expression fun _ _ _ => ih.joined
  | none => exact blames_pure left

theorem blames_expressions (ih : IsBlaming n) : (expressions (n + 1) ts).Blames ts := by
  rw [expressions]
  refine blames_bind ih.expression fun e rest _ => ?_
  refine blames_skip_bind ?_ fun _ => blames_pure _
  exact blames_map ih.expressions _

theorem blames_named (ih : IsBlaming n) {name : String} : (named (n + 1) name ts).Blames ts := by
  rw [named]
  refine blames_skip_bind (blames_map blames_expectName _) fun _ => ?_
  refine blames_skip_bind ?_ fun _ => blames_pure _
  rw [if_pos rfl, peek_bind]
  split
  · exact blames_close _ _
  · exact blames_bind ih.expressions fun _ _ _ => blames_close _ _

theorem blames_caseBranches (ih : IsBlaming n) : (caseBranches (n + 1) ts).Blames ts := by
  rw [caseBranches]
  refine blames_skip_bind ?_ fun _ => blames_pure []
  refine blames_bind ih.expression fun _ _ _ => ?_
  refine blames_bind (blames_expect _) fun _ _ _ => ?_
  exact blames_bind ih.expression fun _ _ _ => blames_map ih.caseBranches _

/-- Where there is no branch, no `WHEN` is found. -/
theorem headD_of_caseBranches {bs : List (Expr × Expr)} {rest : List Token}
    (h : caseBranches n ts = .ok bs rest) (hb : bs.isEmpty) :
    rest.headD .endOfInput ≠ .keyword .when := by
  obtain rfl := List.isEmpty_iff.1 hb
  cases n with
  | zero => cases h
  | succ n =>
    rw [caseBranches, bind_eq_ok] at h
    obtain ⟨found, mid, hs, h⟩ := h
    cases found with
    | false =>
      obtain ⟨hne, rfl⟩ := skip_eq_false.1 hs
      obtain ⟨-, rfl⟩ := pure_eq_ok.1 h
      exact hne
    | true => simp [bind_eq_ok] at h

/-- A constant that is none is about the string behind its keyword, so the keyword belongs to what
    was passed. -/
theorem blames_typed (ih : IsBlaming n) {kind : Keyword} {name : String} :
    (typed (n + 1) kind name ts).Blames (.keyword kind :: ts) := by
  have hnamed : (named n name ts).Blames (.keyword kind :: ts) :=
    ih.named.of_suffix (List.suffix_cons _ _)
  rw [typed, peek_bind]
  cases ts with
  | nil => exact hnamed
  | cons t us =>
    cases t with
    | string text =>
      simp only [List.headD_cons, advance_bind, List.tail_cons]
      cases hd : dateConstant kind text with
      | ok constant => exact Outcome.Blames.of_suffix (blames_pure _) ⟨[_, _], rfl⟩
      | error cause => exact ⟨[.keyword kind, .string text], rfl, List.suffix_refl _, hd⟩
    | _ => exact hnamed

theorem blames_condition (ih : IsBlaming n) {s : Expr} :
    (condition (n + 1) s ts).Blames ts := by
  rw [condition]
  refine blames_skip_bind ?_ fun _ => ?_
  · exact blames_skip_bind (blames_close _ _) fun _ => blames_close _ _
  · refine blames_bind blames_skipNegation fun negated mid _ => ?_
    rw [peek_bind]
    cases mid.headD .endOfInput with
    | keyword k =>
      cases k with
      | «in» =>
        refine blames_advance <| blames_bind (blames_expect _) fun _ _ _ => ?_
        rw [peek_bind]
        split
        · exact blames_subselect_close _
        · exact blames_bind ih.expressions fun _ _ _ => blames_close _ _
      | between =>
        refine blames_advance <| blames_bind ih.expression fun _ _ _ => ?_
        exact blames_bind (blames_expect _) fun _ _ _ => blames_map ih.expression _
      | like => exact blames_advance (blames_map ih.expression _)
      | _ => exact blames_pure s
    | symbol sym =>
      cases sym with
      | tilde | equal | notEqual | less | greater | lessEqual | greaterEqual =>
        exact blames_advance (blames_map ih.expression _)
      | _ => exact blames_pure s
    | _ => exact blames_pure s

/-! ### Expressions without operators -/

/-- What stands behind `CASE`. If it has no branch, what is there is no `WHEN`. -/
theorem blames_case (ih : IsBlaming n) : ((do
      let operand ←
        if (← peek) = .keyword .when then pure none
        else some <$> expression n .disjunction
      let branches ← caseBranches n
      if branches.isEmpty then fail .noBranch
      else
        let otherwise ←
          if ← skip (.keyword .else) then some <$> expression n .disjunction
          else pure none
        expect (.keyword .end)
        return .case operand branches otherwise : Parser Expr) ts).Blames ts := by
  have hrest (operand : Option Expr) (us : List Token) : ((do
      let branches ← caseBranches n
      if branches.isEmpty then fail .noBranch
      else
        let otherwise ←
          if ← skip (.keyword .else) then some <$> expression n .disjunction
          else pure none
        expect (.keyword .end)
        return .case operand branches otherwise : Parser Expr) us).Blames us := by
    refine blames_bind ih.caseBranches fun branches mid hmid => ?_
    split
    · -- The error is allowed for other tokens than `WHEN` only, which is why the branches that were
      -- read are remembered here.
      next hb => exact blames_fail (headD_of_caseBranches hmid hb)
    · refine blames_skip_bind ?_ fun _ => blames_close _ _
      exact blames_bind (blames_map ih.expression _) fun _ _ _ => blames_close _ _
  rw [peek_bind]
  split
  · exact hrest none ts
  · exact blames_bind (blames_map ih.expression _) fun _ _ _ => hrest _ _

/-- A token that begins no primary expression is to blame itself, and so is a number that is
    none. -/
theorem blames_primary (ih : IsBlaming n) : (primary (n + 1) ts).Blames ts := by
  rw [primary, peek_bind]
  cases ts with
  | nil => exact blames_fail rfl
  | cons t us =>
    cases t with
    -- The number itself was passed when the error is found, so it is named as the token before the
    -- place.
    | number digits =>
      simp only [List.headD_cons, advance_bind, List.tail_cons]
      cases hd : numberConstant? digits with
      | some constant => exact Outcome.Blames.of_suffix (blames_pure _) (List.suffix_cons _ _)
      | none => exact ⟨[.number digits], rfl, List.suffix_refl _, hd⟩
    | string text => exact blames_advance (blames_pure _)
    | name name => exact blames_advance ih.named
    | symbol s =>
      cases s with
      | leftParen =>
        refine blames_advance ?_
        rw [peek_bind]
        split
        · exact blames_subselect_close _
        · exact blames_bind ih.expression fun _ _ _ => blames_close _ _
      | _ => exact blames_fail rfl
    | keyword k =>
      cases k with
      | true | false | null => exact blames_advance (blames_pure _)
      | date | time | timestamp => exact ih.typed
      | «exists» =>
        exact blames_advance (blames_bind (blames_expect _) fun _ _ _ => blames_subselect_close _)
      | case => exact blames_advance (blames_case ih)
      | cast =>
        refine blames_advance <| blames_bind (blames_expect _) fun _ _ _ => ?_
        refine blames_bind ih.expression fun _ _ _ => ?_
        refine blames_bind (blames_expect _) fun _ _ _ => ?_
        exact blames_bind blames_typeName fun _ _ _ => blames_close _ _
      | _ => exact blames_fail rfl
    | _ => exact blames_fail rfl

/-! ### Levels -/

theorem blames_expression (ih : IsBlaming n) {level : Level} :
    (expression (n + 1) level ts).Blames ts := by
  cases level with
  | negation =>
    rw [expression]
    exact blames_skip_bind (blames_map ih.expression _) fun _ => ih.expression
  | comparison => exact blames_bind ih.expression fun _ _ _ => ih.condition
  | sign =>
    rw [expression, peek_bind]
    cases ts.headD .endOfInput with
    | symbol s =>
      cases s with
      | plus => exact blames_advance ih.expression
      | minus => exact blames_advance (blames_map ih.expression _)
      | _ => exact ih.expression
    | _ => exact ih.expression
  | primary => exact ih.primary
  | _ => exact blames_bind ih.expression fun _ _ _ => ih.joined

/-- The errors of the parsers are about the places where they stop. -/
theorem blames (n : Nat) : IsBlaming n := by
  induction n with
  | zero => exact isBlaming_zero
  | succ n ih =>
    exact {
      expression := blames_expression ih
      joined := blames_joined ih
      condition := blames_condition ih
      expressions := blames_expressions ih
      primary := blames_primary ih
      typed := blames_typed ih
      named := blames_named ih
      caseBranches := blames_caseBranches ih }

/-- The quote that is reported as open is a token of the list. -/
theorem unterminated_mem_of_unterminatedQuote? {quote : Char}
    (h : unterminatedQuote? ts = some quote) : .unterminated quote ∈ ts := by
  obtain ⟨t, ht, hq⟩ := List.exists_of_findSome?_eq_some h
  cases t with
  | unterminated other =>
    obtain rfl := Option.some.inj hq
    exact ht
  | _ => cases hq

/-- The error of a whole filter. What is left behind an expression is to blame for standing
    there. -/
theorem blames_filter : (filter ts).Blames ts := by
  have he : (expression (allowance ts.length) .disjunction ts).Blames ts := (blames _).expression
  have h := filters ts
  generalize filter ts = o at h
  cases h with
  | empty hend => exact ⟨[], rfl, hend⟩
  | unterminated _ hquote => exact ⟨[], rfl, unterminated_mem_of_unterminatedQuote? hquote⟩
  | error _ _ ho | ok _ _ ho _ =>
    rw [ho] at he
    exact he
  | trailing _ _ ho hne =>
    rw [ho] at he
    exact Outcome.Blames.of_suffix ⟨[], rfl, rfl, hne⟩ he

end Parser

end RecordFilter
