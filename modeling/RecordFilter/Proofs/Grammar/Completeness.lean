import RecordFilter.Proofs.Grammar.Soundness

/-!
# What is grammatical is read

A phrase is read as what it is a phrase of, and read to its end, whatever follows
it that does not go on with it (`Phrase.reads`). Sixteen steps for a token are
enough: between two tokens the parser runs through the levels at most once.

That reading stops at the end of a phrase rests on one number for each token: the
level at which the token goes on with what it follows (`Token.follows?`). A phrase
of a level goes on with tokens of this level and of those that bind more.
-/

namespace RecordFilter

open RecordFilter.Parser

namespace Token

/-- The level at which a token goes on with an expression in front of it. -/
def follows? : Token → Option Level
  | .keyword .or => some .disjunction
  | .keyword .and => some .conjunction
  | .keyword .is | .keyword .not | .keyword .in | .keyword .between | .keyword .like
  | .symbol .tilde | .symbol .equal | .symbol .notEqual | .symbol .less | .symbol .greater
  | .symbol .lessEqual | .symbol .greaterEqual => some .comparison
  | .symbol .ampersand | .symbol .pipe | .symbol .caret => some .bitwise
  | .symbol .plus | .symbol .minus | .symbol .concat => some .additive
  | .symbol .star | .symbol .slash | .symbol .percent | .keyword .div => some .multiplicative
  | .symbol .arrow => some .access
  | .symbol .dot | .symbol .leftParen | .string _ => some .primary
  | _ => none

/-- The last level of which an expression can begin with the token. -/
def opens? : Token → Option Level
  | .keyword .not => some .negation
  | .symbol .plus | .symbol .minus => some .sign
  | .name _ | .number _ | .string _ | .symbol .leftParen
  | .keyword .true | .keyword .false | .keyword .null | .keyword .date | .keyword .time
  | .keyword .timestamp | .keyword .exists | .keyword .case | .keyword .cast => some .primary
  | _ => none

end Token

namespace Parser

/-- Whether the tokens that follow an expression of a level do not go on with it. -/
def Level.Ends (level : Level) (rest : List Token) : Prop :=
  ∀ other, (rest.headD .endOfInput).follows? = some other → other.rank < level.rank

theorem Level.Ends.mono {low high : Level} {rest : List Token} (h : low.Ends rest)
    (hle : low.rank ≤ high.rank) : high.Ends rest :=
  fun other ho => Nat.lt_of_lt_of_le (h other ho) hle

/-- A token that goes on with nothing ends every expression. -/
theorem Level.ends_of_follows? {level : Level} {rest : List Token}
    (h : (rest.headD .endOfInput).follows? = none) : level.Ends rest := by
  intro other ho
  rw [h] at ho
  cases ho

/-- A token that goes on with a level ends the expressions that bind more. -/
theorem Level.ends_cons {level other : Level} {t : Token} {rest : List Token}
    (h : t.follows? = some other) (hlt : other.rank < level.rank) : level.Ends (t :: rest) := by
  intro found hf
  obtain rfl : other = found := Option.some.inj (h.symm.trans hf)
  exact hlt

/-- What ends an expression is no token of its level. -/
theorem Level.Ends.ne {level : Level} {rest : List Token} {t : Token} (h : level.Ends rest)
    {other : Level} (ht : t.follows? = some other) (hle : level.rank ≤ other.rank) :
    rest.headD .endOfInput ≠ t := by
  rintro rfl
  exact absurd (h other ht) (Nat.not_lt.2 hle)

/-- An operator of a chain goes on with the level of the chain and no other. -/
theorem Level.follows?_of_join? {level : Level} {t : Token} {f : Expr → Expr → Expr}
    (h : level.join? t = some f) : t.follows? = some level := by
  unfold join? at h
  split at h <;> first | rfl | cases h

/-- Where an expression of a level ends there is no operator that would join it. -/
theorem Level.join?_of_ends {level : Level} {rest : List Token} (h : level.Ends rest) :
    level.join? (rest.headD .endOfInput) = none := by
  cases hj : level.join? (rest.headD .endOfInput) with
  | none => rfl
  | some f => exact absurd (h level (follows?_of_join? hj)) (Nat.lt_irrefl _)

theorem Level.rank_next {level : Level} (h : level.isChain) : level.next.rank = level.rank + 1 := by
  cases level <;> first | rfl | cases h

/-- A sign of comparison goes on with the subject of a condition. -/
theorem follows?_of_comparison? {t : Token} {op : ComparisonOperator}
    (h : comparison? t = some op) : t.follows? = some .comparison := by
  unfold comparison? at h
  split at h <;> first | rfl | cases h

end Parser

/-! ## How phrases begin -/

/-- What is known of the first token of a phrase. -/
def Form.Opens : Form → List Token → Prop
  | .expression level _, ts =>
    ∃ t us last, ts = t :: us ∧ t.opens? = some last ∧ level.rank ≤ last.rank
  | .joined level l e, ts => (ts = [] ∧ l = e) ∨ ∃ t us f, ts = t :: us ∧ level.join? t = some f
  | .condition s e, ts => (ts = [] ∧ s = e) ∨ ∃ t us, ts = t :: us ∧ t.follows? = some .comparison
  | .list _, ts => ∃ t us last, ts = t :: us ∧ t.opens? = some last
  | .branches bs, ts => (ts = [] ∧ bs = []) ∨ ∃ us, ts = .keyword .when :: us
  | _, _ => True

namespace Phrase

/-- A phrase begins as its form says: an expression with a token that opens its level or one that
    binds more, the rest of a chain or condition with its operator, if it is not empty. -/
theorem opens {form : Form} {ts : List Token} (h : Phrase form ts) : form.Opens ts := by
  induction h with
  | chain hl _ _ ih _ =>
    obtain ⟨t, us, last, rfl, ht, hle⟩ := ih
    refine ⟨t, _, last, rfl, ht, ?_⟩
    have := Level.rank_next hl
    omega
  | positive _ ih | unsigned _ ih =>
    obtain ⟨t, us, last, rfl, ht, hle⟩ := ih
    exact ⟨t, us, last, rfl, ht, Nat.le_of_succ_le hle⟩
  | comparison _ _ ih _ =>
    obtain ⟨t, us, last, rfl, ht, hle⟩ := ih
    exact ⟨t, _, last, rfl, ht, Nat.le_of_succ_le hle⟩
  | last => exact .inl ⟨rfl, rfl⟩
  | join hj _ _ _ _ => exact .inr ⟨_, _, _, rfl, hj⟩
  | subject => exact .inl ⟨rfl, rfl⟩
  | isNull => exact .inr ⟨_, _, rfl, rfl⟩
  | @inSubselect _ negated | @inList _ negated | @between _ _ _ negated | @like _ _ negated =>
    cases negated <;> exact .inr ⟨_, _, rfl, rfl⟩
  | regex => exact .inr ⟨_, _, rfl, rfl⟩
  | compare hc _ _ => exact .inr ⟨_, _, rfl, follows?_of_comparison? hc⟩
  | one _ ih =>
    obtain ⟨t, us, last, rfl, ht, -⟩ := ih
    exact ⟨t, us, last, rfl, ht⟩
  | more _ _ ih _ =>
    obtain ⟨t, us, last, rfl, ht, -⟩ := ih
    exact ⟨t, _, last, rfl, ht⟩
  | @boolean value => cases value <;> exact ⟨_, _, _, rfl, rfl, by decide⟩
  -- Of all keywords only three are names, the others have no phrase of this rule.
  | @dated kind _ _ _ hk _ | @keyword kind _ _ _ hk _ _ =>
    cases kind <;> first | exact ⟨_, _, _, rfl, rfl, by decide⟩ | cases hk
  | noBranch => exact .inl ⟨rfl, rfl⟩
  | branch => exact .inr ⟨_, rfl⟩
  | column | qualified | call | callWith | missing | marked => trivial
  | _ => exact ⟨_, _, _, rfl, rfl, by decide⟩

/-- An expression has a first token, which opens its level or one that binds more. -/
theorem exists_cons {level : Level} {e : Expr} {ts : List Token}
    (h : Phrase (.expression level e) ts) : ∃ t us last, ts = t :: us ∧ t.opens? = some last ∧
      level.rank ≤ last.rank :=
  h.opens

theorem length_pos {level : Level} {e : Expr} {ts : List Token}
    (h : Phrase (.expression level e) ts) : 0 < ts.length := by
  obtain ⟨t, us, -, rfl, -, -⟩ := h.exists_cons
  exact Nat.succ_pos _

/-- An expression does not begin with a token that opens none of its level. -/
theorem headD_ne {level : Level} {e : Expr} {ts : List Token}
    (h : Phrase (.expression level e) ts) {t : Token}
    (ht : ∀ last, t.opens? = some last → last.rank < level.rank) (rest : List Token) :
    (ts ++ rest).headD .endOfInput ≠ t := by
  obtain ⟨t, us, last, rfl, ho, hle⟩ := h.exists_cons
  rintro rfl
  exact absurd (ht last ho) (Nat.not_lt.2 hle)

/-- A list does not begin with a token that opens no expression. -/
theorem headD_list_ne {es : List Expr} {ts : List Token} (h : Phrase (.list es) ts) {t : Token}
    (ht : t.opens? = none) (rest : List Token) : (ts ++ rest).headD .endOfInput ≠ t := by
  obtain ⟨t, us, last, rfl, ho⟩ := h.opens
  rintro rfl
  simp [ho] at ht

theorem ends_joined {level : Level} {l e : Expr} {us rest : List Token}
    (h : Phrase (.joined level l e) us) (hl : level.isChain) (hr : level.Ends rest) :
    level.next.Ends (us ++ rest) := by
  have hrank := Level.rank_next hl
  rcases h.opens with ⟨rfl, -⟩ | ⟨t, us, f, rfl, hj⟩
  · exact hr.mono (by omega)
  · exact Level.ends_cons (Level.follows?_of_join? hj) (by omega)

/-- The subject of a condition ends where the condition's operator begins. -/
theorem ends_condition {s e : Expr} {us rest : List Token} (h : Phrase (.condition s e) us)
    (hr : Level.comparison.Ends rest) : Level.bitwise.Ends (us ++ rest) := by
  rcases h.opens with ⟨rfl, -⟩ | ⟨t, us, rfl, ht⟩
  · exact hr.mono (by decide)
  · exact Level.ends_cons ht (by decide)

/-- Branches begin with `WHEN`, which goes on with no expression. -/
theorem ends_branches {level : Level} {bs : List (Expr × Expr)} {us rest : List Token}
    (h : Phrase (.branches bs) us) (hr : level.Ends rest) : level.Ends (us ++ rest) := by
  rcases h.opens with ⟨rfl, -⟩ | ⟨us, rfl⟩
  · exact hr
  · exact Level.ends_of_follows? rfl

end Phrase

/-! ## Reading phrases -/

namespace Form

/-- Steps that are enough to read a phrase. -/
def steps : Form → List Token → Nat
  | .expression level _, ts => 16 * ts.length - level.rank
  | .optional _ _, ts => 16 * ts.length
  | _, ts => 16 * ts.length + 1

/-- Whether what follows a phrase does not go on with it. -/
def Ends : Form → List Token → Prop
  | .expression level _, rest | .joined level _ _, rest => level.Ends rest
  | .condition _ _, rest => Level.comparison.Ends rest
  | .list _, rest => Level.disjunction.Ends rest ∧ rest.headD .endOfInput ≠ .symbol .comma
  | .named _ _, rest => Level.primary.Ends rest
  | .branches _, rest => Level.disjunction.Ends rest ∧ rest.headD .endOfInput ≠ .keyword .when
  | .optional _ _, rest => Level.disjunction.Ends rest

end Form

namespace Parser

/-- The form is read from the tokens, whatever follows that does not go on with
    them. -/
def Complete (form : Form) (us : List Token) : Prop :=
  ∀ n rest, form.steps us ≤ n → form.Ends rest → Reads n form (us ++ rest) rest

/-- A level of a chain reads one operand of the next level and what is joined to it. -/
theorem expression_chain {n : Nat} {level : Level} (h : level.isChain) :
    expression (n + 1) level = (do joined n level (← expression n level.next)) := by
  cases level <;> first | rfl | cases h

/-- A chain is read if its first operand and what is joined to it are. The first operand stops at
    the first operator of the chain, since that binds less. -/
theorem complete_chain {level : Level} {l e : Expr} {ts us : List Token} (hl : level.isChain)
    (pl : Phrase (.expression level.next l) ts) (pe : Phrase (.joined level l e) us)
    (cl : Complete (.expression level.next l) ts) (ce : Complete (.joined level l e) us) :
    Complete (.expression level e) (ts ++ us) := by
  intro n rest hn hr
  have hpos := pl.length_pos
  have hrank := Level.rank_next hl
  have hnine : level.rank ≤ 9 := by cases level <;> decide
  simp only [Form.steps, List.length_append] at hn
  obtain ⟨n, rfl⟩ : ∃ m, n = m + 1 := ⟨n - 1, by omega⟩
  change expression (n + 1) level (ts ++ us ++ rest) = _
  rw [expression_chain hl, List.append_assoc]
  have hl := cl n (us ++ rest) (by simp only [Form.steps]; omega) (pe.ends_joined hl hr)
  have he := ce n rest (by simp only [Form.steps]; omega) hr
  exact bind_eq_ok.2 ⟨l, us ++ rest, hl, he⟩

/-- A chain stops where no operator of its level follows. -/
theorem complete_last {level : Level} {e : Expr} : Complete (.joined level e e) [] := by
  intro n rest hn hr
  obtain ⟨n, rfl⟩ : ∃ m, n = m + 1 := ⟨n - 1, by simp [Form.steps] at hn; omega⟩
  change joined (n + 1) level e rest = .ok e rest
  rw [joined, peek_bind, Level.join?_of_ends hr]
  rfl

/-- An operator and its right operand are read and joined to the left one, and the chain goes on
    with both as the left operand. -/
theorem complete_join {level : Level} {t : Token} {f : Expr → Expr → Expr} {l r e : Expr}
    {ts us : List Token} (hj : level.join? t = some f) (pe : Phrase (.joined level (f l r) e) us)
    (cr : Complete (.expression level.next r) ts) (ce : Complete (.joined level (f l r) e) us) :
    Complete (.joined level l e) (t :: (ts ++ us)) := by
  intro n rest hn hr
  simp only [Form.steps, List.length_cons, List.length_append] at hn
  obtain ⟨n, rfl⟩ : ∃ m, n = m + 1 := ⟨n - 1, by omega⟩
  change joined (n + 1) level l (t :: (ts ++ us) ++ rest) = .ok e rest
  rw [joined, peek_bind, List.cons_append, List.append_assoc, List.headD_cons, hj]
  change (do joined n level (f l (← expression n level.next)) : Parser Expr)
    (ts ++ (us ++ rest)) = _
  have hr' := cr n (us ++ rest) (by simp only [Form.steps]; omega)
    (pe.ends_joined (Level.isChain_of_join? hj) hr)
  have he := ce n rest (by simp only [Form.steps]; omega) hr
  exact bind_eq_ok.2 ⟨r, us ++ rest, hr', he⟩

/-! ### Conditions -/

/-- A condition is read if its subject and the part behind it are. -/
theorem complete_comparison {s e : Expr} {ts us : List Token}
    (ps : Phrase (.expression .bitwise s) ts) (pe : Phrase (.condition s e) us)
    (cs : Complete (.expression .bitwise s) ts) (ce : Complete (.condition s e) us) :
    Complete (.expression .comparison e) (ts ++ us) := by
  intro n rest hn hr
  have hpos := ps.length_pos
  simp only [Form.steps, Level.rank, List.length_append] at hn
  obtain ⟨n, rfl⟩ : ∃ m, n = m + 1 := ⟨n - 1, by omega⟩
  change (do condition n (← expression n .bitwise) : Parser Expr) (ts ++ us ++ rest) = _
  rw [List.append_assoc]
  have hs := cs n (us ++ rest) (by simp only [Form.steps, Level.rank]; omega) (pe.ends_condition hr)
  have he := ce n rest (by simp only [Form.steps]; omega) hr
  exact bind_eq_ok.2 ⟨s, us ++ rest, hs, he⟩

/-- A subject alone is read as it is if no operator of a condition follows. -/
theorem complete_subject {s : Expr} : Complete (.condition s s) [] := by
  intro n rest hn hr
  obtain ⟨n, rfl⟩ : ∃ m, n = m + 1 := ⟨n - 1, by simp [Form.steps] at hn; omega⟩
  change condition (n + 1) s rest = .ok s rest
  have hne {t : Token} (ht : t.follows? = some .comparison) : rest.headD .endOfInput ≠ t :=
    Level.Ends.ne hr ht (Nat.le_refl _)
  rw [condition]
  refine bind_eq_ok.2 ⟨false, rest, skip_eq_false.2 ⟨hne rfl, rfl⟩, ?_⟩
  refine bind_eq_ok.2 ⟨false, rest, skipNegation_false (hne rfl), ?_⟩
  rw [peek_bind]
  cases rest with
  | nil => rfl
  | cons t rest =>
    cases t with
    | keyword k =>
      cases k with
      | «in» | between | like => exact absurd rfl (hne rfl)
      | _ => rfl
    | symbol sym =>
      cases sym with
      | tilde | equal | notEqual | less | greater | lessEqual | greaterEqual =>
        exact absurd rfl (hne rfl)
      | _ => rfl
    | _ => rfl

theorem complete_isNull {s : Expr} {negated : Bool} : Complete (.condition s (.isNull negated s))
    (.keyword .is :: (notTokens negated ++ [.keyword .null])) := by
  intro n rest hn hr
  obtain ⟨n, rfl⟩ : ∃ m, n = m + 1 := ⟨n - 1, by simp [Form.steps] at hn; omega⟩
  cases negated <;> rfl

/-- The conditions that can have a `NOT` of their own, behind their keyword. -/
theorem condition_in {n : Nat} {s : Expr} {negated : Bool} {us : List Token} :
    condition (n + 1) s (notTokens negated ++ .keyword .in :: us) =
      (do
        expect (.symbol .leftParen)
        if (← peek) = .keyword .select then
          let sql ← subselect
          expect (.symbol .rightParen)
          return .inSubselect negated s sql
        else
          let items ← expressions n
          expect (.symbol .rightParen)
          return .inList negated s items : Parser Expr) us := by
  cases negated <;> rfl

/-- Behind `BETWEEN` or `NOT BETWEEN` the two bounds are left to read. -/
theorem condition_between {n : Nat} {s : Expr} {negated : Bool} {us : List Token} :
    condition (n + 1) s (notTokens negated ++ .keyword .between :: us) =
      (do
        let low ← expression n .bitwise
        expect (.keyword .and)
        return .between negated s low (← expression n .bitwise) : Parser Expr) us := by
  cases negated <;> rfl

/-- Behind `LIKE` or `NOT LIKE` the pattern is left to read. -/
theorem condition_like {n : Nat} {s : Expr} {negated : Bool} {us : List Token} :
    condition (n + 1) s (notTokens negated ++ .keyword .like :: us) =
      (do return .like negated s (← expression n .bitwise) : Parser Expr) us := by
  cases negated <;> rfl

theorem complete_inSubselect {s : Expr} {negated : Bool} {body : List Token}
    (hb : IsBody 0 (.keyword .select :: body)) :
    Complete (.condition s (.inSubselect negated s (bodyText (.keyword .select :: body))))
      (notTokens negated ++ .keyword .in :: .symbol .leftParen :: .keyword .select ::
        (body ++ [.symbol .rightParen])) := by
  intro n rest hn hr
  obtain ⟨n, rfl⟩ : ∃ m, n = m + 1 := ⟨n - 1, by simp [Form.steps] at hn; omega⟩
  simp only [Reads, List.append_assoc, List.cons_append, List.nil_append, condition_in]
  refine bind_eq_ok.2 ⟨(), _, (expect_eq_ok (by simp)).2 rfl, ?_⟩
  rw [peek_bind, List.headD_cons, if_pos rfl]
  refine bind_eq_ok.2 ⟨_, _, subselect_eq_ok.2 ⟨_, rest, rfl, rfl, hb, rfl⟩, ?_⟩
  exact bind_eq_ok.2 ⟨(), rest, (expect_eq_ok (by simp)).2 rfl, rfl⟩

theorem complete_inList {s : Expr} {negated : Bool} {items : List Expr} {ts : List Token}
    (pi : Phrase (.list items) ts) (ci : Complete (.list items) ts) :
    Complete (.condition s (.inList negated s items))
      (notTokens negated ++ .keyword .in :: .symbol .leftParen :: (ts ++ [.symbol .rightParen])) := by
  intro n rest hn hr
  simp only [Form.steps, List.length_append, List.length_cons, List.length_nil] at hn
  obtain ⟨n, rfl⟩ : ∃ m, n = m + 1 := ⟨n - 1, by omega⟩
  simp only [Reads, List.append_assoc, List.cons_append, List.nil_append, condition_in]
  refine bind_eq_ok.2 ⟨(), _, (expect_eq_ok (by simp)).2 rfl, ?_⟩
  rw [peek_bind, if_neg (pi.headD_list_ne rfl _)]
  have hi := ci n (.symbol .rightParen :: rest) (by simp only [Form.steps]; omega)
    ⟨Level.ends_of_follows? rfl, by simp⟩
  refine bind_eq_ok.2 ⟨items, _, hi, ?_⟩
  exact bind_eq_ok.2 ⟨(), rest, (expect_eq_ok (by simp)).2 rfl, rfl⟩

theorem complete_between {s low high : Expr} {negated : Bool} {ts us : List Token}
    (cl : Complete (.expression .bitwise low) ts) (ch : Complete (.expression .bitwise high) us) :
    Complete (.condition s (.between negated s low high))
      (notTokens negated ++ .keyword .between :: (ts ++ .keyword .and :: us)) := by
  intro n rest hn hr
  simp only [Form.steps, List.length_append, List.length_cons] at hn
  obtain ⟨n, rfl⟩ : ∃ m, n = m + 1 := ⟨n - 1, by omega⟩
  simp only [Reads, List.append_assoc, List.cons_append, condition_between]
  have hl := cl n (.keyword .and :: (us ++ rest)) (by simp only [Form.steps]; omega)
    (Level.ends_cons rfl (by decide))
  have hh := ch n rest (by simp only [Form.steps]; omega) (hr.mono (by decide))
  refine bind_eq_ok.2 ⟨low, _, hl, ?_⟩
  refine bind_eq_ok.2 ⟨(), _, (expect_eq_ok (by simp)).2 rfl, ?_⟩
  exact bind_eq_ok.2 ⟨high, rest, hh, rfl⟩

theorem complete_like {s pattern : Expr} {negated : Bool} {ts : List Token}
    (cp : Complete (.expression .bitwise pattern) ts) :
    Complete (.condition s (.like negated s pattern)) (notTokens negated ++ .keyword .like :: ts) := by
  intro n rest hn hr
  simp only [Form.steps, List.length_append, List.length_cons] at hn
  obtain ⟨n, rfl⟩ : ∃ m, n = m + 1 := ⟨n - 1, by omega⟩
  simp only [Reads, List.append_assoc, List.cons_append, condition_like]
  have hp := cp n rest (by simp only [Form.steps]; omega) (hr.mono (by decide))
  exact bind_eq_ok.2 ⟨pattern, rest, hp, rfl⟩

theorem complete_regex {s r : Expr} {ts : List Token} (cr : Complete (.expression .bitwise r) ts) :
    Complete (.condition s (.binary .regexMatch s r)) (.symbol .tilde :: ts) := by
  intro n rest hn hr
  simp only [Form.steps, List.length_cons] at hn
  obtain ⟨n, rfl⟩ : ∃ m, n = m + 1 := ⟨n - 1, by omega⟩
  have hp := cr n rest (by simp only [Form.steps]; omega) (hr.mono (by decide))
  change (do return .binary .regexMatch s (← expression n .bitwise) : Parser Expr) (ts ++ rest) = _
  exact bind_eq_ok.2 ⟨r, rest, hp, rfl⟩

/-- Behind a sign of comparison the right operand is left to read. -/
theorem condition_comparison? {n : Nat} {s : Expr} {t : Token} {op : ComparisonOperator}
    {us : List Token} (h : comparison? t = some op) : condition (n + 1) s (t :: us) =
      (do return .compare op s (← expression n .bitwise) : Parser Expr) us := by
  cases t with
  | symbol sym => cases sym <;> first | cases h; rfl | cases h
  | _ => cases h

theorem complete_compare {s r : Expr} {t : Token} {op : ComparisonOperator} {ts : List Token}
    (h : comparison? t = some op) (cr : Complete (.expression .bitwise r) ts) :
    Complete (.condition s (.compare op s r)) (t :: ts) := by
  intro n rest hn hr
  simp only [Form.steps, List.length_cons] at hn
  obtain ⟨n, rfl⟩ : ∃ m, n = m + 1 := ⟨n - 1, by omega⟩
  have hp := cr n rest (by simp only [Form.steps]; omega) (hr.mono (by decide))
  simp only [Reads, List.cons_append, condition_comparison? h]
  exact bind_eq_ok.2 ⟨r, rest, hp, rfl⟩

/-! ### Operators in front -/

theorem complete_not {e : Expr} {ts : List Token} (ce : Complete (.expression .negation e) ts) :
    Complete (.expression .negation (.not e)) (.keyword .not :: ts) := by
  intro n rest hn hr
  simp only [Form.steps, Level.rank, List.length_cons] at hn
  obtain ⟨n, rfl⟩ : ∃ m, n = m + 1 := ⟨n - 1, by omega⟩
  have he := ce n rest (by simp only [Form.steps, Level.rank]; omega) hr
  change (do return .not (← expression n .negation) : Parser Expr) (ts ++ rest) = _
  exact bind_eq_ok.2 ⟨e, rest, he, rfl⟩

/-- A condition that does not begin with `NOT` is read at the level of negations. -/
theorem complete_positive {e : Expr} {ts : List Token} (pe : Phrase (.expression .comparison e) ts)
    (ce : Complete (.expression .comparison e) ts) : Complete (.expression .negation e) ts := by
  intro n rest hn hr
  have hpos := pe.length_pos
  simp only [Form.steps, Level.rank] at hn
  obtain ⟨n, rfl⟩ : ∃ m, n = m + 1 := ⟨n - 1, by omega⟩
  have he := ce n rest (by simp only [Form.steps, Level.rank]; omega) (hr.mono (by decide))
  have hne := pe.headD_ne (t := .keyword .not) (by simp [Token.opens?, Level.rank]) rest
  exact bind_eq_ok.2 ⟨false, _, skip_eq_false.2 ⟨hne, rfl⟩, he⟩

theorem complete_plus {e : Expr} {ts : List Token} (ce : Complete (.expression .sign e) ts) :
    Complete (.expression .sign e) (.symbol .plus :: ts) := by
  intro n rest hn hr
  simp only [Form.steps, Level.rank, List.length_cons] at hn
  obtain ⟨n, rfl⟩ : ∃ m, n = m + 1 := ⟨n - 1, by omega⟩
  exact ce n rest (by simp only [Form.steps, Level.rank]; omega) hr

theorem complete_minus {e : Expr} {ts : List Token} (ce : Complete (.expression .sign e) ts) :
    Complete (.expression .sign (negate e)) (.symbol .minus :: ts) := by
  intro n rest hn hr
  simp only [Form.steps, Level.rank, List.length_cons] at hn
  obtain ⟨n, rfl⟩ : ∃ m, n = m + 1 := ⟨n - 1, by omega⟩
  have he := ce n rest (by simp only [Form.steps, Level.rank]; omega) hr
  change (do return negate (← expression n .sign) : Parser Expr) (ts ++ rest) = _
  exact bind_eq_ok.2 ⟨e, rest, he, rfl⟩

/-- Without a sign in front, an expression is read without one. -/
theorem expression_sign {n : Nat} {ts : List Token}
    (hp : ts.headD .endOfInput ≠ .symbol .plus) (hm : ts.headD .endOfInput ≠ .symbol .minus) :
    expression (n + 1) .sign ts = expression n .access ts := by
  cases ts with
  | nil => rfl
  | cons t ts =>
    cases t with
    | symbol sym =>
      cases sym with
      | plus => exact absurd rfl hp
      | minus => exact absurd rfl hm
      | _ => rfl
    | _ => rfl

/-- An operand that begins with no sign is read at the level of signs. -/
theorem complete_unsigned {e : Expr} {ts : List Token} (pe : Phrase (.expression .access e) ts)
    (ce : Complete (.expression .access e) ts) : Complete (.expression .sign e) ts := by
  intro n rest hn hr
  have hpos := pe.length_pos
  simp only [Form.steps, Level.rank] at hn
  obtain ⟨n, rfl⟩ : ∃ m, n = m + 1 := ⟨n - 1, by omega⟩
  have hplus := pe.headD_ne (t := .symbol .plus) (by simp [Token.opens?, Level.rank]) rest
  have hminus := pe.headD_ne (t := .symbol .minus) (by simp [Token.opens?, Level.rank]) rest
  have he := ce n rest (by simp only [Form.steps, Level.rank]; omega) (hr.mono (by decide))
  exact (expression_sign hplus hminus).trans he

/-! ### Lists, names and branches -/

theorem complete_one {e : Expr} {ts : List Token} (ce : Complete (.expression .disjunction e) ts) :
    Complete (.list [e]) ts := by
  intro n rest hn hr
  simp only [Form.steps] at hn
  obtain ⟨n, rfl⟩ : ∃ m, n = m + 1 := ⟨n - 1, by omega⟩
  have he := ce n rest (by simp only [Form.steps]; omega) hr.1
  refine bind_eq_ok.2 ⟨e, rest, he, ?_⟩
  exact bind_eq_ok.2 ⟨false, rest, skip_eq_false.2 ⟨hr.2, rfl⟩, rfl⟩

/-- A list is read if its first expression and the others are; the first one stops at the comma. -/
theorem complete_more {e : Expr} {es : List Expr} {ts us : List Token}
    (ce : Complete (.expression .disjunction e) ts) (ces : Complete (.list es) us) :
    Complete (.list (e :: es)) (ts ++ .symbol .comma :: us) := by
  intro n rest hn hr
  simp only [Form.steps, List.length_append, List.length_cons] at hn
  obtain ⟨n, rfl⟩ : ∃ m, n = m + 1 := ⟨n - 1, by omega⟩
  have he := ce n (.symbol .comma :: (us ++ rest)) (by simp only [Form.steps]; omega)
    (Level.ends_of_follows? rfl)
  have hes := ces n rest (by simp only [Form.steps]; omega) hr
  simp only [Reads, List.append_assoc, List.cons_append]
  refine bind_eq_ok.2 ⟨e, _, he, ?_⟩
  refine bind_eq_ok.2 ⟨true, _, (skip_eq_true (by simp)).2 rfl, ?_⟩
  exact bind_eq_ok.2 ⟨es, rest, hes, rfl⟩

theorem complete_column {name : String} : Complete (.named name (.column ⟨none, name⟩)) [] := by
  intro n rest hn hr
  obtain ⟨n, rfl⟩ : ∃ m, n = m + 1 := ⟨n - 1, by simp [Form.steps] at hn; omega⟩
  have hdot : rest.headD .endOfInput ≠ .symbol .dot := Level.Ends.ne hr rfl (Nat.le_refl _)
  have hparen : rest.headD .endOfInput ≠ .symbol .leftParen :=
    Level.Ends.ne hr rfl (Nat.le_refl _)
  change named (n + 1) name rest = _
  rw [named]
  refine bind_eq_ok.2 ⟨false, rest, skip_eq_false.2 ⟨hdot, rfl⟩, ?_⟩
  exact bind_eq_ok.2 ⟨false, rest, skip_eq_false.2 ⟨hparen, rfl⟩, rfl⟩

/-- A call with arguments is read if its arguments are; they do not begin with the closing
    parenthesis. -/
theorem complete_callWith {name : String} {arguments : List Expr} {ts : List Token}
    (pa : Phrase (.list arguments) ts) (ca : Complete (.list arguments) ts) :
    Complete (.named name (.call name arguments))
      (.symbol .leftParen :: (ts ++ [.symbol .rightParen])) := by
  intro n rest hn hr
  simp only [Form.steps, List.length_append, List.length_cons, List.length_nil] at hn
  obtain ⟨n, rfl⟩ : ∃ m, n = m + 1 := ⟨n - 1, by omega⟩
  simp only [Reads, List.append_assoc, List.cons_append, List.nil_append]
  rw [named]
  refine bind_eq_ok.2 ⟨false, _, skip_eq_false.2 ⟨by simp, rfl⟩, ?_⟩
  refine bind_eq_ok.2 ⟨true, _, (skip_eq_true (by simp)).2 rfl, ?_⟩
  -- The arguments are not empty, so they are not taken for the parenthesis that closes the call.
  rw [if_pos rfl, peek_bind, if_neg (pa.headD_list_ne rfl _)]
  have ha := ca n (.symbol .rightParen :: rest) (by simp only [Form.steps]; omega)
    ⟨Level.ends_of_follows? rfl, by simp⟩
  refine bind_eq_ok.2 ⟨arguments, _, ha, ?_⟩
  exact bind_eq_ok.2 ⟨(), rest, (expect_eq_ok (by simp)).2 rfl, rfl⟩

theorem complete_noBranch : Complete (.branches []) [] := by
  intro n rest hn hr
  obtain ⟨n, rfl⟩ : ∃ m, n = m + 1 := ⟨n - 1, by simp [Form.steps] at hn; omega⟩
  exact bind_eq_ok.2 ⟨false, rest, skip_eq_false.2 ⟨hr.2, rfl⟩, rfl⟩

/-- Branches are read if the condition and result of the first and the other ones are. The condition
    stops at `THEN`, the result where the other branches begin. -/
theorem complete_branch {condition result : Expr} {bs : List (Expr × Expr)}
    {ts us vs : List Token} (pb : Phrase (.branches bs) vs)
    (cc : Complete (.expression .disjunction condition) ts)
    (cr : Complete (.expression .disjunction result) us) (cb : Complete (.branches bs) vs) :
    Complete (.branches ((condition, result) :: bs))
      (.keyword .when :: (ts ++ .keyword .then :: (us ++ vs))) := by
  intro n rest hn hr
  simp only [Form.steps, List.length_append, List.length_cons] at hn
  obtain ⟨n, rfl⟩ : ∃ m, n = m + 1 := ⟨n - 1, by omega⟩
  have hc := cc n (.keyword .then :: (us ++ (vs ++ rest))) (by simp only [Form.steps]; omega)
    (Level.ends_of_follows? rfl)
  have hres := cr n (vs ++ rest) (by simp only [Form.steps]; omega) (pb.ends_branches hr.1)
  have hb := cb n rest (by simp only [Form.steps]; omega) hr
  simp only [Reads, List.append_assoc, List.cons_append]
  refine bind_eq_ok.2 ⟨true, _, (skip_eq_true (by simp)).2 rfl, ?_⟩
  refine bind_eq_ok.2 ⟨condition, _, hc, ?_⟩
  refine bind_eq_ok.2 ⟨(), _, (expect_eq_ok (by simp)).2 rfl, ?_⟩
  refine bind_eq_ok.2 ⟨result, _, hres, ?_⟩
  exact bind_eq_ok.2 ⟨bs, rest, hb, rfl⟩

/-! ### Expressions without operators -/

/-- An expression without operators is read as soon as there are two steps. -/
theorem reads_primary {n : Nat} {e : Expr} {us rest : List Token} (hpos : 0 < us.length)
    (hn : (Form.expression .primary e).steps us ≤ n)
    (h : ∀ m, 16 * us.length ≤ m + 11 → primary (m + 1) (us ++ rest) = .ok e rest) :
    Reads n (.expression .primary e) (us ++ rest) rest := by
  simp only [Form.steps, Level.rank] at hn
  obtain ⟨n, rfl⟩ : ∃ m, n = m + 2 := ⟨n - 2, by omega⟩
  exact h n (by omega)

theorem complete_number {digits : String} {c : Constant} (h : numberConstant? digits = some c) :
    Complete (.expression .primary (.constant c)) [.number digits] := by
  intro n rest hn hr
  refine reads_primary Nat.one_pos hn fun m _ => ?_
  rw [List.singleton_append, primary, peek_bind]
  dsimp only [List.headD_cons]
  rw [advance_bind, h]
  rfl

/-- What is one token and stands for itself. -/
theorem complete_token {t : Token} {e : Expr}
    (h : ∀ m rest, primary (m + 1) (t :: rest) = .ok e rest) :
    Complete (.expression .primary e) [t] := by
  intro n rest hn hr
  exact reads_primary Nat.one_pos hn fun m _ => h m rest

/-- A keyword of a date or time and a string behind it are read as the constant they stand for. -/
theorem complete_dated {kind : Keyword} {name text : String} {c : Constant}
    (hk : keywordName? kind = some name) (hd : dateConstant kind text = .ok c) :
    Complete (.expression .primary (.constant c)) [.keyword kind, .string text] := by
  intro n rest hn hr
  refine reads_primary Nat.two_pos hn fun m hm => ?_
  simp only [List.length_cons, List.length_nil] at hm
  obtain ⟨m, rfl⟩ : ∃ k, m = k + 1 := ⟨m - 1, by omega⟩
  have htyped : typed (m + 1) kind name (.string text :: rest) = .ok (.constant c) rest := by
    rw [typed, peek_bind]
    dsimp only [List.headD_cons]
    rw [advance_bind, hd]
    rfl
  cases kind <;> first | (cases hk; exact htyped) | cases hk

/-- A name is read as the column or call that it is with what follows. -/
theorem complete_name {name : String} {e : Expr} {ts : List Token}
    (ce : Complete (.named name e) ts) : Complete (.expression .primary e) (.name name :: ts) := by
  intro n rest hn hr
  refine reads_primary (Nat.succ_pos _) hn fun m hm => ?_
  simp only [List.length_cons] at hm
  exact ce m rest (by simp only [Form.steps]; omega) hr

/-- A keyword of a date or time that no string follows is a name. -/
theorem typed_of_not_string {n : Nat} {kind : Keyword} {name : String} {ts : List Token}
    (h : ∀ text, ts.headD .endOfInput ≠ .string text) :
    typed (n + 1) kind name ts = named n name ts := by
  cases ts with
  | nil => rfl
  | cons t ts =>
    cases t with
    | string text => exact absurd rfl (h text)
    | _ => rfl

/-- What makes a column or a call of a name does not begin with a string, and neither does what
    follows it. -/
theorem headD_named_ne {name text : String} {e : Expr} {ts rest : List Token}
    (h : Phrase (.named name e) ts) (hr : Level.primary.Ends rest) :
    (ts ++ rest).headD .endOfInput ≠ .string text := by
  cases h with
  | column => exact Level.Ends.ne hr rfl (Nat.le_refl _)
  | qualified | call | callWith => simp

/-- A keyword that no string follows is read as the column or call of its name. -/
theorem complete_keyword {kind : Keyword} {name : String} {e : Expr} {ts : List Token}
    (hk : keywordName? kind = some name) (pe : Phrase (.named name e) ts)
    (ce : Complete (.named name e) ts) :
    Complete (.expression .primary e) (.keyword kind :: ts) := by
  intro n rest hn hr
  refine reads_primary (Nat.succ_pos _) hn fun m hm => ?_
  simp only [List.length_cons] at hm
  obtain ⟨m, rfl⟩ : ∃ k, m = k + 1 := ⟨m - 1, by omega⟩
  -- A string behind the keyword would be read as a date. No column or call begins with one, and
  -- none follows where a primary expression ends.
  have htyped : typed (m + 1) kind name (ts ++ rest) = .ok e rest := by
    rw [typed_of_not_string fun text => headD_named_ne pe hr]
    exact ce m rest (by simp only [Form.steps]; omega) hr
  cases kind <;> first | (cases hk; exact htyped) | cases hk

/-- Parentheses are read if the expression within is; it does not begin with `SELECT`. -/
theorem complete_paren {e : Expr} {ts : List Token} (pe : Phrase (.expression .disjunction e) ts)
    (ce : Complete (.expression .disjunction e) ts) :
    Complete (.expression .primary (.paren e))
      (.symbol .leftParen :: (ts ++ [.symbol .rightParen])) := by
  intro n rest hn hr
  refine reads_primary (Nat.succ_pos _) hn fun m hm => ?_
  simp only [List.length_append, List.length_cons, List.length_nil] at hm
  have he := ce m (.symbol .rightParen :: rest) (by simp only [Form.steps]; omega)
    (Level.ends_of_follows? rfl)
  have hne := pe.headD_ne (t := .keyword .select) (by simp [Token.opens?])
    (.symbol .rightParen :: rest)
  simp only [List.append_assoc, List.cons_append, List.nil_append]
  -- The monadic code of this case only shows once the token is known, so it is written out here.
  change (do
    if (← peek) = .keyword .select then
      let sql ← subselect
      expect (.symbol .rightParen)
      return .subselect sql
    else
      let inner ← expression m .disjunction
      expect (.symbol .rightParen)
      return .paren inner : Parser Expr) (ts ++ .symbol .rightParen :: rest) = _
  rw [peek_bind, if_neg hne]
  refine bind_eq_ok.2 ⟨e, _, he, ?_⟩
  exact bind_eq_ok.2 ⟨(), rest, (expect_eq_ok (by simp)).2 rfl, rfl⟩

/-- A sub-select is read up to the parenthesis that closes it. -/
theorem complete_subselect {body : List Token} (hb : IsBody 0 (.keyword .select :: body)) :
    Complete (.expression .primary (.subselect (bodyText (.keyword .select :: body))))
      (.symbol .leftParen :: .keyword .select :: (body ++ [.symbol .rightParen])) := by
  intro n rest hn hr
  refine reads_primary (Nat.succ_pos _) hn fun m _ => ?_
  simp only [List.append_assoc, List.cons_append, List.nil_append]
  change (do
    let sql ← subselect
    expect (.symbol .rightParen)
    return .subselect sql : Parser Expr)
      (.keyword .select :: (body ++ .symbol .rightParen :: rest)) = _
  refine bind_eq_ok.2 ⟨_, _, subselect_eq_ok.2 ⟨_, rest, rfl, rfl, hb, rfl⟩, ?_⟩
  exact bind_eq_ok.2 ⟨(), rest, (expect_eq_ok (by simp)).2 rfl, rfl⟩

/-- `EXISTS` is read with its sub-select, up to the parenthesis that closes it. -/
theorem complete_exists {body : List Token} (hb : IsBody 0 body) :
    Complete (.expression .primary (.exists false (bodyText body)))
      (.keyword .exists :: .symbol .leftParen :: (body ++ [.symbol .rightParen])) := by
  intro n rest hn hr
  refine reads_primary (Nat.succ_pos _) hn fun m _ => ?_
  simp only [List.append_assoc, List.cons_append, List.nil_append]
  change (do
    expect (.symbol .leftParen)
    let sql ← subselect
    expect (.symbol .rightParen)
    return .exists false sql : Parser Expr)
      (.symbol .leftParen :: (body ++ .symbol .rightParen :: rest)) = _
  refine bind_eq_ok.2 ⟨(), _, (expect_eq_ok (by simp)).2 rfl, ?_⟩
  refine bind_eq_ok.2 ⟨_, _, subselect_eq_ok.2 ⟨_, rest, rfl, rfl, hb, rfl⟩, ?_⟩
  exact bind_eq_ok.2 ⟨(), rest, (expect_eq_ok (by simp)).2 rfl, rfl⟩

/-- A cast is read if its operand is, whatever type is behind `AS`. -/
theorem complete_cast {e : Expr} {type : String} {ts us : List Token} (ht : IsType type us)
    (ce : Complete (.expression .disjunction e) ts) :
    Complete (.expression .primary (.cast e type))
      (.keyword .cast :: .symbol .leftParen ::
        (ts ++ .keyword .as :: (us ++ [.symbol .rightParen]))) := by
  intro n rest hn hr
  refine reads_primary (Nat.succ_pos _) hn fun m hm => ?_
  simp only [List.length_append, List.length_cons, List.length_nil] at hm
  have he := ce m (.keyword .as :: (us ++ .symbol .rightParen :: rest))
    (by simp only [Form.steps]; omega) (Level.ends_of_follows? rfl)
  have htype : typeName m (us ++ .symbol .rightParen :: rest) =
      .ok type (.symbol .rightParen :: rest) := typeName_complete ht (by omega) (by simp)
  simp only [List.append_assoc, List.cons_append, List.nil_append]
  change (do
    expect (.symbol .leftParen)
    let operand ← expression m .disjunction
    expect (.keyword .as)
    let type ← typeName m
    expect (.symbol .rightParen)
    return .cast operand type : Parser Expr)
      (.symbol .leftParen :: (ts ++ .keyword .as :: (us ++ .symbol .rightParen :: rest))) = _
  refine bind_eq_ok.2 ⟨(), _, (expect_eq_ok (by simp)).2 rfl, ?_⟩
  refine bind_eq_ok.2 ⟨e, _, he, ?_⟩
  refine bind_eq_ok.2 ⟨(), _, (expect_eq_ok (by simp)).2 rfl, ?_⟩
  refine bind_eq_ok.2 ⟨type, _, htype, ?_⟩
  exact bind_eq_ok.2 ⟨(), rest, (expect_eq_ok (by simp)).2 rfl, rfl⟩

/-- The operand of a `CASE` is read, and what follows it is done with it. -/
theorem unless_of_complete {n : Nat} {operand : Option Expr} {ts rest : List Token}
    (po : Phrase (.optional [] operand) ts) (co : Complete (.optional [] operand) ts)
    (hn : 16 * ts.length ≤ n) (hw : rest.headD .endOfInput = .keyword .when)
    {k : Option Expr → Parser Expr} :
    (do
      if (← peek) = .keyword .when then k (← pure none)
      else k (← some <$> expression n .disjunction) : Parser Expr) (ts ++ rest) =
      k operand rest := by
  have hr : Level.disjunction.Ends rest := Level.ends_of_follows? (by rw [hw]; rfl)
  cases po with
  | missing =>
    rw [List.nil_append, peek_bind, if_pos hw]
    rfl
  | @marked _ e ts pe =>
    obtain ⟨us, hus, he⟩ := co n rest hn hr
    obtain rfl : ts ++ rest = us := hus
    -- An operand does not begin with `WHEN`, hence it is not taken for missing.
    have hne := pe.headD_ne (t := .keyword .when) (by simp [Token.opens?]) rest
    rw [List.map_nil, List.nil_append, peek_bind, if_neg hne]
    exact bind_of_ok (map_of_ok he)

/-- The last part of a `CASE` is read, and what follows it is done with it. -/
theorem marked_of_complete {n : Nat} {operand : Option Expr} {ts rest : List Token}
    (po : Phrase (.optional [.else] operand) ts)
    (co : Complete (.optional [.else] operand) ts) (hn : 16 * ts.length ≤ n)
    (he : rest.headD .endOfInput = .keyword .end) {k : Option Expr → Parser Expr} :
    (do
      if ← skip (.keyword .else) then k (← some <$> expression n .disjunction)
      else k (← pure none) : Parser Expr) (ts ++ rest) = k operand rest := by
  have hr : Level.disjunction.Ends rest := Level.ends_of_follows? (by rw [he]; rfl)
  cases po with
  | missing =>
    have hne : rest.headD .endOfInput ≠ .keyword .else := by rw [he]; simp
    exact bind_of_ok (skip_eq_false.2 ⟨hne, rfl⟩)
  | @marked _ e ts pe =>
    obtain ⟨us, hus, he⟩ := co n rest hn hr
    obtain rfl : ts ++ rest = us := (List.cons.inj hus).2
    have hskip : skip (.keyword .else) (.keyword .else :: (ts ++ rest)) = .ok true (ts ++ rest) :=
      (skip_eq_true (by simp)).2 rfl
    exact (bind_of_ok hskip).trans (bind_of_ok (map_of_ok he))

/-- A `CASE` with a branch is read if its operand, its branches and the part behind `ELSE` are. Each
    of them stops at the keyword of the next. -/
theorem complete_case {operand otherwise : Option Expr} {bs : List (Expr × Expr)}
    {ts us vs : List Token} (hb : bs ≠ []) (po : Phrase (.optional [] operand) ts)
    (pb : Phrase (.branches bs) us) (pe : Phrase (.optional [.else] otherwise) vs)
    (co : Complete (.optional [] operand) ts) (cb : Complete (.branches bs) us)
    (ce : Complete (.optional [.else] otherwise) vs) :
    Complete (.expression .primary (.case operand bs otherwise))
      (.keyword .case :: (ts ++ (us ++ (vs ++ [.keyword .end])))) := by
  intro n rest hn hr
  refine reads_primary (Nat.succ_pos _) hn fun m hm => ?_
  simp only [List.length_append, List.length_cons, List.length_nil] at hm
  simp only [List.append_assoc, List.cons_append, List.nil_append]
  -- `CASE` has a branch, so the tokens behind its operand begin with `WHEN`.
  have hwhen : (us ++ (vs ++ .keyword .end :: rest)).headD .endOfInput = .keyword .when := by
    rcases pb.opens with ⟨-, rfl⟩ | ⟨us, rfl⟩
    · exact absurd rfl hb
    · rfl
  -- The branches stop at `ELSE` or at `END`, whichever comes.
  have hends : (Form.branches bs).Ends (vs ++ .keyword .end :: rest) := by
    cases pe with
    | missing => exact ⟨Level.ends_of_follows? rfl, by simp⟩
    | marked => exact ⟨Level.ends_of_follows? rfl, by simp⟩
  have hbranches := cb m (vs ++ .keyword .end :: rest) (by simp only [Form.steps]; omega) hends
  refine (unless_of_complete po co (by omega) hwhen).trans ?_
  refine bind_eq_ok.2 ⟨bs, _, hbranches, ?_⟩
  rw [if_neg (by simpa using hb)]
  refine (marked_of_complete pe ce (by omega) rfl).trans ?_
  exact bind_eq_ok.2 ⟨(), rest, (expect_eq_ok (by simp)).2 rfl, rfl⟩

end Parser

/-- A phrase is read as what it is a phrase of. -/
theorem Phrase.reads {form : Form} {us : List Token} (h : Phrase form us) :
    Complete form us := by
  induction h with
  | chain hl pl pe cl ce => exact complete_chain hl pl pe cl ce
  | last => exact complete_last
  | join hj _ pe cr ce => exact complete_join hj pe cr ce
  | not _ ce => exact complete_not ce
  | positive pe ce => exact complete_positive pe ce
  | plus _ ce => exact complete_plus ce
  | minus _ ce => exact complete_minus ce
  | unsigned pe ce => exact complete_unsigned pe ce
  | comparison ps pe cs ce => exact complete_comparison ps pe cs ce
  | subject => exact complete_subject
  | isNull => exact complete_isNull
  | inSubselect hb => exact complete_inSubselect hb
  | inList pi ci => exact complete_inList pi ci
  | between _ _ cl ch => exact complete_between cl ch
  | like _ cp => exact complete_like cp
  | regex _ cr => exact complete_regex cr
  | compare hc _ cr => exact complete_compare hc cr
  | one _ ce => exact complete_one ce
  | more _ _ ce ces => exact complete_more ce ces
  | number h => exact complete_number h
  | string => exact complete_token fun _ _ => rfl
  | @boolean value => cases value <;> exact complete_token fun _ _ => rfl
  | null => exact complete_token fun _ _ => rfl
  | dated hk hd => exact complete_dated hk hd
  | name _ ce => exact complete_name ce
  | keyword hk pe ce => exact complete_keyword hk pe ce
  | column => exact complete_column
  | qualified | call =>
    intro n rest hn hr
    obtain ⟨n, rfl⟩ : ∃ m, n = m + 1 := ⟨n - 1, by simp [Form.steps] at hn; omega⟩
    rfl
  | callWith pa ca => exact complete_callWith pa ca
  | paren pe ce => exact complete_paren pe ce
  | subselect hb => exact complete_subselect hb
  | «exists» hb => exact complete_exists hb
  | case po hb pb pe co cb ce => exact complete_case hb po pb pe co cb ce
  | cast _ ht ce => exact complete_cast ht ce
  | noBranch => exact complete_noBranch
  | branch _ _ pb cc cr cb => exact complete_branch pb cc cr cb
  | missing =>
    intro n rest hn hr
    rfl
  | @marked mark e ts _ ce =>
    intro n rest hn hr
    simp only [Form.steps, List.length_append] at hn
    exact ⟨ts ++ rest, List.append_assoc .., ce n rest (by simp only [Form.steps]; omega) hr⟩

end RecordFilter
