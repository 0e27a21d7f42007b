import RecordFilter.Expr.Printer
import RecordFilter.Proofs.Expr.Parts
import RecordFilter.Proofs.Grammar.Text
import RecordFilter.Proofs.Token.Lexes

/-!
# Expressions whose text is read back

An expression *prints* at a level if its text is split, in front of every stop, into
tokens that the grammar reads as the expression at that level (`Expr.Prints`). For each
kind of expression there is a lemma that tells when it prints, from its operands
printing at the levels the grammar asks for. What prints as a whole is read back from
its text (`Expr.Prints.parse_eq`).
-/

namespace RecordFilter

open RecordFilter.Parser RecordFilter.Token

attribute [simp] Expr.text Expr.listText Expr.branchesText

/-! ## The grammar, from right to left -/

namespace Phrase

/-- One more operator behind the operators of a level. -/
theorem joined_snoc {level : Level} {t : Token} {f : Expr → Expr → Expr} {l e r : Expr}
    {ts us : List Token} (hj : level.join? t = some f) (h : Phrase (.joined level l e) ts)
    (hr : Phrase (.expression level.next r) us) :
    Phrase (.joined level l (f e r)) (ts ++ t :: us) := by
  generalize hform : Form.joined level l e = form at h
  induction h generalizing l with
  | last =>
    cases hform
    have h : Phrase (.joined level e (f e r)) (t :: (us ++ [])) := join hj hr last
    rwa [List.append_nil] at h
  | join hj' hr' _ _ ih =>
    cases hform
    have := join hj' hr' (ih rfl)
    rwa [← List.append_assoc] at this
  | _ => cases hform

/-- An operator behind an expression of its level is joined from the left. -/
theorem snoc {level : Level} {t : Token} {f : Expr → Expr → Expr} {l r : Expr}
    {ts us : List Token} (hj : level.join? t = some f) (hl : Phrase (.expression level l) ts)
    (hr : Phrase (.expression level.next r) us) :
    Phrase (.expression level (f l r)) (ts ++ t :: us) := by
  have hchain := Level.isChain_of_join? hj
  cases hl with
  | chain _ hl he =>
    rw [List.append_assoc]
    exact chain hchain hl (joined_snoc hj he hr)
  | _ => cases hchain

/-- An expression of the next level has no operator of the level. -/
theorem of_next {level : Level} {e : Expr} {ts : List Token} (hl : level.isChain)
    (h : Phrase (.expression level.next e) ts) : Phrase (.expression level e) ts := by
  have := chain hl h last
  rwa [List.append_nil] at this

/-- An expression that binds as much as a sign is one of every level. -/
theorem disjunction_of_sign {e : Expr} {ts : List Token} (h : Phrase (.expression .sign e) ts) :
    Phrase (.expression .disjunction e) ts := by
  have hbitwise : Phrase (.expression .bitwise e) ts := of_next rfl (of_next rfl (of_next rfl h))
  have hcomparison := comparison hbitwise .subject
  rw [List.append_nil] at hcomparison
  exact of_next rfl (of_next rfl (.positive hcomparison))

end Phrase

namespace Expr

/-- Whether an expression is read from its own text at a level. If it has no sign in
    front, one can be put there. -/
def Prints (level : Level) (e : Expr) : Prop :=
  ∃ ts, Phrase (.expression level e) ts ∧ Lexes e.text.toList ts ∧
    (8 ≤ level.rank → FollowsMinus e.text.toList)

namespace Prints

variable {e l r s : Expr}

/-! ## Levels -/

/-- What prints at the next level of a chain prints at its level. -/
theorem of_next {level : Level} (hl : level.isChain) (h : e.Prints level.next) :
    e.Prints level := by
  obtain ⟨ts, he, hlex, hminus⟩ := h
  refine ⟨ts, he.of_next hl, hlex, fun hrank => hminus ?_⟩
  cases level <;> first | exact absurd hrank (by decide) | decide

/-- From a level that is none of the tightest, what binds more prints. -/
theorem of_phrase {level : Level} {ts : List Token} (he : Phrase (.expression level e) ts)
    (hlex : Lexes e.text.toList ts) (hrank : level.rank < 8) : e.Prints level :=
  ⟨ts, he, hlex, fun h => absurd h (Nat.not_le.2 hrank)⟩

/-- What prints without a sign prints where a sign may stand. -/
theorem sign_of_access (h : e.Prints .access) : e.Prints .sign := by
  obtain ⟨ts, he, hlex, -⟩ := h
  exact of_phrase (.unsigned he) hlex (by decide)

/-- What prints where a sign may stand prints as an operand of a condition. -/
theorem bitwise_of_sign (h : e.Prints .sign) : e.Prints .bitwise :=
  of_next rfl (of_next rfl (of_next rfl h))

theorem negation_of_comparison (h : e.Prints .comparison) : e.Prints .negation := by
  obtain ⟨ts, he, hlex, -⟩ := h
  exact of_phrase (.positive he) hlex (by decide)

/-- What prints where a negation may stand prints where a filter may. -/
theorem disjunction_of_negation (h : e.Prints .negation) : e.Prints .disjunction :=
  of_next rfl (of_next rfl h)

/-! ## Operators -/

/-- How an operator that is joined from left to right is written. -/
theorem text_join {level : Level} {t : Token} {f : Expr → Expr → Expr}
    (hj : level.join? t = some f) (l r : Expr) : Lexes t.text.toList [t] ∧
      (f l r).text.toList = l.text.toList ++ ' ' :: (t.text.toList ++ ' ' :: r.text.toList) := by
  unfold Level.join? at hj
  split at hj <;> cases hj
  -- `OR`, `AND` and `DIV` are words, all other operators are symbols.
  case h_1 | h_2 | h_11 =>
    exact ⟨lexes_keyword _, by simp [Token.text, Keyword.text, BinaryOperator.text]⟩
  all_goals
    exact ⟨lexes_symbol _, by simp [Token.text, Symbol.text, BinaryOperator.text]⟩

/-- Two operands with an operator of the level between them print if the left one prints at the
    level and the right one at the next. -/
theorem join {level : Level} {t : Token} {f : Expr → Expr → Expr} (hj : level.join? t = some f)
    (hl : l.Prints level) (hr : r.Prints level.next) : (f l r).Prints level := by
  obtain ⟨ts, hl, hllex, hminus⟩ := hl
  obtain ⟨us, hr, hrlex, -⟩ := hr
  obtain ⟨ht, htext⟩ := text_join hj l r
  refine ⟨ts ++ t :: us, hl.snoc hj hr, ?_, fun hrank => ?_⟩
  · rw [htext]
    exact hllex.spaced (ht.spaced hrlex)
  · rw [htext]
    exact (hminus hrank).append

theorem not (h : e.Prints .negation) : e.not.Prints .negation := by
  obtain ⟨ts, he, hlex, -⟩ := h
  refine of_phrase (.not he) ?_ (by decide)
  have htext : e.not.text.toList = Keyword.not.text.toList ++ ' ' :: e.text.toList := by
    simp [Keyword.text]
  rw [htext]
  exact (lexes_keyword .not).spaced hlex

/-- A minus sign prints if its operand prints without a sign and is not a number, which would take
    the sign in. -/
theorem negative (h : e.Prints .access) (hn : negate e = .negative e) :
    e.negative.Prints .sign := by
  obtain ⟨ts, he, hlex, hminus⟩ := h
  have hphrase := Phrase.minus (.unsigned he)
  -- The grammar makes of the sign whatever `negate` does; here it stays a sign.
  rw [hn] at hphrase
  refine of_phrase hphrase ?_ (by decide)
  have htext : e.negative.text.toList = '-' :: e.text.toList := by
    simp
  rw [htext]
  exact hlex.minus (hminus (by decide))

/-! ## Conditions -/

/-- What prints as the subject of a condition prints as a condition. -/
theorem subject (h : e.Prints .bitwise) : e.Prints .comparison := by
  obtain ⟨ts, he, hlex, -⟩ := h
  refine of_phrase ?_ hlex (by decide)
  have := Phrase.comparison he .subject
  rwa [List.append_nil] at this

/-- What is written behind the subject of a condition. -/
theorem condition {cs : List Char} {us : List Token} (hs : s.Prints .bitwise)
    (he : Phrase (.condition s e) us) (hlex : Lexes cs us)
    (htext : e.text.toList = s.text.toList ++ ' ' :: cs) : e.Prints .comparison := by
  obtain ⟨ts, hs, hslex, -⟩ := hs
  refine of_phrase (.comparison hs he) ?_ (by decide)
  rw [htext]
  exact hslex.spaced hlex

theorem lexes_notText (negated : Bool) {cs : List Char} {ts : List Token} (h : Lexes cs ts) :
    Lexes ((notText negated).toList ++ cs) (notTokens negated ++ ts) := by
  cases negated with
  | false => exact h
  | true => exact (lexes_keyword .not).spaced h

theorem isNull (negated : Bool) (hs : s.Prints .bitwise) :
    (s.isNull negated).Prints .comparison := by
  refine hs.condition .isNull
    ((lexes_keyword .is).spaced (lexes_notText negated (lexes_keyword .null))) ?_
  simp [Keyword.text]

theorem between (negated : Bool) (hs : s.Prints .bitwise) (hl : l.Prints .bitwise)
    (hr : r.Prints .bitwise) : (Expr.between negated s l r).Prints .comparison := by
  obtain ⟨ts, hl, hllex, -⟩ := hl
  obtain ⟨us, hr, hrlex, -⟩ := hr
  refine hs.condition (.between hl hr) (lexes_notText negated
    ((lexes_keyword .between).spaced (hllex.spaced ((lexes_keyword .and).spaced hrlex)))) ?_
  simp [Keyword.text]

theorem like (negated : Bool) (hs : s.Prints .bitwise) (hr : r.Prints .bitwise) :
    (Expr.like negated s r).Prints .comparison := by
  obtain ⟨us, hr, hrlex, -⟩ := hr
  refine hs.condition (.like hr)
    (lexes_notText negated ((lexes_keyword .like).spaced hrlex)) ?_
  simp [Keyword.text]

theorem regex (hs : s.Prints .bitwise) (hr : r.Prints .bitwise) :
    (Expr.binary .regexMatch s r).Prints .comparison := by
  obtain ⟨us, hr, hrlex, -⟩ := hr
  refine hs.condition (.regex hr) ((lexes_symbol .tilde).spaced hrlex) ?_
  simp [Symbol.text, BinaryOperator.text]

theorem compare (op : ComparisonOperator) (hs : s.Prints .bitwise) (hr : r.Prints .bitwise) :
    (Expr.compare op s r).Prints .comparison := by
  obtain ⟨us, hr, hrlex, -⟩ := hr
  -- Every comparison is written as one symbol, and that symbol is read as it.
  obtain ⟨symbol, hop, hsymbol⟩ : ∃ symbol : Symbol, comparison? (.symbol symbol) = some op ∧
      symbol.text = op.text := by
    cases op with
    | eq => exact ⟨.equal, rfl, rfl⟩
    | ne => exact ⟨.notEqual, rfl, rfl⟩
    | gt => exact ⟨.greater, rfl, rfl⟩
    | ge => exact ⟨.greaterEqual, rfl, rfl⟩
    | lt => exact ⟨.less, rfl, rfl⟩
    | le => exact ⟨.lessEqual, rfl, rfl⟩
  refine hs.condition (.compare hop hr) ((lexes_symbol symbol).spaced hrlex) ?_
  simp [hsymbol]

/-! ## Lists and bodies of sub-selects -/

/-- One or more expressions that print are read from their text as a list. -/
theorem list {es : List Expr} (hne : es ≠ []) (h : ∀ e ∈ es, e.Prints .disjunction) :
    ∃ ts, Phrase (.list es) ts ∧ Lexes (listText es).toList ts := by
  induction es with
  | nil => exact absurd rfl hne
  | cons e es ih =>
    obtain ⟨ts, he, hlex, -⟩ := h e List.mem_cons_self
    cases es with
    | nil => exact ⟨ts, .one he, hlex⟩
    | cons e' es =>
      obtain ⟨us, hes, heslex⟩ :=
        ih (List.cons_ne_nil e' es) fun e he => h e (List.mem_cons_of_mem _ he)
      refine ⟨_, .more he hes, ?_⟩
      have htext : (listText (e :: e' :: es)).toList =
          e.text.toList ++ ',' :: ' ' :: (listText (e' :: es)).toList := by
        simp
      rw [htext]
      exact hlex.append heslex.blank.comma (stops_cons.2 (by decide))

/-- The tokens of a sub-select are read again from its text. -/
theorem lexes_bodyText {body : List Token} (h : ∀ t ∈ body, Lexes t.text.toList [t]) :
    Lexes (bodyText body).toList body := by
  induction body with
  | nil => exact Lexes.nil
  | cons t body ih =>
    have ht := h t List.mem_cons_self
    cases body with
    | nil =>
      have htext : bodyText [t] = t.text := by
        simp [bodyText]
      rw [htext]
      exact ht
    | cons u body =>
      have htext : (bodyText (t :: u :: body)).toList =
          t.text.toList ++ ' ' :: (bodyText (u :: body)).toList := by
        simp [bodyText]
      rw [htext]
      exact ht.spaced (ih fun t ht => h t (List.mem_cons_of_mem _ ht))

/-- `IN` with a list prints if the list is not empty and its expressions print. -/
theorem inList {items : List Expr} (negated : Bool) (hs : s.Prints .bitwise) (hne : items ≠ [])
    (h : ∀ e ∈ items, e.Prints .disjunction) : (Expr.inList negated s items).Prints .comparison := by
  obtain ⟨ts, hitems, hlex⟩ := list hne h
  refine hs.condition (.inList hitems)
    (lexes_notText negated ((lexes_keyword .in).spaced hlex.parens)) ?_
  simp [Keyword.text]

/-- `IN` with a sub-select prints if the tokens of its body are read again from their texts. -/
theorem inSubselect {body : List Token} (negated : Bool) (hs : s.Prints .bitwise)
    (hbody : IsBody 0 (.keyword .select :: body))
    (h : ∀ t ∈ Token.keyword .select :: body, Lexes t.text.toList [t]) :
    (Expr.inSubselect negated s (bodyText (.keyword .select :: body))).Prints .comparison := by
  refine hs.condition (.inSubselect hbody)
    (lexes_notText negated ((lexes_keyword .in).spaced (lexes_bodyText h).parens)) ?_
  simp [Keyword.text]

/-! ## Primary expressions -/

/-- A primary expression prints if its text is split into its tokens and does not go on with a minus
    sign in front. -/
theorem of_primary {ts : List Token} (he : Phrase (.expression .primary e) ts)
    (hlex : Lexes e.text.toList ts) (hminus : FollowsMinus e.text.toList) : e.Prints .primary :=
  ⟨ts, he, hlex, fun _ => hminus⟩

theorem access_of_primary (h : e.Prints .primary) : e.Prints .access :=
  of_next rfl h

theorem sign_of_primary (h : e.Prints .primary) : e.Prints .sign :=
  h.access_of_primary.sign_of_access

/-- A keyword that is an expression of its own or begins one. -/
theorem followsMinus_keyword (k : Keyword) (cs : List Char) :
    FollowsMinus (k.text.toList ++ cs) := by
  have hhead : FollowsMinus k.text.toList := by
    cases k <;> exact ⟨_, _, rfl, by decide, by decide⟩
  exact hhead.append

end Prints

end Expr

end RecordFilter
