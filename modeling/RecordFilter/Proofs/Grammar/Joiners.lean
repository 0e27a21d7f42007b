import RecordFilter.Proofs.Grammar.Soundness

/-!
# How conditions are joined in a text

`AND` binds tighter than `OR`, and both are joined from left to right. So along the
left spine of an expression that was read, no `AND` comes after an `OR`
(`Phrase.joiners`).
-/

namespace RecordFilter

open RecordFilter.Parser

/-- The joiners along the left spine of an expression, in the order in which they
    are written. -/
def Expr.joiners : Expr → List Joiner
  | .and left _ => left.joiners ++ [.and]
  | .or left _ => left.joiners ++ [.or]
  | _ => [.start]

theorem Expr.isJunction_of_joiners {e : Expr} (h : e.joiners = [.start]) : e.isJunction = false := by
  cases e with
  | and l | or l =>
    simp only [joiners] at h
    cases hl : l.joiners with
    | nil => simp [hl] at h
    | cons => simp [hl] at h
  | _ => rfl

/-- A tree that is not joined at its root has a single condition. -/
theorem Expr.joiners_of_isJunction {e : Expr} (h : e.isJunction = false) :
    e.joiners = [.start] := by
  cases e <;> first | rfl | simp [isJunction] at h

/-- The joiners that an expression of a level has. -/
def Parser.Level.Joins : Level → List Joiner → Prop
  | .disjunction, js => ∃ k m, js = .start :: (List.replicate k .and ++ List.replicate m .or)
  | .conjunction, js => ∃ k, js = .start :: List.replicate k .and
  | _, js => js = [.start]

/-- The joiners of what a piece of the grammar makes. -/
def Form.Joins : Form → Prop
  | .expression level e => level.Joins e.joiners
  | .joined level l e => level.Joins l.joiners → level.Joins e.joiners
  | .condition s e => s.joiners = [.start] → e.joiners = [.start]
  | .named _ e => e.joiners = [.start]
  | _ => True

/-- What the operators of a level make of their operands. -/
theorem Parser.Level.join?_cases {level : Level} {t : Token} {f : Expr → Expr → Expr}
    (h : level.join? t = some f) : (level = .disjunction ∧ f = .or) ∨
      (level = .conjunction ∧ f = .and) ∨ (4 ≤ level.rank ∧ ∃ op, f = .binary op) := by
  unfold join? at h
  split at h <;> cases h
  · exact .inl ⟨rfl, rfl⟩
  · exact .inr (.inl ⟨rfl, rfl⟩)
  all_goals exact .inr (.inr ⟨by decide, _, rfl⟩)

/-- From conjunctions on, the levels bind too tight for `AND` and `OR`. -/
theorem Parser.Level.joins_eq {level : Level} {js : List Joiner} (h : 2 ≤ level.rank) :
    level.Joins js ↔ js = [.start] := by
  cases level <;> first | rfl | simp [rank] at h

namespace Phrase

/-- Joining an operand to a left one keeps what the level says of the joiners. -/
theorem joins_join {level : Level} {t : Token} {f : Expr → Expr → Expr} {l r : Expr}
    (hj : level.join? t = some f) (hl : level.Joins l.joiners) : level.Joins (f l r).joiners := by
  rcases Level.join?_cases hj with ⟨rfl, rfl⟩ | ⟨rfl, rfl⟩ | ⟨hr, op, rfl⟩
  · obtain ⟨k, m, hk⟩ := hl
    exact ⟨k, m + 1, by simp [Expr.joiners, hk, List.replicate_succ']⟩
  · obtain ⟨k, hk⟩ := hl
    exact ⟨k + 1, by simp [Expr.joiners, hk, List.replicate_succ']⟩
  · exact (Level.joins_eq (by omega)).2 rfl

theorem joins_of_next {level : Level} {js : List Joiner} (hl : level.isChain)
    (h : level.next.Joins js) : level.Joins js := by
  cases level with
  | disjunction =>
    obtain ⟨k, hk⟩ := h
    exact ⟨k, 0, by simp [hk]⟩
  | conjunction => exact ⟨0, h⟩
  | negation | comparison | sign | primary => cases hl
  | _ => exact h

/-- The joiners along the left spine of a phrase are those its level allows: `AND`s first and `OR`s
    after them. -/
theorem joins {form : Form} {ts : List Token} (h : Phrase form ts) : form.Joins := by
  induction h with
  | chain hl _ _ ihl ihe => exact ihe (joins_of_next hl ihl)
  | last => exact id
  | join hj _ _ _ ih => exact fun hl => ih (joins_join hj hl)
  | positive _ ih | unsigned _ ih | plus _ ih => exact ih
  | @minus e _ _ ih =>
    unfold negate
    split <;> rfl
  | comparison _ _ ihs ihe => exact ihe ihs
  | subject => exact id
  | isNull | inSubselect | inList | between | like | regex | compare => exact fun _ => rfl
  | name _ ih | keyword _ _ ih => exact ih
  | one | more | noBranch | branch | missing | marked => trivial
  | _ => rfl

/-- In an expression that is read, no `AND` follows an `OR`. -/
theorem joiners {e : Expr} {ts : List Token} (h : Phrase (.expression .disjunction e) ts) :
    ∃ k m, e.joiners = .start :: (List.replicate k .and ++ List.replicate m .or) :=
  h.joins

end Phrase

end RecordFilter
