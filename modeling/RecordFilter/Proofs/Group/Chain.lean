import RecordFilter.Group.Flatten
import RecordFilter.Group.Rebuild
import RecordFilter.Proofs.Except

/-!
# Chains of conditions

What flattening does, without the order in which it does it: the groups of a chain
are the groups of what stands left of its last `AND` or `OR`, and one more for the
condition on the right (`IsChain`, `Group.ofExpr_eq_ok`).
-/

namespace RecordFilter

variable {patterns : List DatePattern}

/-- The expression is a chain of conditions that has the groups. -/
inductive IsChain (patterns : List DatePattern) : Expr → List Group → Prop
  | single {e : Expr} {t : Term} : e.isJunction = false → Term.ofExpr patterns e = .ok t →
    IsChain patterns e [⟨.start, t⟩]
  | and {left right : Expr} {gs : List Group} {t : Term} : IsChain patterns left gs →
    right.isJunction = false → Term.ofExpr patterns right = .ok t →
    IsChain patterns (.and left right) (gs ++ [⟨.and, t⟩])
  | or {left right : Expr} {gs : List Group} {t : Term} : IsChain patterns left gs →
    right.isJunction = false → Term.ofExpr patterns right = .ok t →
    IsChain patterns (.or left right) (gs ++ [⟨.or, t⟩])

/-- What is neither an `AND` nor an `OR` joins no conditions. -/
theorem Expr.isJunction_of_ne {e : Expr} (hand : ∀ left right, e ≠ .and left right)
    (hor : ∀ left right, e ≠ .or left right) : e.isJunction = false := by
  cases e with
  | and left right => exact absurd rfl (hand left right)
  | or left right => exact absurd rfl (hor left right)
  | _ => rfl

namespace Group

/-- A right side has a group if it joins no conditions and is a term. -/
theorem ofRight_eq_ok {joiner : Joiner} {right : Expr} {g : Group} :
    ofRight patterns joiner right = .ok g ↔
      right.isJunction = false ∧ ∃ t, Term.ofExpr patterns right = .ok t ∧ g = ⟨joiner, t⟩ := by
  unfold ofRight
  cases right.isJunction with
  | true => simp
  | false =>
    simp only [Bool.false_eq_true, if_false, Except.bind_eq_ok, Except.pure_eq_ok, true_and]
    exact exists_congr fun t => and_congr_right fun _ => eq_comm

/-- What is taken apart from the end is a chain, with the groups the other way round. -/
theorem isChain_of_reversed {e : Expr} {gs : List Group} (h : reversed patterns e = .ok gs) :
    IsChain patterns e gs.reverse := by
  fun_induction reversed patterns e generalizing gs with
  | case1 left right ih | case2 left right ih =>
    simp only [Except.bind_eq_ok, Except.pure_eq_ok, ofRight_eq_ok] at h
    obtain ⟨g, ⟨hr, t, ht, rfl⟩, others, ho, rfl⟩ := h
    -- The group of the right side is read first, so it comes last in order.
    rw [List.reverse_cons]
    first
    | exact .and (ih ho) hr ht
    | exact .or (ih ho) hr ht
  | case3 e hand hor =>
    simp only [Except.bind_eq_ok, Except.pure_eq_ok] at h
    obtain ⟨t, ht, rfl⟩ := h
    exact .single (Expr.isJunction_of_ne hand hor) ht

/-- Every chain is taken apart into its groups, from the last one to the first. -/
theorem reversed_of_isChain {e : Expr} {gs : List Group} (h : IsChain patterns e gs) :
    reversed patterns e = .ok gs.reverse := by
  induction h with
  | @single e t hj ht =>
    have : reversed patterns e = (do return [⟨.start, ← Term.ofExpr patterns e⟩]) := by
      cases e <;> first | rfl | simp [Expr.isJunction] at hj
    rw [this, ht]
    rfl
  | and _ hr ht ih =>
    rw [reversed, ofRight_eq_ok.2 ⟨hr, _, ht, rfl⟩, ih, List.reverse_append]
    rfl
  | or _ hr ht ih =>
    rw [reversed, ofRight_eq_ok.2 ⟨hr, _, ht, rfl⟩, ih, List.reverse_append]
    rfl

/-- The expressions that have groups, and which groups they have. -/
theorem ofExpr_eq_ok {e : Expr} {gs : List Group} :
    ofExpr patterns e = .ok gs ↔ IsChain patterns e gs := by
  unfold ofExpr
  rw [Except.bind_eq_ok]
  constructor
  · rintro ⟨rs, hr, h⟩
    obtain rfl := Except.pure_eq_ok.1 h
    exact isChain_of_reversed hr
  · intro h
    exact ⟨_, reversed_of_isChain h, by rw [List.reverse_reverse]; rfl⟩

end Group

end RecordFilter
