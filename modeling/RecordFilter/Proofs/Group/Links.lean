import RecordFilter.Proofs.Grammar.Joiners
import RecordFilter.Proofs.Group.Spine

/-!
# Links

What `AND` and `OR` join in an expression, however they are nested, is a list of links
(`Expr.links`). It tells how a filter is written, and nothing of how it is grouped; an
expression has groups just if it is grouped as its spine is. For an expression in which
`AND` binds tighter than `OR` the links alone decide that (`Group.ofExpr_of_links`): it
has groups if no `AND` comes behind an `OR`.
-/

namespace RecordFilter

variable {patterns : List DatePattern}

/-! ## Joiners without an `AND` behind an `OR` -/

namespace Joiner

/-- Joiners of which first all are `AND` and then all are `OR`. -/
def IsAndOr (js : List Joiner) : Prop :=
  ∃ k m, js = List.replicate k .and ++ List.replicate m .or

/-- An `AND` in front keeps the form. -/
theorem IsAndOr.cons_and {js : List Joiner} : IsAndOr (.and :: js) ↔ IsAndOr js := by
  constructor
  · rintro ⟨k, m, h⟩
    cases k with
    | zero => cases m <;> cases h
    | succ k => exact ⟨k, m, (List.cons.inj h).2⟩
  · rintro ⟨k, m, rfl⟩
    exact ⟨k + 1, m, rfl⟩

/-- Behind an `OR` in front only `OR` may follow. -/
theorem IsAndOr.cons_or {js : List Joiner} : IsAndOr (.or :: js) ↔ ∃ m, js = List.replicate m .or := by
  constructor
  · rintro ⟨k, m, h⟩
    cases k with
    | succ k => cases h
    | zero =>
      cases m with
      | zero => cases h
      | succ m => exact ⟨m, (List.cons.inj h).2⟩
  · rintro ⟨m, rfl⟩
    exact ⟨0, m + 1, rfl⟩

/-- In such joiners no `AND` is behind an `OR`, next to it or not. -/
theorem IsAndOr.not_sublist {js : List Joiner} (h : IsAndOr js) : ¬List.Sublist [.or, .and] js := by
  obtain ⟨k, m, rfl⟩ := h
  have hordered : (List.replicate k Joiner.and ++ List.replicate m Joiner.or).Pairwise
      fun a b => ¬(a = Joiner.or ∧ b = Joiner.and) := by
    simp [List.pairwise_append, List.pairwise_replicate]
  intro hsub
  simpa using hordered.sublist hsub

/-- Joiners have that form if no `AND` directly follows an `OR`. -/
theorem isAndOr_iff {js : List Joiner} (h : .start ∉ js) : IsAndOr js ↔ ¬[.or, .and] <:+: js := by
  refine ⟨fun hjs hinfix => hjs.not_sublist hinfix.sublist, ?_⟩
  induction js with
  | nil => exact fun _ => ⟨0, 0, rfl⟩
  | cons j js ih =>
    intro hinfix
    rw [List.mem_cons, not_or] at h
    rw [List.infix_cons_iff, not_or] at hinfix
    have hjs := ih h.2 hinfix.2
    cases j with
    | start => exact absurd rfl h.1
    | and => exact IsAndOr.cons_and.2 hjs
    -- Behind the `OR` the joiners have the form, so they begin with an `AND` or have none; the
    -- first would follow directly.
    | or =>
      obtain ⟨k, m, rfl⟩ := hjs
      cases k with
      | zero => exact IsAndOr.cons_or.2 ⟨m, rfl⟩
      | succ k => exact absurd ⟨_, rfl⟩ hinfix.1

end Joiner

/-! ## Links of expressions -/

/-- Links of which the first one is behind a joiner. -/
def Link.behind (joiner : Joiner) (ls : List Link) : List Link :=
  ls.modifyHead fun l => ⟨joiner, l.condition⟩

namespace Expr

/-- The conditions that an expression joins by `AND` and `OR`, in the order in which they
    are written, each with the joiner in front of it. -/
def links : Expr → List Link
  | .and left right => left.links ++ Link.behind .and right.links
  | .or left right => left.links ++ Link.behind .or right.links
  | e => [⟨.start, e⟩]

theorem links_of_isJunction {e : Expr} (h : e.isJunction = false) : e.links = [⟨.start, e⟩] := by
  cases e <;> first | rfl | cases h

/-- The first link has no joiner in front. -/
theorem links_eq_cons (e : Expr) : ∃ first others, e.links = ⟨.start, first⟩ :: others := by
  fun_induction links e with
  | case1 left right ih | case2 left right ih =>
    obtain ⟨first, others, h⟩ := ih
    rw [h, List.cons_append]
    exact ⟨_, _, rfl⟩
  | case3 e => exact ⟨e, [], rfl⟩

/-- The spine has the joiners of the expression. -/
theorem joiner_of_spine (e : Expr) : e.spine.map Link.joiner = e.joiners := by
  fun_induction spine e with
  | case1 left right ih | case2 left right ih => rw [List.map_append, ih, joiners, List.map_singleton]
  | case3 e hand hor => exact (joiners_of_isJunction (isJunction_of_ne hand hor)).symm

/-- What a link of the spine joins stands together among the links. -/
theorem infix_links {e : Expr} {l : Link} (h : l ∈ e.spine) :
    Link.behind l.joiner l.condition.links <:+: e.links := by
  fun_induction spine e with
  | case1 left right ih | case2 left right ih =>
    rcases List.mem_append.1 h with h | h
    · exact (ih h).trans (List.prefix_append _ _).isInfix
    · obtain rfl := List.mem_singleton.1 h
      exact (List.suffix_append _ _).isInfix
  -- There is nothing to the left of the first link, so all links are what it joins.
  | case3 e =>
    obtain rfl := List.mem_singleton.1 h
    obtain ⟨first, others, hlinks⟩ := e.links_eq_cons
    change Link.behind .start e.links <:+: e.links
    rw [hlinks]
    exact List.infix_rfl

/-- A single condition of the spine is a link of the expression. -/
theorem mem_links_of_spine {e : Expr} {l : Link} (h : l ∈ e.spine)
    (hl : l.condition.isJunction = false) : l ∈ e.links := by
  have hinfix := infix_links h
  rw [links_of_isJunction hl] at hinfix
  exact hinfix.subset List.mem_cons_self

/-- If nothing on the right joins conditions, the links are those of the spine. -/
theorem links_eq_spine {e : Expr} (h : ∀ l ∈ e.spine, l.condition.isJunction = false) :
    e.links = e.spine := by
  fun_induction spine e with
  | case1 left right ih | case2 left right ih =>
    obtain ⟨hleft, hright⟩ := List.forall_mem_append.1 h
    rw [links, ih hleft, links_of_isJunction (hright _ (List.mem_singleton_self _))]
    rfl
  | case3 e => exact links_of_isJunction (h _ (List.mem_singleton_self _))

/-- Whether `AND` binds tighter than `OR` along the spine of an expression: its joiners
    are those of a text, and a right side joins conditions only by `AND` behind `OR`. -/
structure IsLayered (e : Expr) : Prop where
  joiners : ∃ js, Joiner.IsAndOr js ∧ e.joiners = .start :: js
  right : ∀ l ∈ e.spine, l.condition.isJunction = false ∨
    l.joiner = .or ∧ ∃ a b, l.condition = .and a b

/-- A right side that joins conditions shows an `AND` behind an `OR`. -/
theorem sublist_of_right {e a b : Expr} (h : ⟨.or, .and a b⟩ ∈ e.spine) :
    List.Sublist [.or, .and] (e.links.map Link.joiner) := by
  obtain ⟨first, others, hfirst⟩ := a.links_eq_cons
  obtain ⟨second, more, hsecond⟩ := b.links_eq_cons
  have hinfix := (infix_links h).sublist.map Link.joiner
  have hbehind : Link.behind .or (Expr.and a b).links =
      ⟨.or, first⟩ :: (others ++ ⟨.and, second⟩ :: more) := by
    rw [links, hfirst, hsecond]
    rfl
  dsimp only at hinfix
  rw [hbehind, List.map_cons, List.map_append, List.map_cons] at hinfix
  -- Between the two joiners there may be others, hence a sublist.
  refine List.Sublist.trans (List.Sublist.cons_cons _ ?_) hinfix
  exact List.singleton_sublist.2 (List.mem_append_right _ List.mem_cons_self)

end Expr

namespace Group

/-- Groups have the joiners of the links they are of. -/
theorem joiner_of_gives {ls : List Link} {gs : List Group}
    (h : List.Forall₂ (Link.Gives patterns) ls gs) : gs.map Group.joiner = ls.map Link.joiner := by
  induction h with
  | nil => rfl
  | cons hl _ ih => rw [List.map_cons, List.map_cons, hl.joiner, ih]

theorem exists_gives {ls : List Link} {gs : List Group}
    (h : List.Forall₂ (Link.Gives patterns) ls gs) : ∀ l ∈ ls, ∃ g, l.Gives patterns g := by
  induction h with
  | nil => exact fun _ hl => absurd hl List.not_mem_nil
  | cons hl _ ih => exact List.forall_mem_cons.2 ⟨⟨_, hl⟩, ih⟩

/-- Whether an expression has groups is decided by its links, and the groups are those of
    the links. Otherwise an `AND` is on the right of an `OR`. -/
theorem ofExpr_of_links {e : Expr} (he : e.IsLayered) {gs : List Group} {js : List Joiner}
    (hgs : List.Forall₂ (Link.Gives patterns) e.links gs)
    (hjs : gs.map Group.joiner = .start :: js) :
    (Joiner.IsAndOr js → ofExpr patterns e = .ok gs) ∧
      (¬Joiner.IsAndOr js → ofExpr patterns e = .error (.nestedOnRight "AND expression" .or)) := by
  -- If the spine shows all links, their joiners are those of the text; they have the form.
  by_cases hsingle : ∀ l ∈ e.spine, l.condition.isJunction = false
  · rw [Expr.links_eq_spine hsingle] at hgs
    obtain ⟨js', hjs', hjoiners⟩ := he.joiners
    have hsame : js = js' := by
      rw [joiner_of_gives hgs, Expr.joiner_of_spine, hjoiners] at hjs
      exact (List.cons.inj hjs).2.symm
    exact ⟨fun _ => ofExpr_eq_ok_iff_spine.2 hgs, fun hnot => absurd (hsame ▸ hjs') hnot⟩
  -- Otherwise an `AND` hides on the right of an `OR`, and the links show it.
  · have hnot : ¬Joiner.IsAndOr js := by
      obtain ⟨l, hl⟩ := not_forall.1 hsingle
      obtain ⟨hmem, hjunction⟩ := Classical.not_imp.1 hl
      obtain ⟨joiner, condition⟩ := l
      obtain ⟨rfl, a, b, rfl⟩ := (he.right _ hmem).resolve_left hjunction
      have hsub := Expr.sublist_of_right hmem
      rw [← joiner_of_gives hgs, hjs] at hsub
      exact fun h => h.not_sublist (hsub.of_cons_of_ne (by decide))
    refine ⟨fun h => absurd h hnot, fun _ => ?_⟩
    cases hresult : ofExpr patterns e with
    | ok others =>
      exact absurd (fun l hl => (exists_gives (ofExpr_eq_ok_iff_spine.1 hresult) l hl).elim
        fun _ h => h.single) hsingle
    | error cause =>
      obtain ⟨front, l, back, hspine, hfails, -⟩ := ofExpr_eq_error_iff_spine.1 hresult
      have hmem : l ∈ e.spine := by
        rw [hspine]
        exact List.mem_append_right _ List.mem_cons_self
      cases hfails with
      -- Every condition has a term, so the link at fault is not a condition.
      | condition hj ht =>
        obtain ⟨g, -, -, hg⟩ := exists_gives hgs _ (Expr.mem_links_of_spine hmem hj)
        cases ht.symm.trans hg
      | @nested joiner condition hj =>
        have hright := (he.right _ hmem).resolve_left (by simp [hj])
        obtain ⟨rfl, a, b, rfl⟩ := hright
        rfl

end Group

end RecordFilter
