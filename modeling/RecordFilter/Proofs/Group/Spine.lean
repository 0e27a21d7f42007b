import RecordFilter.Config
import RecordFilter.Proofs.Group.Chain

/-!
# Spines

The left *spine* of an expression is what its outer `AND` and `OR` join from left to
right (`Expr.spine`). An expression has groups if each link of the spine has one, and
then these are its groups, in the order of the spine. Otherwise the last link that has
none tells why (`Group.ofExpr_spine`): links are tried from the end of the filter, so a
right side that joins two conditions and a condition that is no term are reported alike,
by their place only.
-/

namespace RecordFilter

variable {patterns : List DatePattern}

/-- An expression on a spine, and how it is joined to what is in front of it. -/
structure Link where
  joiner : Joiner
  condition : Expr

/-- The links along the left spine of an expression, in the order in which they are
    written: the right sides of `AND` and `OR`, behind what is at the end of the spine. -/
def Expr.spine : Expr → List Link
  | .and left right => left.spine ++ [⟨.and, right⟩]
  | .or left right => left.spine ++ [⟨.or, right⟩]
  | e => [⟨.start, e⟩]

namespace Link

/-- Whether a link has a group: it is one condition, and the term of the group is read
    from it. -/
structure Gives (patterns : List DatePattern) (l : Link) (g : Group) : Prop where
  joiner : g.joiner = l.joiner
  single : l.condition.isJunction = false
  term : Term.ofExpr patterns l.condition = .ok g.term

/-- Why a link has no group. -/
inductive Fails (patterns : List DatePattern) : Link → Unsupported → Prop
  /-- A right side joins conditions itself. -/
  | nested {joiner : Joiner} {e : Expr} : e.isJunction = true →
    Fails patterns ⟨joiner, e⟩ (.nestedOnRight e.describe joiner)
  /-- The condition is no term. -/
  | condition {joiner : Joiner} {e : Expr} {cause : Unsupported} : e.isJunction = false →
    Term.ofExpr patterns e = .error cause → Fails patterns ⟨joiner, e⟩ cause

/-- The group of a link. -/
def group (patterns : List DatePattern) (l : Link) : Except Unsupported Group :=
  Group.ofRight patterns l.joiner l.condition

/-- A link has a group just if it is one condition and a term. -/
theorem group_eq_ok {l : Link} {g : Group} : l.group patterns = .ok g ↔ l.Gives patterns g := by
  rw [group, Group.ofRight_eq_ok]
  constructor
  · rintro ⟨hj, t, ht, rfl⟩
    exact ⟨rfl, hj, ht⟩
  · rintro ⟨hjoiner, hj, ht⟩
    exact ⟨hj, g.term, ht, by rw [← hjoiner]⟩

/-- A link has none just for one of the two reasons. -/
theorem group_eq_error {l : Link} {cause : Unsupported} :
    l.group patterns = .error cause ↔ l.Fails patterns cause := by
  obtain ⟨joiner, e⟩ := l
  unfold group Group.ofRight
  dsimp only
  -- The first of the two checks that fails tells why; the cases are those of the checks.
  cases hj : e.isJunction with
  | true =>
    rw [if_pos rfl]
    constructor
    · rintro ⟨⟩
      exact .nested hj
    · rintro (_ | ⟨hsingle, -⟩)
      · rfl
      · cases hj.symm.trans hsingle
  | false =>
    rw [if_neg Bool.false_ne_true]
    cases ht : Term.ofExpr patterns e with
    | error other =>
      constructor
      · rintro ⟨⟩
        exact .condition hj ht
      · rintro (hnested | ⟨-, hc⟩)
        · cases hj.symm.trans hnested
        · rw [Except.error.inj (ht.symm.trans hc)]
          rfl
    | ok t =>
      constructor
      · rintro ⟨⟩
      · rintro (hnested | ⟨-, hc⟩)
        · cases hj.symm.trans hnested
        · cases ht.symm.trans hc

end Link

/-- A spine begins with a condition; only that one has no joiner in front. -/
theorem Expr.spine_eq_cons (e : Expr) : ∃ first others, e.spine = ⟨.start, first⟩ :: others ∧
    first.isJunction = false ∧ ∀ l ∈ others, l.joiner = .and ∨ l.joiner = .or := by
  fun_induction spine e with
  | case1 left right ih =>
    obtain ⟨first, others, hspine, hfirst, hothers⟩ := ih
    refine ⟨first, others ++ [⟨.and, right⟩], by rw [hspine, List.cons_append], hfirst, ?_⟩
    exact List.forall_mem_append.2 ⟨hothers, List.forall_mem_singleton.2 (.inl rfl)⟩
  | case2 left right ih =>
    obtain ⟨first, others, hspine, hfirst, hothers⟩ := ih
    refine ⟨first, others ++ [⟨.or, right⟩], by rw [hspine, List.cons_append], hfirst, ?_⟩
    exact List.forall_mem_append.2 ⟨hothers, List.forall_mem_singleton.2 (.inr rfl)⟩
  | case3 e hand hor => exact ⟨e, [], rfl, isJunction_of_ne hand hor, by simp⟩

theorem Expr.spine_of_isJunction {e : Expr} (h : e.isJunction = false) :
    e.spine = [⟨.start, e⟩] := by
  cases e <;> first | rfl | cases h

namespace Group

/-- The chain is taken apart by trying the links from the last one to the first. -/
theorem reversed_eq_mapM (e : Expr) :
    reversed patterns e = e.spine.reverse.mapM (Link.group patterns) := by
  fun_induction reversed patterns e with
  | case1 left right ih | case2 left right ih =>
    rw [Expr.spine, List.reverse_concat, List.mapM_cons, ih]
    rfl
  | case3 e hand hor =>
    -- The condition at the end of the spine has no right side, so the check for one passes.
    have hj := Expr.isJunction_of_ne hand hor
    rw [Expr.spine_of_isJunction hj, List.reverse_singleton, List.mapM_cons, List.mapM_nil]
    simp only [Link.group, ofRight, hj]
    cases Term.ofExpr patterns e <;> rfl

/-- A chain that is taken apart has a group for each link of the spine, the last one first. -/
theorem reversed_eq_ok {e : Expr} {gs : List Group} : reversed patterns e = .ok gs ↔
    List.Forall₂ (Link.Gives patterns) e.spine.reverse gs := by
  rw [reversed_eq_mapM, Except.mapM_eq_ok]
  simp only [Link.group_eq_ok]

/-- Each link of the spine has one group, and these are the groups of the expression. -/
theorem ofExpr_eq_ok_iff_spine {e : Expr} {gs : List Group} :
    ofExpr patterns e = .ok gs ↔ List.Forall₂ (Link.Gives patterns) e.spine gs := by
  unfold ofExpr
  rw [Except.bind_eq_ok]
  constructor
  · rintro ⟨rs, hrs, h⟩
    obtain rfl := Except.pure_eq_ok.1 h
    rw [← List.reverse_reverse e.spine, List.forall₂_reverse_iff]
    exact reversed_eq_ok.1 hrs
  · intro h
    refine ⟨gs.reverse, reversed_eq_ok.2 (List.forall₂_reverse_iff.2 h), ?_⟩
    rw [List.reverse_reverse]
    rfl

theorem exists_ofExpr_eq_ok {e : Expr} : (∃ gs, ofExpr patterns e = .ok gs) ↔
    ∀ l ∈ e.spine, ∃ g, l.Gives patterns g := by
  have hreversed : (∃ gs, ofExpr patterns e = .ok gs) ↔ ∃ rs, reversed patterns e = .ok rs := by
    unfold ofExpr
    cases reversed patterns e <;> simp [bind, Except.bind, pure, Except.pure]
  rw [hreversed, reversed_eq_mapM, Except.exists_mapM_eq_ok]
  simp only [List.mem_reverse, Link.group_eq_ok]

/-- The last link that has no group tells why the expression has none. -/
theorem ofExpr_eq_error_iff_spine {e : Expr} {cause : Unsupported} :
    ofExpr patterns e = .error cause ↔ ∃ front l back, e.spine = front ++ l :: back ∧
      l.Fails patterns cause ∧ ∀ other ∈ back, ∃ g, other.Gives patterns g := by
  have herror : ofExpr patterns e = .error cause ↔ reversed patterns e = .error cause := by
    unfold ofExpr
    cases reversed patterns e <;> simp [bind, Except.bind, pure, Except.pure]
  rw [herror, reversed_eq_mapM, Except.mapM_eq_error]
  simp only [Link.group_eq_ok, Link.group_eq_error]
  -- From the end, the first link that fails is the last one of the spine.
  constructor
  · rintro ⟨back, l, front, hspine, hback, hl⟩
    refine ⟨front.reverse, l, back.reverse, ?_, hl, fun other ho => hback other (List.mem_reverse.1 ho)⟩
    rw [← List.reverse_reverse e.spine, hspine]
    simp
  · rintro ⟨front, l, back, hspine, hl, hback⟩
    refine ⟨back.reverse, l, front.reverse, ?_, fun other ho => hback other (List.mem_reverse.1 ho), hl⟩
    rw [hspine]
    simp

/-- An expression has groups just if no right side along its spine joins conditions
    itself and each condition of the spine is a term. Then it has one group for each
    link of the spine, in that order, joined as in the spine, where the first link alone
    has no joiner. If not, the error is that of the last link at fault. -/
theorem ofExpr_spine (config : Config) (e : Expr) :
    ((∃ gs, ofExpr config.datePatterns e = .ok gs) ↔ ∀ l ∈ e.spine,
      l.condition.isJunction = false ∧ ∃ t, Term.ofExpr config.datePatterns l.condition = .ok t) ∧
    (∀ gs, ofExpr config.datePatterns e = .ok gs ↔
      List.Forall₂ (Link.Gives config.datePatterns) e.spine gs) ∧
    (∃ first others, e.spine = ⟨.start, first⟩ :: others ∧ first.isJunction = false ∧
      ∀ l ∈ others, l.joiner = .and ∨ l.joiner = .or) ∧
    ∀ cause, ofExpr config.datePatterns e = .error cause ↔ ∃ front l back,
      e.spine = front ++ l :: back ∧ l.Fails config.datePatterns cause ∧
        ∀ other ∈ back, other.condition.isJunction = false ∧
          ∃ t, Term.ofExpr config.datePatterns other.condition = .ok t := by
  have hgives (l : Link) : (∃ g, l.Gives config.datePatterns g) ↔
      l.condition.isJunction = false ∧ ∃ t, Term.ofExpr config.datePatterns l.condition = .ok t := by
    constructor
    · rintro ⟨g, -, hj, ht⟩
      exact ⟨hj, g.term, ht⟩
    · rintro ⟨hj, t, ht⟩
      exact ⟨⟨l.joiner, t⟩, rfl, hj, ht⟩
  refine ⟨?_, fun gs => ofExpr_eq_ok_iff_spine, e.spine_eq_cons, fun cause => ?_⟩
  · simp only [exists_ofExpr_eq_ok, hgives]
  · simp only [ofExpr_eq_error_iff_spine, hgives]

end Group

end RecordFilter
