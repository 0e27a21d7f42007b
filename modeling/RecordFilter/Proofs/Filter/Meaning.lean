import RecordFilter.FilterText
import RecordFilter.Proofs.Grammar.Joiners
import RecordFilter.Proofs.Grammar.Text
import RecordFilter.Proofs.Group.Chain

/-!
# What filters mean

A tree of conditions has an answer for a record: that of its conditions, joined as
the tree says (`Expr.answer`). A filter knows no tree, it joins from left to right;
its answer is that of the tree because a tree that groups otherwise has no groups.

* `accepts_of_isChain`: the filter of a chain answers as the tree of the chain;
* `accepts_eq_all_or_any`: where no `AND` follows an `OR`, as in what is read from
  a text, the conditions joined by `AND` are one alternative and each condition
  behind an `OR` is another one.
-/

namespace RecordFilter

variable {ρ : Type}

/-- The answer of an expression for a record: `AND` and `OR` join the answers of
    both sides, any other expression is a condition that answers as its predicate. -/
def Expr.answer (registry : Registry ρ) (patterns : List DatePattern) (r : ρ) :
    Expr → Except FilterError Bool
  | .and left right => do
    let a ← left.answer registry patterns r
    let b ← right.answer registry patterns r
    return a && b
  | .or left right => do
    let a ← left.answer registry patterns r
    let b ← right.answer registry patterns r
    return a || b
  | e => do
    let t ← (Term.ofExpr patterns e).mapError .unsupported
    let p ← registry.compile t
    return p.holds r

variable {registry : Registry ρ} {patterns : List DatePattern}

/-- A single condition answers as its predicate. -/
theorem Expr.answer_condition {e : Expr} (he : e.isJunction = false) {t : Term}
    (ht : Term.ofExpr patterns e = .ok t) {p : Predicate ρ} (hp : registry.compile t = .ok p)
    (r : ρ) : e.answer registry patterns r = .ok (p.holds r) := by
  have h : e.answer registry patterns r = (do
      let t ← (Term.ofExpr patterns e).mapError .unsupported
      let p ← registry.compile t
      return p.holds r) := by
    cases e <;> first | rfl | cases he
  rw [h, ht]
  change (do return (← registry.compile t).holds r) = _
  rw [hp]
  rfl

namespace Filter

/-! ## Chains -/

/-- Whether a clause is made of a group. -/
def Makes (registry : Registry ρ) (g : Group) (c : Clause ρ) : Prop :=
  c.joiner = g.joiner ∧ registry.compile g.term = .ok c.predicate

/-- A filter is made of groups just if each of its clauses is made of its group. -/
theorem ofGroups_eq_ok {gs : List Group} {f : Filter ρ} :
    ofGroups registry gs = .ok f ↔ List.Forall₂ (Makes registry) gs f.clauses := by
  have hstep (g : Group) (c : Clause ρ) :
      (do return Clause.mk g.joiner (← registry.compile g.term)) = .ok c ↔ Makes registry g c := by
    simp only [Except.bind_eq_ok, Except.pure_eq_ok, Makes]
    constructor
    · rintro ⟨p, hp, rfl⟩
      exact ⟨rfl, hp⟩
    · rintro ⟨hj, hp⟩
      exact ⟨c.predicate, hp, by rw [← hj]⟩
  simp only [ofGroups, Except.bind_eq_ok, Except.pure_eq_ok, Except.mapM_eq_ok, hstep]
  constructor
  · rintro ⟨clauses, hc, rfl⟩
    exact hc
  · intro h
    exact ⟨f.clauses, h, rfl⟩

/-- The last group makes the last clause, and the groups in front of it make a filter of their
    own. -/
theorem ofGroups_concat {gs : List Group} {g : Group} {f : Filter ρ}
    (h : ofGroups registry (gs ++ [g]) = .ok f) : ∃ front c, ofGroups registry gs = .ok ⟨front⟩ ∧
      Makes registry g c ∧ f = ⟨front ++ [c]⟩ := by
  -- Clause by clause the two lists belong together, so they do when they are read from the end.
  have hall := List.forall₂_reverse_iff.2 (ofGroups_eq_ok.1 h)
  rw [List.reverse_concat] at hall
  obtain ⟨c, back, hc, hback, hf⟩ := List.forall₂_cons_left_iff.1 hall
  have hclauses : f.clauses = back.reverse ++ [c] := by
    rw [← List.reverse_cons, ← hf, List.reverse_reverse]
  refine ⟨back.reverse, c, ofGroups_eq_ok.2 ?_, hc, by rw [← hclauses]⟩
  rw [← List.forall₂_reverse_iff, List.reverse_reverse]
  exact hback

theorem clauses_joiner {gs : List Group} {f : Filter ρ} (h : ofGroups registry gs = .ok f) :
    f.clauses.map Clause.joiner = gs.map Group.joiner := by
  obtain ⟨clauses⟩ := f
  have hall : List.Forall₂ (Makes registry) gs clauses := ofGroups_eq_ok.1 h
  clear h
  induction hall with
  | nil => rfl
  | cons hc _ ih => simp only [List.map_cons, hc.1, ih]

/-- A filter with one more clause joins its answer last. -/
theorem accepts_concat {front : List (Clause ρ)} (hf : front ≠ []) (c : Clause ρ) (r : ρ) :
    accepts ⟨front ++ [c]⟩ r = c.joiner.combine (accepts ⟨front⟩ r) (c.predicate.holds r) := by
  cases front with
  | nil => exact absurd rfl hf
  | cons first rest => simp only [accepts, List.cons_append, List.foldl_append, List.foldl_cons,
      List.foldl_nil]

theorem clauses_ne_nil {e : Expr} {gs : List Group} (hc : IsChain patterns e gs)
    {clauses : List (Clause ρ)} (hf : ofGroups registry gs = .ok ⟨clauses⟩) : clauses ≠ [] := by
  rintro rfl
  have hj := clauses_joiner hf
  cases hc <;> simp at hj

/-- The filter of a chain answers as the tree of the chain. -/
theorem accepts_of_isChain {e : Expr} {gs : List Group} (hc : IsChain patterns e gs)
    {f : Filter ρ} (hf : ofGroups registry gs = .ok f) (r : ρ) :
    e.answer registry patterns r = .ok (f.accepts r) := by
  induction hc generalizing f with
  | single he ht =>
    obtain ⟨c, rest, ⟨-, hp⟩, hnil, hcl⟩ := List.forall₂_cons_left_iff.1 (ofGroups_eq_ok.1 hf)
    obtain rfl := List.forall₂_nil_left_iff.1 hnil
    rw [Expr.answer_condition he ht hp, accepts, hcl]
    rfl
  -- The last clause is joined to the answer of all clauses before it, as the tree joins its right
  -- side to its left one.
  | and hl hr ht ih =>
    obtain ⟨front, c, hf', ⟨hj, hp⟩, rfl⟩ := ofGroups_concat hf
    rw [Expr.answer, ih hf', Expr.answer_condition hr ht hp,
      accepts_concat (clauses_ne_nil hl hf'), hj]
    rfl
  | or hl hr ht ih =>
    obtain ⟨front, c, hf', ⟨hj, hp⟩, rfl⟩ := ofGroups_concat hf
    rw [Expr.answer, ih hf', Expr.answer_condition hr ht hp,
      accepts_concat (clauses_ne_nil hl hf'), hj]
    rfl

/-! ## Texts -/

/-- The answer of clauses that come after the answer `a`. -/
def follow (r : ρ) (a : Bool) (clauses : List (Clause ρ)) : Bool :=
  clauses.foldl (fun answer c => c.joiner.combine answer (c.predicate.holds r)) a

/-- Clauses joined by `AND` all have to hold, besides the answer in front of them. -/
theorem follow_and {clauses : List (Clause ρ)} {k : Nat}
    (h : clauses.map Clause.joiner = List.replicate k .and) (r : ρ) (a : Bool) :
    follow r a clauses = (a && clauses.all fun c => c.predicate.holds r) := by
  induction clauses generalizing a k with
  | nil => simp [follow]
  | cons c clauses ih =>
    cases k with
    | zero => cases h
    | succ k =>
      obtain ⟨hc, hrest⟩ := List.cons.inj h
      have hstep : follow r a (c :: clauses) = follow r (a && c.predicate.holds r) clauses := by
        simp only [follow, List.foldl_cons, hc, Joiner.combine]
      rw [hstep, ih hrest, List.all_cons, Bool.and_assoc]

/-- Of clauses joined by `OR` one has to hold, unless the answer in front of them is yes. -/
theorem follow_or {clauses : List (Clause ρ)} {m : Nat}
    (h : clauses.map Clause.joiner = List.replicate m .or) (r : ρ) (a : Bool) :
    follow r a clauses = (a || clauses.any fun c => c.predicate.holds r) := by
  induction clauses generalizing a m with
  | nil => simp [follow]
  | cons c clauses ih =>
    cases m with
    | zero => cases h
    | succ m =>
      obtain ⟨hc, hrest⟩ := List.cons.inj h
      have hstep : follow r a (c :: clauses) = follow r (a || c.predicate.holds r) clauses := by
        simp only [follow, List.foldl_cons, hc, Joiner.combine]
      rw [hstep, ih hrest, List.any_cons, Bool.or_assoc]

/-- Where no `AND` follows an `OR`, the terms joined by `AND` are one alternative,
    and each term behind an `OR` is another one. -/
theorem accepts_eq_all_or_any {f : Filter ρ} {k m : Nat}
    (h : f.clauses.map Clause.joiner = .start :: (List.replicate k .and ++ List.replicate m .or))
    (r : ρ) : f.accepts r = ((f.clauses.take (k + 1)).all (·.predicate.holds r) ||
      (f.clauses.drop (k + 1)).any (·.predicate.holds r)) := by
  unfold accepts
  cases hf : f.clauses with
  | nil => simp [hf] at h
  | cons first rest =>
    rw [hf, List.map_cons] at h
    obtain ⟨-, hrest⟩ := List.cons.inj h
    -- The clauses behind the first one are cut where the `AND`s end.
    have htake : (rest.take k).map Clause.joiner = List.replicate k .and := by
      rw [List.map_take, hrest, List.take_left' List.length_replicate]
    have hdrop : (rest.drop k).map Clause.joiner = List.replicate m .or := by
      rw [List.map_drop, hrest, List.drop_left' List.length_replicate]
    change follow r (first.predicate.holds r) rest = _
    rw [← List.take_append_drop k rest, follow, List.foldl_append]
    change follow r (follow r (first.predicate.holds r) (rest.take k)) (rest.drop k) = _
    rw [follow_and htake, follow_or hdrop, List.take_append_drop, List.take_succ_cons,
      List.drop_succ_cons, List.all_cons]

/-- The groups of a chain are joined as the conditions on the left spine of its tree. -/
theorem joiner_of_isChain {e : Expr} {gs : List Group} (h : IsChain patterns e gs) :
    gs.map Group.joiner = e.joiners := by
  induction h with
  | single he _ => rw [Expr.joiners_of_isJunction he, List.map_singleton]
  | and _ _ _ ih | or _ _ _ ih => rw [List.map_append, ih, Expr.joiners, List.map_singleton]

/-- A filter answers as the tree of conditions it was made from. A filter made from
    a text has an answer that is grouped in one way: `AND` binds tighter than `OR`. -/
theorem accepts_eq_answer [Record ρ] (config : Config) :
    (∀ (registry : Registry ρ) (e : Expr) (gs : List Group) (f : Filter ρ),
      Group.ofExpr config.datePatterns e = .ok gs → ofGroups registry gs = .ok f →
      ∀ r, e.answer registry config.datePatterns r = .ok (f.accepts r)) ∧
    ∀ (text : String) (f : Filter ρ), ofText config text = .ok f →
      ∃ e gs k m, Expr.parse text = .ok e ∧ Group.ofExpr config.datePatterns e = .ok gs ∧
        ofGroups (.standard config) gs = .ok f ∧
        f.clauses.map Clause.joiner = .start :: (List.replicate k .and ++ List.replicate m .or) ∧
        ∀ r, e.answer (.standard config) config.datePatterns r = .ok (f.accepts r) ∧
          f.accepts r = ((f.clauses.take (k + 1)).all (·.predicate.holds r) ||
            (f.clauses.drop (k + 1)).any (·.predicate.holds r)) := by
  refine ⟨fun registry e gs f hg hf r => accepts_of_isChain (Group.ofExpr_eq_ok.1 hg) hf r, ?_⟩
  intro text f h
  obtain ⟨gs, hgs, hf⟩ := Except.bind_eq_ok.1 h
  obtain ⟨e, he, hg⟩ := Except.bind_eq_ok.1 hgs
  rw [Except.mapError_eq_ok] at hf he hg
  have hc := Group.ofExpr_eq_ok.1 hg
  obtain ⟨ts, -, -, pe⟩ := Expr.parse_eq_ok_iff.1 he
  obtain ⟨k, m, hk⟩ := pe.joiners
  have hj : f.clauses.map Clause.joiner = .start :: (List.replicate k .and ++ List.replicate m .or) := by
    rw [clauses_joiner hf, joiner_of_isChain hc, hk]
  exact ⟨e, gs, k, m, he, hg, hf, hj, fun r =>
    ⟨accepts_of_isChain hc hf r, accepts_eq_all_or_any hj r⟩⟩

/-- Rows with three columns: a type of records to try filters on. -/
def Row : Type := List (String × Literal)

instance : Record Row where
  typeName := "row"
  fieldNames := ["a", "b", "c"]
  field r name := List.lookup name r

/-- A row whose last column is set. -/
def thirdRow : Row :=
  [("c", .long 3)]

/-- One alternative of two terms and one of a single term. -/
theorem accepts_eq_answer_row : ∃ (f : Filter Row) (e : Expr) (gs : List Group),
    ofText {} "a = 1 AND b = 2 OR c = 3" = .ok f ∧
    Group.ofExpr ({} : Config).datePatterns e = .ok gs ∧ ofGroups (.standard {}) gs = .ok f ∧
    f.clauses.map Clause.joiner = [.start, .and, .or] ∧
    e.answer (.standard {}) ({} : Config).datePatterns thirdRow = .ok true := by
  have hval : ((ofText {} "a = 1 AND b = 2 OR c = 3" : Except TextError (Filter Row)).map fun f =>
      (f.clauses.map Clause.joiner, f.accepts thirdRow)).toOption =
      some ([.start, .and, .or], true) := by decide +kernel
  cases hf : (ofText {} "a = 1 AND b = 2 OR c = 3" : Except TextError (Filter Row)) with
  | error cause => simp [hf, Except.map, Except.toOption] at hval
  | ok f =>
    obtain ⟨hj, ha⟩ : f.clauses.map Clause.joiner = [.start, .and, .or] ∧
        f.accepts thirdRow = true := by
      simpa [hf, Except.map, Except.toOption] using hval
    obtain ⟨e, gs, k, m, -, hg, hgs, -, -⟩ := (accepts_eq_answer {}).2 _ f hf
    have hanswer := (accepts_eq_answer {}).1 (.standard {}) e gs f hg hgs thirdRow
    exact ⟨f, e, gs, rfl, hg, hgs, hj, by rw [hanswer, ha]⟩

end Filter

end RecordFilter
