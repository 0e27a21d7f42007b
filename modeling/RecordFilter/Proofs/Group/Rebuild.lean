import RecordFilter.Config
import RecordFilter.Proofs.Group.Chain
import RecordFilter.Proofs.Term.Reading

/-!
# Rebuilding chains

The groups of an expression can be made an expression again, and that one has the
same groups, up to arguments of functions that are read once more
(`Group.ofExpr_ofGroups`). Only the text of a column or of a nested call can change
by that, and only if it happens to be a date; the second time nothing changes.
-/

namespace RecordFilter

variable {patterns : List DatePattern}

/-- A group as it is read once more. -/
def Group.reread (patterns : List DatePattern) (g : Group) : Group :=
  { g with term := g.term.reread patterns }

/-- The conditions along the left spine of an expression, in the order in which
    they are written. -/
def Expr.conditions : Expr → List Expr
  | .and left right => left.conditions ++ [right]
  | .or left right => left.conditions ++ [right]
  | e => [e]

namespace Expr

/-- The last group is joined to what is rebuilt from those in front of it. -/
theorem ofGroups_concat {gs : List Group} {g : Group} (h : gs ≠ []) :
    ofGroups (gs ++ [g]) = (do join (← ofGroups gs) g) := by
  cases gs with
  | nil => exact absurd rfl h
  | cons first rest =>
    rw [List.cons_append, ofGroups, List.foldlM_append]
    simp only [List.foldlM_cons, List.foldlM_nil, bind_pure]
    rfl

theorem conditions_of_isJunction {e : Expr} (h : e.isJunction = false) : e.conditions = [e] := by
  cases e <;> first | rfl | cases h

end Expr

namespace IsChain

theorem ne_nil {e : Expr} {gs : List Group} (h : IsChain patterns e gs) : gs ≠ [] := by
  cases h <;> simp

/-- What is rebuilt from the groups of a chain is a chain of the groups, read once
    more. -/
theorem rebuild {e : Expr} {gs : List Group} (h : IsChain patterns e gs) :
    ∃ e', Expr.ofGroups gs = .ok e' ∧ IsChain patterns e' (gs.map (Group.reread patterns)) := by
  induction h with
  | single _ ht =>
    have hread := @Term.ofExpr_toExpr patterns _ (Term.wellFormed_of_ofExpr ht)
    exact ⟨_, rfl, .single (Term.isJunction_toExpr _) hread⟩
  -- What is rebuilt from a term is one condition, so it can stand on the right of a joiner.
  | and hl _ ht ih =>
    obtain ⟨e', he, hc⟩ := ih
    have hread := @Term.ofExpr_toExpr patterns _ (Term.wellFormed_of_ofExpr ht)
    rw [Expr.ofGroups_concat hl.ne_nil, he, List.map_append]
    exact ⟨_, rfl, .and hc (Term.isJunction_toExpr _) hread⟩
  | or hl _ ht ih =>
    obtain ⟨e', he, hc⟩ := ih
    have hread := @Term.ofExpr_toExpr patterns _ (Term.wellFormed_of_ofExpr ht)
    rw [Expr.ofGroups_concat hl.ne_nil, he, List.map_append]
    exact ⟨_, rfl, .or hc (Term.isJunction_toExpr _) hread⟩

/-- Every group of a chain is read from a condition of it. -/
theorem exists_condition {e : Expr} {gs : List Group} (h : IsChain patterns e gs) :
    ∀ g ∈ gs, ∃ c ∈ e.conditions, Term.ofExpr patterns c = .ok g.term := by
  induction h with
  | single he ht =>
    rw [Expr.conditions_of_isJunction he]
    exact List.forall_mem_singleton.2 ⟨_, List.mem_singleton_self _, ht⟩
  | @and left right gs t _ _ ht ih | @or left right gs t _ _ ht ih =>
    intro g hg
    rw [Expr.conditions]
    rcases List.mem_append.1 hg with hg | hg
    · obtain ⟨c, hc, hr⟩ := ih g hg
      exact ⟨c, List.mem_append_left _ hc, hr⟩
    · obtain rfl := List.mem_singleton.1 hg
      exact ⟨right, List.mem_append_right _ (List.mem_singleton_self _), ht⟩

end IsChain

/-- Where an argument comes from that is a string and would be a date if it were
    read again. -/
theorem Expr.parameter_eq_string {e : Expr} {s : String} {millis : Int}
    (h : e.parameter patterns = .ok (.string s)) (hs : DateText.millis? patterns s = some millis) :
    (∃ column, e = .column column ∧ s = column.text) ∨
      ∃ name arguments, e = .call name arguments ∧ s = e.text := by
  cases e with
  | constant c =>
    cases c with
    | string text =>
      rw [parameter] at h
      split at h
      · cases h
      · -- A string constant that is a date has been read as a number already.
        next hnone =>
        cases h
        rw [hs] at hnone
        cases hnone
    | _ => cases h
  | column c =>
    cases h
    exact .inl ⟨c, rfl, rfl⟩
  | call name arguments =>
    rw [parameter] at h
    split at h
    · obtain ⟨n, -, h⟩ := Except.bind_eq_ok.1 h
      cases h
    · cases h
      exact .inr ⟨name, arguments, rfl, rfl⟩
  | binary op =>
    rw [parameter] at h
    split at h
    · obtain ⟨n, -, h⟩ := Except.bind_eq_ok.1 h
      cases h
    · cases h
  | _ => cases h

/-- A subject that is a call with an argument was read from a call of one argument, which was read
    as it. -/
theorem Subject.ofExpr_eq_call {e : Expr} {function : String} {v : Literal}
    (h : Subject.ofExpr patterns e = .ok (.call function (some v))) :
    ∃ argument, e = .call function [argument] ∧ argument.parameter patterns = .ok v := by
  cases e with
  | call name arguments =>
    rw [Subject.ofExpr] at h
    split at h
    · cases h
    · next hlen =>
      obtain ⟨vs, hvs, h⟩ := Except.bind_eq_ok.1 h
      obtain ⟨rfl, hhead⟩ := Subject.call.inj (Except.pure_eq_ok.1 h)
      cases arguments with
      | nil =>
        obtain rfl := Except.pure_eq_ok.1 hvs
        cases hhead
      | cons argument others =>
        obtain rfl : others = [] := by
          simp only [List.length_cons] at hlen
          exact List.length_eq_zero_iff.1 (by omega)
        obtain ⟨w, rest, hw, -, rfl⟩ := List.forall₂_cons_left_iff.1 (Except.mapM_eq_ok.1 hvs)
        obtain rfl : w = v := Option.some.inj hhead
        exact ⟨argument, rfl, hw⟩
  | binary => rw [Subject.ofExpr] at h; cases h
  | _ => cases h

namespace Group

theorem map_reread_reread (gs : List Group) :
    (gs.map (reread patterns)).map (reread patterns) = gs.map (reread patterns) := by
  simp [reread]

/-- Groups can be made an expression, which has the same groups but for arguments
    of functions that are read once more, and from then on nothing changes. What
    changes was the text of a column or of a call. -/
theorem ofExpr_ofGroups (config : Config) (e : Expr) (gs : List Group)
    (h : ofExpr config.datePatterns e = .ok gs) :
    (∃ e' e'', Expr.ofGroups gs = .ok e' ∧
      ofExpr config.datePatterns e' = .ok (gs.map (reread config.datePatterns)) ∧
      Expr.ofGroups (gs.map (reread config.datePatterns)) = .ok e'' ∧
      ofExpr config.datePatterns e'' = .ok (gs.map (reread config.datePatterns))) ∧
    (∀ g ∈ gs, ∀ function s millis, g.term.subject = .call function (some (.string s)) →
      DateText.millis? config.datePatterns s = some millis →
      ∃ c ∈ e.conditions, ∃ condition argument, Condition.ofExpr false c = .ok condition ∧
        condition.subject = .call function [argument] ∧
        ((∃ column, argument = .column column ∧ s = column.text) ∨
          ∃ name arguments, argument = .call name arguments ∧ s = argument.text)) ∧
    ((∀ g ∈ gs, ∀ function s, g.term.subject = .call function (some (.string s)) →
      DateText.millis? config.datePatterns s = none) →
      gs.map (reread config.datePatterns) = gs) := by
  have hchain := ofExpr_eq_ok.1 h
  refine ⟨?_, ?_, ?_⟩
  · obtain ⟨e', he, hc⟩ := hchain.rebuild
    obtain ⟨e'', he', hc'⟩ := hc.rebuild
    rw [map_reread_reread] at hc'
    exact ⟨e', e'', he, ofExpr_eq_ok.2 hc, he', ofExpr_eq_ok.2 hc'⟩
  · intro g hg function s millis hsubject hs
    obtain ⟨c, hc, ht⟩ := hchain.exists_condition g hg
    obtain ⟨condition, vs, hcond, hsub, -⟩ := Term.ofExpr_eq_ok.1 ht
    rw [hsubject] at hsub
    obtain ⟨argument, hcall, hv⟩ := Subject.ofExpr_eq_call hsub
    exact ⟨c, hc, condition, argument, hcond, hcall, Expr.parameter_eq_string hv hs⟩
  · intro hnone
    have hself : ∀ g ∈ gs, reread config.datePatterns g = g := by
      intro g hg
      rw [reread, Term.reread_eq_self (hnone g hg)]
    rw [List.map_congr_left hself, List.map_id']

/-- A condition on a function of a column that is named like a date. -/
def dateNamed : Expr :=
  .and (.isNull false (.column ⟨none, "a"⟩))
    (.compare .eq (.call "f" [.column ⟨none, "1970-01-02"⟩]) (.constant (.long 1)))

/-- The name of the column becomes its milliseconds when it is read once more. -/
theorem ofExpr_ofGroups_dateNamed : ∃ gs e',
    ofExpr ({} : Config).datePatterns dateNamed = .ok gs ∧ Expr.ofGroups gs = .ok e' ∧
    ofExpr ({} : Config).datePatterns e' =
      .ok [⟨.start, ⟨.column ⟨none, "a"⟩, .isNull, false, []⟩⟩,
        ⟨.and, ⟨.call "f" (some (.long 86400000)), .eq, false, [.literal (.long 1)]⟩⟩] := by
  have hread (patterns : List DatePattern) : ofExpr patterns dateNamed =
      .ok [⟨.start, ⟨.column ⟨none, "a"⟩, .isNull, false, []⟩⟩,
        ⟨.and, ⟨.call "f" (some (.string "1970-01-02")), .eq, false, [.literal (.long 1)]⟩⟩] := rfl
  obtain ⟨⟨e', -, he, he', -, -⟩, -⟩ := ofExpr_ofGroups {} dateNamed _ (hread _)
  have hdate : DateText.millis? ({} : Config).datePatterns "1970-01-02" = some 86400000 := by
    decide +kernel
  refine ⟨_, e', hread _, he, ?_⟩
  rw [he']
  simp only [List.map_cons, List.map_nil, reread, Term.reread, Subject.reread, Option.map_some,
    Literal.reread, hdate]
  rfl

end Group

end RecordFilter
