import RecordFilter.Proofs.Expr.Printing
import RecordFilter.Proofs.Term.Reading

/-!
# Groups and the expression rebuilt from them are written alike

A filter can be written in two ways: group by group, with blanks between the groups, or as
the expression that is rebuilt from the groups. The texts are the same
(`Group.text_rebuilt`), although a whole number of 32 bits is widened on the way and the
expression knows its joiners as operators of a tree. A term has to have as many values as
its operator takes: the expression would leave out some of more values.
-/

namespace RecordFilter

/-! ## Terms -/

theorem Literal.text_ofLiteral (v : Literal) : (Expr.ofLiteral v).text = v.text := by
  cases v with
  | integer v =>
    have hwide : v.toInt64.toInt = v.toInt := Int32.toInt_toInt64 v
    simp [Expr.ofLiteral, toConstant, Constant.text, Constant.toLiteral, text, hwide]
  | _ => rfl

theorem Subject.text_toExpr (s : Subject) : s.toExpr.text = s.text := by
  cases s with
  | column c => rfl
  | value v => exact v.text_ofLiteral
  | call function argument =>
    cases argument with
    | none => rfl
    | some v => simp [toExpr, text, v.text_ofLiteral]

theorem Operand.text_toExpr (v : Operand) : v.toExpr.text = v.text := by
  cases v with
  | literal v => exact v.text_ofLiteral
  | column c => rfl

/-- A list of operands is written as what is rebuilt from them, with the same commas. -/
theorem Operand.listText_toExpr (vs : List Operand) :
    Expr.listText (vs.map toExpr) = listText vs := by
  induction vs with
  | nil => rfl
  | cons v vs ih =>
    cases vs with
    | nil => simp [listText, v.text_toExpr]
    | cons w vs =>
      rw [List.map_cons, List.map_cons, Expr.listText, ← List.map_cons, ih, v.text_toExpr]
      · simp [listText]
      · simp

namespace Term

/-- The condition of a term is its subject, its operator and its values with blanks between them. -/
theorem text_conditionExpr {t : Term} (h : t.operator.arity.accepts t.values.length) :
    t.conditionExpr.text = t.subject.text ++ " " ++ t.operator.text ++ t.valuesText := by
  obtain ⟨subject, op, negated, values⟩ := t
  -- The words are cut at other blanks, so the texts are compared character by character.
  apply String.toList_inj.1
  cases op with
  | isNull | isNotNull =>
    obtain rfl := Arity.eq_nil_of_accepts h
    simp [conditionExpr, valuesText, subject.text_toExpr, TermOperator.text, Expr.notText]
  | between =>
    obtain ⟨low, high, rfl⟩ := Arity.exists_two_of_accepts h
    simp [conditionExpr, valueFromEnd, valuesText, subject.text_toExpr, low.text_toExpr,
      high.text_toExpr, TermOperator.text, Expr.notText]
  | «in» =>
    simp [conditionExpr, valuesText, subject.text_toExpr, Operand.listText_toExpr,
      TermOperator.text, Expr.notText]
  | _ =>
    obtain ⟨v, rfl⟩ := Arity.exists_one_of_accepts h
    simp [conditionExpr, valueFromEnd, valuesText, subject.text_toExpr, v.text_toExpr,
      ComparisonOperator.text, ComparisonOperator.toTerm, TermOperator.text, Expr.notText]

/-- A term and the condition that is rebuilt from it are written alike. -/
theorem text_toExpr {t : Term} (h : t.operator.arity.accepts t.values.length) :
    t.toExpr.text = t.text := by
  unfold toExpr text
  split
  · rw [Expr.text, text_conditionExpr h]
    simp [String.append_assoc]
  · rw [text_conditionExpr h]
    simp [String.append_assoc]

end Term

/-! ## Chains -/

namespace Expr

/-- A group that is joined to an expression is written behind it. -/
theorem exists_join_eq_ok {g : Group} (hg : g.joiner ≠ .start)
    (harity : g.term.operator.arity.accepts g.term.values.length) (e : Expr) :
    ∃ e', join e g = .ok e' ∧ e'.text = e.text ++ " " ++ g.text := by
  have hterm := Term.text_toExpr harity
  unfold join
  cases hj : g.joiner with
  | start => exact absurd hj hg
  | and | or =>
    exact ⟨_, rfl, by simp [← String.toList_inj, Group.text, hj, Joiner.text, hterm]⟩

/-- Groups that are joined one by one are written behind the expression in order, with blanks
    between them. -/
theorem exists_foldlM_join_eq_ok {gs : List Group} (hgs : ∀ g ∈ gs, g.joiner ≠ .start)
    (harity : ∀ g ∈ gs, g.term.operator.arity.accepts g.term.values.length) (e : Expr) :
    ∃ e', gs.foldlM join e = .ok e' ∧ e'.text = " ".intercalate (e.text :: gs.map Group.text) := by
  induction gs generalizing e with
  | nil => exact ⟨e, rfl, by simp⟩
  | cons g gs ih =>
    obtain ⟨hg, hgs⟩ := List.forall_mem_cons.1 hgs
    obtain ⟨hfirst, hothers⟩ := List.forall_mem_cons.1 harity
    obtain ⟨e₁, hjoin, htext₁⟩ := exists_join_eq_ok hg hfirst e
    obtain ⟨e', hfold, htext⟩ := ih hgs hothers e₁
    refine ⟨e', by rw [List.foldlM_cons, hjoin]; exact hfold, ?_⟩
    rw [htext, htext₁, List.map_cons, String.intercalate_cons_append,
      String.intercalate_cons_cons]

end Expr

/-- The text of the expression that is rebuilt from groups is that of the groups, with
    blanks between them, and each condition in it is written as its term is. -/
theorem Group.text_rebuilt (first : Group) (others : List Group) (hfirst : first.joiner = .start)
    (hothers : ∀ g ∈ others, g.joiner ≠ .start)
    (harity : ∀ g ∈ first :: others, g.term.operator.arity.accepts g.term.values.length) :
    (∃ e, Expr.ofGroups (first :: others) = .ok e ∧
      e.text = " ".intercalate ((first :: others).map Group.text)) ∧
    ∀ g ∈ first :: others, g.term.toExpr.text = g.term.text := by
  refine ⟨?_, fun g hg => Term.text_toExpr (harity g hg)⟩
  obtain ⟨hterm, hterms⟩ := List.forall_mem_cons.1 harity
  obtain ⟨e, he, htext⟩ := Expr.exists_foldlM_join_eq_ok hothers hterms first.term.toExpr
  have hgroup : first.text = first.term.toExpr.text := by
    rw [text, hfirst, Term.text_toExpr hterm]
  exact ⟨e, he, by rw [htext, List.map_cons, hgroup]⟩

/-- Whole numbers of 32 bits, a call as a subject and a negated list. -/
theorem Group.text_rebuilt_widened : ∃ e, Expr.ofGroups
      [⟨.start, ⟨.call "day" (some (.integer 7)), .between, false,
          [.literal (.integer (-1)), .column ⟨some "t", "b"⟩]⟩⟩,
        ⟨.or, ⟨.column ⟨none, "a"⟩, .in, true, [.literal (.integer 3), .literal .null]⟩⟩,
        ⟨.and, ⟨.value (.string "it's"), .isNotNull, true, []⟩⟩] = .ok e ∧
    e.text = "day(7) BETWEEN -1 AND t.b OR NOT a IN (3, NULL) AND NOT 'it''s' IS NOT NULL" := by
  obtain ⟨⟨e, he, htext⟩, -⟩ := text_rebuilt
    ⟨.start, ⟨.call "day" (some (.integer 7)), .between, false,
      [.literal (.integer (-1)), .column ⟨some "t", "b"⟩]⟩⟩
    [⟨.or, ⟨.column ⟨none, "a"⟩, .in, true, [.literal (.integer 3), .literal .null]⟩⟩,
      ⟨.and, ⟨.value (.string "it's"), .isNotNull, true, []⟩⟩] rfl (by simp) (by simp; decide)
  exact ⟨e, he, htext.trans (by decide +kernel)⟩

end RecordFilter
