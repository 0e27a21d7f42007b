import RecordFilter.Proofs.Expr.Printing

/-!
# Operands are read

Every part of an expression that was read can be read on its own, at some level
(`Phrase.isRead_of_isPart`). So what is known of all expressions that are read is known of their
parts.
-/

namespace RecordFilter

open RecordFilter.Parser

/-- Whether an expression is read from some tokens. -/
def Expr.IsRead (e : Expr) : Prop :=
  ∃ level ts, Phrase (.expression level e) ts

/-- Whether every part of an expression is read. -/
def Expr.IsReadThrough (e : Expr) : Prop :=
  ∀ p : Expr, p.IsPart e → p.IsRead

/-- What a piece of the grammar makes has operands all parts of which are read, if the expression
    in front of it is read, with its parts. -/
def Form.ReadsOperands : Form → Prop
  | .expression _ e | .named _ e => ∀ o ∈ e.operands, o.IsReadThrough
  | .joined level left e => (∃ ts, Phrase (.expression level left) ts) →
    left.IsReadThrough → ∀ o ∈ e.operands, o.IsReadThrough
  | .condition subject e => subject.IsReadThrough → ∀ o ∈ e.operands, o.IsReadThrough
  | .list es => ∀ e ∈ es, e.IsReadThrough
  | .branches bs => ∀ b ∈ bs, b.1.IsReadThrough ∧ b.2.IsReadThrough
  | .optional _ e => ∀ x ∈ e, x.IsReadThrough

namespace Phrase

/-- A phrase whose operands are read through is read through itself. -/
theorem isReadThrough_of {level : Level} {e : Expr} {ts : List Token}
    (h : Phrase (.expression level e) ts) (ho : ∀ o ∈ e.operands, o.IsReadThrough) :
    e.IsReadThrough :=
  Expr.forall_isPart_iff.2 ⟨⟨level, ts, h⟩, ho⟩

/-- By the rules of the grammar: each makes an expression of expressions that are read. -/
theorem readsOperands {form : Form} {ts : List Token} (h : Phrase form ts) :
    form.ReadsOperands := by
  induction h with
  | chain hl pl _ ihl ihe => exact ihe ⟨_, pl.of_next hl⟩ (pl.isReadThrough_of ihl)
  | last => exact fun _ hl => (Expr.forall_isPart_iff.1 hl).2
  | subject => exact fun hs => (Expr.forall_isPart_iff.1 hs).2
  | join hj pr _ ihr ihe =>
    -- What was joined so far is read with the operator, and is the left operand of the next one.
    rintro ⟨us, pl⟩ hl
    have pjoined := pl.snoc hj pr
    refine ihe ⟨_, pjoined⟩ (pjoined.isReadThrough_of ?_)
    rw [Level.operands_join hj]
    exact List.forall_mem_cons.2 ⟨hl, List.forall_mem_singleton.2 (pr.isReadThrough_of ihr)⟩
  | not pe ih => exact List.forall_mem_singleton.2 (pe.isReadThrough_of ih)
  | positive _ ih | plus _ ih | unsigned _ ih => exact ih
  | @minus e _ pe ih =>
    unfold negate
    split
    · exact fun o ho => absurd ho List.not_mem_nil
    · exact fun o ho => absurd ho List.not_mem_nil
    · exact List.forall_mem_singleton.2 (pe.isReadThrough_of ih)
  | comparison ps _ ihs ihe => exact ihe (ps.isReadThrough_of ihs)
  | isNull | inSubselect => exact List.forall_mem_singleton.2
  | inList _ ih => exact fun hs => List.forall_mem_cons.2 ⟨hs, ih⟩
  | between pl ph ihl ihh =>
    intro hs
    have hbounds := List.forall_mem_cons.2
      ⟨pl.isReadThrough_of ihl, List.forall_mem_singleton.2 (ph.isReadThrough_of ihh)⟩
    exact List.forall_mem_cons.2 ⟨hs, hbounds⟩
  | like pr ih | regex pr ih | compare _ pr ih =>
    intro hs
    exact List.forall_mem_cons.2 ⟨hs, List.forall_mem_singleton.2 (pr.isReadThrough_of ih)⟩
  | one pe ih => exact List.forall_mem_singleton.2 (pe.isReadThrough_of ih)
  | more pe _ ihe ihes => exact List.forall_mem_cons.2 ⟨pe.isReadThrough_of ihe, ihes⟩
  | name _ ih | keyword _ _ ih => exact ih
  | callWith _ ih => exact ih
  | paren pe ih | cast pe _ ih => exact List.forall_mem_singleton.2 (pe.isReadThrough_of ih)
  | case _ _ _ _ iho ihb ihe => exact Expr.forall_mem_operands_case.2 ⟨iho, ihb, ihe⟩
  | branch pc pr _ ihc ihr ihb =>
    exact List.forall_mem_cons.2 ⟨⟨pc.isReadThrough_of ihc, pr.isReadThrough_of ihr⟩, ihb⟩
  | noBranch => exact fun b hb => absurd hb List.not_mem_nil
  | missing => exact fun x hx => by cases hx
  | marked pe ih =>
    rintro x ⟨⟩
    exact pe.isReadThrough_of ih
  | _ => exact fun o ho => absurd ho List.not_mem_nil

/-- Every part of an expression that is read is read itself. -/
theorem isRead_of_isPart {level : Level} {e part : Expr} {ts : List Token}
    (h : Phrase (.expression level e) ts) (hp : part.IsPart e) : part.IsRead :=
  h.isReadThrough_of h.readsOperands part hp

end Phrase

end RecordFilter
