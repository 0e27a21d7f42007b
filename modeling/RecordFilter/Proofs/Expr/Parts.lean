import RecordFilter.Proofs.Decimal.Layout
import RecordFilter.Proofs.Grammar.Joiners

/-!
# Parts of expressions

What is asked of every constant or operator of an expression, however deep, is asked
of its parts (`Expr.IsPart`). The operands that the grammar reads one after the other
are parts of what it makes of them (`Phrase.isPart_left`).

Two of the bounds on the numbers of an expression that was read are shown here: signs
never make the least whole number of 64 bits (`Phrase.isAboveLeast`), and a number
that no sign is in front of has none.
-/

namespace RecordFilter

open RecordFilter.Parser

namespace Expr

/-- The expressions an expression is directly made of. -/
def operands : Expr → List Expr
  | .constant _ | .column _ | .boolean _ | .subselect _ | .exists .. => []
  | .call _ arguments => arguments
  | .binary _ left right | .compare _ left right | .and left right | .or left right => [left, right]
  | .between _ subject low high => [subject, low, high]
  | .inList _ subject items => subject :: items
  | .like _ subject pattern => [subject, pattern]
  | .inSubselect _ operand _ | .isNull _ operand | .not operand | .paren operand | .cast operand _ |
    .negative operand => [operand]
  | .case operand branches otherwise =>
    operand.toList ++ (branches.flatMap fun b => [b.1, b.2]) ++ otherwise.toList

/-- Whether an expression is another one or stands in it. -/
inductive IsPart (part : Expr) : Expr → Prop
  | self : IsPart part part
  | operand {operand e : Expr} : operand ∈ e.operands → IsPart part operand → IsPart part e

/-- A part of a part is a part. The induction is on the way down to the part in the middle. -/
theorem IsPart.trans {a b c : Expr} (hab : a.IsPart b) (hbc : b.IsPart c) : a.IsPart c := by
  induction hbc with
  | self => exact hab
  | operand ho _ ih => exact .operand ho ih

theorem isPart_of_mem {operand e : Expr} (h : operand ∈ e.operands) : operand.IsPart e :=
  .operand h .self

/-- Whether an expression is a part of one in a list. -/
def IsPartOfAny (part : Expr) (es : List Expr) : Prop :=
  ∃ e ∈ es, part.IsPart e

theorem isPart_iff {part e : Expr} : part.IsPart e ↔ part = e ∨ part.IsPartOfAny e.operands := by
  constructor
  · rintro (_ | ⟨ho, hp⟩)
    · exact .inl rfl
    · exact .inr ⟨_, ho, hp⟩
  · rintro (rfl | ⟨_, ho, hp⟩)
    · exact .self
    · exact .operand ho hp

/-- What is asked of all parts of an expression is asked of it and of the parts of its operands. -/
theorem forall_isPart_iff {P : Expr → Prop} {e : Expr} : (∀ p : Expr, p.IsPart e → P p) ↔
    P e ∧ ∀ o ∈ e.operands, ∀ p : Expr, p.IsPart o → P p := by
  constructor
  · intro h
    exact ⟨h e .self, fun o ho p hp => h p (hp.trans (isPart_of_mem ho))⟩
  · rintro ⟨he, hoperands⟩ p (_ | ⟨ho, hp⟩)
    · exact he
    · exact hoperands _ ho p hp

/-- The operands of a `CASE` are the one behind `CASE`, the conditions and results of its branches
    and the one behind `ELSE`. -/
theorem forall_mem_operands_case {P : Expr → Prop} {operand otherwise : Option Expr}
    {branches : List (Expr × Expr)} :
    (∀ o ∈ (Expr.case operand branches otherwise).operands, P o) ↔
      (∀ x ∈ operand, P x) ∧ (∀ b ∈ branches, P b.1 ∧ P b.2) ∧ ∀ x ∈ otherwise, P x := by
  have hbranches : (∀ o ∈ branches.flatMap fun b => [b.1, b.2], P o) ↔
      ∀ b ∈ branches, P b.1 ∧ P b.2 := by
    rw [List.forall_mem_flatMap]
    exact forall₂_congr fun b _ => by rw [List.forall_mem_cons, List.forall_mem_singleton]
  rw [operands, List.forall_mem_append, List.forall_mem_append, hbranches, and_assoc]
  simp only [Option.mem_toList, Option.mem_def]

@[simp]
theorem isPartOfAny_nil {part : Expr} : part.IsPartOfAny [] ↔ False := by
  simp [IsPartOfAny]

@[simp]
theorem isPartOfAny_cons {part e : Expr} {es : List Expr} :
    part.IsPartOfAny (e :: es) ↔ part.IsPart e ∨ part.IsPartOfAny es := by
  simp [IsPartOfAny]

end Expr

/-- The operands of an operator that is joined from left to right. -/
theorem Parser.Level.operands_join {level : Level} {t : Token} {f : Expr → Expr → Expr}
    (h : level.join? t = some f) (l r : Expr) : (f l r).operands = [l, r] := by
  unfold join? at h
  split at h <;> cases h <;> rfl

/-- Whether the expression in front of a piece of the grammar is a part of the whole. -/
def Form.KeepsLeft : Form → Prop
  | .joined _ left e => left.IsPart e
  | .condition subject e => subject.IsPart e
  | _ => True

/-- The expression that a phrase goes on from is a part of what it makes of it. -/
theorem Phrase.isPart_left {form : Form} {ts : List Token} (h : Phrase form ts) :
    form.KeepsLeft := by
  induction h with
  | last | subject => exact .self
  | @join _ _ f l r _ _ _ hj _ _ _ ih =>
    have hl : l ∈ (f l r).operands := by
      rw [Level.operands_join hj]
      exact List.mem_cons_self
    exact (Expr.isPart_of_mem hl).trans ih
  | isNull | inSubselect | inList | between | like | regex | compare =>
    exact Expr.isPart_of_mem List.mem_cons_self
  | _ => trivial

/-! ## Bounds -/

namespace Parser

/-- The least whole number of 64 bits. It is not the negative of any other. -/
def leastConstant : Expr :=
  .constant (.long Int64.minValue)

theorem neg_ne_minValue {v : Int64} (h : v ≠ Int64.minValue) : -v ≠ Int64.minValue := by
  intro hneg
  refine h ?_
  rw [← @Int64.neg_neg v, hneg]
  rfl

/-- A minus sign does not make the least whole number of anything else. -/
theorem negate_ne_leastConstant {e : Expr} (h : e ≠ leastConstant) : negate e ≠ leastConstant := by
  unfold negate
  split
  · next v =>
    intro hv
    injection hv with hv
    injection hv with hv
    refine neg_ne_minValue (fun hmin => h ?_) hv
    rw [leastConstant, hmin]
  · intro hv
    injection hv with hv
    cases hv
  · intro hv
    cases hv

/-- A number stands for a whole number below `2 ^ 63` or for a double that its digits read as. -/
theorem numberConstant?_cases {digits : String} {c : Constant}
    (h : numberConstant? digits = some c) :
    (∃ n : Nat, n < 2 ^ 63 ∧ c = .long (Int64.ofNat n)) ∨
      ∃ x, Decimal.readFloat? digits.toList = some x ∧ c = .double x := by
  unfold numberConstant? at h
  simp only at h
  split at h
  · next hn =>
    obtain rfl := Option.some.inj h
    exact .inl ⟨_, hn.2.2, rfl⟩
  · obtain ⟨x, hx, rfl⟩ := Option.map_eq_some_iff.1 h
    exact .inr ⟨x, hx, rfl⟩

theorem ofNat_ne_minValue {n : Nat} (h : n < 2 ^ 63) : Int64.ofNat n ≠ Int64.minValue := by
  intro hmin
  have hint := congrArg Int64.toInt hmin
  rw [Int64.toInt_ofNat_of_lt h, Int64.toInt_minValue] at hint
  omega

/-- A keyword of a date or time stands, with its string, for a date, a time or a moment. -/
theorem dateConstant_cases {kind : Keyword} {text : String} {c : Constant}
    (h : dateConstant kind text = .ok c) :
    (∃ d, c = .date d) ∨ (∃ t, c = .time t) ∨ ∃ t, c = .timestamp t := by
  have hmap {α : Type} {x : Except DateError α} {f : α → Constant} (hx : f <$> x = .ok c) :
      ∃ a, c = f a := by
    cases x with
    | error => cases hx
    | ok a => exact ⟨a, (Except.ok.inj hx).symm⟩
  unfold dateConstant at h
  split at h
  · exact .inl (hmap h)
  · exact .inr (.inl (hmap h))
  · exact .inr (.inr (hmap h))

end Parser

/-- Whether a piece of the grammar does not make the least number of others. -/
def Form.IsAboveLeast : Form → Prop
  | .expression _ e => e ≠ leastConstant
  | .joined _ left e => left ≠ leastConstant → e ≠ leastConstant
  | .condition subject e => subject ≠ leastConstant → e ≠ leastConstant
  | .named _ e => e ≠ leastConstant
  | _ => True

/-- No phrase makes the least whole number of 64 bits: digits do not reach it, and signs keep away
    from it. -/
theorem Phrase.isAboveLeast {form : Form} {ts : List Token} (h : Phrase form ts) :
    form.IsAboveLeast := by
  induction h with
  | chain _ _ _ ihl ihe => exact ihe ihl
  | last | subject => exact id
  | @join _ _ _ _ _ _ _ _ hj _ _ _ ih =>
    refine fun _ => ih ?_
    rcases Level.join?_cases hj with ⟨-, rfl⟩ | ⟨-, rfl⟩ | ⟨-, _, rfl⟩ <;> exact Expr.noConfusion
  -- The only number whose negation is the least one is that number itself.
  | minus _ ih => exact negate_ne_leastConstant ih
  | positive _ ih | plus _ ih | unsigned _ ih => exact ih
  | comparison _ _ ihs ihe => exact ihe ihs
  | isNull | inSubselect | inList | between | like | regex | compare =>
    exact fun _ => Expr.noConfusion
  | number hn =>
    intro h
    injection h with h
    rcases numberConstant?_cases hn with ⟨n, hlt, rfl⟩ | ⟨x, -, rfl⟩
    · injection h with h
      exact ofNat_ne_minValue hlt h
    · cases h
  | name _ ih | keyword _ _ ih => exact ih
  | dated _ hd =>
    intro h
    injection h with h
    rcases dateConstant_cases hd with ⟨_, rfl⟩ | ⟨_, rfl⟩ | ⟨_, rfl⟩ <;> cases h
  | string | null =>
    intro h
    injection h with h
    cases h
  | one | more | noBranch | branch | missing | marked => trivial
  | _ => exact Expr.noConfusion

end RecordFilter
