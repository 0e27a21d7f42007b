import Mathlib
import RecordFilter.Config
import RecordFilter.Proofs.Arithmetic.Stack
import RecordFilter.Proofs.Expr.Parts
import RecordFilter.Proofs.Term.Reading

/-!
# What is supported

Three walks make a term of a condition: one over the condition and its operands, one over
the arguments of calls and one over arithmetic. Each takes some kinds of expressions and
rejects all others, and what none of them looks into is kept as text. So nothing
unsupported is ever passed over: wherever a term is read from, only constants, columns,
calls and arithmetic stand below the condition (`Term.ofExpr_supported`).
-/

namespace RecordFilter

variable {patterns : List DatePattern}

namespace Expr

/-- Whether an expression is a condition that can be a term: a comparison, `BETWEEN`, `IN`
    with a list, `LIKE` or `IS NULL`. -/
def IsCondition : Expr → Prop
  | .compare .. | .between .. | .inList .. | .like .. | .isNull .. => True
  | _ => False

/-- Whether a condition has a `NOT` of its own. `IS NOT NULL` is no negation but a
    condition like `IS NULL`. -/
def hasNot : Expr → Bool
  | .between negated .. | .inList negated .. | .like negated .. => negated
  | _ => false

/-- Whether an expression is of a kind that can be an operand or stand in one. -/
def IsScalar : Expr → Prop
  | .constant _ | .column _ | .call .. => True
  | .binary op .. => op.isArithmetic = true
  | _ => False

/-- Whether an expression is a call. -/
def isCall : Expr → Bool
  | .call .. => true
  | _ => false

/-- Whether an expression is a call that is kept as text where it is an argument: one of
    no calendar unit. -/
def IsQuotedCall : Expr → Prop
  | .call function _ => calendarUnit? function = none
  | _ => False

/-- Whether an expression is another one or stands in it, but not in what is kept as text:
    the arguments of a call that is no calendar unit and that is itself an argument. -/
inductive StandsIn (part : Expr) : (isArgument : Bool) → Expr → Prop
  | self {isArgument : Bool} : StandsIn part isArgument part
  | operand {isArgument : Bool} {operand e : Expr} : operand ∈ e.operands →
    ¬(isArgument = true ∧ e.IsQuotedCall) → StandsIn part e.isCall operand →
    StandsIn part isArgument e

theorem StandsIn.isPart {p e : Expr} {isArgument : Bool} (h : p.StandsIn isArgument e) :
    p.IsPart e := by
  induction h with
  | self => exact .self
  | operand ho _ _ ih => exact .operand ho ih

/-- The first operand of the condition that an expression is or negates. -/
def firstOperand? : Expr → Option Expr
  | .not e => e.firstOperand?
  | e => e.operands.head?

/-- Whether everything that stands in an expression is scalar. -/
def IsSupported (isArgument : Bool) (e : Expr) : Prop :=
  ∀ p : Expr, p.StandsIn isArgument e → p.IsScalar

/-- A scalar expression is supported if its operands are, unless it is kept as text. -/
theorem isSupported_of_operands {e : Expr} {isArgument : Bool} (he : e.IsScalar)
    (h : ¬(isArgument = true ∧ e.IsQuotedCall) → ∀ o ∈ e.operands, o.IsSupported e.isCall) :
    e.IsSupported isArgument := by
  rintro p (_ | ⟨ho, hopen, hp⟩)
  · exact he
  · exact h hopen _ ho p hp

end Expr

/-! ## Arithmetic -/

namespace Arithmetic

/-- Whether everything in an expression that is computed is scalar. -/
def RunIsScalar (patterns : List DatePattern) (s : State) (e : Expr) : Prop :=
  ∀ s', run patterns s e = .ok s' → ∀ p : Expr, p.IsPart e → p.IsScalar

/-- Whether everything in expressions that are computed in turn is scalar. -/
def RunAllIsScalar (patterns : List DatePattern) (s : State) (es : List Expr) : Prop :=
  ∀ s', runAll patterns s es = .ok s' → ∀ e ∈ es, ∀ p : Expr, p.IsPart e → p.IsScalar

/-- What is computed is arithmetic through and through. -/
theorem runIsScalar : (∀ s e, RunIsScalar patterns s e) ∧ ∀ s es, RunAllIsScalar patterns s es := by
  -- One case for each way in which something is computed; what is not computed does not come up.
  refine run_ok_induct ?constant ?arithmetic ?unit ?nil ?cons
  case constant =>
    rintro s c s' - p (_ | ⟨ho, -⟩)
    · trivial
    · cases ho
  case arithmetic =>
    rintro s op left right sl sr s' hop hl hr - p (_ | ⟨ho, hp⟩)
    · exact hop
    · rcases List.mem_pair.1 ho with rfl | rfl
      · exact hl p hp
      · exact hr p hp
  case unit =>
    rintro s function arguments unit s' - h p (_ | ⟨ho, hp⟩)
    · trivial
    · exact h _ ho p hp
  case nil => exact fun _ _ he => absurd he List.not_mem_nil
  case cons =>
    intro s e es mid s' he hes
    exact List.forall_mem_cons.2 ⟨he, hes⟩

end Arithmetic

namespace Expr

/-- All parts of what is computed are scalar. -/
theorem isScalar_of_evaluate {e : Expr} {n : Int64} (h : e.evaluate patterns = .ok n) :
    ∀ p : Expr, p.IsPart e → p.IsScalar := by
  obtain ⟨s, hs, -⟩ := Except.bind_eq_ok.1 h
  exact Arithmetic.runIsScalar.1 {} e s hs

/-- What is computed is supported, as an argument or not. -/
theorem isSupported_of_evaluate {e : Expr} {n : Int64} {isArgument : Bool}
    (h : e.evaluate patterns = .ok n) : e.IsSupported isArgument :=
  fun p hp => isScalar_of_evaluate h p hp.isPart

/-! ## Arguments and operands -/

theorem isSupported_of_parameter {e : Expr} {v : Literal} (h : e.parameter patterns = .ok v) :
    e.IsSupported true := by
  cases e with
  | constant | column => exact isSupported_of_operands trivial fun _ _ ho => absurd ho List.not_mem_nil
  | call function arguments =>
    rw [parameter] at h
    split at h
    · obtain ⟨n, hn, -⟩ := Except.bind_eq_ok.1 h
      exact isSupported_of_evaluate hn
    · next hunit =>
      -- The call is kept as text, so nothing is asked of its arguments.
      have hquoted : calendarUnit? function = none := by simpa using hunit
      exact isSupported_of_operands trivial fun hopen => absurd ⟨rfl, hquoted⟩ hopen
  | binary op =>
    rw [parameter] at h
    split at h
    · obtain ⟨n, hn, -⟩ := Except.bind_eq_ok.1 h
      exact isSupported_of_evaluate hn
    · cases h
  | _ => cases h

theorem isSupported_of_mapM_parameter {es : List Expr} {vs : List Literal}
    (h : es.mapM (parameter patterns) = .ok vs) : ∀ e ∈ es, e.IsSupported true := by
  intro e he
  obtain ⟨v, hv⟩ := Except.exists_mapM_eq_ok.1 ⟨vs, h⟩ e he
  exact isSupported_of_parameter hv

end Expr

/-- What a subject is read from is supported and is no operator: a subject is not computed. -/
theorem Subject.isSupported_of_ofExpr {e : Expr} {s : Subject} (h : ofExpr patterns e = .ok s) :
    e.IsSupported false ∧ ∀ op left right, e ≠ .binary op left right := by
  cases e with
  | constant | column =>
    exact ⟨Expr.isSupported_of_operands trivial fun _ _ ho => absurd ho List.not_mem_nil,
      fun _ _ _ => Expr.noConfusion⟩
  | call function arguments =>
    rw [ofExpr] at h
    split at h
    · cases h
    · obtain ⟨vs, hvs, -⟩ := Except.bind_eq_ok.1 h
      exact ⟨Expr.isSupported_of_operands trivial fun _ => Expr.isSupported_of_mapM_parameter hvs,
        fun _ _ _ => Expr.noConfusion⟩
  | _ => cases h

theorem Operand.isSupported_of_ofExpr {e : Expr} {vs : List Operand}
    (h : ofExpr patterns e = .ok vs) : e.IsSupported false := by
  cases e with
  | constant | column =>
    exact Expr.isSupported_of_operands trivial fun _ _ ho => absurd ho List.not_mem_nil
  | call function arguments =>
    obtain ⟨ls, hls, -⟩ := Except.bind_eq_ok.1 h
    exact Expr.isSupported_of_operands trivial fun _ => Expr.isSupported_of_mapM_parameter hls
  | binary op =>
    rw [ofExpr] at h
    split at h
    · obtain ⟨n, hn, -⟩ := Except.bind_eq_ok.1 h
      exact Expr.isSupported_of_evaluate hn
    · cases h
  | _ => cases h

/-! ## Conditions -/

namespace Condition

/-- Negations are put together if there is no more than one of them. -/
theorem negate_eq_ok {negated more n : Bool} :
    negate negated more = .ok n ↔ (negated = true → more = false) ∧ n = (negated || more) := by
  cases negated <;> cases more <;> simp [negate, eq_comm]

/-- What an expression is that is a condition: one itself, or one behind a `NOT`. -/
theorem ofExpr_cases {negated : Bool} {e : Expr} {c : Condition} (h : ofExpr negated e = .ok c) :
    (e.IsCondition ∧ (negated = true → e.hasNot = false) ∧ e.operands = c.subject :: c.operands) ∨
      (negated = false ∧ ∃ e', e = .not e' ∧ ofExpr true e' = .ok c) := by
  cases e with
  | not e' =>
    obtain ⟨n, hn, h⟩ := Except.bind_eq_ok.1 h
    obtain ⟨hone, rfl⟩ := negate_eq_ok.1 hn
    cases negated with
    | false => exact .inr ⟨rfl, e', rfl, h⟩
    | true => cases hone rfl
  | compare =>
    cases h
    exact .inl ⟨trivial, fun _ => rfl, rfl⟩
  | between | inList | like =>
    obtain ⟨n, hn, h⟩ := Except.bind_eq_ok.1 h
    cases h
    exact .inl ⟨trivial, (negate_eq_ok.1 hn).1, rfl⟩
  | isNull own =>
    cases own <;> cases h <;> exact .inl ⟨trivial, fun _ => rfl, rfl⟩
  | _ => cases h

/-- The first operand of a condition is the first of its operands. -/
theorem firstOperand?_of_isCondition {e : Expr} (h : e.IsCondition) :
    e.firstOperand? = e.operands.head? := by
  cases e <;> first | rfl | cases h

/-- An expression that is a condition is one behind at most one `NOT`. -/
theorem exists_of_ofExpr {e : Expr} {c : Condition} (h : ofExpr false e = .ok c) :
    ∃ e', (e = e' ∨ e = .not e' ∧ e'.hasNot = false) ∧ e'.IsCondition ∧
      e'.operands = c.subject :: c.operands ∧ e.firstOperand? = some c.subject := by
  rcases ofExpr_cases h with ⟨hcond, -, hoperands⟩ | ⟨-, e', rfl, h'⟩
  · exact ⟨e, .inl rfl, hcond, hoperands, by rw [firstOperand?_of_isCondition hcond, hoperands]; rfl⟩
  · -- Behind the `NOT` stands a condition that has none, as there is only one step down.
    rcases ofExpr_cases h' with ⟨hcond, hnot, hoperands⟩ | ⟨⟨⟩, -⟩
    refine ⟨e', .inr ⟨rfl, hnot rfl⟩, hcond, hoperands, ?_⟩
    rw [Expr.firstOperand?, firstOperand?_of_isCondition hcond, hoperands]
    rfl

end Condition

namespace Term

/-- An expression that is a term is one condition behind at most one `NOT`, and nothing
    stands below the condition but constants, columns, calls and arithmetic, except in the
    arguments of a call that is kept as text. The subject comes from the first operand,
    which is no operator, and from nothing else. There are as many values as the operator
    takes, and the one of `LIKE` is a string. -/
theorem ofExpr_supported (config : Config) (e : Expr) (t : Term)
    (h : ofExpr config.datePatterns e = .ok t) :
    (∃ condition : Expr, (e = condition ∨ e = .not condition ∧ condition.hasNot = false) ∧
      condition.IsCondition ∧
      ∀ operand ∈ condition.operands, ∀ p : Expr, p.StandsIn false operand → p.IsScalar) ∧
    (∃ first, e.firstOperand? = some first ∧
      Subject.ofExpr config.datePatterns first = .ok t.subject ∧
      ∀ op left right, first ≠ .binary op left right) ∧
    (∀ e' t', ofExpr config.datePatterns e' = .ok t' → e'.firstOperand? = e.firstOperand? →
      t'.subject = t.subject) ∧
    t.operator.arity.accepts t.values.length ∧
    (t.operator = .like → ∃ s, t.values = [.literal (.string s)]) := by
  obtain ⟨c, vs, hc, hs, hvs, -, -, -, -⟩ := ofExpr_eq_ok.1 h
  obtain ⟨condition, hcondition, hkind, hoperands, hfirst⟩ := Condition.exists_of_ofExpr hc
  have hwell := wellFormed_of_ofExpr h
  refine ⟨⟨condition, hcondition, hkind, ?_⟩, ⟨c.subject, hfirst, hs,
    (Subject.isSupported_of_ofExpr hs).2⟩, ?_, hwell.arity, ?_⟩
  · rw [hoperands, List.forall_mem_cons]
    refine ⟨(Subject.isSupported_of_ofExpr hs).1, fun operand ho => ?_⟩
    obtain ⟨v, hv⟩ := Except.exists_mapM_eq_ok.1 ⟨vs, hvs⟩ operand ho
    exact Operand.isSupported_of_ofExpr hv
  · intro e' t' h' hsame
    obtain ⟨c', vs', hc', hs', -⟩ := ofExpr_eq_ok.1 h'
    obtain ⟨-, -, -, -, hfirst'⟩ := Condition.exists_of_ofExpr hc'
    have hsubject : c'.subject = c.subject := by
      rw [hfirst, hfirst'] at hsame
      exact Option.some.inj hsame
    rw [hsubject] at hs'
    exact Except.ok.inj (hs'.symm.trans hs)
  · intro hlike
    obtain ⟨s, others, hvalues⟩ := hwell.pattern hlike
    have harity := hwell.arity
    rw [hlike, hvalues] at harity
    obtain rfl : others = [] := by simpa [TermOperator.arity, Arity.accepts] using harity
    exact ⟨s, hvalues⟩

/-- A condition with a boolean in a call that is kept as text. -/
def quoting : Expr :=
  .not (.inList false (.call "f" [.call "g" [.boolean true]])
    [.binary .add (.call "days" [.constant (.long 2)]) (.constant (.long 1)), .column ⟨none, "b"⟩])

/-- A term whose subject has a call as text in its argument, and what its condition is made of. -/
theorem ofExpr_supported_quoting :
    ofExpr ({} : Config).datePatterns quoting =
      .ok ⟨.call "f" (some (.string "g(TRUE)")), .in, true,
        [.literal (.long 172800001), .column ⟨none, "b"⟩]⟩ ∧
    ∃ condition : Expr, (quoting = condition ∨ quoting = .not condition ∧ condition.hasNot = false) ∧
      condition.IsCondition ∧
      ∀ operand ∈ condition.operands, ∀ p : Expr, p.StandsIn false operand → p.IsScalar := by
  have h : ofExpr ({} : Config).datePatterns quoting =
      .ok ⟨.call "f" (some (.string "g(TRUE)")), .in, true,
        [.literal (.long 172800001), .column ⟨none, "b"⟩]⟩ := by
    cbv
  exact ⟨h, (ofExpr_supported {} quoting _ h).1⟩

end Term

end RecordFilter
