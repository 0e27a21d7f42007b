import RecordFilter.Proofs.Arithmetic.Stack

/-!
# Values of operands and of the whole

An operator of an arithmetic expression is applied to the values of its operands. What the
operands share is the scale that a calendar unit sets: it waits for the next whole number in the
order of writing, which may stand in the other operand. So the right operand is computed with
the scale that the left one leaves, and each operand counts for itself if every calendar unit in
the left one has a whole number to scale (`Expr.evaluate_binary`).

A call of no or of several arguments does not leave one number, but two such operands together
may leave the two that the operator needs.
-/

namespace RecordFilter

variable {patterns : List DatePattern}

/-! ## Scales -/

namespace Expr

mutual

/-- Whether a whole number is among what is computed of an expression. -/
def holdsNumber : Expr → Bool
  | .constant (.long _) => true
  | .binary _ left right => holdsNumber left || holdsNumber right
  | .call function arguments => (calendarUnit? function).isSome && anyHoldsNumber arguments
  | _ => false

/-- Whether a whole number is among what is computed of several expressions. -/
def anyHoldsNumber : List Expr → Bool
  | [] => false
  | e :: es => holdsNumber e || anyHoldsNumber es

end

/-- Every calendar unit in the expression has a whole number to scale among its arguments. -/
def UnitsHoldNumbers (e : Expr) : Prop :=
  ∀ function arguments, (Expr.call function arguments).IsPart e →
    (calendarUnit? function).isSome → anyHoldsNumber arguments

theorem UnitsHoldNumbers.operand {e operand : Expr} (h : e.UnitsHoldNumbers)
    (ho : operand ∈ e.operands) : operand.UnitsHoldNumbers :=
  fun function arguments hp => h function arguments (.operand ho hp)

/-- The scale is used up if there is a whole number, or if there was none. -/
theorem scaleAfter_eq_one {scale : Int64} {e : Expr} (hunits : e.UnitsHoldNumbers)
    (h : e.holdsNumber ∨ scale = 1) : e.scaleAfter scale = 1 := by
  refine scaleAfter.induct
    (fun scale e => e.UnitsHoldNumbers → e.holdsNumber ∨ scale = 1 → e.scaleAfter scale = 1)
    (fun scale es => (∀ e ∈ es, e.UnitsHoldNumbers) → anyHoldsNumber es ∨ scale = 1 →
      scaleAfterAll scale es = 1)
    ?number ?binary ?unit ?function ?other ?nil ?cons scale e hunits h
  case number =>
    intro scale n _ _
    rw [scaleAfter]
  case binary =>
    intro scale op l r ihl ihr hunits h
    have hl := ihl (hunits.operand (by simp [operands]))
    have hr := ihr (hunits.operand (by simp [operands]))
    rw [scaleAfter]
    rw [holdsNumber, Bool.or_eq_true] at h
    rcases h with (h | h) | h
    · exact hr (.inr (hl (.inl h)))
    · exact hr (.inl h)
    · exact hr (.inr (hl (.inr h)))
  case unit =>
    intro scale function arguments unit hunit ih hunits _
    -- The scale that the unit sets is ended by a number among its arguments.
    rw [scaleAfter, hunit]
    have hnumber := hunits function arguments .self (by rw [hunit]; rfl)
    exact ih (fun e he => hunits.operand he) (.inl hnumber)
  case function =>
    intro scale function arguments hunit _ h
    rw [holdsNumber, hunit] at h
    rw [scaleAfter, hunit]
    simpa using h
  case other =>
    intro scale e hnumber hbinary hcall _ h
    rw [holdsNumber] at h
    · rw [scaleAfter]
      · simpa using h
      all_goals assumption
    all_goals assumption
  case nil =>
    intro scale _ h
    rw [scaleAfterAll]
    simpa [anyHoldsNumber] using h
  case cons =>
    intro scale e es ih ihs hunits h
    have he := ih (hunits e List.mem_cons_self)
    have hes := ihs fun e he => hunits e (List.mem_cons_of_mem _ he)
    rw [scaleAfterAll]
    rw [anyHoldsNumber, Bool.or_eq_true] at h
    rcases h with (h | h) | h
    · exact hes (.inr (he (.inl h)))
    · exact hes (.inl h)
    · exact hes (.inr (he (.inr h)))

/-! ## Values -/

open Arithmetic

/-- The value of an arithmetic expression that is computed with a scale. -/
def evaluateFrom (patterns : List DatePattern) (scale : Int64) (e : Expr) :
    Except Unsupported Int64 := do
  let s ← Arithmetic.run patterns { scale := scale } e
  match s.stack with
  | [value] => return value
  | _ => throw (.notOneValue e.text)

theorem evaluate_eq_evaluateFrom (e : Expr) : e.evaluate patterns = e.evaluateFrom patterns 1 :=
  rfl

/-- The value of an expression is the one number that it leaves on an empty stack. -/
theorem evaluateFrom_eq_ok {scale v : Int64} {e : Expr} :
    e.evaluateFrom patterns scale = .ok v ↔
      run patterns ⟨[], scale⟩ e = .ok ⟨[v], e.scaleAfter scale⟩ := by
  constructor
  · intro h
    obtain ⟨s, hs, h⟩ := Except.bind_eq_ok.1 h
    have hscale := (adds_run hs).scale_eq
    obtain ⟨stack, scale'⟩ := s
    split at h
    · next value hstack =>
      obtain rfl := Except.pure_eq_ok.1 h
      rw [hs]
      exact congrArg _ (by rw [State.mk.injEq]; exact ⟨hstack, hscale⟩)
    · cases h
  · intro h
    rw [evaluateFrom, h]
    rfl

/-- An operator is applied to the values of its operands, the right one with the scale that the
    left one leaves. -/
theorem evaluateFrom_binary {scale a b v : Int64} {op : BinaryOperator} {l r : Expr}
    (hop : op.isArithmetic) (hl : l.evaluateFrom patterns scale = .ok a)
    (hr : r.evaluateFrom patterns (l.scaleAfter scale) = .ok b) (hv : op.IsResult a b v) :
    (binary op l r).evaluateFrom patterns scale = .ok v := by
  rw [evaluateFrom_eq_ok] at hl hr ⊢
  rw [run, if_pos hop, hl, Except.bind_ok]
  -- The right operand is computed above the value of the left one, which it does not touch.
  have hframe := (adds_run hr).frame [a]
  simp only [List.nil_append] at hframe
  rw [hframe, Except.bind_ok, scaleAfter]
  exact apply_eq_ok.2 ⟨a, b, v, [], rfl, hv, rfl⟩

/-- What an operator that gives a value took off the stack. -/
theorem of_evaluateFrom_binary {scale v : Int64} {op : BinaryOperator} {l r : Expr}
    (h : (binary op l r).evaluateFrom patterns scale = .ok v) : ∃ sl a b,
      run patterns ⟨[], scale⟩ l = .ok sl ∧
        run patterns sl r = .ok ⟨[b, a], r.scaleAfter sl.scale⟩ ∧ op.IsResult a b v := by
  rw [evaluateFrom_eq_ok, run] at h
  split at h
  · obtain ⟨sl, hl, h⟩ := Except.bind_eq_ok.1 h
    obtain ⟨sr, hr, h⟩ := Except.bind_eq_ok.1 h
    obtain ⟨a, b, v', rest, hstack, hv, hs⟩ := apply_eq_ok.1 h
    -- Nothing but the result is on the stack, so there were only these two numbers on it.
    obtain ⟨hlist, -⟩ := State.mk.inj hs
    obtain ⟨rfl, rfl⟩ := List.cons.inj hlist
    have hscale := (adds_run hr).scale_eq
    refine ⟨sl, a, b, hl, hr.trans ?_, hv⟩
    rw [← hscale, ← hstack]
  · cases h

theorem valueCount_add_eq_two {scale v : Int64} {op : BinaryOperator} {l r : Expr}
    (h : (binary op l r).evaluateFrom patterns scale = .ok v) :
    l.valueCount + r.valueCount = 2 := by
  obtain ⟨sl, a, b, hl, hr, -⟩ := of_evaluateFrom_binary h
  have hlenl := (adds_run hl).length_eq
  have hlenr := (adds_run hr).length_eq
  simp only [List.length_cons, List.length_nil] at hlenl hlenr
  omega

/-- If one operand of an operator that gives a value leaves one number, then each has a value. -/
theorem exists_of_evaluateFrom_binary {scale v : Int64} {op : BinaryOperator} {l r : Expr}
    (hr : r.HasSingleOperands) (hone : l.valueCount = 1 ∨ r.valueCount = 1)
    (h : (binary op l r).evaluateFrom patterns scale = .ok v) : ∃ a b,
      l.evaluateFrom patterns scale = .ok a ∧
        r.evaluateFrom patterns (l.scaleAfter scale) = .ok b ∧ op.IsResult a b v := by
  have htwo := valueCount_add_eq_two h
  obtain ⟨sl, a, b, hl, hrun, hv⟩ := of_evaluateFrom_binary h
  obtain ⟨x, hx⟩ := List.length_eq_one_iff.1 ((adds_run hl).length_eq_one (by omega))
  -- The stack is what the right operand puts on it, above the one value of the left operand.
  obtain ⟨ws, hws, halone⟩ := run_alone hr hrun
  rw [hx] at hws
  obtain ⟨rfl, hnil⟩ := List.append_inj' (show [b] ++ [a] = _ from hws) rfl
  obtain rfl : a = x := by simpa using hnil
  have hscale := (adds_run hl).scale_eq
  refine ⟨a, b, evaluateFrom_eq_ok.2 ?_, evaluateFrom_eq_ok.2 ?_, hv⟩
  · rw [hl, ← hscale, ← hx]
  · rw [← hscale]
    exact halone

theorem evaluateFrom_number {scale n v : Int64} :
    (constant (.long n)).evaluateFrom patterns scale = .ok v ↔
      v.toInt = n.toInt * scale.toInt := by
  rw [evaluateFrom_eq_ok, run, State.pushConstant, ← toInt_of_fit?]
  cases fit? (n.toInt * scale.toInt) with
  | none => simp
  | some m => simp [scaleAfter]

/-- A calendar unit scales its argument, whatever scale there was before. -/
theorem evaluateFrom_unit {function : String} {argument : Expr} {scale unit v : Int64}
    (hunit : calendarUnit? function = some unit) :
    (call function [argument]).evaluateFrom patterns scale = .ok v ↔
      argument.evaluateFrom patterns unit = .ok v := by
  have hscale : (call function [argument]).scaleAfter scale = argument.scaleAfter unit := by
    simp only [scaleAfter, hunit, scaleAfterAll]
  rw [evaluateFrom_eq_ok, evaluateFrom_eq_ok, hscale, run, hunit]
  simp only [runAll]
  cases run patterns ⟨[], unit⟩ argument <;> rfl

/-- The value of an operator is that of the values of its operands, up to the scale that the left
    operand leaves to the right one. -/
theorem evaluate_binary (patterns : List DatePattern) {op : BinaryOperator}
    (hop : op.isArithmetic) (l r : Expr) :
    (∀ e : Expr, e.evaluate patterns = e.evaluateFrom patterns 1) ∧
    (∀ scale n v, (constant (.long n)).evaluateFrom patterns scale = .ok v ↔
      v.toInt = n.toInt * scale.toInt) ∧
    (∀ function argument scale unit v, calendarUnit? function = some unit →
      ((call function [argument]).evaluateFrom patterns scale = .ok v ↔
        argument.evaluateFrom patterns unit = .ok v)) ∧
    (∀ function arguments scale, (calendarUnit? function).isSome →
      (call function arguments).UnitsHoldNumbers →
      (call function arguments).scaleAfter scale = 1) ∧
    (∀ scale a b v, l.evaluateFrom patterns scale = .ok a →
      r.evaluateFrom patterns (l.scaleAfter scale) = .ok b → op.IsResult a b v →
      (binary op l r).evaluateFrom patterns scale = .ok v) ∧
    (∀ scale v, r.HasSingleOperands → l.valueCount = 1 ∨ r.valueCount = 1 →
      (binary op l r).evaluateFrom patterns scale = .ok v → ∃ a b,
        l.evaluateFrom patterns scale = .ok a ∧
        r.evaluateFrom patterns (l.scaleAfter scale) = .ok b ∧ op.IsResult a b v) ∧
    (∀ e : Expr, e.HasSingleArguments → e.HasSingleOperands ∧ e.valueCount = 1) ∧
    (∀ scale v, l.valueCount + r.valueCount ≠ 2 →
      (binary op l r).evaluateFrom patterns scale ≠ .ok v) ∧
    (∀ v, l.UnitsHoldNumbers → r.HasSingleOperands → l.valueCount = 1 ∨ r.valueCount = 1 →
      ((binary op l r).evaluate patterns = .ok v ↔ ∃ a b,
        l.evaluate patterns = .ok a ∧ r.evaluate patterns = .ok b ∧ op.IsResult a b v)) := by
  refine ⟨evaluate_eq_evaluateFrom, fun _ _ _ => evaluateFrom_number,
    fun _ _ _ _ _ hunit => evaluateFrom_unit hunit, fun function arguments scale hunit hunits => ?_,
    fun _ _ _ _ => evaluateFrom_binary hop, fun _ _ => exists_of_evaluateFrom_binary,
    fun _ h => ⟨h.hasSingleOperands, valueCount_eq_one h⟩,
    fun _ _ hcount h => hcount (valueCount_add_eq_two h), fun v hunits hr hone => ?_⟩
  · refine scaleAfter_eq_one hunits (.inl ?_)
    rw [holdsNumber, hunit, hunits function arguments .self hunit]
    rfl
  · -- Only here is the scale left at 1 by the left operand, because its units hold whole numbers.
    have hscale : l.scaleAfter 1 = 1 := scaleAfter_eq_one hunits (.inr rfl)
    simp only [evaluate_eq_evaluateFrom]
    constructor
    · intro h
      have := exists_of_evaluateFrom_binary hr hone h
      rwa [hscale] at this
    · rintro ⟨a, b, ha, hb, hv⟩
      exact evaluateFrom_binary hop ha (by rwa [hscale]) hv

/-- A calendar unit with a whole number is done with it, one with a date is not, and one with two
    numbers leaves one too many. -/
theorem evaluate_days :
    (binary .add (call "days" [constant (.long 2)]) (constant (.long 3600000))).evaluate [] =
        .ok 176400000 ∧
      (binary .add (call "days" [constant (.date ⟨1970, 1, 1, by decide⟩)])
        (constant (.long 5))).evaluate [] = .ok 432000000 ∧
      ∀ v, (binary .add (call "days" [constant (.long 3), constant (.long 4)])
        (constant (.long 5))).evaluate [] ≠ .ok v := by
  have hnumber (n : Int64) : (constant (.long n)).HasSingleOperands := by
    rintro op left right (_ | ⟨ho, -⟩)
    cases ho
  have hunits : (call "days" [constant (.long 2)]).UnitsHoldNumbers := by
    rintro function arguments (_ | ⟨ho, hp⟩) -
    · rfl
    · obtain rfl := List.mem_singleton.1 ho
      cases hp with
      | operand ho => cases ho
  refine ⟨?_, ?_, ?_⟩
  · obtain ⟨-, -, -, -, -, -, -, -, hiff⟩ := @evaluate_binary [] .add rfl
      (call "days" [constant (.long 2)]) (constant (.long 3600000))
    exact (hiff _ hunits (hnumber _) (.inl rfl)).2
      ⟨172800000, 3600000, by decide +kernel, by decide +kernel, by decide, by decide⟩
  · obtain ⟨-, -, -, -, hforward, -⟩ := @evaluate_binary [] .add rfl
      (call "days" [constant (.date ⟨1970, 1, 1, by decide⟩)]) (constant (.long 5))
    exact hforward 1 0 432000000 432000000 (by decide +kernel) (by decide +kernel)
      ⟨by decide, by decide⟩
  · obtain ⟨-, -, -, -, -, -, -, hfails, -⟩ := @evaluate_binary [] .add rfl
      (call "days" [constant (.long 3), constant (.long 4)]) (constant (.long 5))
    exact fun v => hfails 1 v (by decide)

/-- The operands alone do not give the value of the whole: a calendar unit with a date scales the
    number behind it, and two operands without a value of their own may have one together. -/
theorem evaluate_not_compositional :
    ((call "days" [constant (.date ⟨2020, 1, 1, by decide⟩)]).evaluate [] = .ok 1577836800000 ∧
      (constant (.long 5)).evaluate [] = .ok 5 ∧
      (binary .add (call "days" [constant (.date ⟨2020, 1, 1, by decide⟩)])
        (constant (.long 5))).evaluate [] = .ok 1578268800000 ∧
      ¬ BinaryOperator.IsResult .add 1577836800000 5 1578268800000) ∧
    (call "days" [constant (.long 3), constant (.long 4)]).evaluate [] =
      .error (.notOneValue "days(3, 4)") ∧
    (binary .add (call "days" [constant (.long 3), constant (.long 4)])
      (call "days" [])).evaluate [] = .ok 259200004 := by
  refine ⟨⟨by decide +kernel, by decide +kernel, by decide +kernel, ?_⟩, by decide +kernel,
    by decide +kernel⟩
  rintro ⟨-, h⟩
  exact absurd h (by decide)

end Expr

end RecordFilter
