import RecordFilter.Proofs.Arithmetic.Stack
import RecordFilter.Proofs.Comparison.Instants

/-!
# Exact values

The value of arithmetic over whole numbers, dates and times is the exact one: that of the
expression over integers without bounds (`Expr.exactValue?`), where a division is truncated toward
zero. There is one as long as no divisor is zero and every number that comes up on the way fits
into 64 bits; otherwise a part of the expression is to blame (`Expr.Blames`), and the error names
the numbers that it was about. Nothing wraps around in silence (`Expr.evaluate_exact`).

A calendar unit counts one whole number here, which uses up its scale, so every operand is computed
with scale 1 and puts one number on the stack (`Arithmetic.run_isPlain`).
-/

namespace RecordFilter

variable {patterns : List DatePattern}

/-! ## Numbers of 64 bits -/

/-- The number fits into 64 bits. -/
def FitsLong (n : Int) : Prop :=
  -2 ^ 63 ≤ n ∧ n < 2 ^ 63

instance (n : Int) : Decidable (FitsLong n) :=
  inferInstanceAs (Decidable (_ ∧ _))

theorem fitsLong_toInt (v : Int64) : FitsLong v.toInt :=
  ⟨v.le_toInt, v.toInt_lt⟩

theorem exists_fit?_eq_some {n : Int} (h : FitsLong n) : ∃ v, fit? n = some v ∧ v.toInt = n := by
  have hv : (Int64.ofInt n).toInt = n := Int64.toInt_ofInt_of_le h.1 h.2
  exact ⟨_, toInt_of_fit?.2 hv, hv⟩

theorem fit?_eq_none {n : Int} (h : ¬ FitsLong n) : fit? n = none := by
  cases hv : fit? n with
  | none => rfl
  | some v => exact absurd (toInt_of_fit?.1 hv ▸ fitsLong_toInt v) h

namespace DateText

/-- What a text is read as is the milliseconds of a moment or a date. -/
theorem exists_millis?_eq_some {text : String} {n : Int} (h : millis? patterns text = some n) :
    ∃ v : Literal, v.millis? = some n := by
  simp only [millis?] at h
  split at h
  · cases h
  · obtain ⟨pattern, -, h⟩ := List.exists_of_findSome?_eq_some h
    unfold millisBy? at h
    split at h
    · cases h
    · split at h
      · next t _ => exact ⟨.timestamp t, h⟩
      · obtain ⟨d, -, h⟩ := Option.map_eq_some_iff.1 h
        exact ⟨.date d, congrArg some h⟩

end DateText

namespace BinaryOperator

/-- Whether the operator is a division. -/
def IsDivision (op : BinaryOperator) : Prop :=
  op = .div ∨ op = .integerDiv

instance (op : BinaryOperator) : Decidable op.IsDivision :=
  inferInstanceAs (Decidable (_ ∨ _))

/-- The result of an operator over integers without bounds. A division is truncated toward zero, and
    there is none by zero. -/
def exactResult? : BinaryOperator → Int → Int → Option Int
  | .add, a, b => some (a + b)
  | .sub, a, b => some (a - b)
  | .mul, a, b => some (a * b)
  | .div, a, b | .integerDiv, a, b => if b = 0 then none else some (a.tdiv b)
  | _, _, _ => none

/-- Both divisions have the same result. -/
theorem exactResult?_of_division {op : BinaryOperator} (h : op.IsDivision) (a b : Int) :
    op.exactResult? a b = if b = 0 then none else some (a.tdiv b) := by
  rcases h with rfl | rfl <;> rfl

/-- Of arithmetic operators only a division by zero has no result. -/
theorem exactResult?_eq_none {op : BinaryOperator} (hop : op.isArithmetic) {a b : Int} :
    op.exactResult? a b = none ↔ op.IsDivision ∧ b = 0 := by
  by_cases hdiv : op.IsDivision
  · simp [exactResult?_of_division hdiv, hdiv]
  · simp only [hdiv, false_and, iff_false]
    cases op with
    | add | sub | mul => exact Option.some_ne_none _
    | div => exact absurd (.inl rfl) hdiv
    | integerDiv => exact absurd (.inr rfl) hdiv
    | _ => cases hop

theorem compute_of_division {op : BinaryOperator} (h : op.IsDivision) (a : Int64) :
    op.compute a 0 = .error .divisionByZero :=
  if_pos ⟨h, rfl⟩

/-- The result in 64 bits is the exact one as long as that fits. -/
theorem compute_of_exactResult? {op : BinaryOperator} {a b : Int64} {n : Int}
    (h : op.exactResult? a.toInt b.toInt = some n) :
    op.compute a b = match fit? n with
      | some v => .ok v
      | none => .error (.overflow a op b) := by
  -- The exact result is the unbounded one where the operator has it, so divisions are the only case
  -- to look at.
  have hunbounded : op.unbounded? a.toInt b.toInt = some n := by
    cases op with
    | add | sub | mul => exact h
    | div | integerDiv =>
      simp only [exactResult?] at h
      split at h
      · cases h
      · exact h
    | _ => cases h
  have hdiv : ¬((op = .div ∨ op = .integerDiv) ∧ b = 0) := by
    rintro ⟨hdiv, rfl⟩
    rw [exactResult?_of_division hdiv] at h
    cases h
  cases hfit : fit? n <;> simp only [compute, if_neg hdiv, hunbounded, hfit]

end BinaryOperator

/-! ## Values without bounds -/

namespace Expr

/-- The value of an arithmetic expression over integers without bounds. There is none if a divisor
    is zero. -/
def exactValue? (patterns : List DatePattern) : Expr → Option Int
  | .constant (.string text) => DateText.millis? patterns text
  | .constant c => c.toLiteral.millis?
  | .binary op left right => do
    let a ← exactValue? patterns left
    let b ← exactValue? patterns right
    op.exactResult? a b
  | .call function [.constant (.long n)] =>
    (calendarUnit? function).map fun unit => n.toInt * unit.toInt
  | _ => none

/-- Arithmetic over whole numbers, dates, times, moments, texts that are read as dates, and whole
    numbers of a calendar unit. -/
inductive IsPlain (patterns : List DatePattern) : Expr → Prop
  | number (n : Int64) : IsPlain patterns (.constant (.long n))
  | date (d : Date) : IsPlain patterns (.constant (.date d))
  | time (t : Time) : IsPlain patterns (.constant (.time t))
  | timestamp (t : Timestamp) : IsPlain patterns (.constant (.timestamp t))
  | text {text : String} : (DateText.millis? patterns text).isSome →
    IsPlain patterns (.constant (.string text))
  | unit {function : String} (n : Int64) : (calendarUnit? function).isSome →
    IsPlain patterns (.call function [.constant (.long n)])
  | binary {op : BinaryOperator} {left right : Expr} : op.isArithmetic → IsPlain patterns left →
    IsPlain patterns right → IsPlain patterns (.binary op left right)

/-- No divisor in the expression is zero, and every number that comes up in computing it fits into
    64 bits. -/
def StaysInRange (patterns : List DatePattern) (e : Expr) : Prop :=
  ∀ part : Expr, part.IsPart e → ∃ n, part.exactValue? patterns = some n ∧ FitsLong n

/-- The part of an expression that is the reason why it has no value, and the error that this
    makes. -/
inductive Blames (patterns : List DatePattern) : Expr → Unsupported → Prop
  | scaling {function : String} {n unit : Int64} : calendarUnit? function = some unit →
    ¬ FitsLong (n.toInt * unit.toInt) →
    Blames patterns (.call function [.constant (.long n)]) (.scalingOverflow n unit)
  | division {op : BinaryOperator} {left right : Expr} : op.IsDivision →
    right.exactValue? patterns = some 0 → Blames patterns (.binary op left right) .divisionByZero
  | overflow {op : BinaryOperator} {left right : Expr} {a b : Int64} {n : Int} :
    left.exactValue? patterns = some a.toInt → right.exactValue? patterns = some b.toInt →
    op.exactResult? a.toInt b.toInt = some n → ¬ FitsLong n →
    Blames patterns (.binary op left right) (.overflow a op b)

theorem StaysInRange.value {e : Expr} (h : e.StaysInRange patterns) :
    ∃ n, e.exactValue? patterns = some n ∧ FitsLong n :=
  h e .self

/-- An expression without operands, or with operands that stay in range, does so itself if its value
    does. -/
theorem staysInRange_of_operands {e : Expr} {n : Int} (hvalue : e.exactValue? patterns = some n)
    (hn : FitsLong n) (ho : ∀ operand ∈ e.operands, operand.StaysInRange patterns) :
    e.StaysInRange patterns := by
  rintro part (_ | ⟨hmem, hp⟩)
  · exact ⟨n, hvalue, hn⟩
  · exact ho _ hmem part hp

/-- The value of an operator is its result for the values of its operands. -/
theorem exactValue?_binary {op : BinaryOperator} {left right : Expr} {a b : Int}
    (hl : left.exactValue? patterns = some a) (hr : right.exactValue? patterns = some b) :
    (binary op left right).exactValue? patterns = op.exactResult? a b := by
  rw [exactValue?, hl, hr]
  rfl

theorem Blames.not_staysInRange {part e : Expr} {cause : Unsupported}
    (h : part.Blames patterns cause) (hp : part.IsPart e) : ¬ e.StaysInRange patterns := by
  intro hrange
  obtain ⟨n, hvalue, hn⟩ := hrange part hp
  cases h with
  | scaling hunit hout =>
    rw [exactValue?, hunit] at hvalue
    obtain rfl := Option.some.inj hvalue
    exact hout hn
  | @division op left right hdiv hzero =>
    rw [exactValue?, hzero] at hvalue
    cases hl : left.exactValue? patterns with
    | none => simp [hl] at hvalue
    | some a => simp [hl, BinaryOperator.exactResult?_of_division hdiv] at hvalue
  | overflow hl hr hvalue' hout =>
    obtain rfl := Option.some.inj (hvalue'.symm.trans ((exactValue?_binary hl hr).symm.trans hvalue))
    exact hout hn

end Expr

/-! ## The stack -/

namespace Arithmetic

open RecordFilter.Expr

/-- What becomes of plain arithmetic that is computed with scale 1 above some numbers: its exact
    value is put on them, or one of its parts is to blame. -/
def RunsExactly (patterns : List DatePattern) (e : Expr) : Prop :=
  ∀ stack, (∃ v : Int64, run patterns ⟨stack, 1⟩ e = .ok ⟨v :: stack, 1⟩ ∧
      e.exactValue? patterns = some v.toInt ∧ e.StaysInRange patterns) ∨
    ∃ (part : Expr) (cause : Unsupported), part.IsPart e ∧ part.Blames patterns cause ∧
      run patterns ⟨stack, 1⟩ e = .error cause

/-- A constant that is pushed as it is. -/
theorem runsExactly_constant {c : Constant} {n : Int} {v : Int64}
    (hvalue : (constant c).exactValue? patterns = some n) (hv : v.toInt = n)
    (hrun : ∀ stack, State.pushConstant patterns ⟨stack, 1⟩ c = .ok ⟨v :: stack, 1⟩) :
    RunsExactly patterns (constant c) := by
  subst hv
  intro stack
  refine .inl ⟨v, ?_, hvalue, ?_⟩
  · rw [run]
    exact hrun stack
  · exact staysInRange_of_operands hvalue (fitsLong_toInt v) (by simp [operands])

/-- A calendar unit counts its whole number exactly, or the product does not fit and is to blame. -/
theorem runsExactly_unit {function : String} {unit : Int64} (n : Int64)
    (hunit : calendarUnit? function = some unit) :
    RunsExactly patterns (call function [constant (.long n)]) := by
  have hvalue : (call function [constant (.long n)]).exactValue? patterns =
      some (n.toInt * unit.toInt) := by
    rw [exactValue?, hunit]
    rfl
  intro stack
  -- The unit becomes the scale, with which the number is then multiplied.
  have hrun : run patterns ⟨stack, 1⟩ (call function [constant (.long n)]) =
      State.pushConstant patterns ⟨stack, unit⟩ (.long n) >>= .ok := by
    rw [run, hunit]
    simp only [runAll, run]
  by_cases hfits : FitsLong (n.toInt * unit.toInt)
  · obtain ⟨v, hv, hvn⟩ := exists_fit?_eq_some hfits
    refine .inl ⟨v, ?_, hvn ▸ hvalue, ?_⟩
    · rw [hrun]
      simp only [State.pushConstant, hv]
      rfl
    · refine staysInRange_of_operands hvalue hfits fun operand ho => ?_
      obtain rfl := List.mem_singleton.1 ho
      exact staysInRange_of_operands rfl (fitsLong_toInt n) (by simp [operands])
  · refine .inr ⟨_, _, .self, .scaling hunit hfits, ?_⟩
    rw [hrun]
    simp only [State.pushConstant, fit?_eq_none hfits]
    rfl

/-- An operator takes the values of its operands off the stack again. -/
theorem runsExactly_binary {op : BinaryOperator} {left right : Expr} (hop : op.isArithmetic)
    (hleft : RunsExactly patterns left) (hright : RunsExactly patterns right) :
    RunsExactly patterns (binary op left right) := by
  have hpart {part operand : Expr} (ho : operand ∈ [left, right]) (hp : part.IsPart operand) :
      part.IsPart (binary op left right) := .operand ho hp
  intro stack
  obtain ⟨a, hl, ha, hlrange⟩ | ⟨part, cause, hp, hblame, hl⟩ := hleft stack
  swap
  · refine .inr ⟨part, cause, hpart (by simp) hp, hblame, ?_⟩
    rw [run, if_pos hop, hl]
    rfl
  obtain ⟨b, hr, hb, hrrange⟩ | ⟨part, cause, hp, hblame, hr⟩ := hright (a :: stack)
  swap
  · refine .inr ⟨part, cause, hpart (by simp) hp, hblame, ?_⟩
    rw [run, if_pos hop, hl, Except.bind_ok, hr]
    rfl
  have hvalue : (binary op left right).exactValue? patterns = _ := exactValue?_binary ha hb
  have hrun : run patterns ⟨stack, 1⟩ (binary op left right) =
      State.apply ⟨b :: a :: stack, 1⟩ op := by
    rw [run, if_pos hop, hl, Except.bind_ok, hr, Except.bind_ok]
  rw [hrun]
  cases hexact : op.exactResult? a.toInt b.toInt with
  | none =>
    obtain ⟨hdiv, hzero⟩ := (BinaryOperator.exactResult?_eq_none hop).1 hexact
    obtain rfl : b = 0 := Int64.toInt_inj.1 hzero
    refine .inr ⟨_, _, .self, .division hdiv hb, ?_⟩
    simp only [State.apply, BinaryOperator.compute_of_division hdiv]
  | some n =>
    have hcompute := BinaryOperator.compute_of_exactResult? hexact
    by_cases hfits : FitsLong n
    · obtain ⟨v, hv, hvn⟩ := exists_fit?_eq_some hfits
      rw [hv] at hcompute
      refine .inl ⟨v, ?_, by rw [hvalue, hexact, hvn], ?_⟩
      · simp only [State.apply, hcompute]
      · refine staysInRange_of_operands (hvalue.trans hexact) hfits fun operand ho => ?_
        rcases List.mem_pair.1 ho with rfl | rfl
        · exact hlrange
        · exact hrrange
    · rw [fit?_eq_none hfits] at hcompute
      refine .inr ⟨_, _, .self, .overflow ha hb hexact hfits, ?_⟩
      simp only [State.apply, hcompute]

/-- Plain arithmetic is computed exactly, or one of its parts is to blame. -/
theorem run_isPlain {e : Expr} (h : e.IsPlain patterns) : RunsExactly patterns e := by
  induction h with
  | number n =>
    refine runsExactly_constant rfl (v := n) rfl fun stack => ?_
    have hone : fit? (n.toInt * (1 : Int64).toInt) = some n :=
      toInt_of_fit?.2 (Int.mul_one _).symm
    simp only [State.pushConstant, hone]
  | date d =>
    exact runsExactly_constant rfl (Literal.toInt_ofInt_millis (a := .date d) rfl) fun _ => rfl
  | time t =>
    exact runsExactly_constant rfl (Literal.toInt_ofInt_millis (a := .time t) rfl) fun _ => rfl
  | timestamp t =>
    exact runsExactly_constant rfl (Literal.toInt_ofInt_millis (a := .timestamp t) rfl) fun _ => rfl
  | text hdate =>
    obtain ⟨n, hn⟩ := Option.isSome_iff_exists.1 hdate
    obtain ⟨v, hv⟩ := DateText.exists_millis?_eq_some hn
    refine runsExactly_constant hn (Literal.toInt_ofInt_millis hv) fun stack => ?_
    simp only [State.pushConstant, hn]
    rfl
  | unit n hunit =>
    obtain ⟨unit, hunit⟩ := Option.isSome_iff_exists.1 hunit
    exact runsExactly_unit n hunit
  | binary hop _ _ ihl ihr => exact runsExactly_binary hop ihl ihr

/-- In range the exact value is put on whatever numbers there are. -/
theorem run_of_staysInRange {e : Expr} {v : Int64} (h : e.IsPlain patterns)
    (hrange : e.StaysInRange patterns) (hv : e.exactValue? patterns = some v.toInt)
    (stack : List Int64) : run patterns ⟨stack, 1⟩ e = .ok ⟨v :: stack, 1⟩ := by
  obtain ⟨w, hrun, hw, -⟩ | ⟨part, cause, hp, hblame, -⟩ := run_isPlain h stack
  · obtain rfl : w = v := Int64.toInt_inj.1 (Option.some.inj (hw.symm.trans hv))
    exact hrun
  · exact absurd hrange (hblame.not_staysInRange hp)

end Arithmetic

namespace Expr

open Arithmetic

theorem evaluate_of_run_ok {e : Expr} {v scale : Int64}
    (h : run patterns ⟨[], 1⟩ e = .ok ⟨[v], scale⟩) : e.evaluate patterns = .ok v := by
  have hrun : run patterns {} e = .ok ⟨[v], scale⟩ := h
  rw [evaluate, hrun]
  rfl

theorem evaluate_of_run_error {e : Expr} {cause : Unsupported}
    (h : run patterns ⟨[], 1⟩ e = .error cause) : e.evaluate patterns = .error cause := by
  have hrun : run patterns {} e = .error cause := h
  rw [evaluate, hrun]
  rfl

/-- Plain arithmetic has a value if it stays in range, and then it is the exact one. -/
theorem evaluate_eq_ok_iff {e : Expr} {v : Int64} (h : e.IsPlain patterns) :
    e.evaluate patterns = .ok v ↔
      e.StaysInRange patterns ∧ e.exactValue? patterns = some v.toInt := by
  constructor
  · intro hv
    obtain ⟨w, hrun, hw, hrange⟩ | ⟨part, cause, -, -, hrun⟩ := run_isPlain h []
    · obtain rfl := Except.ok.inj ((evaluate_of_run_ok hrun).symm.trans hv)
      exact ⟨hrange, hw⟩
    · cases (evaluate_of_run_error hrun).symm.trans hv
  · rintro ⟨hrange, hv⟩
    exact evaluate_of_run_ok (run_of_staysInRange h hrange hv [])

/-- The one quotient that does not fit is an overflow like any other. -/
theorem evaluate_minValue_div {op : BinaryOperator} {left right : Expr}
    (h : (binary op left right).IsPlain patterns) (hop : op.IsDivision)
    (hl : left.evaluate patterns = .ok Int64.minValue) (hr : right.evaluate patterns = .ok (-1)) :
    (binary op left right).evaluate patterns = .error (.overflow Int64.minValue op (-1)) := by
  cases h with
  | binary harith hleft hright =>
    obtain ⟨hlrange, hlvalue⟩ := (evaluate_eq_ok_iff hleft).1 hl
    obtain ⟨hrrange, hrvalue⟩ := (evaluate_eq_ok_iff hright).1 hr
    refine evaluate_of_run_error ?_
    rw [run, if_pos harith, run_of_staysInRange hleft hlrange hlvalue, Except.bind_ok,
      run_of_staysInRange hright hrrange hrvalue, Except.bind_ok]
    rcases hop with rfl | rfl <;> rfl

/-- Plain arithmetic has its exact value, unless a part of it is to blame; the least number divided
    by -1 is no exception. -/
theorem evaluate_exact (patterns : List DatePattern) {e : Expr} (h : e.IsPlain patterns) :
    (∀ v : Int64, e.evaluate patterns = .ok v ↔
      e.StaysInRange patterns ∧ e.exactValue? patterns = some v.toInt) ∧
    (¬ e.StaysInRange patterns → ∃ (part : Expr) (cause : Unsupported),
      part.IsPart e ∧ part.Blames patterns cause ∧ e.evaluate patterns = .error cause) ∧
    (∀ op left right, e = binary op left right → op.IsDivision →
      left.evaluate patterns = .ok Int64.minValue → right.evaluate patterns = .ok (-1) →
      e.evaluate patterns = .error (.overflow Int64.minValue op (-1))) := by
  refine ⟨fun v => evaluate_eq_ok_iff h, fun hout => ?_, ?_⟩
  · obtain ⟨v, -, -, hrange⟩ | ⟨part, cause, hp, hblame, hrun⟩ := run_isPlain h []
    · exact absurd hrange hout
    · exact ⟨part, cause, hp, hblame, evaluate_of_run_error hrun⟩
  · rintro op left right rfl hop hl hr
    exact evaluate_minValue_div h hop hl hr

/-- A date less some days stays in range, the least number has no opposite, and there is a number
    of days that is too large for milliseconds. -/
theorem evaluate_exact_edges :
    (binary .sub (constant (.string "2020/01/03")) (call "days" [constant (.long 2)])).StaysInRange
        ({} : Config).datePatterns ∧
      (binary .div (constant (.long Int64.minValue)) (constant (.long (-1)))).evaluate [] =
        .error (.overflow Int64.minValue .div (-1)) ∧
      ∃ (part : Expr) (cause : Unsupported),
        part.IsPart (call "days" [constant (.long 106751991168)]) ∧ part.Blames [] cause ∧
          (call "days" [constant (.long 106751991168)]).evaluate [] = .error cause := by
  refine ⟨?_, ?_, ?_⟩
  · have htext : (constant (.string "2020/01/03")).IsPlain ({} : Config).datePatterns :=
      .text (by decide +kernel)
    have hdays : (call "days" [constant (.long 2)]).IsPlain ({} : Config).datePatterns :=
      .unit 2 (by decide +kernel)
    have hsub : BinaryOperator.isArithmetic .sub := rfl
    obtain ⟨hiff, -⟩ := evaluate_exact ({} : Config).datePatterns (.binary hsub htext hdays)
    exact ((hiff 1577836800000).1 (by decide +kernel)).1
  · have hdiv : BinaryOperator.isArithmetic .div := rfl
    obtain ⟨-, -, hleast⟩ := evaluate_exact []
      (.binary hdiv (.number Int64.minValue) (.number (-1)))
    exact hleast .div _ _ rfl (.inl rfl) rfl rfl
  · have hdays : (call "days" [constant (.long 106751991168)]).IsPlain [] :=
      .unit 106751991168 (by decide +kernel)
    obtain ⟨-, hblame, -⟩ := evaluate_exact [] hdays
    have hvalue : (call "days" [constant (.long 106751991168)]).exactValue? [] =
        some 9223372036915200000 := by decide +kernel
    refine hblame fun hrange => ?_
    obtain ⟨n, hn, hfits⟩ := hrange.value
    obtain rfl := Option.some.inj (hvalue.symm.trans hn)
    exact absurd hfits (by decide)

end Expr

end RecordFilter
