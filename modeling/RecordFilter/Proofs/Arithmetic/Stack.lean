import RecordFilter.Arithmetic
import RecordFilter.Proofs.Except
import RecordFilter.Proofs.Expr.Parts

/-!
# What a computation does to the stack

A computation that succeeds adds a number of numbers to the stack and leaves a scale, both of
which are plain from the expression (`Expr.valueCount`, `Expr.scaleAfter`), and what is further
down on the stack makes no difference to it (`Arithmetic.adds_run`). A constant leaves one
number, an operator one less than its operands leave together, and a call what its arguments
leave.

The other way round, an expression may have succeeded only because of what was on the stack: an
operator takes numbers that are not those of its operands if a call of no arguments is one of
them. Where every operand leaves one number this does not happen (`Arithmetic.run_alone`).
-/

namespace RecordFilter

variable {patterns : List DatePattern}

/-! ## Operators -/

theorem toInt_of_fit? {n : Int} {v : Int64} : fit? n = some v ↔ v.toInt = n := by
  unfold fit?
  split
  · next h =>
    have hn : (Int64.ofInt n).toInt = n := Int64.toInt_ofInt_of_le (by omega) (by omega)
    rw [Option.some_inj]
    constructor
    · rintro rfl
      exact hn
    · intro hv
      exact Int64.toInt_inj.1 (hn.trans hv.symm)
  · next h =>
    have := v.le_toInt
    have := v.toInt_lt
    simp only [reduceCtorEq, false_iff]
    omega

namespace BinaryOperator

/-- The number is the result of an arithmetic operator: the exact one, which fits into 64 bits,
    and not that of a division by zero. -/
def IsResult (op : BinaryOperator) (a b v : Int64) : Prop :=
  (op = .div ∨ op = .integerDiv → b ≠ 0) ∧ op.unbounded? a.toInt b.toInt = some v.toInt

theorem compute_eq_ok {op : BinaryOperator} {a b v : Int64} :
    op.compute a b = .ok v ↔ op.IsResult a b v := by
  unfold compute IsResult
  split
  · next h =>
    simp only [reduceCtorEq, false_iff, not_and]
    exact fun hb => absurd h.2 (hb h.1)
  · next h =>
    have hdivisor : op = .div ∨ op = .integerDiv → b ≠ 0 := fun hop hb => h ⟨hop, hb⟩
    cases op.unbounded? a.toInt b.toInt with
    | none => simp
    | some n =>
      cases hn : fit? n with
      | none =>
        have hne : n ≠ v.toInt := by
          rintro rfl
          rw [toInt_of_fit?.2 rfl] at hn
          cases hn
        simp [hn, hne]
      | some result =>
        have hresult := toInt_of_fit?.1 hn
        simp only [hn, Except.ok.injEq, Option.some_inj]
        rw [← hresult, Int64.toInt_inj]
        exact (and_iff_right hdivisor).symm

end BinaryOperator

/-! ## Numbers that are left -/

namespace Expr

mutual

/-- How many numbers more there are on the stack after an expression was computed. -/
def valueCount : Expr → Int
  | .binary _ left right => valueCount left + valueCount right - 1
  | .call _ arguments => valueCounts arguments
  | _ => 1

/-- How many numbers more there are on the stack after several expressions were computed. -/
def valueCounts : List Expr → Int
  | [] => 0
  | e :: es => valueCount e + valueCounts es

end

mutual

/-- The scale after an expression was computed with a scale. -/
def scaleAfter (scale : Int64) : Expr → Int64
  | .constant (.long _) => 1
  | .binary _ left right => scaleAfter (scaleAfter scale left) right
  | .call function arguments =>
    match calendarUnit? function with
    | some unit => scaleAfterAll unit arguments
    | none => scale
  | _ => scale

/-- The scale after several expressions were computed, the first one with a scale. -/
def scaleAfterAll (scale : Int64) : List Expr → Int64
  | [] => scale
  | e :: es => scaleAfterAll (scaleAfter scale e) es

end

/-- Every operand of an operator in the expression leaves one number. -/
def HasSingleOperands (e : Expr) : Prop :=
  ∀ op left right, (Expr.binary op left right).IsPart e → left.valueCount = 1 ∧ right.valueCount = 1

/-- Every call in the expression has one argument. -/
def HasSingleArguments (e : Expr) : Prop :=
  ∀ function arguments, (Expr.call function arguments).IsPart e → arguments.length = 1

theorem HasSingleArguments.operand {e operand : Expr} (h : e.HasSingleArguments)
    (ho : operand ∈ e.operands) : operand.HasSingleArguments :=
  fun function arguments hp => h function arguments (.operand ho hp)

/-- If calls have one argument each, the whole leaves one number. The induction goes along the
    counting: several expressions leave one number each. -/
theorem valueCount_eq_one {e : Expr} (h : e.HasSingleArguments) : e.valueCount = 1 := by
  refine valueCount.induct (fun e => e.HasSingleArguments → e.valueCount = 1)
    (fun es => (∀ e ∈ es, e.HasSingleArguments) → valueCounts es = es.length)
    ?binary ?call ?other ?nil ?cons e h
  case binary =>
    intro op l r ihl ihr h
    rw [valueCount, ihl (h.operand (by simp [operands])), ihr (h.operand (by simp [operands]))]
    rfl
  case call =>
    intro function arguments ih h
    rw [valueCount, ih fun e he => h.operand he, h function arguments .self]
    rfl
  case other =>
    intro e hbinary hcall _
    rw [valueCount]
    all_goals assumption
  case nil =>
    intro _
    rfl
  case cons =>
    intro e es ih ihs h
    rw [valueCounts, ih (h e List.mem_cons_self), ihs fun e he => h e (List.mem_cons_of_mem _ he),
      List.length_cons]
    omega

/-- Calls of one argument each leave one number for every operand. -/
theorem HasSingleArguments.hasSingleOperands {e : Expr} (h : e.HasSingleArguments) :
    e.HasSingleOperands := by
  intro op left right hp
  have hpart (operand : Expr) (ho : operand ∈ [left, right]) : operand.HasSingleArguments :=
    fun function arguments hcall =>
      h function arguments (hcall.trans ((isPart_of_mem ho).trans hp))
  exact ⟨valueCount_eq_one (hpart left (by simp)), valueCount_eq_one (hpart right (by simp))⟩

theorem HasSingleOperands.operand {e operand : Expr} (h : e.HasSingleOperands)
    (ho : operand ∈ e.operands) : operand.HasSingleOperands :=
  fun op left right hp => h op left right (.operand ho hp)

end Expr

namespace Arithmetic

/-! ## Single steps -/

/-- A constant leaves one number, or it fails, whatever is on the stack. -/
theorem exists_pushConstant_eq (scale : Int64) (c : Constant) :
    ∃ x : Except Unsupported Int64, ∀ stack, State.pushConstant patterns ⟨stack, scale⟩ c =
      x.map fun v => ⟨v :: stack, (Expr.constant c).scaleAfter scale⟩ := by
  cases c with
  | long n =>
    cases h : fit? (n.toInt * scale.toInt) with
    | none => exact ⟨.error _, fun stack => by simp only [State.pushConstant, h]; rfl⟩
    | some v => exact ⟨.ok v, fun stack => by simp only [State.pushConstant, h]; rfl⟩
  | string text =>
    cases h : DateText.millis? patterns text with
    | none => exact ⟨.error _, fun stack => by simp only [State.pushConstant, h]; rfl⟩
    | some n => exact ⟨.ok (Int64.ofInt n), fun stack => by simp only [State.pushConstant, h]; rfl⟩
  | date d => exact ⟨.ok (Int64.ofInt d.epochMillis), fun _ => rfl⟩
  | time t => exact ⟨.ok (Int64.ofNat t.dayMillis), fun _ => rfl⟩
  | timestamp t => exact ⟨.ok (Int64.ofInt t.epochMillis), fun _ => rfl⟩
  | double | null => exact ⟨.error _, fun _ => rfl⟩

/-- An operator takes the two last numbers off the stack, the right operand first, and puts their
    result on it. -/
theorem apply_eq_ok {s s' : State} {op : BinaryOperator} : s.apply op = .ok s' ↔
    ∃ a b v rest, s.stack = b :: a :: rest ∧ op.IsResult a b v ∧ s' = ⟨v :: rest, s.scale⟩ := by
  simp only [← BinaryOperator.compute_eq_ok]
  obtain ⟨stack, scale⟩ := s
  -- There are fewer than two numbers, and nothing is computed, or there are two above the rest.
  rcases stack with _ | ⟨b, _ | ⟨a, rest⟩⟩
  · simp [State.apply]
  · simp [State.apply]
  · cases hv : op.compute a b with
    | error cause =>
      simp only [State.apply, hv, reduceCtorEq, false_iff]
      rintro ⟨a', b', v, rest', hstack, hcompute, -⟩
      cases hstack
      cases hv.symm.trans hcompute
    | ok v =>
      simp only [State.apply, hv]
      constructor
      · intro h
        exact ⟨a, b, v, rest, rfl, hv, (Except.ok.inj h).symm⟩
      · rintro ⟨a', b', v', rest', hstack, hcompute, rfl⟩
        cases hstack
        obtain rfl := Except.ok.inj (hv.symm.trans hcompute)
        rfl

/-! ## Computations -/

/-- Induction over the computations that succeed: what is no arithmetic has no case. -/
theorem run_ok_induct {P : State → Expr → State → Prop} {Q : State → List Expr → State → Prop}
    (constant : ∀ s c s', s.pushConstant patterns c = .ok s' → P s (.constant c) s')
    (arithmetic : ∀ s op left right sl sr s', op.isArithmetic = true → P s left sl →
      P sl right sr → sr.apply op = .ok s' → P s (.binary op left right) s')
    (unit : ∀ s function arguments unit s', calendarUnit? function = some unit →
      Q ⟨s.stack, unit⟩ arguments s' → P s (.call function arguments) s')
    (nil : ∀ s, Q s [] s)
    (cons : ∀ s e es mid s', P s e mid → Q mid es s' → Q s (e :: es) s') :
    (∀ s e s', run patterns s e = .ok s' → P s e s') ∧
      ∀ s es s', runAll patterns s es = .ok s' → Q s es s' := by
  refine run.mutual_induct (fun s e => ∀ s', run patterns s e = .ok s' → P s e s')
    (fun s es => ∀ s', runAll patterns s es = .ok s' → Q s es s')
    ?constant ?arithmetic ?operator ?unit ?function ?other ?nil ?cons
  case constant => exact constant
  case arithmetic =>
    intro s op left right hop ihl ihr s' h
    rw [run, if_pos hop] at h
    obtain ⟨sl, hl, h⟩ := Except.bind_eq_ok.1 h
    obtain ⟨sr, hr, h⟩ := Except.bind_eq_ok.1 h
    exact arithmetic s op left right sl sr s' hop (ihl sl hl) (ihr sl sr hr) h
  -- The cases in which nothing is computed are impossible, so they need no hypothesis.
  case operator =>
    intro s op left right hop s' h
    rw [run, if_neg hop] at h
    cases h
  case unit =>
    intro s function arguments millis hunit ih s' h
    rw [run, hunit] at h
    exact unit s function arguments millis s' hunit (ih s' h)
  case function =>
    intro s function arguments hunit s' h
    rw [run, hunit] at h
    cases h
  case other =>
    intro s e hconstant hbinary hcall s' h
    rw [run] at h
    · cases h
    all_goals assumption
  case nil =>
    intro s s' h
    obtain rfl := Except.ok.inj h
    exact nil s
  case cons =>
    intro s e es ih ihs s' h
    rw [runAll] at h
    obtain ⟨mid, he, hes⟩ := Except.bind_eq_ok.1 h
    exact cons s e es mid s' (ih mid he) (ihs mid s' hes)

/-- What a computation that succeeds does to the state, and that it does the same if there is
    more below on the stack. -/
structure Adds (compute : State → Except Unsupported State) (count : Int) (scale : Int64)
    (s s' : State) : Prop where
  scale_eq : s'.scale = scale
  length_eq : (s'.stack.length : Int) = s.stack.length + count
  frame : ∀ base, compute ⟨s.stack ++ base, s.scale⟩ = .ok ⟨s'.stack ++ base, s'.scale⟩

/-- A computation that begins with an empty stack and leaves one number. -/
theorem Adds.length_eq_one {f : State → Except Unsupported State} {count : Int} {c scale : Int64}
    {s' : State} (h : Adds f count c ⟨[], scale⟩ s') (hcount : count = 1) :
    s'.stack.length = 1 := by
  have := h.length_eq
  simp only [List.length_nil] at this
  omega

theorem adds_constant {s s' : State} {c : Constant} (h : s.pushConstant patterns c = .ok s') :
    Adds (State.pushConstant patterns · c) 1 ((Expr.constant c).scaleAfter s.scale) s s' := by
  obtain ⟨x, hx⟩ := @exists_pushConstant_eq patterns s.scale c
  cases x with
  | error cause => cases (hx s.stack).symm.trans h
  | ok v =>
    obtain rfl := Except.ok.inj ((hx s.stack).symm.trans h)
    exact ⟨rfl, by simp, fun base => hx _⟩

/-- Two computations one after the other. -/
theorem Adds.bind {f g : State → Except Unsupported State} {m n : Int} {c c' : Int64}
    {s mid s' : State} (hf : Adds f m c s mid) (hg : Adds g n c' mid s') :
    Adds (fun s => do g (← f s)) (m + n) c' s s' where
  scale_eq := hg.scale_eq
  length_eq := by
    have := hf.length_eq
    have := hg.length_eq
    omega
  frame base := by
    simp only [hf.frame base]
    exact hg.frame base

/-- What has the same effect may be stated in other words. -/
theorem Adds.of_eq {f g : State → Except Unsupported State} {m n : Int} {c c' : Int64}
    {s s' : State} (h : Adds f m c s s') (hfg : ∀ s, g s = f s) (hn : n = m) (hc : c' = c) :
    Adds g n c' s s' := by
  obtain rfl : g = f := funext hfg
  rwa [hn, hc]

/-- An operator leaves one number less. -/
theorem adds_apply {s s' : State} {op : BinaryOperator} (h : s.apply op = .ok s') :
    Adds (State.apply · op) (-1) s.scale s s' := by
  obtain ⟨a, b, v, rest, hstack, hv, rfl⟩ := apply_eq_ok.1 h
  refine ⟨rfl, ?_, fun base => apply_eq_ok.2 ⟨a, b, v, rest ++ base, ?_, hv, rfl⟩⟩
  · simp only [hstack, List.length_cons]
    omega
  · simp [hstack]

theorem adds_nil (s : State) :
    Adds (runAll patterns · []) (Expr.valueCounts []) (Expr.scaleAfterAll s.scale []) s s :=
  ⟨rfl, by simp [Expr.valueCounts], fun _ => rfl⟩

/-- Expressions one after the other add what each of them adds. -/
theorem adds_cons {s mid s' : State} {e : Expr} {es : List Expr}
    (he : Adds (run patterns · e) e.valueCount (e.scaleAfter s.scale) s mid)
    (hes : Adds (runAll patterns · es) (Expr.valueCounts es) (Expr.scaleAfterAll mid.scale es)
      mid s') :
    Adds (runAll patterns · (e :: es)) (Expr.valueCounts (e :: es))
      (Expr.scaleAfterAll s.scale (e :: es)) s s' := by
  refine (he.bind hes).of_eq (fun s => ?_) ?_ ?_
  · rw [runAll]
  · rw [Expr.valueCounts]
  · rw [he.scale_eq, Expr.scaleAfterAll]

/-- What is computed has the effect that is plain from it. -/
theorem adds : (∀ s e s', run patterns s e = .ok s' →
      Adds (run patterns · e) e.valueCount (e.scaleAfter s.scale) s s') ∧
    ∀ s es s', runAll patterns s es = .ok s' →
      Adds (runAll patterns · es) (Expr.valueCounts es) (Expr.scaleAfterAll s.scale es) s s' := by
  refine run_ok_induct ?constant ?arithmetic ?unit adds_nil ?cons
  case constant =>
    intro s c s' h
    exact adds_constant h
  case arithmetic =>
    intro s op left right sl sr s' hop hl hr h
    refine (hl.bind (hr.bind (adds_apply h))).of_eq (fun s => ?_) ?_ ?_
    · rw [run, if_pos hop]
    · rw [Expr.valueCount]
      omega
    · rw [hr.scale_eq, hl.scale_eq, Expr.scaleAfter]
  case unit =>
    intro s function arguments unit s' hunit h
    refine ⟨?_, ?_, fun base => ?_⟩
    · rw [h.scale_eq, Expr.scaleAfter, hunit]
    · rw [h.length_eq, Expr.valueCount]
    · rw [run, hunit]
      exact h.frame base
  case cons =>
    intro s e es mid s' he hes
    exact adds_cons he hes

/-- An expression that is computed has the effect that is plain from it. -/
theorem adds_run {s s' : State} {e : Expr} (h : run patterns s e = .ok s') :
    Adds (run patterns · e) e.valueCount (e.scaleAfter s.scale) s s' :=
  adds.1 s e s' h

theorem adds_runAll {s s' : State} {es : List Expr} (h : runAll patterns s es = .ok s') :
    Adds (runAll patterns · es) (Expr.valueCounts es) (Expr.scaleAfterAll s.scale es) s s' :=
  adds.2 s es s' h

/-- An expression in which every operand leaves one number takes nothing from the stack that was
    there before, so it can be computed on its own. -/
theorem run_alone {s s' : State} {e : Expr} (hsingle : e.HasSingleOperands)
    (h : run patterns s e = .ok s') : ∃ vs, s'.stack = vs ++ s.stack ∧
      run patterns ⟨[], s.scale⟩ e = .ok ⟨vs, s'.scale⟩ := by
  refine (run_ok_induct
    (P := fun s e s' => e.HasSingleOperands →
      ∃ vs, s'.stack = vs ++ s.stack ∧ run patterns ⟨[], s.scale⟩ e = .ok ⟨vs, s'.scale⟩)
    (Q := fun s es s' => (∀ e ∈ es, e.HasSingleOperands) →
      ∃ vs, s'.stack = vs ++ s.stack ∧ runAll patterns ⟨[], s.scale⟩ es = .ok ⟨vs, s'.scale⟩)
    ?constant ?arithmetic ?unit ?nil ?cons).1 s e s' h hsingle
  case constant =>
    intro s c s' h _
    obtain ⟨x, hx⟩ := @exists_pushConstant_eq patterns s.scale c
    cases x with
    | error cause => cases (hx s.stack).symm.trans h
    | ok v =>
      obtain rfl := Except.ok.inj ((hx s.stack).symm.trans h)
      exact ⟨[v], rfl, hx []⟩
  case arithmetic =>
    intro s op left right sl sr s' hop ihl ihr h hsingle
    obtain ⟨hlcount, hrcount⟩ := hsingle op left right .self
    obtain ⟨vs, hvs, hl⟩ := ihl (hsingle.operand (by simp [Expr.operands]))
    obtain ⟨ws, hws, hr⟩ := ihr (hsingle.operand (by simp [Expr.operands]))
    obtain ⟨a, rfl⟩ := List.length_eq_one_iff.1 ((adds_run hl).length_eq_one hlcount)
    obtain ⟨b, rfl⟩ := List.length_eq_one_iff.1 ((adds_run hr).length_eq_one hrcount)
    -- So the two numbers that the operator takes are those of its operands.
    obtain ⟨a', b', v, rest, hstack, hv, rfl⟩ := apply_eq_ok.1 h
    rw [hws, hvs] at hstack
    obtain ⟨rfl, rfl, rfl⟩ : b = b' ∧ a = a' ∧ s.stack = rest := by simpa using hstack
    refine ⟨[v], rfl, ?_⟩
    rw [run, if_pos hop, hl, Except.bind_ok]
    -- The right operand is computed above the value of the left one.
    have hframe := (adds_run hr).frame [a]
    simp only [List.nil_append] at hframe
    rw [hframe, Except.bind_ok]
    exact apply_eq_ok.2 ⟨a, b, v, [], rfl, hv, rfl⟩
  case unit =>
    intro s function arguments unit s' hunit ih hsingle
    rw [run, hunit]
    exact ih fun e he => hsingle.operand he
  case nil =>
    intro s _
    exact ⟨[], rfl, rfl⟩
  case cons =>
    intro s e es mid s' ih ihs hsingle
    obtain ⟨vs, hvs, he⟩ := ih (hsingle e List.mem_cons_self)
    obtain ⟨ws, hws, hes⟩ := ihs fun e he => hsingle e (List.mem_cons_of_mem _ he)
    refine ⟨ws ++ vs, by rw [hws, hvs, List.append_assoc], ?_⟩
    rw [runAll, he, Except.bind_ok]
    exact (adds_runAll hes).frame vs

end Arithmetic

end RecordFilter
