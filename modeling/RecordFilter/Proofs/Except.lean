import Mathlib.Data.List.Forall2

/-!
# Computations that may fail

When a computation that is put together of others gives a value: each of them
does. Of several that fail, the first one tells why (`Except.mapM_eq_error`). Two
computations that are put together of parts that come out alike do so themselves
(`Except.Rel`).
-/

namespace RecordFilter

variable {ε α β γ : Type}

/-- Two steps succeed exactly if the first one does and the second does with its value. -/
theorem Except.bind_eq_ok {x : Except ε α} {f : α → Except ε β} {b : β} :
    x >>= f = .ok b ↔ ∃ a, x = .ok a ∧ f a = .ok b := by
  cases x with
  | error => simp [bind, Except.bind]
  | ok a => simp [bind, Except.bind]

/-- Two steps fail with the error of the first one, or else with that of the second. -/
theorem Except.bind_eq_error {x : Except ε α} {f : α → Except ε β} {cause : ε} :
    x >>= f = .error cause ↔ x = .error cause ∨ ∃ a, x = .ok a ∧ f a = .error cause := by
  cases x with
  | error => simp [bind, Except.bind]
  | ok a => simp [bind, Except.bind]

theorem Except.bind_ok {f : α → Except ε β} {a : α} : (Except.ok a : Except ε α) >>= f = f a := rfl

theorem Except.pure_eq_ok {a b : α} : (pure a : Except ε α) = .ok b ↔ a = b := by
  simp [pure, Except.pure]

theorem Except.mapError_eq_ok {δ : Type} {x : Except ε α} {f : ε → δ} {a : α} :
    x.mapError f = .ok a ↔ x = .ok a := by
  cases x <;> simp [Except.mapError]

/-- Mapping over a list succeeds exactly if it does for every element, with the values in order. -/
theorem Except.mapM_eq_ok {f : α → Except ε β} {l : List α} {l' : List β} :
    l.mapM f = .ok l' ↔ List.Forall₂ (fun a b => f a = .ok b) l l' := by
  induction l generalizing l' with
  | nil =>
    rw [List.mapM_nil, pure_eq_ok]
    constructor
    · rintro rfl
      exact .nil
    · rintro ⟨⟩
      rfl
  | cons a l ih =>
    rw [List.mapM_cons, bind_eq_ok]
    constructor
    · rintro ⟨b, hb, h⟩
      obtain ⟨bs, hbs, h⟩ := bind_eq_ok.1 h
      obtain rfl := pure_eq_ok.1 h
      exact .cons hb (ih.1 hbs)
    · intro h
      cases h with
      | cons hb hbs => exact ⟨_, hb, bind_eq_ok.2 ⟨_, ih.2 hbs, rfl⟩⟩

/-- Mapping over a list succeeds with some values exactly if every element has one. -/
theorem Except.exists_mapM_eq_ok {f : α → Except ε β} {l : List α} :
    (∃ l', l.mapM f = .ok l') ↔ ∀ a ∈ l, ∃ b, f a = .ok b := by
  simp only [mapM_eq_ok]
  induction l with
  | nil => simp
  | cons a l ih =>
    simp only [List.forall₂_cons_left_iff, List.forall_mem_cons, ← ih]
    constructor
    · rintro ⟨_, b, bs, hb, hbs, rfl⟩
      exact ⟨⟨b, hb⟩, bs, hbs⟩
    · rintro ⟨⟨b, hb⟩, bs, hbs⟩
      exact ⟨b :: bs, b, bs, hb, hbs, rfl⟩

/-- The first computation of a list that fails tells why all of them do. -/
theorem Except.mapM_eq_error {f : α → Except ε β} {l : List α} {cause : ε} :
    l.mapM f = .error cause ↔ ∃ front a back, l = front ++ a :: back ∧
      (∀ b ∈ front, ∃ c, f b = .ok c) ∧ f a = .error cause := by
  induction l with
  | nil => simp [pure, Except.pure]
  | cons a l ih =>
    rw [List.mapM_cons]
    cases ha : f a with
    | error other =>
      change Except.error other = .error cause ↔ _
      constructor
      · rintro ⟨⟩
        exact ⟨[], a, l, rfl, by simp, ha⟩
      · rintro ⟨front, b, back, hl, hfront, hb⟩
        cases front with
        | nil =>
          obtain ⟨rfl, -⟩ := List.cons.inj hl
          rw [Except.error.inj (ha.symm.trans hb)]
        | cons c front =>
          obtain ⟨rfl, -⟩ := List.cons.inj hl
          obtain ⟨_, hok⟩ := hfront a List.mem_cons_self
          cases ha.symm.trans hok
    | ok c =>
      have hstep : (do let b ← Except.ok c; let bs ← l.mapM f; return b :: bs) = .error cause ↔
          l.mapM f = .error cause := by
        cases l.mapM f <;> simp [bind, Except.bind, pure, Except.pure]
      rw [hstep, ih]
      constructor
      · rintro ⟨front, b, back, rfl, hfront, hb⟩
        exact ⟨a :: front, b, back, rfl, List.forall_mem_cons.2 ⟨⟨c, ha⟩, hfront⟩, hb⟩
      · rintro ⟨front, b, back, hl, hfront, hb⟩
        cases front with
        | nil =>
          obtain ⟨rfl, -⟩ := List.cons.inj hl
          cases ha.symm.trans hb
        | cons d front =>
          obtain ⟨rfl, rfl⟩ := List.cons.inj hl
          exact ⟨front, b, back, rfl, (List.forall_mem_cons.1 hfront).2, hb⟩

/-! ## Computations that come out alike -/

/-- Whether two computations both give values, which are related, or both fail, with causes
    that are related. -/
inductive Except.Rel {ε ε' α α' : Type} (E : ε → ε' → Prop) (S : α → α' → Prop) :
    Except ε α → Except ε' α' → Prop
  | ok {a : α} {a' : α'} : S a a' → Rel E S (.ok a) (.ok a')
  | error {cause : ε} {cause' : ε'} : E cause cause' → Rel E S (.error cause) (.error cause')

namespace Except.Rel

variable {ε' α' β' : Type} {E : ε → ε' → Prop} {S : α → α' → Prop} {T : β → β' → Prop}

/-- Related steps behind related results have related results. -/
theorem bind {x : Except ε α} {x' : Except ε' α'} {f : α → Except ε β} {f' : α' → Except ε' β'}
    (h : Rel E S x x') (hf : ∀ a a', S a a' → Rel E T (f a) (f' a')) :
    Rel E T (x >>= f) (x' >>= f') := by
  cases h with
  | ok ha => exact hf _ _ ha
  | error hcause => exact .error hcause

/-- Changing the errors keeps results related if it relates the errors. -/
theorem mapError {δ δ' : Type} {D : δ → δ' → Prop} {x : Except ε α} {x' : Except ε' α'}
    {f : ε → δ} {f' : ε' → δ'} (h : Rel E S x x') (hf : ∀ e e', E e e' → D (f e) (f' e')) :
    Rel D S (x.mapError f) (x'.mapError f') := by
  cases h with
  | ok ha => exact .ok ha
  | error hcause => exact .error (hf _ _ hcause)

/-- Mapping over lists of related elements gives related results. -/
theorem mapM {f : α → Except ε β} {f' : α' → Except ε' β'} {l : List α} {l' : List α'}
    (h : List.Forall₂ S l l') (hf : ∀ a a', S a a' → Rel E T (f a) (f' a')) :
    Rel E (List.Forall₂ T) (l.mapM f) (l'.mapM f') := by
  induction h with
  | nil => exact .ok .nil
  | cons ha _ ih =>
    rw [List.mapM_cons, List.mapM_cons]
    exact (hf _ _ ha).bind fun b b' hb => ih.bind fun bs bs' hbs => .ok (.cons hb hbs)

end Except.Rel

end RecordFilter
