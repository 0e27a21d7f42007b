import Mathlib.Data.List.TakeWhile
import RecordFilter.Calendar.Reader
import RecordFilter.Proofs.Except

/-!
# Marks in dates

A mark is a character that is part of no number: neither a digit nor a sign nor a blank. A pattern
without names and fractions takes a mark where it is written in the pattern, and nowhere else, so a
text that it reads has as many of each mark as the pattern (`DatePattern.count_of_read`).
-/

namespace RecordFilter

/-- The character is part of no number. -/
structure IsMark (c : Char) : Prop where
  isDigit : c.isDigit = false
  isBlank : Text.isBlank c = false
  ne_plus : c ≠ '+'
  ne_minus : c ≠ '-'

instance (c : Char) : Decidable (IsMark c) :=
  decidable_of_iff (c.isDigit = false ∧ Text.isBlank c = false ∧ c ≠ '+' ∧ c ≠ '-')
    ⟨fun ⟨hdigit, hblank, hplus, hminus⟩ => ⟨hdigit, hblank, hplus, hminus⟩,
      fun h => ⟨h.isDigit, h.isBlank, h.ne_plus, h.ne_minus⟩⟩

variable {c : Char} {cs rest : List Char}

/-- A mark is no blank, so it survives the skipping of blanks. -/
theorem count_trimLeft (h : IsMark c) (cs : List Char) :
    (Text.trimLeft cs).count c = cs.count c := by
  have hblanks : (cs.takeWhile Text.isBlank).count c = 0 := by
    refine List.count_eq_zero.2 fun hc => ?_
    exact Bool.false_ne_true (h.isBlank.symm.trans (List.mem_takeWhile_imp hc))
  conv_rhs => rw [← List.takeWhile_append_dropWhile (p := Text.isBlank) (l := cs)]
  rw [List.count_append, hblanks, Nat.zero_add, Text.trimLeft]

theorem count_of_readDigits (h : IsMark c) {least n k : Nat} {most : Option Nat}
    (hread : readDigits least most cs = .ok (n, k, rest)) : cs.count c = rest.count c := by
  -- The digits are those the window begins with, and the window is what the text begins with.
  obtain ⟨window, hwindow, hrest⟩ : ∃ window, window <+: cs ∧
      cs.drop (window.takeWhile Char.isDigit).length = rest := by
    unfold readDigits at hread
    cases most with
    | none =>
      refine ⟨cs, List.prefix_rfl, ?_⟩
      grind
    | some width =>
      refine ⟨cs.take width, List.take_prefix width cs, ?_⟩
      grind
  have hdigits : (window.takeWhile Char.isDigit).count c = 0 := by
    refine List.count_eq_zero.2 fun hc => ?_
    exact Bool.false_ne_true (h.isDigit.symm.trans (List.mem_takeWhile_imp hc))
  have hsplit := List.prefix_iff_eq_append.1 ((List.takeWhile_prefix Char.isDigit).trans hwindow)
  rw [← hsplit, List.count_append, hdigits, Nat.zero_add, hrest]

theorem count_of_readNumber (h : IsMark c) {field : DateField} {n : Int}
    (hread : readNumber field cs = .ok (n, rest)) : cs.count c = rest.count c := by
  have hdigits {least : Nat} {most : Option Nat} {cs : List Char} {f : Nat × Nat × List Char → Int}
      (hdo : (do
        let p ← readDigits least most cs
        return (f p, p.2.2) : Except DateError (Int × List Char)) = .ok (n, rest)) :
      cs.count c = rest.count c := by
    obtain ⟨p, hp, hrest⟩ := Except.bind_eq_ok.1 hdo
    cases Except.pure_eq_ok.1 hrest
    exact count_of_readDigits h hp
  unfold readNumber at hread
  rw [← count_trimLeft h]
  generalize Text.trimLeft cs = cs at hread
  dsimp only at hread
  -- The text begins with one of the signs, or it does not; signs are no marks.
  split at hread
  · rw [List.count_cons_of_ne h.ne_minus.symm]
    exact hdigits hread
  · rw [List.count_cons_of_ne h.ne_plus.symm]
    exact hdigits hread
  · exact hdigits hread
  · exact hdigits hread

/-- The item takes only characters of a number, or the one that is written in the pattern. -/
def PatternItem.isSimple : PatternItem → Bool
  | .monthName | .fraction => false
  | _ => true

namespace DatePattern

/-- An item takes a mark only if it is the mark. -/
theorem count_of_read_item (h : IsMark c) {item : PatternItem} (hitem : item.isSimple)
    {parts parts' : DateParts} (hread : item.read parts cs = .ok (parts', rest)) :
    cs.count c = [item].count (.char c) + rest.count c := by
  cases item with
  | number field =>
    obtain ⟨⟨_, _⟩, hnumber, hset⟩ := Except.bind_eq_ok.1 hread
    obtain ⟨_, -, hrest⟩ := Except.bind_eq_ok.1 hset
    cases Except.pure_eq_ok.1 hrest
    rw [count_of_readNumber h hnumber]
    simp
  | millis =>
    obtain ⟨⟨_, _, _⟩, hdigits, hset⟩ := Except.bind_eq_ok.1 hread
    obtain ⟨_, -, hrest⟩ := Except.bind_eq_ok.1 hset
    cases Except.pure_eq_ok.1 hrest
    rw [count_of_readDigits h hdigits]
    simp
  | blanks =>
    cases Except.pure_eq_ok.1 hread
    rw [count_trimLeft h]
    simp
  | char d =>
    cases cs with
    | nil => cases hread
    | cons e cs =>
      by_cases hed : e = d
      · change (if e = d then pure (parts, cs) else throw DateError.invalid) = _ at hread
        rw [if_pos hed] at hread
        cases Except.pure_eq_ok.1 hread
        simp [List.count_cons, hed, Nat.add_comm]
      · change (if e = d then pure (parts, cs) else throw DateError.invalid) = _ at hread
        rw [if_neg hed] at hread
        cases hread
  | unknown => cases hread
  | monthName | fraction => cases hitem

/-- A text that a pattern reads has exactly the marks that the pattern spells, and those that are
    left over. -/
theorem count_of_readItems (h : IsMark c) {pattern : DatePattern}
    (hpattern : ∀ item ∈ pattern, item.isSimple) {parts parts' : DateParts}
    (hread : pattern.readItems parts cs = .ok (parts', rest)) :
    cs.count c = pattern.count (.char c) + rest.count c := by
  induction pattern generalizing parts cs with
  | nil =>
    cases hread
    simp
  | cons item items ih =>
    rw [List.forall_mem_cons] at hpattern
    obtain ⟨⟨_, _⟩, hitem, hitems⟩ := Except.bind_eq_ok.1 hread
    rw [count_of_read_item h hpattern.1 hitem, ih hpattern.2 hitems, ← Nat.add_assoc,
      ← List.count_append]
    rfl

/-- A text that is read has the marks of the pattern. -/
theorem count_of_read (h : IsMark c) {pattern : DatePattern}
    (hpattern : ∀ item ∈ pattern, item.isSimple) {parts : DateParts}
    (hread : pattern.read cs = .ok parts) : cs.count c = pattern.count (.char c) := by
  obtain ⟨⟨_, rest⟩, hitems, hend⟩ := Except.bind_eq_ok.1 hread
  rw [count_of_readItems h hpattern hitems]
  cases rest with
  | nil => rfl
  | cons => cases hend

end DatePattern

end RecordFilter
