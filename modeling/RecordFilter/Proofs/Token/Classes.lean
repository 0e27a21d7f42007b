import RecordFilter.Token.Scanner

/-!
# Classes of characters

What a character begins is decided by its class, and the classes that matter for
it have no character in common: blanks, symbols, quotes, digits and what a name can
begin with.
-/

namespace RecordFilter

namespace Text.CodeRanges

/-- A number that is found in ranges lies in one of them. -/
theorem exists_of_contains {ranges : CodeRanges} {n : Nat} (h : ranges.contains n) :
    ∃ r ∈ ranges, r.1 ≤ n ∧ n ≤ r.2 := by
  induction ranges with
  | nil => cases h
  | cons r ranges ih =>
    obtain ⟨first, last⟩ := r
    rw [contains] at h
    split at h
    · cases h
    · next hfirst =>
      split at h
      · next hlast => exact ⟨(first, last), List.mem_cons_self, Nat.not_lt.1 hfirst, hlast⟩
      · obtain ⟨r, hr, hn⟩ := ih h
        exact ⟨r, List.mem_cons_of_mem _ hr, hn⟩

/-- Whether no range of the one set meets one of the other. -/
def apart (rs ss : CodeRanges) : Bool :=
  rs.all fun r => ss.all fun s => r.2 < s.1 || s.2 < r.1

/-- Two sets of ranges that do not meet have no number in common. -/
theorem not_contains_of_apart {rs ss : CodeRanges} (h : apart rs ss) {n : Nat}
    (hn : rs.contains n) : ss.contains n = false := by
  obtain ⟨r, hr, hlow, hhigh⟩ := exists_of_contains hn
  rw [Bool.eq_false_iff]
  intro hs
  obtain ⟨s, hs, hlow', hhigh'⟩ := exists_of_contains hs
  have hrs : (r.2 < s.1 || s.2 < r.1) = true := List.all_eq_true.1 (List.all_eq_true.1 h r hr) s hs
  simp only [Bool.or_eq_true, decide_eq_true_eq] at hrs
  omega

end Text.CodeRanges

namespace Token

open Text

/-- What holds of the first 128 characters is checked one by one. -/
theorem forall_ascii {p : Char → Prop} (h : ∀ n : Fin 128, p (Char.ofNat n)) {c : Char}
    (hc : c.toNat < 128) : p c := by
  rw [← Char.ofNat_toNat c]
  exact h ⟨c.toNat, hc⟩

theorem toNat_lt_of_isDigit {c : Char} (h : c.isDigit) : c.toNat < 128 := by
  exact Nat.lt_of_le_of_lt (Char.isDigit_iff_toNat.1 h).2 (by decide)

theorem isBlank_of_isDigit {c : Char} (h : c.isDigit) : isBlank c = false := by
  refine forall_ascii (p := fun c => c.isDigit = true → isBlank c = false) ?_
    (toNat_lt_of_isDigit h) h
  decide +kernel

theorem beginsName_of_isDigit {c : Char} (h : c.isDigit) : beginsName c = false := by
  refine forall_ascii (p := fun c => c.isDigit = true → beginsName c = false) ?_
    (toNat_lt_of_isDigit h) h
  decide +kernel

theorem symbol?_of_isDigit {c : Char} (h : c.isDigit) : symbol? c = none := by
  refine forall_ascii (p := fun c => c.isDigit = true → symbol? c = none) ?_
    (toNat_lt_of_isDigit h) h
  decide +kernel

/-- What begins a name can also stand within one. -/
theorem continuesName_of_beginsName {c : Char} (h : beginsName c) : continuesName c := by
  unfold beginsName at h
  unfold continuesName
  grind

/-- No name has a blank in it: the ranges of letters and numbers do not meet those of blanks. -/
theorem isBlank_of_continuesName {c : Char} (h : continuesName c) : isBlank c = false := by
  unfold continuesName at h
  rw [Bool.or_eq_true, Bool.or_eq_true, decide_eq_true_eq] at h
  rcases h with (h | h) | rfl
  · have hapart : CodeRanges.apart alphabeticRanges blankRanges := by decide +kernel
    exact CodeRanges.not_contains_of_apart hapart h
  · have hapart : CodeRanges.apart numericRanges blankRanges := by decide +kernel
    exact CodeRanges.not_contains_of_apart hapart h
  · decide +kernel

theorem isBlank_of_beginsName {c : Char} (h : beginsName c) : isBlank c = false :=
  isBlank_of_continuesName (continuesName_of_beginsName h)

theorem symbol?_of_beginsName {c : Char} (h : beginsName c) : symbol? c = none := by
  unfold symbol?
  split <;> first | rfl | exact absurd h (by decide +kernel)

/-- A symbol of two characters begins with a symbol of one, or with `!`. -/
theorem pairSymbol?_of_symbol? {c : Char} (h : symbol? c = none) (hc : c ≠ '!') (d : Char) :
    pairSymbol? c d = none := by
  unfold pairSymbol?
  split <;> first | rfl | exact absurd rfl hc | cases h

end Token

end RecordFilter
