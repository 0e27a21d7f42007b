import Mathlib.Data.List.Basic
import RecordFilter.Proofs.Token.Lexes

/-!
# Upper case that is written in ASCII

The name of a type is kept in capitals. If the capitals are ASCII, they are capitals
of themselves (`upper_upper`) and can be written as a name again (`isBare_upper`), be
the name they come from ASCII or not: a dotless i has the capital `I`.
-/

namespace RecordFilter

namespace Text

/-- A code point is moved by one of the runs or not at all. -/
theorem CodeShifts.applyNat_cases (runs : CodeShifts) (n : Nat) : runs.applyNat n = n ∨
    ∃ run ∈ runs, run.first ≤ n ∧ n ≤ run.last ∧ runs.applyNat n = (n + run.offset).toNat := by
  induction runs with
  | nil => exact .inl rfl
  | cons run runs ih =>
    unfold applyNat
    split
    · exact .inl rfl
    · next hfirst =>
      have hlater : applyNat runs n = n ∨ ∃ r ∈ run :: runs, r.first ≤ n ∧ n ≤ r.last ∧
          applyNat runs n = (n + r.offset).toNat := by
        rcases ih with h | ⟨r, hr, h⟩
        · exact .inl h
        · exact .inr ⟨r, List.mem_cons_of_mem _ hr, h⟩
      split
      · next hlast =>
        split
        · exact .inr ⟨run, List.mem_cons_self, Nat.not_lt.1 hfirst, hlast, rfl⟩
        · exact hlater
      · exact hlater

/-- Whether the code points between two others are all capital letters or all outside
    of ASCII. -/
def isProper (first last : Int) : Bool :=
  0x41 ≤ first && last ≤ 0x5A || 128 ≤ first && last < 0xD800 || 0xE000 ≤ first && last < 0x110000

/-- All characters that upper-casing reaches by a shift are proper; checked run by run. -/
theorem shifts_proper :
    upperShifts.all fun run => isProper (run.first + run.offset) (run.last + run.offset) := by
  decide +kernel

/-- All characters that upper-casing expands others to are proper; checked one by one. -/
theorem expansions_proper :
    upperExpansions.all fun e => e.2 ≠ [] && e.2.all fun n => isProper n n := by
  decide +kernel

/-- Whether a character is a capital letter of ASCII. -/
def IsCapital (c : Char) : Prop :=
  0x41 ≤ c.toNat ∧ c.toNat ≤ 0x5A

instance (c : Char) : Decidable (IsCapital c) :=
  inferInstanceAs (Decidable (_ ∧ _))

theorem IsCapital.toNat_lt {c : Char} (h : IsCapital c) : c.toNat < 128 :=
  Nat.lt_of_le_of_lt h.2 (by decide)

/-- A proper code point is that of a capital letter, if it is in ASCII. -/
theorem isCapital_of_isProper {first last : Int} (h : isProper first last) {n : Nat}
    (hfirst : first ≤ n) (hlast : n ≤ last) (hascii : (Char.ofNat n).toNat < 128) :
    IsCapital (Char.ofNat n) := by
  simp only [isProper, Bool.or_eq_true, Bool.and_eq_true, decide_eq_true_eq] at h
  -- Proper code points leave out the surrogates, so they are all characters.
  have hvalid : n.isValidChar := by
    unfold Nat.isValidChar
    omega
  have hnat : (Char.ofNat n).toNat = n := by
    rw [Char.ofNat, dif_pos hvalid]
    rfl
  unfold IsCapital
  omega

/-- An expansion found in the table has characters, all of them proper. -/
theorem proper_of_lookup {n : Nat} {expansion : List Nat}
    (h : upperExpansions.lookup n = some expansion) :
    expansion ≠ [] ∧ ∀ m ∈ expansion, isProper m m := by
  obtain ⟨l₁, l₂, hl, -⟩ := List.lookup_eq_some_iff.1 h
  have hmem : (n, expansion) ∈ upperExpansions := by
    rw [hl]
    exact List.mem_append_right l₁ List.mem_cons_self
  have hproper := List.all_eq_true.1 expansions_proper _ hmem
  rw [Bool.and_eq_true, decide_eq_true_eq] at hproper
  exact ⟨hproper.1, List.all_eq_true.1 hproper.2⟩

/-- What is ASCII in the capitals of a character is a capital letter, or the character
    itself, which then has no other capitals. -/
theorem mem_upperChar {c d : Char} (h : d ∈ upperChar c) (hascii : d.toNat < 128) :
    IsCapital d ∨ (d = c ∧ upperChar c = [c]) := by
  unfold upperChar at h ⊢
  split at h
  · next expansion he =>
    obtain ⟨n, hn, rfl⟩ := List.mem_map.1 h
    exact .inl (isCapital_of_isProper ((proper_of_lookup he).2 n hn) (Int.le_refl n)
      (Int.le_refl n) hascii)
  · obtain rfl := List.mem_singleton.1 h
    -- Either no run moves the character, and it is its own capital, or one does, and all that a run
    -- reaches is proper.
    rcases CodeShifts.applyNat_cases upperShifts c.toNat with hsame | ⟨run, hrun, hfirst, hlast, hn⟩
    · have hc : upperShifts.apply c = c := by
        rw [CodeShifts.apply, hsame, Char.ofNat_toNat]
      exact .inr ⟨hc, by rw [hc]⟩
    · refine .inl ?_
      rw [CodeShifts.apply] at hascii ⊢
      have hproper := List.all_eq_true.1 shifts_proper run hrun
      have hpos : 0 ≤ run.first + run.offset := by
        simp only [isProper, Bool.or_eq_true, Bool.and_eq_true, decide_eq_true_eq] at hproper
        omega
      refine isCapital_of_isProper hproper ?_ ?_ hascii
      · omega
      · omega

theorem upperChar_ne_nil (c : Char) : upperChar c ≠ [] := by
  unfold upperChar
  split
  · next he =>
    rw [ne_eq, List.map_eq_nil_iff]
    exact (proper_of_lookup he).1
  · exact List.cons_ne_nil _ _

theorem upperChar_of_isCapital {c : Char} (h : IsCapital c) : upperChar c = [c] := by
  refine Token.forall_ascii (p := fun c => IsCapital c → upperChar c = [c]) ?_ h.toNat_lt h
  decide +kernel

/-- ASCII capitals are capitals of themselves. -/
theorem upper_upper {s : String} (h : ∀ c ∈ (upper s).toList, c.toNat < 128) :
    upper (upper s) = upper s := by
  rw [upper, String.toList_ofList] at h
  have hfixed : ∀ d ∈ s.toList.flatMap upperChar, upperChar d = [d] := by
    intro d hd
    obtain ⟨c, -, hc⟩ := List.mem_flatMap.1 hd
    rcases mem_upperChar hc (h d hd) with hcapital | ⟨rfl, hself⟩
    · exact upperChar_of_isCapital hcapital
    · exact hself
  rw [upper, upper, String.toList_ofList, List.flatMap_congr hfixed, List.flatMap_singleton']

end Text

namespace Token

theorem beginsName_of_isCapital {c : Char} (h : Text.IsCapital c) : beginsName c := by
  refine forall_ascii (p := fun c => Text.IsCapital c → beginsName c) ?_ h.toNat_lt h
  decide +kernel

/-- A name in ASCII capitals can be written without quotes, if the name can. -/
theorem isBare_upper {name : String} (h : IsBare name)
    (hascii : ∀ c ∈ (Text.upper name).toList, c.toNat < 128) : IsBare (Text.upper name) := by
  refine ⟨?_, ?_⟩
  · have hword := h.1
    rw [Text.upper, String.toList_ofList] at hascii ⊢
    cases hcs : name.toList with
    | nil =>
      rw [hcs] at hword
      cases hword
    | cons c cs =>
      rw [hcs, isWord, Bool.and_eq_true] at hword
      rw [hcs] at hascii
      have hall : ∀ b ∈ c :: cs, ∀ d ∈ Text.upperChar b, beginsName d ∨ d = b := by
        intro b hb d hd
        rcases Text.mem_upperChar hd (hascii d (List.mem_flatMap.2 ⟨b, hb, hd⟩)) with hu | ⟨rfl, -⟩
        · exact .inl (beginsName_of_isCapital hu)
        · exact .inr rfl
      have hcontinues : ∀ d ∈ (c :: cs).flatMap Text.upperChar, continuesName d := by
        intro d hd
        obtain ⟨b, hb, hd⟩ := List.mem_flatMap.1 hd
        rcases hall b hb d hd with hbegins | rfl
        · exact continuesName_of_beginsName hbegins
        · rcases List.mem_cons.1 hb with rfl | hb
          · exact continuesName_of_beginsName hword.1
          · exact List.all_eq_true.1 hword.2 d hb
      obtain ⟨d, ds, hds⟩ := List.exists_cons_of_ne_nil (Text.upperChar_ne_nil c)
      rw [List.flatMap_cons, hds, List.cons_append] at hcontinues ⊢
      rw [isWord, Bool.and_eq_true]
      refine ⟨?_, List.all_eq_true.2 fun b hb => hcontinues b (List.mem_cons_of_mem d hb)⟩
      rcases hall c List.mem_cons_self d (by rw [hds]; exact List.mem_cons_self) with hd | rfl
      · exact hd
      · exact hword.1
  · rw [Keyword.ofName?, Text.upper_upper hascii]
    exact h.2

end Token

end RecordFilter
