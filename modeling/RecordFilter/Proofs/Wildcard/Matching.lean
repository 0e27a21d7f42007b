import RecordFilter.Wildcard
import Mathlib.Data.List.Forall2
import Mathlib.Data.List.Infix

/-!
# What a pattern with wildcards matches

The rows of answers that matching computes from the end of a pattern are right
(`Wildcard.answers_row`), so that a text is matched just if it can be cut into pieces that
the parts of the pattern match one by one (`Wildcard.isMatch_iff`). Where the case of
characters counts, the texts that are matched are those that are like the pattern, one
character of it after the other (`Wildcard.IsLike`, `Wildcard.isMatch_iff_isLike`).
-/

namespace RecordFilter

variable {same : Char → Char → Bool}

/-! ## Pieces of a text -/

namespace WildcardAtom

/-- Whether a part of a pattern matches a piece of a text. -/
def Takes (same : Char → Char → Bool) : WildcardAtom → List Char → Prop
  | .anyText, _ => True
  | .anyChar, piece => ∃ x, piece = [x]
  | .char c, piece => ∃ x, piece = [x] ∧ same c x

/-- Whether a part of a pattern matches the beginning of a text and the rest is as it
    should be. -/
def Leads (same : Char → Char → Bool) (P : List Char → Prop) (atom : WildcardAtom)
    (text : List Char) : Prop :=
  ∃ piece rest, text = piece ++ rest ∧ atom.Takes same piece ∧ P rest

variable {P : List Char → Prop} {text : List Char} {x c : Char}

theorem leads_anyText_nil : anyText.Leads same P [] ↔ P [] := by
  simp [Leads, Takes]

/-- Any text in front is none at all, or one more character of it. -/
theorem leads_anyText_cons :
    anyText.Leads same P (x :: text) ↔ P (x :: text) ∨ anyText.Leads same P text := by
  constructor
  · rintro ⟨_ | ⟨y, piece⟩, rest, htext, -, hrest⟩
    · exact .inl (htext ▸ hrest)
    · obtain ⟨rfl, rfl⟩ := List.cons.inj htext
      exact .inr ⟨piece, rest, rfl, trivial, hrest⟩
  · rintro (h | ⟨piece, rest, rfl, -, hrest⟩)
    · exact ⟨[], _, rfl, trivial, h⟩
    · exact ⟨x :: piece, rest, rfl, trivial, hrest⟩

theorem leads_anyChar : anyChar.Leads same P text ↔ ∃ x rest, text = x :: rest ∧ P rest := by
  constructor
  · rintro ⟨_, rest, rfl, ⟨x, rfl⟩, hrest⟩
    exact ⟨x, rest, rfl, hrest⟩
  · rintro ⟨x, rest, rfl, hrest⟩
    exact ⟨[x], rest, rfl, ⟨x, rfl⟩, hrest⟩

theorem leads_char :
    (char c).Leads same P text ↔ ∃ x rest, text = x :: rest ∧ same c x ∧ P rest := by
  constructor
  · rintro ⟨_, rest, rfl, ⟨x, rfl, hx⟩, hrest⟩
    exact ⟨x, rest, rfl, hx, hrest⟩
  · rintro ⟨x, rest, rfl, hx, hrest⟩
    exact ⟨[x], rest, rfl, ⟨x, rfl, hx⟩, hrest⟩

end WildcardAtom

namespace Wildcard

/-- Whether a text can be cut into pieces that the parts of a pattern match one by one. -/
def Matches (same : Char → Char → Bool) : Wildcard → List Char → Prop
  | [], text => text = []
  | atom :: w, text => atom.Leads same (Matches same w) text

/-! ## Rows of answers -/

/-- Whether a row of answers tells which ends of a text are as they should be, the longest
    end first. -/
def Answers (P : List Char → Prop) (text : List Char) (row : List Bool) : Prop :=
  List.Forall₂ (fun answer rest => answer = true ↔ P rest) row text.tails

section

variable {P : List Char → Prop} {text : List Char} {row : List Bool} {x : Char}

theorem answers_nil : Answers P [] row ↔ ∃ answer, row = [answer] ∧ (answer = true ↔ P []) := by
  simp [Answers, List.forall₂_cons_right_iff, and_comm]

theorem answers_cons : Answers P (x :: text) row ↔ ∃ answer others, row = answer :: others ∧
    (answer = true ↔ P (x :: text)) ∧ Answers P text others := by
  simp [Answers, List.forall₂_cons_right_iff, and_comm, and_left_comm]

theorem Answers.headD (h : Answers P text row) : row.headD false = true ↔ P text := by
  cases text with
  | nil =>
    obtain ⟨answer, rfl, hanswer⟩ := answers_nil.1 h
    exact hanswer
  | cons x text =>
    obtain ⟨answer, others, rfl, hanswer, -⟩ := answers_cons.1 h
    exact hanswer

/-- There is one answer for each end of the text, the empty one too. -/
theorem Answers.length_eq (h : Answers P text row) : row.length = text.length + 1 := by
  rw [List.Forall₂.length_eq h, List.length_tails]

theorem Answers.eq_cons (h : Answers P text row) : row = row.headD false :: row.tail := by
  have hlength := h.length_eq
  cases row with
  | nil => simp at hlength
  | cons answer others => rfl

/-- The answers for any text in front are found from the end. -/
theorem Answers.anyText (h : Answers P text row) :
    Answers (WildcardAtom.anyText.Leads same P) text (WildcardAtom.anyText.row same text row) := by
  induction text generalizing row with
  | nil =>
    obtain ⟨answer, rfl, hanswer⟩ := answers_nil.1 h
    exact answers_nil.2 ⟨answer, by simp [WildcardAtom.row],
      hanswer.trans WildcardAtom.leads_anyText_nil.symm⟩
  | cons x text ih =>
    obtain ⟨answer, others, rfl, hanswer, hothers⟩ := answers_cons.1 h
    have hnext := ih hothers
    refine answers_cons.2 ⟨_, _, rfl, ?_, hnext⟩
    rw [WildcardAtom.leads_anyText_cons, Bool.or_eq_true, hanswer, ← hnext.headD]
    rfl

/-- The answers for one character in front are those for the ends that are shorter by it. -/
theorem Answers.oneChar {Q : List Char → Prop} (test : Char → Bool) (h : Answers P text row)
    (hQ : ∀ {text}, Q text ↔ ∃ x rest, text = x :: rest ∧ test x ∧ P rest) :
    Answers Q text (List.zipWith (fun x after => test x && after) text row.tail ++ [false]) := by
  induction text generalizing row with
  | nil =>
    obtain ⟨answer, rfl, -⟩ := answers_nil.1 h
    exact answers_nil.2 ⟨false, rfl, by simp [hQ]⟩
  | cons x text ih =>
    obtain ⟨answer, others, rfl, -, hothers⟩ := answers_cons.1 h
    -- The first answer is for the whole text: its character passes the test, and the next end is
    -- right.
    refine answers_cons.2 ⟨test x && others.headD false, _, ?_, ?_, ih hothers⟩
    · rw [List.tail_cons, hothers.eq_cons]
      rfl
    · simp [hQ, ← hothers.headD]

/-- Each part of a pattern makes right answers of right answers for the parts behind it. -/
theorem Answers.atom (atom : WildcardAtom) (h : Answers P text row) :
    Answers (atom.Leads same P) text (atom.row same text row) := by
  cases atom with
  | anyText => exact h.anyText
  | anyChar =>
    -- A test that every character passes leaves the answers as they are.
    have hshift : List.zipWith (fun _ after => true && after) text row.tail = row.tail :=
      List.ext_getElem (by simp [h.length_eq]) (by simp)
    have hone := h.oneChar (Q := WildcardAtom.anyChar.Leads same P) (fun _ => true)
      (by simp [WildcardAtom.leads_anyChar])
    rwa [hshift] at hone
  | char c => exact h.oneChar (same c) WildcardAtom.leads_char

end

theorem answers_row (w : Wildcard) (text : List Char) :
    Answers (w.Matches same) text (w.row same text) := by
  induction w with
  | nil =>
    induction text with
    | nil => exact answers_nil.2 ⟨true, rfl, by simp [Matches]⟩
    | cons x text ih => exact answers_cons.2 ⟨false, _, rfl, by simp [Matches], ih⟩
  | cons atom w ih => exact ih.atom atom

/-- Matching a pattern tells whether the text can be cut into pieces for its parts. -/
theorem isMatch_iff (ignoreCase : Bool) (w : Wildcard) (text : String) :
    w.isMatch ignoreCase text ↔ w.Matches (sameChar ignoreCase) text.toList :=
  (answers_row w text.toList).headD

/-! ## The reference relation -/

/-- Whether a text is like a pattern: a percent sign stands for any sequence of characters,
    an underscore for one character, and every other character for itself. -/
inductive IsLike : List Char → List Char → Prop
  | nil : IsLike [] []
  | anyText (skipped : List Char) {text pattern : List Char} :
    IsLike text pattern → IsLike (skipped ++ text) ('%' :: pattern)
  | anyChar {x : Char} {text pattern : List Char} :
    IsLike text pattern → IsLike (x :: text) ('_' :: pattern)
  | char {c : Char} {text pattern : List Char} : c ≠ '%' → c ≠ '_' →
    IsLike text pattern → IsLike (c :: text) (c :: pattern)

/-- A text is like a pattern if it can be cut into pieces for the characters of it. Each direction
    goes along its own side: the first along how the text is like the pattern, the second along the
    pattern. -/
theorem isLike_iff_matches {text pattern : List Char} :
    IsLike text pattern ↔ Matches (sameChar false) (pattern.map WildcardAtom.ofChar) text := by
  constructor
  · intro h
    induction h with
    | nil => rfl
    | anyText skipped h ih => exact ⟨skipped, _, rfl, trivial, ih⟩
    | anyChar h ih => exact ⟨[_], _, rfl, ⟨_, rfl⟩, ih⟩
    | @char c _ _ hany hone h ih =>
      have hc : WildcardAtom.ofChar c = .char c := by simp [WildcardAtom.ofChar, hany, hone]
      rw [List.map_cons, hc]
      exact ⟨[c], _, rfl, ⟨c, rfl, by simp [sameChar]⟩, ih⟩
  · intro h
    induction pattern generalizing text with
    | nil =>
      obtain rfl : text = [] := h
      exact .nil
    | cons c pattern ih =>
      obtain ⟨piece, rest, rfl, hpiece, hrest⟩ := h
      have hlike := ih hrest
      by_cases hany : c = '%'
      · subst hany
        exact .anyText piece hlike
      by_cases hone : c = '_'
      · subst hone
        obtain ⟨x, rfl⟩ := hpiece
        exact .anyChar hlike
      · have hc : WildcardAtom.ofChar c = .char c := by simp [WildcardAtom.ofChar, hany, hone]
        rw [hc] at hpiece
        obtain ⟨x, rfl, hx⟩ := hpiece
        obtain rfl : c = x := by simpa [sameChar] using hx
        exact .char hany hone hlike

/-- Where the case of characters counts, a text is matched just if it is like the pattern. -/
theorem isMatch_iff_isLike {pattern text : String} :
    (ofString pattern).isMatch false text ↔ IsLike text.toList pattern.toList := by
  rw [isMatch_iff, isLike_iff_matches, ofString]

end Wildcard

end RecordFilter
