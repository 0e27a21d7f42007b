import RecordFilter.Proofs.Wildcard.Matching

/-!
# Patterns as regular expressions

A pattern is written as a regular expression so that the parts of the pattern are read back
from it, one by one between two anchors (`Wildcard.read_regex`): no character of a pattern
gets another meaning, whatever it stands beside. To find these parts anywhere in a text is to
match the whole text (`Regex.finds_anchored`), so matching a pattern gives the same answers as
a search for its regular expression (`Wildcard.isMatch_iff_finds`).

Regular expressions are read here without regard to patterns (`Regex.read`). What a pattern
has no use for, such as groups, classes and repetitions of anything but a dot, is refused
instead of being taken for characters. What is read has the meaning that an engine is expected
to give it where dots match line ends (`Regex.Finds`).
-/

namespace RecordFilter

namespace Regex

/-- A part of a regular expression: an anchor, or something that a part of a pattern with
    wildcards can be too. -/
inductive Part
  | start
  | stop
  | atom (atom : WildcardAtom)
  deriving DecidableEq, Repr

/-! ## Reading -/

/-- The characters that do not stand for themselves unless they are escaped. -/
def operators : List Char :=
  ['\\', '.', '+', '*', '?', '(', ')', '|', '[', ']', '\x7b', '\x7d', '^', '$']

/-- Whether a character stands for itself behind a backslash. Letters and digits have
    meanings there, and so have the two signs for the ends of words. -/
def isEscapable (c : Char) : Bool :=
  c.toNat < 128 && !c.isAlphanum && c != '<' && c != '>'

/-- The parts of a regular expression. -/
def read : List Char → Option (List Part)
  | [] => some []
  | '^' :: cs => (read cs).map (.start :: ·)
  | '$' :: cs => (read cs).map (.stop :: ·)
  | '.' :: '*' :: cs => (read cs).map (.atom .anyText :: ·)
  | '.' :: cs => (read cs).map (.atom .anyChar :: ·)
  | '\\' :: c :: cs => if isEscapable c then (read cs).map (.atom (.char c) :: ·) else none
  | c :: cs => if operators.contains c then none else (read cs).map (.atom (.char c) :: ·)

/-! ## Matching -/

/-- Whether the parts match a piece of a text that begins between the given characters. A
    dot matches any character, line ends included, and an anchor only the very end. -/
def MatchesAt (same : Char → Char → Bool) : List Part → List Char → List Char → Prop
  | [], _, _ => True
  | .start :: parts, front, back => front = [] ∧ MatchesAt same parts front back
  | .stop :: parts, front, back => back = [] ∧ MatchesAt same parts front back
  | .atom atom :: parts, front, back => ∃ piece rest, back = piece ++ rest ∧
      atom.Takes same piece ∧ MatchesAt same parts (front ++ piece) rest

/-- Whether the parts match a piece of a text, wherever it begins. -/
def Finds (same : Char → Char → Bool) (parts : List Part) (text : List Char) : Prop :=
  ∃ front back, text = front ++ back ∧ MatchesAt same parts front back

/-- The parts of a pattern between the anchors of a whole text. -/
def anchored (w : Wildcard) : List Part :=
  .start :: w.map .atom ++ [.stop]

variable {same : Char → Char → Bool}

/-- Up to the anchor at the end, the parts match what is left of a text if the pattern does. -/
theorem matchesAt_atoms {w : Wildcard} {front back : List Char} :
    MatchesAt same (w.map .atom ++ [.stop]) front back ↔ w.Matches same back := by
  induction w generalizing front back with
  | nil => simp [MatchesAt, Wildcard.Matches]
  | cons atom w ih =>
    simp only [List.map_cons, List.cons_append, MatchesAt, Wildcard.Matches, WildcardAtom.Leads, ih]

/-- What stands between two anchors is found in a text if it matches all of it. -/
theorem finds_anchored {w : Wildcard} {text : List Char} :
    Finds same (anchored w) text ↔ w.Matches same text := by
  constructor
  · rintro ⟨front, back, rfl, rfl, hmatch⟩
    exact matchesAt_atoms.1 hmatch
  · intro h
    exact ⟨[], text, rfl, rfl, matchesAt_atoms.2 h⟩

/-! ## Patterns -/

/-- A part of a pattern as a regular expression. -/
def chars : WildcardAtom → List Char
  | .anyText => ['.', '*']
  | .anyChar => ['.']
  | .char c => if Wildcard.regexSigns.contains c then ['\\', c] else [c]

/-- All characters that are escaped in a pattern may be. -/
theorem isEscapable_of_sign {c : Char} (h : c ∈ Wildcard.regexSigns) : isEscapable c := by
  have hsigns : Wildcard.regexSigns.all isEscapable := by decide +kernel
  exact List.all_eq_true.1 hsigns c h

/-- All characters that have to be escaped are. -/
theorem sign_of_operator {c : Char} (h : c ∈ operators) : c ∈ Wildcard.regexSigns := by
  have hoperators : operators.all Wildcard.regexSigns.contains := by decide +kernel
  exact List.contains_iff_mem.1 (List.all_eq_true.1 hoperators c h)

theorem read_escaped {c : Char} (h : c ∈ Wildcard.regexSigns) (cs : List Char) :
    read ('\\' :: c :: cs) = (read cs).map (.atom (.char c) :: ·) := by
  simp [read, isEscapable_of_sign h]

theorem read_unescaped {c : Char} (h : c ∉ Wildcard.regexSigns) (cs : List Char) :
    read (c :: cs) = (read cs).map (.atom (.char c) :: ·) := by
  have hoperator : c ∉ operators := fun hc => h (sign_of_operator hc)
  rw [read] <;> simp_all [operators]

/-- A part of a pattern is read back, if no star behind it makes another one of it. -/
theorem read_chars (atom : WildcardAtom) {cs : List Char} (hcs : cs.head? ≠ some '*') :
    read (chars atom ++ cs) = (read cs).map (.atom atom :: ·) := by
  cases atom with
  | anyText => simp [chars, read]
  | anyChar =>
    rw [chars, List.singleton_append, read]
    -- A dot is read alone, unless a star makes one part of both.
    rintro cs rfl
    exact hcs rfl
  | char c =>
    by_cases hc : c ∈ Wildcard.regexSigns
    · simp [chars, hc, read_escaped hc]
    · simp [chars, hc, read_unescaped hc]

/-- No part of a pattern is written with a star in front. -/
theorem head?_chars (atom : WildcardAtom) (cs : List Char) :
    (chars atom ++ cs).head? ≠ some '*' := by
  cases atom with
  | anyText | anyChar => simp [chars]
  | char c =>
    by_cases hc : c ∈ Wildcard.regexSigns
    · simp [chars, hc]
    · have hstar : c ≠ '*' := fun h => hc (h ▸ by decide +kernel)
      simp [chars, hc, hstar]

/-- What the parts of a pattern are written as, up to the anchor, is read as these parts. -/
theorem read_flatMap_chars (w : Wildcard) :
    read (w.flatMap chars ++ ['$']) = some (w.map .atom ++ [.stop]) := by
  induction w with
  | nil => rfl
  | cons atom w ih =>
    -- What comes next is another part of the pattern or the anchor, and no star.
    have hnext : (w.flatMap chars ++ ['$']).head? ≠ some '*' := by
      cases w with
      | nil => simp
      | cons next w =>
        rw [List.flatMap_cons, List.append_assoc]
        exact head?_chars next _
    rw [List.flatMap_cons, List.append_assoc, read_chars atom hnext, ih]
    rfl

end Regex

namespace Wildcard

/-- An escaped text is that of its characters one by one. -/
theorem toList_escape (literal : String) :
    (escape literal).toList = (literal.toList.map WildcardAtom.char).flatMap Regex.chars := by
  rw [escape, String.toList_ofList, List.flatMap_map]
  rfl

/-- At any time, the characters that have been collected stand for the parts of the pattern
    between what is written and what is still to come. -/
theorem toList_regexFrom (w : Wildcard) (written literal : String) :
    (regexFrom written literal w).toList = written.toList ++
      (literal.toList.map WildcardAtom.char ++ w).flatMap Regex.chars ++ ['$'] := by
  induction w generalizing written literal with
  | nil => simp [regexFrom, toList_escape]
  | cons atom w ih =>
    cases atom with
    | anyText | anyChar => simp [regexFrom, ih, toList_escape, Regex.chars]
    | char c => simp [regexFrom, ih]

/-- The regular expression of a pattern is read as the parts of it between two anchors. -/
theorem read_regex (w : Wildcard) : Regex.read w.regex.toList = some (Regex.anchored w) := by
  rw [regex, toList_regexFrom]
  exact congrArg (Option.map (.start :: ·)) (Regex.read_flatMap_chars w)

/-- A pattern matches a text if its regular expression is found in the text. -/
theorem isMatch_iff_finds (ignoreCase : Bool) (w : Wildcard) (text : String) :
    w.isMatch ignoreCase text ↔ ∃ parts, Regex.read w.regex.toList = some parts ∧
      Regex.Finds (sameChar ignoreCase) parts text.toList := by
  simp only [read_regex, Option.some.injEq, exists_eq_left', Regex.finds_anchored, isMatch_iff]

end Wildcard

end RecordFilter
