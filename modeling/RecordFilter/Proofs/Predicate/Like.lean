import RecordFilter.Proofs.Predicate.Algebra
import RecordFilter.Proofs.Wildcard.Regex

/-!
# The meaning of `LIKE`

The predicates for `LIKE` and `NOT LIKE` compare the plain text of a value with a pattern; NULL
has none and satisfies neither. Where the case of characters counts, a text matches just if it
is like the pattern (`Subject.satisfies_like_iff_isLike`), and so does the regular expression
that the pattern is written as.
-/

namespace RecordFilter

namespace PredicateOperator

variable {patterns : List DatePattern} {value : Literal} {pattern : String}

/-- `LIKE` holds of a value that has a plain text like the pattern. -/
theorem holds_like : like.holds patterns false value [.string pattern] ↔
    ∃ text ∈ value.plainText?, Wildcard.IsLike text.toList pattern.toList := by
  simp only [holds, Option.any_eq_true, Wildcard.isMatch_iff_isLike]
  rfl

/-- `NOT LIKE` holds of a value that has a plain text which is not like the pattern. -/
theorem holds_notLike : notLike.holds patterns false value [.string pattern] ↔
    ∃ text ∈ value.plainText?, ¬Wildcard.IsLike text.toList pattern.toList := by
  simp only [holds, Option.any_eq_true, Bool.not_eq_true', ← Bool.not_eq_true,
    Wildcard.isMatch_iff_isLike]
  rfl

theorem fits_pattern {op : PredicateOperator} (h : op = .like ∨ op = .notLike) :
    op.Fits [.literal (.string pattern)] where
  arity := by rcases h with rfl | rfl <;> rfl
  pattern _ := ⟨pattern, [], rfl⟩

end PredicateOperator

namespace Subject

variable {ρ : Type} [Record ρ]

/-- A record satisfies the predicate for `LIKE` if the value of the subject is not NULL and its
    plain text is like the pattern, and the one for `NOT LIKE` if its text is not. Read as a
    regular expression, the pattern is an anchor, one part for each character, and another
    anchor, and what this is found in are the texts that are like the pattern. -/
theorem satisfies_like_iff_isLike (config : Config) (r : ρ) (s : Subject) (pattern : String)
    (hs : s.IsDeclared ρ) (hcase : config.caseInsensitiveLike = false) :
    (∀ op, op = .like ∨ op = .notLike → ∃ p : Predicate ρ,
      (Registry.standard config).create op s [.literal (.string pattern)] = .ok p) ∧
    ((s.valueIn r).plainText? = none ↔ s.valueIn r = .null) ∧
    (s.Satisfies config r .like [.literal (.string pattern)] ↔ s.valueIn r ≠ .null ∧
      ∃ text ∈ (s.valueIn r).plainText?, Wildcard.IsLike text.toList pattern.toList) ∧
    (s.Satisfies config r .notLike [.literal (.string pattern)] ↔ s.valueIn r ≠ .null ∧
      ∃ text ∈ (s.valueIn r).plainText?, ¬Wildcard.IsLike text.toList pattern.toList) ∧
    ∃ parts, Regex.read (Wildcard.ofString pattern).regex.toList = some parts ∧
      parts = .start :: pattern.toList.map (fun c => .atom (.ofChar c)) ++ [.stop] ∧
      ∀ text, Regex.Finds (Wildcard.sameChar false) parts text ↔
        Wildcard.IsLike text pattern.toList := by
  have hvalue : ∀ v ∈ [Operand.literal (.string pattern)], v.IsDeclared ρ :=
    List.forall_mem_singleton.2 trivial
  -- A value with a text is not NULL, so that condition is only spelled out.
  have hnull (P : String → Prop) (h : ∃ text ∈ (s.valueIn r).plainText?, P text) :
      s.valueIn r ≠ .null := by
    obtain ⟨text, htext, -⟩ := h
    rw [ne_eq, ← Literal.plainText?_eq_none, htext]
    exact Option.some_ne_none text
  refine ⟨?made, Literal.plainText?_eq_none, ?like, ?notLike, ?regex⟩
  case made =>
    intro op hop
    exact ⟨_, Registry.create_eq_ok.2 ⟨⟨hs, hvalue⟩, PredicateOperator.fits_pattern hop, rfl⟩⟩
  case like =>
    rw [satisfies_iff hs hvalue (PredicateOperator.fits_pattern (.inl rfl)), hcase,
      and_iff_right_of_imp (hnull _)]
    exact PredicateOperator.holds_like
  case notLike =>
    rw [satisfies_iff hs hvalue (PredicateOperator.fits_pattern (.inr rfl)), hcase,
      and_iff_right_of_imp (hnull _)]
    exact PredicateOperator.holds_notLike
  case regex =>
    refine ⟨_, Wildcard.read_regex _, ?_, fun text => ?_⟩
    · simp [Regex.anchored, Wildcard.ofString]
    · -- Where the expression is found is where the pattern matches.
      have hfinds := Wildcard.isMatch_iff_finds false (.ofString pattern) (String.ofList text)
      rw [Wildcard.isMatch_iff_isLike, String.toList_ofList, Wildcard.read_regex] at hfinds
      simpa only [Option.some.injEq, exists_eq_left'] using hfinds.symm

/-- A row whose first column is a text of two lines. -/
def linesRow : Filter.Row :=
  [("a", .string "x.\ny\\")]

/-- A percent sign stands for a line end, and a point and a backslash only for themselves. -/
theorem satisfies_like_linesRow :
    (column ⟨none, "a"⟩).IsDeclared Filter.Row ∧ ({} : Config).caseInsensitiveLike = false ∧
    (column ⟨none, "a"⟩).Satisfies {} linesRow .like [.literal (.string "_.%\\")] ∧
    Regex.read "^.\\..*\\\\$".toList = some [.start, .atom .anyChar, .atom (.char '.'),
      .atom .anyText, .atom (.char '\\'), .stop] := by
  have ha : (column ⟨none, "a"⟩).IsDeclared Filter.Row := rfl
  obtain ⟨-, -, hlike, -, parts, hread, rfl, -⟩ :=
    satisfies_like_iff_isLike {} linesRow _ "_.%\\" ha rfl
  have htext : Wildcard.IsLike "x.\ny\\".toList "_.%\\".toList :=
    .anyChar (.char (by decide) (by decide) (.anyText ['\n', 'y']
      (.char (by decide) (by decide) .nil)))
  exact ⟨ha, rfl, hlike.2 ⟨nofun, _, rfl, htext⟩, hread⟩

end Subject

end RecordFilter
