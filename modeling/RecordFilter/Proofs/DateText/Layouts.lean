import RecordFilter.DateText
import RecordFilter.Proofs.Calendar.Layout

/-!
# Layouts in strings

A string is tidied before it is read as a date. A moment that is written in a layout, with or
without quotes around it, becomes the same moment in the layout with hyphens for slashes and points
(`DateText.normalize_layout`), and the pattern of a layout reads the point in time that was written
(`DateText.millisBy?_layout`). The pattern itself is not tidied.
-/

namespace RecordFilter

/-! ## Texts without blanks around them -/

namespace Text

/-- A text neither begins nor ends with a blank. -/
def IsTrimmed (cs : List Char) : Prop :=
  (∀ c ∈ cs.head?, isBlank c = false) ∧ ∀ c ∈ cs.getLast?, isBlank c = false

theorem trimLeft_eq_self {cs : List Char} (h : ∀ c ∈ cs.head?, isBlank c = false) :
    trimLeft cs = cs := by
  cases cs with
  | nil => rfl
  | cons c cs => exact List.dropWhile_cons_of_neg (by simp [h c rfl])

theorem trim_eq_self {cs : List Char} (h : IsTrimmed cs) : trim cs = cs := by
  have hreverse : ∀ c ∈ cs.reverse.head?, isBlank c = false := by
    rw [List.head?_reverse]
    exact h.2
  rw [trim, trimLeft_eq_self h.1, trimLeft_eq_self hreverse, List.reverse_reverse]

theorem isTrimmed_of_forall {cs : List Char} (h : ∀ c ∈ cs, isBlank c = false) : IsTrimmed cs :=
  ⟨fun c hc => h c (List.mem_of_head? hc), fun c hc => h c (List.mem_of_getLast? hc)⟩

theorem IsTrimmed.append {as bs : List Char} (ha : IsTrimmed as) (hb : IsTrimmed bs) :
    IsTrimmed (as ++ bs) := by
  constructor
  · intro c hc
    rw [List.head?_append, Option.mem_def, Option.or_eq_some_iff] at hc
    rcases hc with hc | ⟨-, hc⟩
    · exact ha.1 c hc
    · exact hb.1 c hc
  · intro c hc
    rw [List.getLast?_append, Option.mem_def, Option.or_eq_some_iff] at hc
    rcases hc with hc | ⟨-, hc⟩
    · exact hb.2 c hc
    · exact ha.2 c hc

end Text

/-! ## Separators that are tidied -/

/-- A tidied separator. -/
def DateSeparator.tidied : DateSeparator → DateSeparator
  | .hyphen | .slash | .point => .hyphen
  | .space => .space

/-- A layout with tidied separators. -/
def DateLayout.tidied (l : DateLayout) : DateLayout :=
  { l with left := l.left.tidied, right := l.right.tidied }

/-- The separators are left as they are when a text is tidied. -/
def DateLayout.IsTidy (l : DateLayout) : Prop :=
  l.tidied = l

instance (l : DateLayout) : Decidable l.IsTidy :=
  inferInstanceAs (Decidable (_ = _))

namespace DateText

/-- Whether a character is one of the quotes that are taken out of a text. -/
def IsQuote (c : Char) : Prop :=
  c = '\'' ∨ c = '"'

instance : DecidablePred IsQuote := fun _ =>
  inferInstanceAs (Decidable (_ ∨ _))

/-- The text without quotes and with hyphens for slashes and points. -/
def tidy (cs : List Char) : List Char :=
  (cs.filter fun c => c ≠ '\'' ∧ c ≠ '"').map fun c => if c = '/' ∨ c = '.' then '-' else c

/-- A text is normalized by trimming it first and tidying it then. -/
theorem normalize_eq (cs : List Char) : normalize cs = tidy (Text.trim cs) := rfl

theorem tidy_append (as bs : List Char) : tidy (as ++ bs) = tidy as ++ tidy bs := by
  rw [tidy, List.filter_append, List.map_append]
  rfl

theorem tidy_quotes {cs : List Char} (h : ∀ c ∈ cs, IsQuote c) : tidy cs = [] := by
  have hnone : cs.filter (fun c => c ≠ '\'' ∧ c ≠ '"') = [] := by
    refine List.filter_eq_nil_iff.2 fun c hc => ?_
    rcases h c hc with rfl | rfl <;> decide
  rw [tidy, hnone, List.map_nil]

theorem tidy_separator (s : DateSeparator) (cs : List Char) :
    tidy (s.char :: cs) = s.tidied.char :: tidy cs := by
  cases s <;> rfl

/-- No slash and no point is left. -/
theorem ne_of_mem_tidy {cs : List Char} {c : Char} (h : c ∈ tidy cs) : c ≠ '/' ∧ c ≠ '.' := by
  obtain ⟨d, -, rfl⟩ := List.mem_map.1 h
  split
  · decide
  · next hd => exact not_or.1 hd

/-- The character is left as it is. -/
def IsPlain (c : Char) : Prop :=
  c.isDigit ∨ c = '-' ∨ c = '+' ∨ c = ' ' ∨ c = ':' ∨ c = ','

/-- A text without quotes, slashes and points is left as it is. -/
theorem tidy_eq_self_of_forall {cs : List Char} (h : ∀ c ∈ cs, ¬IsQuote c ∧ c ≠ '/' ∧ c ≠ '.') :
    tidy cs = cs := by
  have hkept : ∀ c ∈ cs, decide (c ≠ '\'' ∧ c ≠ '"') = true :=
    fun c hc => decide_eq_true (not_or.1 (h c hc).1)
  have hsame : ∀ c ∈ cs, (if c = '/' ∨ c = '.' then '-' else c) = c :=
    fun c hc => if_neg (not_or.2 (h c hc).2)
  rw [tidy, List.filter_eq_self.2 hkept, List.map_congr_left hsame, List.map_id']

/-- Digits, signs, blanks, colons and commas are left as they are. -/
theorem tidy_eq_self {cs : List Char} (h : ∀ c ∈ cs, IsPlain c) : tidy cs = cs := by
  refine tidy_eq_self_of_forall fun c hc => ?_
  rcases h c hc with hdigit | rfl | rfl | rfl | rfl | rfl
  · refine ⟨?_, ?_, ?_⟩
    · rintro (rfl | rfl) <;> cases hdigit
    · rintro rfl
      cases hdigit
    · rintro rfl
      cases hdigit
  all_goals decide

theorem tidy_field (t : Timestamp) (field : DateField) : tidy (field.chars t) = field.chars t := by
  refine tidy_eq_self fun c hc => ?_
  rcases DateField.isDigit_or_sign_of_mem_chars hc with h | h | h
  · exact .inl h
  · exact .inr (.inl h)
  · exact .inr (.inr (.inl h))

theorem tidy_clock (t : Timestamp) (precision : Precision) :
    tidy (precision.pieces.flatMap (DatePiece.chars t)) =
      precision.pieces.flatMap (DatePiece.chars t) := by
  have hspace (cs : List Char) : tidy (' ' :: cs) = ' ' :: tidy cs := rfl
  have hcolon (cs : List Char) : tidy (':' :: cs) = ':' :: tidy cs := rfl
  cases precision <;>
    simp only [Precision.pieces, List.flatMap_cons, List.flatMap_nil, DatePiece.chars,
      List.cons_append, tidy_append, hspace, hcolon, tidy_field] <;> rfl

/-- Only the separators of the date are tidied. -/
theorem tidy_chars (l : DateLayout) (t : Timestamp) : tidy (l.chars t) = l.tidied.chars t := by
  have hmillis : tidy (if l.precision = .milli then
        ',' :: Text.paddedDigits 3 (t.time.nano % 1000000000 / 1000000) else []) =
      if l.precision = .milli then
        ',' :: Text.paddedDigits 3 (t.time.nano % 1000000000 / 1000000) else [] := by
    refine tidy_eq_self fun c hc => ?_
    split at hc
    · rcases List.mem_cons.1 hc with rfl | hc
      · simp [IsPlain]
      · exact .inl (Text.isDigit_of_mem_paddedDigits hc)
    · cases hc
  simp only [DateLayout.chars, DateLayout.pieces, DateLayout.tidied, List.flatMap_cons,
    DatePiece.chars, List.cons_append, tidy_append, tidy_separator, tidy_field, tidy_clock, hmillis]
  rfl

end DateText

/-! ## Blanks around a moment -/

namespace DateLayout

/-- A piece ends with a field, so more pieces do not put a blank at the end. -/
theorem isTrimmed_append_pieces (t : Timestamp) {pieces : List DatePiece} {cs : List Char}
    (h : Text.IsTrimmed cs) (hne : cs ≠ []) :
    Text.IsTrimmed (cs ++ pieces.flatMap (DatePiece.chars t)) := by
  induction pieces generalizing cs with
  | nil => rwa [List.flatMap_nil, List.append_nil]
  | cons p pieces ih =>
    have hfield : Text.IsTrimmed (p.field.chars t) :=
      Text.isTrimmed_of_forall fun c => DateField.isBlank_of_mem_chars
    have hpiece : Text.IsTrimmed (cs ++ p.chars t) := by
      constructor
      · rw [List.head?_append_of_ne_nil _ hne]
        exact h.1
      · rw [DatePiece.chars, List.append_cons,
          List.getLast?_append_of_ne_nil _ (DateField.chars_ne_nil t p.field)]
        exact hfield.2
    rw [List.flatMap_cons, ← List.append_assoc]
    exact ih hpiece (by simp [hne])

theorem chars_ne_nil (l : DateLayout) (t : Timestamp) : l.chars t ≠ [] := by
  simp [chars, DateField.chars_ne_nil]

theorem isTrimmed_chars (l : DateLayout) (t : Timestamp) : Text.IsTrimmed (l.chars t) := by
  have hfirst : Text.IsTrimmed (l.order.first.chars t) :=
    Text.isTrimmed_of_forall fun c => DateField.isBlank_of_mem_chars
  refine (isTrimmed_append_pieces t hfirst (DateField.chars_ne_nil t _)).append ?_
  refine Text.isTrimmed_of_forall fun c hc => ?_
  split at hc
  · rcases List.mem_cons.1 hc with rfl | hc
    · decide
    · exact Token.isBlank_of_isDigit (Text.isDigit_of_mem_paddedDigits hc)
  · cases hc

end DateLayout

/-! ## Points in time -/

namespace DateText

/-- A moment in a layout, with or without quotes around it, is tidied to the moment in the tidied
    layout. -/
theorem normalize_layout (l : DateLayout) (t : Timestamp) {before after : List Char}
    (h : ∀ c ∈ before ++ after, IsQuote c) :
    normalize (before ++ l.chars t ++ after) = l.tidied.chars t := by
  obtain ⟨hbefore, hafter⟩ := List.forall_mem_append.1 h
  have htrimmed {cs : List Char} (h : ∀ c ∈ cs, IsQuote c) : Text.IsTrimmed cs := by
    refine Text.isTrimmed_of_forall fun c hc => ?_
    rcases h c hc with rfl | rfl <;> decide
  rw [normalize_eq, Text.trim_eq_self
      (((htrimmed hbefore).append (l.isTrimmed_chars t)).append (htrimmed hafter)),
    tidy_append, tidy_append, tidy_quotes hbefore, tidy_quotes hafter, tidy_chars,
    List.nil_append, List.append_nil]

/-- The pattern of a layout reads the point in time that is written. -/
theorem millisBy?_layout (l : DateLayout) (t : Timestamp) :
    millisBy? (l.chars t) l.items = some (t.upTo l.precision).epochMillis := by
  have hdate := Precision.date_parts t l.precision
  rw [millisBy?, l.read_chars t]
  by_cases hprecision : l.precision = .day
  · have htimestamp : (l.precision.parts t).timestamp = .error .notEnough := by
      rw [DateParts.timestamp, hdate, hprecision]
      rfl
    simp only [htimestamp, hdate]
    rw [hprecision, Timestamp.epochMillis_upTo_day]
    rfl
  · have htimestamp : (l.precision.parts t).timestamp =
        .ok (t.upTo l.precision) := by
      rw [DateParts.timestamp, hdate, Precision.time_parts t hprecision]
      rfl
    simp only [htimestamp]

/-- What is read of a moment in a layout, with or without quotes around it. -/
theorem millis?_quoted (patterns : List DatePattern) (l : DateLayout) (t : Timestamp)
    (before after : List Char) (h : ∀ c ∈ before ++ after, IsQuote c) :
    millis? patterns (String.ofList (before ++ l.chars t ++ after)) =
      patterns.findSome? (millisBy? (l.tidied.chars t)) := by
  rw [millis?, String.toList_ofList, normalize_layout l t h]
  exact if_neg (by simp [DateLayout.chars_ne_nil])

end DateText

end RecordFilter
