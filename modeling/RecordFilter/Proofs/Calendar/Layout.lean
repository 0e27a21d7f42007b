import RecordFilter.Proofs.Calendar.RoundTrip

/-!
# Layouts of dates

A layout says how a moment is written: the order of year, month and day, what stands between them,
and how much of the time of day follows (`DateLayout`). It has a pattern (`DateLayout.format`), and
a moment is written in it (`DateLayout.chars`).

What a layout writes its pattern reads, up to the part of the time of day that is not written
(`DateLayout.read_chars`).
-/

namespace RecordFilter

open Text (paddedDigits)

/-! ## Patterns as text -/

/-- The letter of a field in the text of a pattern. -/
def DateField.letter : DateField → Char
  | .year => 'Y'
  | .shortYear => 'y'
  | .month => 'm'
  | .day => 'd'
  | .hour => 'H'
  | .minute => 'M'
  | .second => 'S'

/-- A piece in the text of a pattern. -/
def DatePiece.format (p : DatePiece) : List Char :=
  [p.lead, '%', p.field.letter]

namespace DatePattern

theorem ofChars_field (field : DateField) (rest : List Char) :
    ofChars ('%' :: field.letter :: rest) = .number field :: ofChars rest := by
  cases field <;> rfl

theorem ofChars_lead {c : Char} (h : c ≠ '%') (rest : List Char) :
    ofChars (c :: rest) = (if Text.isBlank c then .blanks else .char c) :: ofChars rest := by
  rw [ofChars]
  all_goals simp_all

/-- The format of a layout's pieces is read as the items of these pieces. -/
theorem ofChars_pieces {pieces : List DatePiece} (h : ∀ p ∈ pieces, p.lead ≠ '%')
    (rest : List Char) :
    ofChars (pieces.flatMap DatePiece.format ++ rest) =
      pieces.flatMap DatePiece.items ++ ofChars rest := by
  induction pieces with
  | nil => rfl
  | cons p pieces ih =>
    rw [List.forall_mem_cons] at h
    simp only [List.flatMap_cons, DatePiece.format, List.cons_append, List.nil_append]
    rw [ofChars_lead h.1, ofChars_field, ih h.2]
    rfl

theorem read_millis {parts : DateParts} {n : Nat} (h : parts.nano = none) (hn : n < 1000) :
    PatternItem.millis.read parts (paddedDigits 3 n) =
      .ok ({ parts with nano := some (n * 1000000) }, []) := by
  have hread := readDigits_paddedDigits (by decide) (Nat.le_refl 3) hn []
  rw [List.append_nil] at hread
  simp only [PatternItem.read, hread, Except.bind_ok, DateParts.setNano, h, DateParts.agree_none]
  rfl

end DatePattern

/-! ## Layouts -/

/-- The order of year, month and day. -/
inductive DateOrder
  | yearMonthDay | yearDayMonth | monthYearDay | monthDayYear | dayYearMonth | dayMonthYear
  deriving DecidableEq

namespace DateOrder

/-- The first field of a date. -/
def first : DateOrder → DateField
  | .yearMonthDay | .yearDayMonth => .year
  | .monthYearDay | .monthDayYear => .month
  | .dayYearMonth | .dayMonthYear => .day

/-- The second field of a date. -/
def second : DateOrder → DateField
  | .monthYearDay | .dayYearMonth => .year
  | .yearMonthDay | .dayMonthYear => .month
  | .yearDayMonth | .monthDayYear => .day

/-- The third field of a date. -/
def third : DateOrder → DateField
  | .monthDayYear | .dayMonthYear => .year
  | .yearDayMonth | .dayYearMonth => .month
  | .yearMonthDay | .monthYearDay => .day

end DateOrder

/-- What stands between the fields of a date. -/
inductive DateSeparator
  | hyphen | slash | point | space
  deriving DecidableEq

/-- The character of a separator. -/
def DateSeparator.char : DateSeparator → Char
  | .hyphen => '-'
  | .slash => '/'
  | .point => '.'
  | .space => ' '

/-- How much of the time of day is written. -/
inductive Precision
  | day | minute | second | milli
  deriving DecidableEq

namespace Precision

/-- The fields of the time of day that are written. -/
def pieces : Precision → List DatePiece
  | .day => []
  | .minute => [⟨' ', .hour⟩, ⟨':', .minute⟩]
  | .second | .milli => [⟨' ', .hour⟩, ⟨':', .minute⟩, ⟨':', .second⟩]

/-- The time as far as it is written. -/
def cut (t : Time) : Precision → Time
  | .day => .midnight
  | .minute =>
    { hour := t.hour, minute := t.minute, second := 0, nano := 0
      isTime := ⟨t.isTime.1, t.isTime.2.1, by decide, by decide, by decide⟩ }
  | .second =>
    { hour := t.hour, minute := t.minute, second := t.second
      nano := t.nano / 1000000000 * 1000000000
      isTime := by
        obtain ⟨hh, hm, hs, hn, hleap⟩ := t.isTime
        exact ⟨hh, hm, hs, by omega, by omega⟩ }
  | .milli => t.wholeMillis

end Precision

/-- The moment as far as it is written. -/
def Timestamp.upTo (t : Timestamp) (precision : Precision) : Timestamp :=
  ⟨t.date, precision.cut t.time⟩

/-- A moment that is kept to the day is the midnight of its day. -/
theorem Timestamp.epochMillis_upTo_day (t : Timestamp) :
    (t.upTo .day).epochMillis = t.date.epochMillis := by
  have hmidnight : Time.midnight.dayMillis = 0 := by decide
  rw [upTo, epochMillis, Precision.cut, hmidnight, Int.natCast_zero, Int.add_zero]

/-- A form in which a moment is written. -/
structure DateLayout where
  order : DateOrder
  left : DateSeparator
  right : DateSeparator
  precision : Precision
  deriving DecidableEq

namespace DateLayout

/-- The fields behind the first one. -/
def pieces (l : DateLayout) : List DatePiece :=
  ⟨l.left.char, l.order.second⟩ :: ⟨l.right.char, l.order.third⟩ :: l.precision.pieces

/-- The text of the pattern of a layout. -/
def format (l : DateLayout) : String :=
  String.ofList ('%' :: l.order.first.letter :: l.pieces.flatMap DatePiece.format ++
    if l.precision = .milli then ",%3f".toList else [])

/-- A moment as it is written in a layout. -/
def chars (l : DateLayout) (t : Timestamp) : List Char :=
  l.order.first.chars t ++ l.pieces.flatMap (DatePiece.chars t) ++
    if l.precision = .milli then ',' :: paddedDigits 3 (t.time.nano % 1000000000 / 1000000) else []

/-- The text of a moment in a layout. -/
def text (l : DateLayout) (t : Timestamp) : String :=
  String.ofList (l.chars t)

/-- The characters that stand in front of fields. -/
def leads : List Char :=
  ['-', '/', '.', ' ', ':']

/-- The items of the pattern of a layout. -/
def items (l : DateLayout) : DatePattern :=
  .number l.order.first :: l.pieces.flatMap DatePiece.items ++
    if l.precision = .milli then [.char ',', .millis] else []

theorem lead_mem_leads {l : DateLayout} {p : DatePiece} (h : p ∈ l.pieces) : p.lead ∈ leads := by
  have hchar (s : DateSeparator) : s.char ∈ leads := by cases s <;> decide
  have hclock : ∀ p ∈ l.precision.pieces, p.lead ∈ leads := by cases l.precision <;> decide
  simp only [pieces, List.mem_cons] at h
  rcases h with rfl | rfl | h
  · exact hchar l.left
  · exact hchar l.right
  · exact hclock p h

/-- The format that a layout spells is read as the items of the layout. -/
theorem ofString_format (l : DateLayout) : DatePattern.ofString l.format = l.items := by
  have hleads (p : DatePiece) (hp : p ∈ l.pieces) : p.lead ≠ '%' := by
    have hlead : ∀ c ∈ leads, c ≠ '%' := by simp [leads]
    exact hlead _ (lead_mem_leads hp)
  rw [DatePattern.ofString, format, String.toList_ofList, List.cons_append, List.cons_append,
    DatePattern.ofChars_field, DatePattern.ofChars_pieces hleads, items, List.cons_append]
  split <;> rfl

end DateLayout

namespace Precision

/-- What is read of a moment. -/
def parts (t : Timestamp) (precision : Precision) : DateParts :=
  let date : DateParts := { year := t.date.year, month := t.date.month, day := t.date.day }
  match precision with
  | .day => date
  | .minute => { date with hour := t.time.hour, minute := t.time.minute }
  | .second =>
    { date with
      hour := t.time.hour
      minute := t.time.minute
      second := some (t.time.second + t.time.nano / 1000000000) }
  | .milli =>
    { date with
      hour := t.time.hour
      minute := t.time.minute
      second := some (t.time.second + t.time.nano / 1000000000)
      nano := some (t.time.nano % 1000000000 / 1000000 * 1000000) }

end Precision

namespace DateLayout

/-- No field stands twice in a layout, so none is filled twice. -/
theorem nodup_fields (l : DateLayout) :
    (l.order.first :: l.pieces.map DatePiece.field).Nodup := by
  obtain ⟨order, left, right, precision⟩ := l
  change (order.first :: order.second :: order.third :: precision.pieces.map DatePiece.field).Nodup
  cases order <;> cases precision <;> decide

/-- The pieces hold everything but the milliseconds. -/
theorem foldl_store_pieces (l : DateLayout) (t : Timestamp) :
    l.pieces.foldl (DatePiece.store t) (({} : DateParts).put l.order.first (l.order.first.value t)) =
      if l.precision = .milli then Precision.second.parts t else l.precision.parts t := by
  obtain ⟨order, left, right, precision⟩ := l
  cases order <;> cases precision <;> rfl

/-- Every layout is read back. -/
theorem read_chars (l : DateLayout) (t : Timestamp) :
    l.items.read (l.chars t) = .ok (l.precision.parts t) := by
  have hleads (p : DatePiece) (hp : p ∈ l.pieces) : p.lead.isDigit = false := by
    have hlead : ∀ c ∈ leads, c.isDigit = false := by simp [leads]
    exact hlead _ (lead_mem_leads hp)
  have hread : l.items.readItems {} (l.chars t) = .ok (l.precision.parts t, []) := by
    rw [items, chars, DatePattern.readItems_row t _ _ _ _ hleads l.nodup_fields (by split <;> simp),
      foldl_store_pieces]
    -- Only milliseconds leave something behind the pieces: a comma and three digits.
    cases hprecision : l.precision with
    | milli =>
      simp only [if_pos]
      rw [DatePattern.readItems_cons DatePattern.read_char,
        DatePattern.readItems_cons (DatePattern.read_millis rfl (by omega))]
      rfl
    | _ => rfl
  rw [DatePattern.read, hread]
  rfl

end DateLayout

/-! ## Points in time -/

namespace DateParts

/-- Without a fraction of a second the time is that of a fraction that is zero. -/
theorem time_of_nano_none {parts : DateParts} {second : Nat} (hsecond : parts.second = some second)
    (hnano : parts.nano = none) : parts.time = time { parts with nano := some 0 } := by
  simp [time, hsecond, hnano]

end DateParts

namespace Precision

theorem date_parts (t : Timestamp) (precision : Precision) :
    (precision.parts t).date = .ok t.date := by
  have h : precision.parts t = { precision.parts t with
      year := some t.date.year
      shortYear := none
      month := some t.date.month
      day := some t.date.day } := by
    cases precision <;> rfl
  rw [h]
  exact DateParts.date_eq_ok (precision.parts t) t.date

/-- What is read of a moment has the time of the moment as far as it is written. -/
theorem time_parts (t : Timestamp) {precision : Precision} (h : precision ≠ .day) :
    (precision.parts t).time = .ok (precision.cut t.time) := by
  cases precision with
  | day => exact absurd rfl h
  | minute =>
    have hparts : Time.ofParts? t.time.hour t.time.minute 0 0 = some (minute.cut t.time) :=
      dif_pos (minute.cut t.time).isTime
    simp [parts, DateParts.time, hparts]
    rfl
  | second =>
    -- What is written is a whole number of seconds, and a missing fraction is zero.
    have hwhole : (second.cut t.time).wholeMillis = second.cut t.time := by
      refine Time.wholeMillis_eq_self.2 ?_
      change t.time.nano / 1000000000 * 1000000000 % 1000000 = 0
      omega
    have htime := DateParts.time_eq_ok (second.parts t) (second.cut t.time)
    have hsecond : t.time.second + t.time.nano / 1000000000 * 1000000000 / 1000000000 =
        t.time.second + t.time.nano / 1000000000 := by omega
    have hnano : t.time.nano / 1000000000 * 1000000000 % 1000000000 / 1000000 * 1000000 = 0 := by
      omega
    rw [hwhole] at htime
    rw [DateParts.time_of_nano_none rfl rfl, ← htime]
    simp only [cut, parts, hsecond, hnano]
  | milli => exact DateParts.time_eq_ok _ t.time

end Precision

end RecordFilter
