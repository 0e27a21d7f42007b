import RecordFilter.Proofs.Calendar.Fields

/-!
# Dates that are read back

A date is read back from its text (`Date.ofText_chars`), and so are a time of day
and a moment, up to what is smaller than a millisecond, which is not written
(`Time.ofText_millisChars`, `Timestamp.ofText_chars`).
-/

namespace RecordFilter

open Text (paddedDigits)

/-! ## Items -/

namespace DatePattern

/-- The items of a date. -/
def dateItems : DatePattern :=
  [.number .year, .char '-', .number .month, .char '-', .number .day]

theorem read_fraction {parts : DateParts} {n : Nat} (h : parts.nano = none) (hn : n < 1000) :
    PatternItem.fraction.read parts ('.' :: paddedDigits 3 n) =
      .ok ({ parts with nano := some (n * 1000000) }, []) := by
  have hlen : (paddedDigits 3 n).length = 3 := Text.length_paddedDigits_of_lt (by decide) hn
  have hread : readDigits 1 (some 9) (paddedDigits 3 n ++ []) = .ok (n, 3, []) := by
    rw [readDigits_eq_ok, Text.digitsValue_paddedDigits, hlen]
    · rw [Option.map_some, Option.getD_some, List.take_of_length_le (by simp [hlen])]
      exact Text.takeWhile_append_stop (Text.all_isDigit_paddedDigits 3 n) (by simp)
    · omega
  rw [List.append_nil] at hread
  simp only [PatternItem.read, hread, Except.bind_ok, DateParts.setNano, h, DateParts.agree_none]
  rfl

end DatePattern

/-! ## Whole texts -/

/-- The time without what is smaller than a millisecond. -/
def Time.wholeMillis (t : Time) : Time where
  hour := t.hour
  minute := t.minute
  second := t.second
  nano := t.nano / 1000000 * 1000000
  isTime := by
    obtain ⟨hh, hm, hs, hn, hleap⟩ := t.isTime
    refine ⟨hh, hm, hs, ?_, ?_⟩
    · omega
    · omega

/-- A clock loses nothing to milliseconds just if it shows none of their fractions. -/
theorem Time.wholeMillis_eq_self {t : Time} : t.wholeMillis = t ↔ t.nano % 1000000 = 0 := by
  obtain ⟨hour, minute, second, nano, h⟩ := t
  simp only [wholeMillis, Time.mk.injEq, true_and]
  omega

namespace DateParts

theorem date_eq_ok (parts : DateParts) (d : Date) :
    date { parts with
      year := some d.year
      shortYear := none
      month := some d.month
      day := some d.day } = .ok d := by
  have h : Date.ofParts? d.year d.month d.day = some d := dif_pos d.isDate
  simp only [date, fullYear, Except.bind_ok, h]
  rfl

/-- A second 60 is read as the leap second it was written for. -/
theorem time_eq_ok (parts : DateParts) (t : Time) :
    time { parts with
      hour := some t.hour
      minute := some t.minute
      second := some (t.second + t.nano / 1000000000)
      nano := some (t.nano % 1000000000 / 1000000 * 1000000) } = .ok t.wholeMillis := by
  obtain ⟨hh, hm, hs, hn, hleap⟩ := t.isTime
  have hparts (n : Nat) (h : n = t.nano / 1000000 * 1000000) :
      Time.ofParts? t.hour t.minute t.second n = some t.wholeMillis := by
    subst h
    exact dif_pos t.wholeMillis.isTime
  -- In a leap second the second 60 is taken back to 59 and a second is put on the fraction.
  by_cases hl : 1000000000 ≤ t.nano
  · have h59 := hleap hl
    have hsecond : t.second + t.nano / 1000000000 = 60 := by omega
    have := hparts (1000000000 + t.nano % 1000000000 / 1000000 * 1000000) (by omega)
    rw [h59] at this
    simp [time, hsecond, this]
    rfl
  · have hzero : t.nano / 1000000000 = 0 := by omega
    have h60 : t.second + t.nano / 1000000000 ≠ 60 := by omega
    have := hparts (t.nano % 1000000000 / 1000000 * 1000000) (by omega)
    simp [time, hzero, this, Nat.ne_of_lt hs]
    rfl

end DateParts

theorem Date.chars_eq_row (t : Timestamp) :
    t.date.chars = DateField.year.chars t ++
      [⟨'-', .month⟩, ⟨'-', .day⟩].flatMap (DatePiece.chars t) := by
  simp [Date.chars, DatePiece.chars, DateField.chars, DateField.value]

/-- The text of a time of day is a row of fields, and digits of a fraction behind it. -/
theorem Time.millisChars_eq_row (t : Timestamp) :
    t.time.millisChars = DateField.hour.chars t ++
      [⟨':', .minute⟩, ⟨':', .second⟩].flatMap (DatePiece.chars t) ++
        '.' :: paddedDigits 3 (t.time.nano % 1000000000 / 1000000) := by
  simp only [Time.millisChars, Time.clockChars, List.flatMap_cons, List.flatMap_nil,
    DatePiece.chars, List.append_assoc, List.cons_append, List.append_nil]
  rfl

/-- A date is read back from its text. -/
theorem Date.ofText_chars (d : Date) : Date.ofText d.chars = .ok d := by
  have h : DatePattern.dateItems.readItems {} d.chars =
      .ok ({ year := some d.year, month := some d.month, day := some d.day }, []) := by
    have hrow := DatePattern.readItems_row ⟨d, Time.midnight⟩ .year
      [⟨'-', .month⟩, ⟨'-', .day⟩] [] [] (by decide) (by decide) (by simp)
    rw [← Date.chars_eq_row, List.append_nil, List.append_nil] at hrow
    exact hrow
  rw [DatePattern.dateItems] at h
  simp only [Date.ofText, DatePattern.read, h]
  exact DateParts.date_eq_ok {} d

/-- A time of day is read back from its text to the millisecond. -/
theorem Time.ofText_millisChars (t : Time) : Time.ofText t.millisChars = .ok t.wholeMillis := by
  have h : clockItems.readItems {} t.millisChars = .ok ({
      hour := some t.hour
      minute := some t.minute
      second := some (t.second + t.nano / 1000000000)
      nano := some (t.nano % 1000000000 / 1000000 * 1000000) }, []) := by
    have hrow := DatePattern.readItems_row ⟨⟨1970, 1, 1, by decide⟩, t⟩ .hour
      [⟨':', .minute⟩, ⟨':', .second⟩] [.fraction]
      ('.' :: paddedDigits 3 (t.nano % 1000000000 / 1000000)) (by decide) (by decide) (by simp)
    rw [← Time.millisChars_eq_row, DatePattern.readItems_cons
      (DatePattern.read_fraction rfl (by omega))] at hrow
    exact hrow
  simp only [Time.ofText, DatePattern.read, h]
  exact DateParts.time_eq_ok {} t

/-- A moment is read back from its text to the millisecond. -/
theorem Timestamp.ofText_chars (t : Timestamp) :
    Timestamp.ofText (t.date.chars ++ ' ' :: t.time.millisChars) =
      .ok ⟨t.date, t.time.wholeMillis⟩ := by
  have h : DatePattern.readItems (DatePattern.dateItems ++ .blanks :: clockItems) {}
      (t.date.chars ++ ' ' :: t.time.millisChars) = .ok ({
        year := some t.date.year
        month := some t.date.month
        day := some t.date.day
        hour := some t.time.hour
        minute := some t.time.minute
        second := some (t.time.second + t.time.nano / 1000000000)
        nano := some (t.time.nano % 1000000000 / 1000000 * 1000000) }, []) := by
    -- Date and time are one row of fields, with a blank in the middle as the only lead of its kind.
    have hrow := DatePattern.readItems_row t .year
      [⟨'-', .month⟩, ⟨'-', .day⟩, ⟨' ', .hour⟩, ⟨':', .minute⟩, ⟨':', .second⟩] [.fraction]
      ('.' :: paddedDigits 3 (t.time.nano % 1000000000 / 1000000)) (by decide) (by decide) (by simp)
    have hchars : t.date.chars ++ ' ' :: t.time.millisChars = DateField.year.chars t ++
        [⟨'-', .month⟩, ⟨'-', .day⟩, ⟨' ', .hour⟩, ⟨':', .minute⟩, ⟨':', .second⟩].flatMap
          (DatePiece.chars t) ++ '.' :: paddedDigits 3 (t.time.nano % 1000000000 / 1000000) := by
      rw [Date.chars_eq_row, Time.millisChars_eq_row]
      simp [DatePiece.chars]
    rw [← hchars, DatePattern.readItems_cons (DatePattern.read_fraction rfl (by omega))] at hrow
    exact hrow
  have hdate := DateParts.date_eq_ok {
    hour := some t.time.hour
    minute := some t.time.minute
    second := some (t.time.second + t.time.nano / 1000000000)
    nano := some (t.time.nano % 1000000000 / 1000000 * 1000000) } t.date
  have htime := DateParts.time_eq_ok {
    year := some t.date.year
    month := some t.date.month
    day := some t.date.day } t.time
  have hread : (DatePattern.dateItems ++ PatternItem.blanks :: clockItems).read
      (t.date.chars ++ ' ' :: t.time.millisChars) >>= DateParts.timestamp =
      .ok ⟨t.date, t.time.wholeMillis⟩ := by
    rw [DatePattern.read, h]
    simp only [Except.bind_ok, List.isEmpty_nil, if_true, pure, Except.pure, DateParts.timestamp]
    rw [hdate, htime]
    rfl
  -- The first of the two forms of a moment is the one that is written.
  unfold DatePattern.dateItems at hread
  simp only [Timestamp.ofText, hread]

end RecordFilter
