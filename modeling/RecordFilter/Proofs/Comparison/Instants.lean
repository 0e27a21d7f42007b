import RecordFilter.Proofs.Calendar.Days
import RecordFilter.Proofs.Comparison.Laws
import RecordFilter.Proofs.DateText.Formats

/-!
# Comparing points in time

A point in time can be held as a date, a time or a moment, as a number of milliseconds and as
text. Which of these stands on either side does not matter for the order
(`Literal.compare?_instants`): dates, times and moments are in the order of their milliseconds,
and the text of a date is read back as the milliseconds of the date. Only a leap second is
counted into the next day by its milliseconds.
-/

namespace RecordFilter

/-- The text of a date is read as the date if nothing else is set. -/
theorem DateText.millis?_text (d : Date) :
    millis? ({} : Config).datePatterns d.text = some d.epochMillis := by
  have hhyphen : DateSeparator.hyphen ≠ .space := by decide
  have hread := millis?_default_layout ⟨d, Time.midnight⟩ .day hhyphen hhyphen [] [] (by simp)
  have hchars : [] ++ (DateLayout.mk .yearMonthDay .hyphen .hyphen .day).chars ⟨d, Time.midnight⟩ ++
      [] = d.chars := by
    simp [DateLayout.chars, DateLayout.pieces, Precision.pieces, DatePiece.chars, Date.chars,
      DateOrder.first, DateOrder.second, DateOrder.third, DateField.chars, DateField.value,
      DateSeparator.char]
  rw [hchars, Timestamp.epochMillis_upTo_day] at hread
  exact hread

namespace Timestamp

/-- The beginning of 1970. -/
def epoch : Timestamp where
  date := ⟨1970, 1, 1, by decide⟩
  time := Time.midnight

/-- The last nanosecond before the beginning of 1970. -/
def lastBeforeEpoch : Timestamp where
  date := ⟨1969, 12, 31, by decide⟩
  time := ⟨23, 59, 59, 999999999, by decide⟩

end Timestamp

namespace Literal

variable {patterns : List DatePattern}

/-! ## Milliseconds -/

/-- The value is a whole number or a date. -/
def IsWholeOrDate : Literal → Prop
  | .integer _ | .long _ | .date _ => True
  | _ => False

/-- The value is a time or a moment that is not within a leap second. -/
def IsClock : Literal → Prop
  | .time t => ¬ t.IsLeapSecond
  | .timestamp t => ¬ t.time.IsLeapSecond
  | _ => False

/-- The milliseconds of every value are a whole number of 64 bits. -/
theorem toInt_ofInt_millis {a : Literal} {m : Int} (h : a.millis? = some m) :
    (Int64.ofInt m).toInt = m := by
  have hbounds : -2 ^ 63 ≤ m ∧ m < 2 ^ 63 := by
    cases a with
    | integer v =>
      obtain rfl := Option.some.inj h
      have := v.le_toInt
      have := v.toInt_lt
      omega
    | long v =>
      obtain rfl := Option.some.inj h
      exact ⟨v.le_toInt, v.toInt_lt⟩
    | date d =>
      obtain rfl := Option.some.inj h
      have := d.epochMillis_bounds
      omega
    | time t =>
      obtain rfl := Option.some.inj h
      have := t.dayMillis_le
      omega
    | timestamp t =>
      obtain rfl := Option.some.inj h
      have := t.epochMillis_bounds
      omega
    | _ => cases h
  exact Int64.toInt_ofInt_of_le hbounds.1 hbounds.2

/-- A value with milliseconds is compared with a whole number by them. -/
theorem compare?_long {a : Literal} {m : Int} (h : a.millis? = some m) (v : Int64) :
    a.compare? patterns (long v) = some (compare m v.toInt) := by
  cases a with
  | double | string | null => cases h
  | _ =>
    obtain rfl := Option.some.inj h
    rfl

/-- A value is compared in the same way with another one that has milliseconds and with the
    number of these, if that is the order of the milliseconds. -/
theorem compare?_long_ofInt {a b : Literal} {m n : Int} (ha : a.millis? = some m)
    (hb : b.millis? = some n) : a.compare? patterns (long (.ofInt n)) = some (compare m n) := by
  rw [compare?_long ha, toInt_ofInt_millis hb]

/-- The milliseconds of a value, as a whole number, are compared as the value is. -/
theorem compare?_ofInt_long {a b : Literal} {m n : Int} (ha : a.millis? = some m)
    (hb : b.millis? = some n) : (long (.ofInt m)).compare? patterns b = some (compare m n) := by
  rw [compare?_swap b, compare?_long_ofInt hb ha, Option.map_some, ← Std.OrientedCmp.eq_swap]

/-- Whole numbers and dates are in the order of what they stand for. -/
theorem compare?_of_isWholeOrDate {a b : Literal} (ha : a.IsWholeOrDate) (hb : b.IsWholeOrDate) :
    ∃ m n, a.millis? = some m ∧ b.millis? = some n ∧
      a.compare? patterns b = some (compare m n) := by
  cases a with
  | date d =>
    cases b with
    | date e => exact ⟨_, _, rfl, rfl, congrArg some (d.compare_eq_compare_epochMillis e)⟩
    | integer | long => exact ⟨_, _, rfl, rfl, rfl⟩
    | _ => cases hb
  | integer | long =>
    cases b with
    | integer | long | date => exact ⟨_, _, rfl, rfl, rfl⟩
    | _ => cases hb
  | _ => cases ha

/-- Times and moments are in the order of their milliseconds, if these are not the same. -/
theorem compare?_of_isClock {a b : Literal} (ha : a.IsClock) (hb : b.IsClock)
    (h : a.millis? ≠ b.millis?) : ∃ m n, a.millis? = some m ∧ b.millis? = some n ∧
      a.compare? patterns b = some (compare m n) := by
  cases a with
  | time s =>
    cases b with
    | time t =>
      -- Two times are compared to the nanosecond, which their milliseconds only decide where they
      -- differ.
      have hne : s.dayMillis ≠ t.dayMillis := fun heq =>
        h (congrArg (fun n : Nat => some (n : Int)) heq)
      exact ⟨_, _, rfl, rfl, congrArg some (Time.compare_eq_compare_dayMillis ha hb hne)⟩
    | timestamp => exact ⟨_, _, rfl, rfl, rfl⟩
    | _ => cases hb
  | timestamp s =>
    cases b with
    | timestamp t =>
      have hne : s.epochMillis ≠ t.epochMillis := fun heq => h (congrArg some heq)
      exact ⟨_, _, rfl, rfl, congrArg some (Timestamp.compare_eq_compare_epochMillis ha hb hne)⟩
    | time => exact ⟨_, _, rfl, rfl, rfl⟩
    | _ => cases hb
  | _ => cases ha

/-- A date is compared with the text of another date as with that date. -/
theorem compare?_date_text (d e : Date) :
    (date d).compare? ({} : Config).datePatterns (string e.text) =
      some (compare d.epochMillis e.epochMillis) := by
  have htext : ofText? ({} : Config).datePatterns e.text (date d) =
      some (long (.ofInt e.epochMillis)) := by
    rw [ofText?, DateText.millis?_text]
  rw [compare?_string_right rfl, compare?_string_left _ rfl, htext, Option.bind_some,
    ← compareValues?_swap, ← @compare?_eq_compareValues? [] _ _ rfl rfl]
  exact compare?_long_ofInt (a := date d) (b := date e) rfl rfl

/-! ## The order of the milliseconds -/

/-- The value comes before the other one or is the same. -/
def AtMost (patterns : List DatePattern) (a b : Literal) : Prop :=
  ∃ o, a.compare? patterns b = some o ∧ o.isLE

/-- Among whole numbers and dates the order is that of the milliseconds. -/
theorem atMost_iff {a b : Literal} (ha : a.IsWholeOrDate) (hb : b.IsWholeOrDate) :
    AtMost patterns a b ↔ ∃ m n, a.millis? = some m ∧ b.millis? = some n ∧ m ≤ n := by
  obtain ⟨m, n, hm, hn, h⟩ := @compare?_of_isWholeOrDate patterns _ _ ha hb
  simp [AtMost, h, hm, hn, Std.isLE_compare]

theorem atMost_refl {a : Literal} (ha : a.IsWholeOrDate) : AtMost patterns a a := by
  obtain ⟨m, -, hm, -⟩ := @compare?_of_isWholeOrDate patterns _ _ ha ha
  exact (atMost_iff ha ha).2 ⟨m, m, hm, hm, Int.le_refl m⟩

theorem atMost_trans {a b c : Literal} (ha : a.IsWholeOrDate) (hb : b.IsWholeOrDate)
    (hc : c.IsWholeOrDate) (hab : AtMost patterns a b) (hbc : AtMost patterns b c) :
    AtMost patterns a c := by
  obtain ⟨l, m, hl, hm, hlm⟩ := (atMost_iff ha hb).1 hab
  obtain ⟨m', n, hm', hn, hmn⟩ := (atMost_iff hb hc).1 hbc
  obtain rfl := Option.some.inj (hm.symm.trans hm')
  exact (atMost_iff ha hc).2 ⟨l, n, hl, hn, Int.le_trans hlm hmn⟩

theorem atMost_total {a b : Literal} (ha : a.IsWholeOrDate) (hb : b.IsWholeOrDate) :
    AtMost patterns a b ∨ AtMost patterns b a := by
  obtain ⟨m, n, hm, hn, -⟩ := @compare?_of_isWholeOrDate patterns _ _ ha hb
  rcases Int.le_total m n with h | h
  · exact .inl ((atMost_iff ha hb).2 ⟨m, n, hm, hn, h⟩)
  · exact .inr ((atMost_iff hb ha).2 ⟨n, m, hn, hm, h⟩)

/-- How a point in time is held does not matter for the order. -/
theorem compare?_instants (patterns : List DatePattern) :
    (∀ d e : Date,
      (date d).compare? patterns (long (.ofInt e.epochMillis)) =
        (date d).compare? patterns (date e) ∧
      (long (.ofInt d.epochMillis)).compare? patterns (date e) =
        (date d).compare? patterns (date e) ∧
      (date d).compare? ({} : Config).datePatterns (string e.text) =
        (date d).compare? patterns (date e)) ∧
    (∀ a b : Literal, a.IsClock → b.IsClock → a.millis? ≠ b.millis? →
      ∃ n, b.millis? = some n ∧
        a.compare? patterns b = a.compare? patterns (long (.ofInt n))) ∧
    (∀ (t : Timestamp) (d : Date),
      ((timestamp t).compare? patterns (date d) = some .lt ↔ t.epochMillis < d.epochMillis) ∧
      (¬ t.time.IsLeapSecond → ((timestamp t).compare? patterns (date d) = some .lt ↔
        t.compare ⟨d, Time.midnight⟩ = .lt))) ∧
    (∀ a b c : Literal, a.IsWholeOrDate → b.IsWholeOrDate → c.IsWholeOrDate →
      (∃ m n, a.millis? = some m ∧ b.millis? = some n ∧
        a.compare? patterns b = some (compare m n)) ∧
      AtMost patterns a a ∧ (AtMost patterns a b ∨ AtMost patterns b a) ∧
      (AtMost patterns a b → AtMost patterns b c → AtMost patterns a c)) := by
  have hdates (d e : Date) : (date d).compare? patterns (date e) =
      some (compare d.epochMillis e.epochMillis) :=
    congrArg some (d.compare_eq_compare_epochMillis e)
  -- A date is the milliseconds of its midnight, beside a moment as well.
  have hmidnight (t : Timestamp) (d : Date) :
      (timestamp t).compare? patterns (date d) = some .lt ↔ t.epochMillis < d.epochMillis := by
    change some (compare t.epochMillis d.epochMillis) = some .lt ↔ _
    rw [Option.some_inj, compare_lt_iff_lt]
  refine ⟨fun d e => ?_, fun a b ha hb h => ?_, fun t d => ⟨hmidnight t d, fun h => ?_⟩,
    fun a b c ha hb hc => ⟨compare?_of_isWholeOrDate ha hb, atMost_refl ha, atMost_total ha hb,
      atMost_trans ha hb hc⟩⟩
  · rw [hdates]
    exact ⟨compare?_long_ofInt (a := date d) (b := date e) rfl rfl,
      compare?_ofInt_long (a := date d) rfl rfl, compare?_date_text d e⟩
  · obtain ⟨m, n, hm, hn, hab⟩ := compare?_of_isClock ha hb h
    exact ⟨n, hn, hab.trans (compare?_long_ofInt hm hn).symm⟩
  · rw [hmidnight, Timestamp.compare_midnight h]

/-- The last nanosecond before 1970 and the moment after it are compared as the milliseconds -1
    and 0. -/
theorem compare?_instants_epoch :
    (timestamp Timestamp.lastBeforeEpoch).compare? [] (timestamp Timestamp.epoch) =
        (timestamp Timestamp.lastBeforeEpoch).compare? [] (long 0) ∧
      (timestamp Timestamp.lastBeforeEpoch).compare? [] (date Timestamp.epoch.date) = some .lt ∧
      AtMost [] (integer (-1)) (date Timestamp.epoch.date) := by
  obtain ⟨-, hclock, hmidnight, hwhole⟩ := compare?_instants []
  have hleap : ¬ Timestamp.lastBeforeEpoch.time.IsLeapSecond := by decide
  refine ⟨?_, ?_, ?_⟩
  · obtain ⟨n, hn, h⟩ := hclock (timestamp Timestamp.lastBeforeEpoch) (timestamp Timestamp.epoch)
      hleap (show ¬ Timestamp.epoch.time.IsLeapSecond by decide) (by decide)
    obtain rfl : 0 = n := Option.some.inj hn
    exact h
  · exact ((hmidnight Timestamp.lastBeforeEpoch Timestamp.epoch.date).2 hleap).2 rfl
  · obtain ⟨-, -, -, htrans⟩ :=
      hwhole (integer (-1)) (long 0) (date Timestamp.epoch.date) trivial trivial trivial
    exact htrans ⟨.lt, rfl, rfl⟩ ⟨.eq, rfl, rfl⟩

end Literal

end RecordFilter
