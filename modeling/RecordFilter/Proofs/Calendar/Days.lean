import Mathlib.Algebra.Order.Ring.Int
import Mathlib.Order.Compare
import RecordFilter.Calendar.Basic

/-!
# Counting days

The day numbers of dates are in the order of the dates (`Date.compare_eq_compare_epochDay`): a
later month of a year begins after the last day of an earlier one, and a later year after the
last day of an earlier one. Milliseconds are in the order of times and of moments as long as no
leap second is among them (`Time.compare_eq_compare_dayMillis`,
`Timestamp.compare_eq_compare_epochMillis`); what is smaller than a millisecond they do not
tell apart.
-/

namespace RecordFilter

/-- Comparing first by one key and then in another way is comparing by a number that grows with
    the key and, where the key is the same, is compared the other way. -/
theorem compare_then_eq {α β : Type} [LinearOrder α] [LinearOrder β] {a b : α} {x y : β}
    {o : Ordering} (hlt : a < b → x < y) (hgt : b < a → y < x) (heq : a = b → o = compare x y) :
    (compare a b).then o = compare x y := by
  rcases lt_trichotomy a b with h | h | h
  · rw [compare_lt_iff_lt.2 h, compare_lt_iff_lt.2 (hlt h)]
    rfl
  · rw [compare_eq_iff_eq.2 h, heq h]
    rfl
  · rw [compare_gt_iff_gt.2 h, compare_gt_iff_gt.2 (hgt h)]
    rfl

namespace Date

/-! ## Months and years -/

theorem daysBeforeMonth_succ (year : Int) {month : Nat} (h : 1 ≤ month) :
    daysBeforeMonth year (month + 1) = daysBeforeMonth year month + daysInMonth year month := by
  obtain ⟨m, rfl⟩ : ∃ m, month = m + 1 := ⟨month - 1, by omega⟩
  simp [daysBeforeMonth, List.range_succ]

theorem daysBeforeMonth_add_le (year : Int) {m n : Nat} (hm : 1 ≤ m) (h : m < n) :
    daysBeforeMonth year m + daysInMonth year m ≤ daysBeforeMonth year n := by
  induction n, h using Nat.le_induction with
  | base => rw [daysBeforeMonth_succ year hm]
  | succ n hn ih =>
    rw [daysBeforeMonth_succ year (by omega)]
    omega

/-- The number of days of a year. -/
def daysInYear (year : Int) : Nat :=
  if isLeapYear year then 366 else 365

theorem daysBeforeMonth_thirteen (year : Int) : daysBeforeMonth year 13 = daysInYear year := by
  unfold daysInYear
  cases h : isLeapYear year <;> simp [daysBeforeMonth, daysInMonth, h, List.range_succ]

/-- A year begins when the year before it is over: the leap days counted so far change by one
    exactly in leap years. -/
theorem daysBeforeYear_succ (year : Int) :
    daysBeforeYear (year + 1) = daysBeforeYear year + daysInYear year := by
  simp only [daysBeforeYear, daysInYear, isLeapYear, Bool.and_eq_true, Bool.or_eq_true, beq_iff_eq,
    bne_iff_ne]
  -- Four, a hundred and four hundred: what is counted in quotients is the test for leap years.
  split <;> omega

theorem daysBeforeYear_add_le {m n : Int} (h : m < n) :
    daysBeforeYear m + daysInYear m ≤ daysBeforeYear n := by
  -- Leap days that are left out in centuries never outweigh the other days of a year.
  rw [← daysBeforeYear_succ]
  simp only [daysBeforeYear]
  omega

/-! ## Dates -/

/-- The number of the day within its year, from 1 on. -/
def dayOfYear (d : Date) : Nat :=
  daysBeforeMonth d.year d.month + d.day

/-- The number of a day counts the days of the whole years before it and the days of its own
    year. -/
theorem epochDay_eq (d : Date) :
    d.epochDay = daysBeforeYear d.year + d.dayOfYear - daysBeforeYear 1970 - 1 := by
  simp only [epochDay, dayOfYear]
  omega

theorem one_le_dayOfYear (d : Date) : 1 ≤ d.dayOfYear := by
  obtain ⟨-, -, -, -, hday, -⟩ := d.isDate
  exact Nat.le_add_left_of_le hday

theorem dayOfYear_le (d : Date) : d.dayOfYear ≤ daysInYear d.year := by
  obtain ⟨-, -, hm, hm', -, hday⟩ := d.isDate
  have := daysBeforeMonth_add_le d.year hm (show d.month < 13 by omega)
  rw [daysBeforeMonth_thirteen] at this
  unfold dayOfYear
  omega

theorem epochDay_lt_of_day {a b : Date} (hyear : a.year = b.year) (hmonth : a.month = b.month)
    (h : a.day < b.day) : a.epochDay < b.epochDay := by
  rw [epochDay, epochDay, hyear, hmonth]
  omega

theorem epochDay_lt_of_month {a b : Date} (hyear : a.year = b.year) (h : a.month < b.month) :
    a.epochDay < b.epochDay := by
  obtain ⟨-, -, hm, -, -, hday⟩ := a.isDate
  obtain ⟨-, -, -, -, hday', -⟩ := b.isDate
  have := daysBeforeMonth_add_le a.year hm h
  rw [epochDay, epochDay, ← hyear]
  omega

/-- A day of an earlier year comes before: it lies at or before the last day of its year, the other
    after that. -/
theorem epochDay_lt_of_year {a b : Date} (h : a.year < b.year) : a.epochDay < b.epochDay := by
  have := daysBeforeYear_add_le h
  have := a.dayOfYear_le
  have := b.one_le_dayOfYear
  rw [epochDay_eq, epochDay_eq]
  omega

theorem compare_eq_compare_epochDay (a b : Date) :
    a.compare b = Ord.compare a.epochDay b.epochDay := by
  -- Each part decides as far as the parts in front of it are the same.
  unfold compare
  refine compare_then_eq epochDay_lt_of_year epochDay_lt_of_year fun hyear => ?_
  refine compare_then_eq (epochDay_lt_of_month hyear) (epochDay_lt_of_month hyear.symm)
    fun hmonth => ?_
  rw [← (Ord.compare a.day b.day).then_eq]
  refine compare_then_eq (epochDay_lt_of_day hyear hmonth)
    (epochDay_lt_of_day hyear.symm hmonth.symm) fun hday => ?_
  rw [epochDay, epochDay, hyear, hmonth, hday]
  exact Std.ReflCmp.compare_self.symm

/-- Dates are in the order of the milliseconds of their midnights. -/
theorem compare_eq_compare_epochMillis (a b : Date) :
    a.compare b = Ord.compare a.epochMillis b.epochMillis := by
  rw [compare_eq_compare_epochDay, ← (Ord.compare a.epochDay b.epochDay).then_eq]
  refine compare_then_eq ?_ ?_ fun hday => ?_
  · simp only [epochMillis]
    omega
  · simp only [epochMillis]
    omega
  · rw [epochMillis, epochMillis, hday]
    exact Std.ReflCmp.compare_self.symm

/-- The milliseconds of a day are far inside 64 bits, for every year that the calendar has. -/
theorem epochMillis_bounds (d : Date) :
    -9000000000000000 ≤ d.epochMillis ∧ d.epochMillis ≤ 9000000000000000 := by
  obtain ⟨hlow, hhigh, -⟩ := d.isDate
  have := d.one_le_dayOfYear
  have hday := d.dayOfYear_le
  have hyear : daysInYear d.year ≤ 366 := by
    unfold daysInYear
    split <;> decide
  rw [epochMillis, epochDay_eq]
  simp only [daysBeforeYear]
  omega

end Date

/-! ## Times of day -/

namespace Time

/-- The time is within a leap second. -/
def IsLeapSecond (t : Time) : Prop :=
  1000000000 ≤ t.nano

instance (t : Time) : Decidable t.IsLeapSecond :=
  inferInstanceAs (Decidable (1000000000 ≤ t.nano))

theorem dayMillis_le (t : Time) : t.dayMillis ≤ 86401000 := by
  obtain ⟨hhour, hminute, hsecond, hnano, -⟩ := t.isTime
  unfold dayMillis secondOfDay
  omega

/-- A clock without a leap second stays below the milliseconds of a day. -/
theorem dayMillis_lt {t : Time} (h : ¬ t.IsLeapSecond) : t.dayMillis < 86400000 := by
  obtain ⟨hhour, hminute, hsecond, -, -⟩ := t.isTime
  unfold IsLeapSecond at h
  unfold dayMillis secondOfDay
  omega

/-- Times without a leap second are in the order of their milliseconds, unless these are the
    same. -/
theorem compare_eq_compare_dayMillis {a b : Time} (ha : ¬ a.IsLeapSecond) (hb : ¬ b.IsLeapSecond)
    (h : a.dayMillis ≠ b.dayMillis) :
    a.compare b = Ord.compare (a.dayMillis : Int) b.dayMillis := by
  unfold IsLeapSecond at ha hb
  -- An earlier second ends before a later one begins, as it is no leap second.
  have hsecond {a b : Time} (ha : ¬ 1000000000 ≤ a.nano) (hlt : a.secondOfDay < b.secondOfDay) :
      (a.dayMillis : Int) < b.dayMillis := by
    unfold dayMillis
    omega
  unfold compare
  refine compare_then_eq (hsecond ha) (hsecond hb) fun hsame => ?_
  rw [← (Ord.compare a.nano b.nano).then_eq]
  refine compare_then_eq ?_ ?_ fun hnano => ?_
  · unfold dayMillis at *
    omega
  · unfold dayMillis at *
    omega
  · exact absurd (by rw [dayMillis, dayMillis, hsame, hnano]) h

theorem compare_midnight_ne_lt (t : Time) : t.compare midnight ≠ .lt := by
  have hzero (n : Nat) : Ord.compare n 0 ≠ .lt :=
    fun h => Nat.not_lt_zero n (compare_lt_iff_lt.1 h)
  unfold compare
  rw [Ne, Ordering.then_eq_lt]
  exact not_or.2 ⟨hzero _, fun h => hzero _ h.2⟩

end Time

/-! ## Moments -/

namespace Timestamp

/-- Moments without a leap second are in the order of their milliseconds, unless these are the
    same. -/
theorem compare_eq_compare_epochMillis {a b : Timestamp} (ha : ¬ a.time.IsLeapSecond)
    (hb : ¬ b.time.IsLeapSecond) (h : a.epochMillis ≠ b.epochMillis) :
    a.compare b = Ord.compare a.epochMillis b.epochMillis := by
  have hday {a b : Timestamp} (ha : ¬ a.time.IsLeapSecond)
      (hlt : a.date.epochDay < b.date.epochDay) : a.epochMillis < b.epochMillis := by
    have := Time.dayMillis_lt ha
    simp only [epochMillis, Date.epochMillis]
    omega
  rw [compare, Date.compare_eq_compare_epochDay]
  refine compare_then_eq (hday ha) (hday hb) fun hsame => ?_
  -- On one day the moments differ as their times do.
  have hmillis : a.time.dayMillis ≠ b.time.dayMillis := by
    intro heq
    exact h (by rw [epochMillis, epochMillis, Date.epochMillis, Date.epochMillis, hsame, heq])
  rw [Time.compare_eq_compare_dayMillis ha hb hmillis,
    ← (Ord.compare (a.time.dayMillis : Int) b.time.dayMillis).then_eq]
  refine compare_then_eq ?_ ?_ fun heq => absurd (Int.ofNat.inj heq) hmillis
  · simp only [epochMillis, Date.epochMillis]
    omega
  · simp only [epochMillis, Date.epochMillis]
    omega

theorem epochMillis_bounds (t : Timestamp) :
    -9100000000000000 ≤ t.epochMillis ∧ t.epochMillis ≤ 9100000000000000 := by
  have := t.date.epochMillis_bounds
  have := t.time.dayMillis_le
  unfold epochMillis
  omega

/-- A moment without a leap second is before midnight of a day if it is so by its
    milliseconds. -/
theorem compare_midnight {t : Timestamp} (h : ¬ t.time.IsLeapSecond) (d : Date) :
    t.compare ⟨d, Time.midnight⟩ = .lt ↔ t.epochMillis < d.epochMillis := by
  have := Time.dayMillis_lt h
  rw [compare, Ordering.then_eq_lt, Date.compare_eq_compare_epochDay]
  simp only [Time.compare_midnight_ne_lt, and_false, or_false, compare_lt_iff_lt]
  simp only [epochMillis, Date.epochMillis]
  omega

end Timestamp

end RecordFilter
