import RecordFilter.Proofs.Decimal.Order

/-!
# Laws of comparison

Two values are compared in two steps: a string beside a value of another kind is read as what
it stands for there (`Literal.coerce?`), and then values that are not strings are compared
(`Literal.compareValues?`). Both steps treat the two sides alike, so the order the other way
is the order turned round (`Literal.compare?_swap`). A whole number counts the same in both
widths (`Literal.compare?_integer`), and only NULL, strings that cannot be read and what is
not a number are not comparable (`Literal.compare?_eq_none`). All this together is
`Literal.compare?_laws`.
-/

namespace RecordFilter

/-! ## Dates, times and moments -/

theorem Date.compare_swap (a b : Date) : b.compare a = (a.compare b).swap := by
  have hyear : Ord.compare b.year a.year = (Ord.compare a.year b.year).swap :=
    Std.OrientedCmp.eq_swap
  have hmonth : Ord.compare b.month a.month = (Ord.compare a.month b.month).swap :=
    Std.OrientedCmp.eq_swap
  have hday : Ord.compare b.day a.day = (Ord.compare a.day b.day).swap := Std.OrientedCmp.eq_swap
  simp only [compare, hyear, hmonth, hday, Ordering.swap_then]

@[simp]
theorem Date.compare_self (a : Date) : a.compare a = .eq := by
  simp [compare]

theorem Time.compare_swap (a b : Time) : b.compare a = (a.compare b).swap := by
  have hsecond : Ord.compare b.secondOfDay a.secondOfDay =
      (Ord.compare a.secondOfDay b.secondOfDay).swap := Std.OrientedCmp.eq_swap
  have hnano : Ord.compare b.nano a.nano = (Ord.compare a.nano b.nano).swap :=
    Std.OrientedCmp.eq_swap
  simp only [compare, hsecond, hnano, Ordering.swap_then]

@[simp]
theorem Time.compare_self (a : Time) : a.compare a = .eq := by
  simp [compare]

theorem Timestamp.compare_swap (a b : Timestamp) : b.compare a = (a.compare b).swap := by
  simp only [compare, Date.compare_swap a.date, Time.compare_swap a.time, Ordering.swap_then]

@[simp]
theorem Timestamp.compare_self (a : Timestamp) : a.compare a = .eq := by
  simp [compare]

namespace Literal

/-! ## Values that are not strings -/

/-- Whether the value is the double that is not a number. -/
def isNaN : Literal → Bool
  | .double x => x.isNaN
  | _ => false

/-- Whether the value is a string. -/
def isString : Literal → Bool
  | .string _ => true
  | _ => false

theorem isString_iff {a : Literal} : a.isString ↔ ∃ text, a = .string text := by
  cases a <;> simp [isString]

/-- A double is compared with what the other value is as a double. -/
theorem compareValues?_double (x : Float) (a : Literal) :
    compareValues? (.double x) a = a.toFloat?.bind (compareFloats? x) := by
  cases a <;> rfl

theorem compareValues?_double_right (a : Literal) (x : Float) :
    compareValues? a (.double x) = a.toFloat?.bind (compareFloats? · x) := by
  cases a <;> rfl

/-- Two values that are not strings are ordered the other way round if they change sides. -/
theorem compareValues?_swap (a b : Literal) :
    compareValues? b a = (compareValues? a b).map Ordering.swap := by
  have hdouble (x : Float) (a : Literal) : compareValues? (.double x) a =
      (compareValues? a (.double x)).map Ordering.swap := by
    simp only [compareValues?_double, compareValues?_double_right, Option.map_bind,
      Function.comp_def, ← compareFloats?_swap]
  have hmillis (a b : Literal) :
      (do return compare (← b.millis?) (← a.millis?) : Option Ordering) =
        (do return compare (← a.millis?) (← b.millis?) : Option Ordering).map Ordering.swap := by
    cases a.millis? with
    | none => cases b.millis? <;> rfl
    | some m =>
      cases b.millis? with
      | none => rfl
      | some n => exact congrArg some Std.OrientedCmp.eq_swap
  -- Doubles and values of one kind have comparisons of their own; all other pairs go through their
  -- milliseconds.
  cases a with
  | double x =>
    rw [compareValues?_double, compareValues?_double_right, Option.map_bind]
    exact congrArg _ (funext fun y => compareFloats?_swap x y)
  | date a =>
    cases b with
    | date b => exact congrArg some (Date.compare_swap a b)
    | double x => exact hdouble x _
    | _ => exact hmillis _ _
  | time a =>
    cases b with
    | time b => exact congrArg some (Time.compare_swap a b)
    | double x => exact hdouble x _
    | _ => exact hmillis _ _
  | timestamp a =>
    cases b with
    | timestamp b => exact congrArg some (Timestamp.compare_swap a b)
    | double x => exact hdouble x _
    | _ => exact hmillis _ _
  | _ =>
    cases b with
    | double x => exact hdouble x _
    | _ => exact hmillis _ _

/-- Only NULL and strings are no numbers and no points in time. -/
theorem toFloat?_eq_none {a : Literal} : a.toFloat? = none ↔ a.isNull ∨ a.isString := by
  cases a <;> simp [toFloat?, millis?, isNull, isString]

/-- A value that becomes the double that is not a number has been that double before. -/
theorem isNaN_of_toFloat? {a : Literal} {x : Float} (h : a.toFloat? = some x) :
    x.isNaN = a.isNaN := by
  have hwhole (n : Int) (h : some (Float.ofInt n) = some x) : x.isNaN = false := by
    rw [← Option.some.inj h]
    exact isNaN_ofInt n
  cases a with
  | double v =>
    rw [← Option.some.inj h]
    rfl
  | string v => cases h
  | null => cases h
  | _ => exact hwhole _ h

/-- Two values are comparable if they are numbers or points in time. -/
theorem compareValues?_eq_none {a b : Literal} :
    compareValues? a b = none ↔ a.toFloat? = none ∨ b.toFloat? = none ∨ a.isNaN ∨ b.isNaN := by
  by_cases ha : ∃ x, a = .double x
  · obtain ⟨x, rfl⟩ := ha
    rw [compareValues?_double]
    cases hb : b.toFloat? with
    | none => simp
    | some y =>
      rw [Option.bind_some, compareFloats?_eq_none, isNaN_of_toFloat? hb]
      simp [toFloat?, isNaN]
  by_cases hb : ∃ x, b = .double x
  · obtain ⟨x, rfl⟩ := hb
    rw [compareValues?_double_right]
    cases ha : a.toFloat? with
    | none => simp
    | some y =>
      rw [Option.bind_some, compareFloats?_eq_none, isNaN_of_toFloat? ha]
      simp [toFloat?, isNaN]
  cases a <;> cases b <;> simp_all [compareValues?, toFloat?, millis?, isNaN]

theorem compareValues?_self {a : Literal} (h : a.toFloat? ≠ none) (hn : a.isNaN = false) :
    compareValues? a a = some .eq := by
  cases a with
  | double x => exact compareFloats?_self hn
  | string v => exact absurd rfl h
  | null => exact absurd rfl h
  | _ => simp [compareValues?, millis?]

theorem compareValues?_integer (v : Int32) (a : Literal) :
    compareValues? (.integer v) a = compareValues? (.long v.toInt64) a := by
  cases a <;> simp [compareValues?, millis?, toFloat?]

/-! ## Strings beside other values -/

variable {patterns : List DatePattern}

/-- What a string stands for beside another value: the date that it is, or else, beside a
    number, the number that it is. -/
def ofText? (patterns : List DatePattern) (text : String) (other : Literal) : Option Literal :=
  match DateText.millis? patterns text with
  | some millis => some (.long (Int64.ofInt millis))
  | none =>
    if other.isNumeric then (Decimal.readFloat? (Text.trim text.toList)).map .double else none

/-- The value as it is compared with another one. Only a string beside a value of another kind
    is not taken as it is. -/
def coerce? (patterns : List DatePattern) : (value other : Literal) → Option Literal
  | .string a, .string _ => some (.string a)
  | .string a, b => ofText? patterns a b
  | a, _ => some a

/-- The string stands beside a value of another kind and is no date, nor, if that value is a
    number, a number. -/
def IsUnreadable (patterns : List DatePattern) (a b : Literal) : Prop :=
  ∃ text, a = .string text ∧ b.isString = false ∧ DateText.millis? patterns text = none ∧
    (b.isNumeric → Decimal.readFloat? (Text.trim text.toList) = none)

/-- Compared with the other value, the value is not a number. -/
def CountsAsNaN (patterns : List DatePattern) (a b : Literal) : Prop :=
  ∃ v, a.coerce? patterns b = some v ∧ v.isNaN

/-- A string is compared with a value by what it stands for beside the value. -/
theorem compareText?_eq_bind (text : String) (b : Literal) :
    compareText? patterns text b = (ofText? patterns text b).bind (compareValues? · b) := by
  unfold compareText? ofText?
  cases DateText.millis? patterns text with
  | some m => cases b <;> rfl
  | none =>
    cases b with
    | integer v | long v | double v =>
      cases Decimal.readFloat? (Text.trim text.toList) <;> rfl
    | _ => rfl

/-- A string stands for nothing exactly if it cannot be read beside the value. -/
theorem ofText?_eq_none {text : String} {b : Literal} (hb : b.isString = false) :
    ofText? patterns text b = none ↔ IsUnreadable patterns (.string text) b := by
  cases h : DateText.millis? patterns text <;> simp [ofText?, IsUnreadable, h, hb]

/-- What a string stands for is a number or a point in time. -/
theorem toFloat?_of_ofText? {text : String} {b v : Literal}
    (h : ofText? patterns text b = some v) : v.toFloat? ≠ none := by
  unfold ofText? at h
  split at h
  · obtain rfl := Option.some.inj h
    simp [toFloat?, millis?]
  · split at h
    · obtain ⟨x, -, rfl⟩ := Option.map_eq_some_iff.1 h
      simp [toFloat?]
    · cases h

/-- A string stands for the same beside a whole number of either width. -/
theorem ofText?_integer (text : String) (v : Int32) :
    ofText? patterns text (.integer v) = ofText? patterns text (.long v.toInt64) := by
  simp [ofText?, isNumeric]

/-! ## All values -/

/-- Values that are not strings are compared as they are. -/
theorem compare?_eq_compareValues? {a b : Literal} (ha : a.isString = false)
    (hb : b.isString = false) : a.compare? patterns b = compareValues? a b := by
  cases b with
  | string => cases hb
  | _ =>
    cases a with
    | string => cases ha
    | _ => rfl

/-- A string and a value of another kind are compared as what the string stands for and the
    value. -/
theorem compare?_string_left (text : String) {b : Literal} (hb : b.isString = false) :
    (string text).compare? patterns b =
      (ofText? patterns text b).bind (compareValues? · b) := by
  rw [← compareText?_eq_bind]
  cases b with
  | string => cases hb
  | _ => rfl

theorem compare?_string_right {a : Literal} (ha : a.isString = false) (text : String) :
    a.compare? patterns (string text) =
      ((string text).compare? patterns a).map Ordering.swap := by
  cases a with
  | string => cases ha
  | _ => rfl

/-- The order of two values the other way is their order turned round, whatever their kinds are. -/
theorem compare?_swap (a b : Literal) :
    b.compare? patterns a = (a.compare? patterns b).map Ordering.swap := by
  -- A string beside another value is always compared from its own side, so only two of the four
  -- cases have anything to show.
  cases ha : a.isString with
  | false =>
    cases hb : b.isString with
    | false =>
      rw [compare?_eq_compareValues? ha hb, compare?_eq_compareValues? hb ha]
      exact compareValues?_swap a b
    | true =>
      obtain ⟨text, rfl⟩ := isString_iff.1 hb
      rw [compare?_string_right ha, Option.map_map]
      simp [Function.comp_def]
  | true =>
    obtain ⟨s, rfl⟩ := isString_iff.1 ha
    cases hb : b.isString with
    | false => exact compare?_string_right hb s
    | true =>
      obtain ⟨t, rfl⟩ := isString_iff.1 hb
      exact congrArg some Std.OrientedCmp.eq_swap

/-- A value is the same as itself, unless it is NULL or not a number. -/
theorem compare?_self {a : Literal} (h : a.isNull = false) (hn : a.isNaN = false) :
    a.compare? patterns a = some .eq := by
  cases ha : a.isString with
  | false =>
    rw [compare?_eq_compareValues? ha ha]
    refine compareValues?_self (fun hnone => ?_) hn
    simpa [h, ha] using toFloat?_eq_none.1 hnone
  | true =>
    obtain ⟨s, rfl⟩ := isString_iff.1 ha
    exact congrArg some Std.ReflCmp.compare_self

/-- A whole number has the same order to every value in both widths. -/
theorem compare?_integer (v : Int32) (b : Literal) :
    (integer v).compare? patterns b = (long v.toInt64).compare? patterns b := by
  cases hb : b.isString with
  | false =>
    rw [compare?_eq_compareValues? rfl hb, compare?_eq_compareValues? rfl hb]
    exact compareValues?_integer v b
  | true =>
    obtain ⟨text, rfl⟩ := isString_iff.1 hb
    rw [compare?_string_right rfl, compare?_string_right rfl, compare?_string_left text rfl,
      compare?_string_left text rfl, ofText?_integer]
    congr 2
    funext c
    rw [compareValues?_swap (integer v), compareValues?_integer, ← compareValues?_swap]

/-- A value that is not a string counts as not a number just if it is the double that is not a
    number. -/
theorem countsAsNaN_iff {a : Literal} (ha : a.isString = false) (b : Literal) :
    CountsAsNaN patterns a b ↔ a.isNaN := by
  have hcoerce : a.coerce? patterns b = some a := by
    cases a with
    | string => cases ha
    | _ => rfl
  simp [CountsAsNaN, hcoerce]

/-- A string counts as not a number just if what it stands for is that double. -/
theorem countsAsNaN_string (text : String) {b : Literal} (hb : b.isString = false) :
    CountsAsNaN patterns (string text) b ↔ ∃ v, ofText? patterns text b = some v ∧ v.isNaN := by
  have hcoerce : (string text).coerce? patterns b = ofText? patterns text b := by
    cases b with
    | string => cases hb
    | _ => rfl
  rw [CountsAsNaN, hcoerce]

/-- Only strings can be unreadable. -/
theorem not_isUnreadable {a : Literal} (ha : a.isString = false) (b : Literal) :
    ¬ IsUnreadable patterns a b := by
  rintro ⟨text, rfl, -⟩
  cases ha

/-- A string and a value of another kind are not comparable if the string stands for nothing
    beside the value, or one of the two is not a number, or the value is NULL. -/
theorem compare?_string_eq_none (text : String) {b : Literal} (hb : b.isString = false) :
    (string text).compare? patterns b = none ↔ b.isNull ∨
      CountsAsNaN patterns (string text) b ∨ b.isNaN ∨ IsUnreadable patterns (string text) b := by
  rw [compare?_string_left text hb, ← ofText?_eq_none hb, countsAsNaN_string text hb]
  cases h : ofText? patterns text b with
  | none => simp
  | some v =>
    -- What a string stands for is never NULL, so beside it only the value can be.
    have hv := toFloat?_of_ofText? h
    rw [Option.bind_some, compareValues?_eq_none, toFloat?_eq_none (a := b)]
    simp [hv, hb]

/-- Two values are not comparable just if one of them is NULL, counts as not a number or is a string
    that cannot be read beside the other one. -/
theorem compare?_eq_none (a b : Literal) :
    a.compare? patterns b = none ↔ a.isNull ∨ b.isNull ∨ CountsAsNaN patterns a b ∨
      CountsAsNaN patterns b a ∨ IsUnreadable patterns a b ∨ IsUnreadable patterns b a := by
  cases ha : a.isString with
  | false =>
    cases hb : b.isString with
    | false =>
      rw [compare?_eq_compareValues? ha hb, compareValues?_eq_none, toFloat?_eq_none,
        toFloat?_eq_none, countsAsNaN_iff ha, countsAsNaN_iff hb]
      simp [ha, hb, not_isUnreadable]
    | true =>
      obtain ⟨text, rfl⟩ := isString_iff.1 hb
      rw [compare?_string_right ha, Option.map_eq_none_iff, compare?_string_eq_none text ha,
        countsAsNaN_iff ha]
      simp [isNull, not_isUnreadable ha]
      tauto
  | true =>
    obtain ⟨s, rfl⟩ := isString_iff.1 ha
    cases hb : b.isString with
    | false =>
      rw [compare?_string_eq_none s hb, countsAsNaN_iff hb]
      simp [isNull, not_isUnreadable hb]
    | true =>
      obtain ⟨t, rfl⟩ := isString_iff.1 hb
      simp [compare?, isNull, CountsAsNaN, coerce?, isNaN, IsUnreadable, isString]

/-- A value is the same as itself unless it is NULL or not a number, and only then. -/
theorem compare?_self_iff (a : Literal) :
    a.compare? patterns a = some .eq ↔ a.isNull = false ∧ a.isNaN = false := by
  refine ⟨fun h => ?_, fun ⟨hnull, hnan⟩ => compare?_self hnull hnan⟩
  have hsome : a.compare? patterns a ≠ none := by simp [h]
  simp only [Ne, compare?_eq_none, not_or] at hsome
  obtain ⟨hnull, -, hnan, -⟩ := hsome
  refine ⟨by simpa using hnull, ?_⟩
  -- A string beside itself is taken as it is, whatever it would stand for beside a number.
  cases ha : a.isString with
  | false => simpa [countsAsNaN_iff ha] using hnan
  | true =>
    obtain ⟨s, rfl⟩ := isString_iff.1 ha
    rfl

/-- The laws of comparison for values of every kind: what it gives the other way round, for a
    value and itself and for the two widths of a whole number, and when it gives nothing. -/
theorem compare?_laws (patterns : List DatePattern) (a b : Literal) :
    b.compare? patterns a = (a.compare? patterns b).map Ordering.swap ∧
      (a.compare? patterns a = some .eq ↔ a.isNull = false ∧ a.isNaN = false) ∧
      (∀ v : Int32, (integer v).compare? patterns b = (long v.toInt64).compare? patterns b ∧
        a.compare? patterns (integer v) = a.compare? patterns (long v.toInt64)) ∧
      (a.compare? patterns b = none ↔ a.isNull ∨ b.isNull ∨ CountsAsNaN patterns a b ∨
        CountsAsNaN patterns b a ∨ IsUnreadable patterns a b ∨ IsUnreadable patterns b a) ∧
      a.equals patterns b = b.equals patterns a ∧
      (a.equals patterns a ↔ a.isNull = false ∧ a.isNaN = false) := by
  refine ⟨compare?_swap a b, compare?_self_iff a, fun v => ⟨compare?_integer v b, ?_⟩,
    compare?_eq_none a b, ?_, ?_⟩
  · rw [compare?_swap (integer v), compare?_integer, ← compare?_swap]
  · simp only [equals, compare?_swap a b]
    cases a.compare? patterns b with
    | none => rfl
    | some o => cases o <;> rfl
  · simpa [equals] using compare?_self_iff a

end Literal

end RecordFilter
