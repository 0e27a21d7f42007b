import Mathlib.Data.List.TakeWhile
import RecordFilter.Calendar.Reader
import RecordFilter.Calendar.Text
import RecordFilter.Proofs.Except
import RecordFilter.Proofs.Text.Digits
import RecordFilter.Proofs.Token.Classes

/-!
# Fields of dates

A date in a text is a row of fields with characters between them (`DatePiece`). The number of every
field is read back as it was written (`DateField.readNumber_chars`), and so is a whole row
(`DatePattern.readItems_row`), piece by piece: a field ends where no other digit follows, and so it
does in front of every piece.
-/

namespace RecordFilter

open Text (digitsValue paddedDigits)

/-! ## Digits -/

/-- Digits are read as far as they are in the window. -/
theorem readDigits_eq_ok {least : Nat} {most : Option Nat} {ds rest : List Char}
    (hwindow : (((most.map (ds ++ rest).take).getD (ds ++ rest)).takeWhile Char.isDigit) = ds)
    (hleast : least ≤ ds.length) :
    readDigits least most (ds ++ rest) = .ok (digitsValue ds, ds.length, rest) := by
  have hlen : ¬(ds ++ rest).length < least := by
    rw [List.length_append]
    omega
  cases most with
  | none =>
    change (ds ++ rest).takeWhile Char.isDigit = ds at hwindow
    simp only [readDigits, hwindow, if_neg hlen, if_neg (Nat.not_lt.2 hleast), List.drop_left]
  | some width =>
    change ((ds ++ rest).take width).takeWhile Char.isDigit = ds at hwindow
    simp only [readDigits, hwindow, if_neg hlen, if_neg (Nat.not_lt.2 hleast), List.drop_left]

/-- A number that fills the window is read whatever follows it. -/
theorem readDigits_paddedDigits {least width n : Nat} (hwidth : 0 < width) (hleast : least ≤ width)
    (hn : n < 10 ^ width) (rest : List Char) :
    readDigits least (some width) (paddedDigits width n ++ rest) = .ok (n, width, rest) := by
  have hlen : (paddedDigits width n).length = width :=
    Text.length_paddedDigits_of_lt hwidth hn
  rw [readDigits_eq_ok, Text.digitsValue_paddedDigits, hlen]
  · rw [Option.map_some, Option.getD_some, List.take_left' hlen]
    exact List.takeWhile_eq_self_iff.2 (List.all_eq_true.1 (Text.all_isDigit_paddedDigits width n))
  · rwa [hlen]

theorem trimLeft_of_isDigit {ds rest : List Char} (hne : ds ≠ []) (hd : ds.all Char.isDigit) :
    Text.trimLeft (ds ++ rest) = ds ++ rest := by
  cases ds with
  | nil => exact absurd rfl hne
  | cons d ds =>
    rw [List.all_cons, Bool.and_eq_true] at hd
    rw [Text.trimLeft, List.cons_append,
      List.dropWhile_cons_of_neg (by simp [Token.isBlank_of_isDigit hd.1])]

/-! ## Numbers -/

theorem readNumber_twoDigits {field : DateField} (hf : field ≠ .year) {n : Nat} (hn : n < 100)
    (rest : List Char) : readNumber field (paddedDigits 2 n ++ rest) = .ok (n, rest) := by
  have hread : readDigits 1 (some 2) (paddedDigits 2 n ++ rest) = .ok (n, 2, rest) :=
    readDigits_paddedDigits (by decide) (by decide) hn rest
  unfold readNumber
  rw [trimLeft_of_isDigit Text.paddedDigits_ne_nil (Text.all_isDigit_paddedDigits 2 n)]
  cases field with
  | year => exact absurd rfl hf
  | _ =>
    simp only [hread]
    rfl

/-- A year may have a sign; digits without one are read as they are. -/
theorem readNumber_unsigned {ds rest : List Char} (hne : ds ≠ []) (hd : ds.all Char.isDigit) :
    readNumber .year (ds ++ rest) = (do
      let (n, _, rest) ← readDigits 1 (some 4) (ds ++ rest)
      return ((n : Int), rest)) := by
  unfold readNumber
  rw [trimLeft_of_isDigit hne hd]
  cases ds with
  | nil => exact absurd rfl hne
  | cons d ds =>
    rw [List.all_cons, Bool.and_eq_true] at hd
    -- A digit is no sign, so the last rule of the reader applies.
    have hminus : d ≠ '-' := by
      rintro rfl
      exact absurd hd.1 (by decide)
    have hplus : d ≠ '+' := by
      rintro rfl
      exact absurd hd.1 (by decide)
    simp only [List.cons_append]
    split <;> simp_all

/-- A year is read to its end if no other digit follows. -/
theorem readNumber_yearText (year : Int) {rest : List Char}
    (hr : ∀ c ∈ rest.head?, c.isDigit = false) :
    readNumber .year (yearText year ++ rest) = .ok (year, rest) := by
  unfold yearText
  split
  · next hy =>
    rw [readNumber_unsigned Text.paddedDigits_ne_nil (Text.all_isDigit_paddedDigits ..),
      readDigits_paddedDigits (by decide) (by decide) (by omega), Except.bind_ok]
    simp only [Int.toNat_of_nonneg hy.1]
    rfl
  · next hy =>
    -- Other years have a sign, behind which all digits are read, however many.
    have hall := Text.all_isDigit_paddedDigits 4 year.natAbs
    have hlen : 1 ≤ (paddedDigits 4 year.natAbs).length :=
      List.length_pos_iff.2 Text.paddedDigits_ne_nil
    have hread : readDigits 1 none (paddedDigits 4 year.natAbs ++ rest) =
        .ok (year.natAbs, (paddedDigits 4 year.natAbs).length, rest) := by
      rw [readDigits_eq_ok, Text.digitsValue_paddedDigits]
      · exact Text.takeWhile_append_stop hall hr
      · exact hlen
    by_cases hneg : year < 0
    · have hval : -((year.natAbs : Nat) : Int) = year := by omega
      rw [if_pos hneg]
      change (do
        let (n, _, rest) ← readDigits 1 none (paddedDigits 4 year.natAbs ++ rest)
        return (-(n : Int), rest) : Except DateError (Int × List Char)) = _
      rw [hread]
      change Except.ok (-((year.natAbs : Nat) : Int), rest) = _
      rw [hval]
    · have hval : ((year.natAbs : Nat) : Int) = year := by omega
      rw [if_neg hneg]
      change (do
        let (n, _, rest) ← readDigits 1 none (paddedDigits 4 year.natAbs ++ rest)
        return ((n : Int), rest) : Except DateError (Int × List Char)) = _
      rw [hread]
      change Except.ok (((year.natAbs : Nat) : Int), rest) = _
      rw [hval]

/-! ## Fields -/

/-- The least and the greatest number of a field. -/
def DateField.range : DateField → Int × Int
  | .year => (-2147483648, 2147483647)
  | .shortYear => (0, 99)
  | .month => (1, 12)
  | .day => (1, 31)
  | .hour => (0, 23)
  | .minute => (0, 59)
  | .second => (0, 60)

namespace DateParts

/-- Whether a field has not been read. -/
def lacks (parts : DateParts) : DateField → Bool
  | .year => parts.year.isNone
  | .shortYear => parts.shortYear.isNone
  | .month => parts.month.isNone
  | .day => parts.day.isNone
  | .hour => parts.hour.isNone
  | .minute => parts.minute.isNone
  | .second => parts.second.isNone

/-- The parts with a field that was not read before. -/
def put (parts : DateParts) (field : DateField) (n : Int) : DateParts :=
  match field with
  | .year => { parts with year := some n }
  | .shortYear => { parts with shortYear := some n.toNat }
  | .month => { parts with month := some n.toNat }
  | .day => { parts with day := some n.toNat }
  | .hour => { parts with hour := some n.toNat }
  | .minute => { parts with minute := some n.toNat }
  | .second => { parts with second := some n.toNat }

theorem agree_none {α : Type} [DecidableEq α] (n : α) : agree none n = .ok (some n) :=
  if_pos (.inl rfl)

theorem set_eq_put {parts : DateParts} {field : DateField} {n : Int} (h : parts.lacks field)
    (hn : field.range.1 ≤ n ∧ n ≤ field.range.2) : parts.set field n = .ok (parts.put field n) := by
  cases field <;>
    simp only [lacks, Option.isNone_iff_eq_none] at h <;>
    simp only [DateField.range] at hn <;>
    simp only [set, put, if_pos hn, h, agree_none, bind, Except.bind, pure, Except.pure]

end DateParts

/-! ## Items -/

namespace DatePattern

theorem readItems_cons {item : PatternItem} {items : DatePattern} {parts parts' : DateParts}
    {cs rest : List Char} (h : item.read parts cs = .ok (parts', rest)) :
    readItems (item :: items) parts cs = items.readItems parts' rest := by
  rw [readItems, h]
  rfl

/-- A field that has no number yet takes the one that is read, if it is in range. -/
theorem read_number {field : DateField} {parts : DateParts} {n : Int} {cs rest : List Char}
    (hread : readNumber field cs = .ok (n, rest)) (h : parts.lacks field)
    (hn : field.range.1 ≤ n ∧ n ≤ field.range.2) :
    (PatternItem.number field).read parts cs = .ok (parts.put field n, rest) := by
  rw [PatternItem.read, hread]
  change (do return (← parts.set field n, rest) : Except DateError _) = _
  rw [DateParts.set_eq_put h hn]
  rfl

theorem read_char {c : Char} {parts : DateParts} {rest : List Char} :
    (PatternItem.char c).read parts (c :: rest) = .ok (parts, rest) := by
  change (if c = c then pure (parts, rest) else throw DateError.invalid) = _
  rw [if_pos rfl]
  rfl

theorem daysInMonth_le (year : Int) (month : Nat) : daysInMonth year month ≤ 31 := by
  unfold daysInMonth
  split
  · split <;> decide
  all_goals decide

end DatePattern

namespace DateField

/-- The number of a field at a moment. A leap second is the second 60. -/
def value (t : Timestamp) : DateField → Int
  | .year => t.date.year
  | .shortYear => t.date.year % 100
  | .month => t.date.month
  | .day => t.date.day
  | .hour => t.time.hour
  | .minute => t.time.minute
  | .second => (t.time.second + t.time.nano / 1000000000 : Nat)

/-- The number of a field as it is written. -/
def chars (t : Timestamp) : DateField → List Char
  | .year => yearText t.date.year
  | field => paddedDigits 2 (field.value t).toNat

theorem value_mem_range (t : Timestamp) (field : DateField) :
    field.range.1 ≤ field.value t ∧ field.value t ≤ field.range.2 := by
  obtain ⟨hlow, hhigh, hm, hm', hd, hd'⟩ := t.date.isDate
  obtain ⟨hhour, hminute, hsecond, hnano, hleap⟩ := t.time.isTime
  have hday := Nat.le_trans hd' (DatePattern.daysInMonth_le t.date.year t.date.month)
  cases field <;> simp only [range, value] <;> omega

theorem chars_ne_nil (t : Timestamp) (field : DateField) : field.chars t ≠ [] := by
  cases field with
  | year =>
    change yearText _ ≠ []
    unfold yearText
    split
    · exact Text.paddedDigits_ne_nil
    · exact List.cons_ne_nil _ _
  | _ => exact Text.paddedDigits_ne_nil

/-- A number is written with digits, and a year beyond four of them with a sign. -/
theorem isDigit_or_sign_of_mem_chars {t : Timestamp} {field : DateField} {c : Char}
    (h : c ∈ field.chars t) : c.isDigit ∨ c = '-' ∨ c = '+' := by
  cases field with
  | year =>
    change c ∈ yearText _ at h
    unfold yearText at h
    split at h
    · exact .inl (Text.isDigit_of_mem_paddedDigits h)
    · rcases List.mem_cons.1 h with rfl | h
      · split <;> simp
      · exact .inl (Text.isDigit_of_mem_paddedDigits h)
  | _ => exact .inl (Text.isDigit_of_mem_paddedDigits h)

theorem isBlank_of_mem_chars {t : Timestamp} {field : DateField} {c : Char}
    (h : c ∈ field.chars t) : Text.isBlank c = false := by
  rcases isDigit_or_sign_of_mem_chars h with hdigit | rfl | rfl
  · exact Token.isBlank_of_isDigit hdigit
  · decide
  · decide

/-- A number is read to its end if no other digit follows. -/
theorem readNumber_chars (t : Timestamp) (field : DateField) {rest : List Char}
    (hr : ∀ c ∈ rest.head?, c.isDigit = false) :
    readNumber field (field.chars t ++ rest) = .ok (field.value t, rest) := by
  obtain ⟨hlow, hhigh⟩ := value_mem_range t field
  cases field with
  | year => exact readNumber_yearText t.date.year hr
  | _ =>
    simp only [range] at hlow hhigh
    rw [chars, readNumber_twoDigits (by decide) (by omega), Int.toNat_of_nonneg (by omega)]
    all_goals decide

end DateField

/-! ## Pieces -/

/-- A field of a date with the character in front of it. -/
structure DatePiece where
  lead : Char
  field : DateField

namespace DatePiece

/-- The items of a pattern for a piece. A blank stands for any number of blanks. -/
def items (p : DatePiece) : DatePattern :=
  [if Text.isBlank p.lead then .blanks else .char p.lead, .number p.field]

/-- A piece as it is written. -/
def chars (t : Timestamp) (p : DatePiece) : List Char :=
  p.lead :: p.field.chars t

/-- The parts with the number of a piece. -/
def store (t : Timestamp) (parts : DateParts) (p : DatePiece) : DateParts :=
  parts.put p.field (p.field.value t)

end DatePiece

namespace DateParts

theorem lacks_put {field other : DateField} (h : field ≠ other) (parts : DateParts) (n : Int) :
    (parts.put field n).lacks other = parts.lacks other := by
  cases field <;> cases other <;> first | rfl | exact absurd rfl h

end DateParts

namespace DatePattern

/-- A pattern item reads back the number that the same field writes, if no digit follows. -/
theorem read_field (t : Timestamp) {field : DateField} {parts : DateParts} {rest : List Char}
    (h : parts.lacks field) (hr : ∀ c ∈ rest.head?, c.isDigit = false) :
    (PatternItem.number field).read parts (field.chars t ++ rest) =
      .ok (parts.put field (field.value t), rest) :=
  read_number (DateField.readNumber_chars t field hr) h (DateField.value_mem_range t field)

/-- The character in front of a field is taken, whether it is a blank or not. -/
theorem read_lead (t : Timestamp) (p : DatePiece) (parts : DateParts) (rest : List Char) :
    (if Text.isBlank p.lead then PatternItem.blanks else .char p.lead).read parts
      (p.chars t ++ rest) = .ok (parts, p.field.chars t ++ rest) := by
  split
  · next hblank =>
    -- Blanks are skipped as far as they go, which is up to the number: it does not begin with one.
    have htrim : Text.trimLeft (p.chars t ++ rest) = p.field.chars t ++ rest := by
      rw [DatePiece.chars, List.cons_append, Text.trimLeft, List.dropWhile_cons_of_pos hblank]
      cases hchars : p.field.chars t with
      | nil => exact absurd hchars (DateField.chars_ne_nil t p.field)
      | cons c cs =>
        have hc := DateField.isBlank_of_mem_chars (hchars ▸ List.mem_cons_self : c ∈ p.field.chars t)
        exact List.dropWhile_cons_of_neg (by simp [hc])
    rw [PatternItem.read, htrim]
    rfl
  · exact read_char

/-- What follows a field is no digit: either another piece or what follows the pieces. -/
theorem head?_pieces {t : Timestamp} {pieces : List DatePiece} {rest : List Char}
    (hleads : ∀ p ∈ pieces, p.lead.isDigit = false) (hr : ∀ c ∈ rest.head?, c.isDigit = false) :
    ∀ c ∈ (pieces.flatMap (DatePiece.chars t) ++ rest).head?, c.isDigit = false := by
  cases pieces with
  | nil => exact hr
  | cons p pieces =>
    intro c hc
    obtain rfl : p.lead = c := Option.some.inj hc
    exact hleads p List.mem_cons_self

/-- Pieces are read one after the other if each of them begins with a character that is no
    digit. -/
theorem readItems_pieces (t : Timestamp) {pieces : List DatePiece} {parts : DateParts}
    (items : DatePattern) {rest : List Char} (hleads : ∀ p ∈ pieces, p.lead.isDigit = false)
    (hnew : (pieces.map DatePiece.field).Nodup) (hlacks : ∀ p ∈ pieces, parts.lacks p.field)
    (hr : ∀ c ∈ rest.head?, c.isDigit = false) :
    readItems (pieces.flatMap DatePiece.items ++ items) parts
        (pieces.flatMap (DatePiece.chars t) ++ rest) =
      items.readItems (pieces.foldl (DatePiece.store t) parts) rest := by
  induction pieces generalizing parts with
  | nil => rfl
  | cons p pieces ih =>
    rw [List.forall_mem_cons] at hleads hlacks
    rw [List.map_cons, List.nodup_cons] at hnew
    simp only [List.flatMap_cons, DatePiece.items, List.cons_append, List.nil_append,
      List.append_assoc, List.foldl_cons]
    rw [readItems_cons (read_lead t p parts _),
      readItems_cons (read_field t hlacks.1 (head?_pieces hleads.2 hr))]
    -- What was stored is the number of another field, so those to come are still missing.
    refine ih hleads.2 hnew.2 fun q hq => ?_
    have hne : p.field ≠ q.field := fun heq => hnew.1 (heq ▸ List.mem_map_of_mem hq)
    rw [DateParts.lacks_put hne]
    exact hlacks.2 q hq

/-- A row of different fields is read from its beginning. -/
theorem readItems_row (t : Timestamp) (first : DateField) (pieces : List DatePiece)
    (items : DatePattern) (rest : List Char) (hleads : ∀ p ∈ pieces, p.lead.isDigit = false)
    (hnew : (first :: pieces.map DatePiece.field).Nodup)
    (hr : ∀ c ∈ rest.head?, c.isDigit = false) :
    readItems (.number first :: pieces.flatMap DatePiece.items ++ items) {}
        (first.chars t ++ pieces.flatMap (DatePiece.chars t) ++ rest) =
      items.readItems
        (pieces.foldl (DatePiece.store t) (({} : DateParts).put first (first.value t))) rest := by
  have hempty (field : DateField) : ({} : DateParts).lacks field := by cases field <;> rfl
  obtain ⟨hfirst, hnew⟩ := List.nodup_cons.1 hnew
  have hlacks (p : DatePiece) (hp : p ∈ pieces) :
      (({} : DateParts).put first (first.value t)).lacks p.field := by
    have hne : first ≠ p.field := fun heq => hfirst (heq ▸ List.mem_map_of_mem hp)
    rw [DateParts.lacks_put hne]
    exact hempty p.field
  rw [List.cons_append, List.append_assoc,
    readItems_cons (read_field t (hempty first) (head?_pieces hleads hr)),
    readItems_pieces t items hleads hnew hlacks hr]

end DatePattern

end RecordFilter
