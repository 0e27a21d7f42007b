import RecordFilter.Config
import RecordFilter.Proofs.Calendar.Marks
import RecordFilter.Proofs.DateText.Layouts

/-!
# Date formats in the settings

A format that is set for dates reads the moments that are written in it as long as its date has
hyphens and spaces between the fields. Slashes and points are tidied away in the text but not in
the format, so a format with one of them reads nothing at all (`DateText.millis?_configured`).

At most one of the formats that are there by default reads a text, so their order does not matter,
and a moment that is written in one of them, with slashes, points or quotes or without, is read as
the point in time that was written (`DateText.millis?_default`). They are told apart by their marks:
the colons and the comma of a text are those of its format (`DatePattern.count_of_read`).
-/

namespace RecordFilter

/-- Half a second into the leap second at the end of 2016. -/
def Timestamp.lastLeapSecond : Timestamp where
  date := ⟨2016, 12, 31, by decide⟩
  time := ⟨23, 59, 59, 1500000000, by decide⟩

/-! ## The only match -/

section FindSome

variable {α β : Type} {l l' : List α} {f : α → Option β}

/-- The only element with a value is found wherever it stands. -/
theorem findSome?_eq_of_unique (honly : ∀ a ∈ l, ∀ b ∈ l, (f a).isSome → (f b).isSome → a = b)
    {a : α} {b : β} (ha : a ∈ l) (h : f a = some b) : l.findSome? f = some b := by
  have hsome : (l.findSome? f).isSome :=
    List.findSome?_isSome_iff.2 ⟨a, ha, Option.isSome_of_eq_some h⟩
  obtain ⟨b', hb'⟩ := Option.isSome_iff_exists.1 hsome
  obtain ⟨a', ha', h'⟩ := List.exists_of_findSome?_eq_some hb'
  obtain rfl := honly a ha a' ha' (Option.isSome_of_eq_some h) (Option.isSome_of_eq_some h')
  rw [hb', ← h', h]

theorem findSome?_eq_of_perm (honly : ∀ a ∈ l, ∀ b ∈ l, (f a).isSome → (f b).isSome → a = b)
    (h : l'.Perm l) : l'.findSome? f = l.findSome? f := by
  cases hfound : l'.findSome? f with
  | none =>
    rw [List.findSome?_eq_none_iff] at hfound
    exact (List.findSome?_eq_none_iff.2 fun a ha => hfound a (h.mem_iff.2 ha)).symm
  | some b =>
    obtain ⟨a, ha, hb⟩ := List.exists_of_findSome?_eq_some hfound
    exact (findSome?_eq_of_unique honly (h.mem_iff.1 ha) hb).symm

end FindSome

/-! ## The items of a layout -/

namespace DateLayout

/-- The items of a layout are blanks, characters and fields, of the kinds whose marks can be
    counted. -/
theorem isSimple_of_mem_items {l : DateLayout} {item : PatternItem} (h : item ∈ l.items) :
    item.isSimple := by
  simp only [items, List.cons_append, List.mem_cons, List.mem_append, List.mem_flatMap] at h
  rcases h with rfl | ⟨p, -, h⟩ | h
  · rfl
  · simp only [DatePiece.items, List.mem_cons, List.not_mem_nil, or_false] at h
    rcases h with rfl | rfl
    · split <;> rfl
    · rfl
  · split at h
    · simp only [List.mem_cons, List.not_mem_nil, or_false] at h
      rcases h with rfl | rfl <;> rfl
    · cases h

/-- What stands in front of a field and is not blank is an item of the layout. -/
theorem char_mem_items {l : DateLayout} {p : DatePiece} (h : p ∈ l.pieces)
    (hlead : Text.isBlank p.lead = false) : .char p.lead ∈ l.items := by
  have hitem : PatternItem.char p.lead ∈ p.items := by simp [DatePiece.items, hlead]
  exact List.mem_append_left _ (List.mem_cons_of_mem _ (List.mem_flatMap_of_mem h hitem))

/-- A layout that is not tidy has a slash or a point in its pattern. -/
theorem exists_char_mem_items {l : DateLayout} (h : ¬ l.IsTidy) :
    ∃ c, (c = '/' ∨ c = '.') ∧ .char c ∈ l.items := by
  have hseparator {s : DateSeparator} (hs : s.tidied ≠ s) :
      (s.char = '/' ∨ s.char = '.') ∧ Text.isBlank s.char = false := by
    cases s with
    | hyphen | space => exact absurd rfl hs
    | slash | point => decide
  -- One of the two separators is changed by tidying, and that one is no blank.
  by_cases hleft : l.left.tidied = l.left
  · have hright : l.right.tidied ≠ l.right := fun hright => h (by rw [IsTidy, tidied, hleft, hright])
    obtain ⟨hchar, hblank⟩ := hseparator hright
    exact ⟨_, hchar, char_mem_items (p := ⟨l.right.char, l.order.third⟩) (by simp [pieces]) hblank⟩
  · obtain ⟨hchar, hblank⟩ := hseparator hleft
    exact ⟨_, hchar, char_mem_items (p := ⟨l.left.char, l.order.second⟩) (by simp [pieces]) hblank⟩

end DateLayout

namespace DateText

/-- A text that is read has the marks of the pattern. -/
theorem count_of_millisBy?_isSome {c : Char} (hc : IsMark c) {pattern : DatePattern}
    (hpattern : ∀ item ∈ pattern, item.isSimple) {cs : List Char}
    (h : (millisBy? cs pattern).isSome) : cs.count c = pattern.count (.char c) := by
  cases hread : pattern.read cs with
  | error cause =>
    rw [millisBy?, hread] at h
    cases h
  | ok parts => exact DatePattern.count_of_read hc hpattern hread

/-! ## Formats that are set -/

/-- A slash or a point in a pattern is found in no tidied text. -/
theorem millisBy?_normalize_eq_none {l : DateLayout} (h : ¬ l.IsTidy) (cs : List Char) :
    millisBy? (normalize cs) l.items = none := by
  obtain ⟨c, hc, hmem⟩ := DateLayout.exists_char_mem_items h
  by_contra hne
  have hmark : IsMark c := by rcases hc with rfl | rfl <;> decide
  have hcount := count_of_millisBy?_isSome hmark (fun item => DateLayout.isSimple_of_mem_items)
    (Option.isSome_iff_ne_none.2 hne)
  have hzero : (normalize cs).count c = 0 := by
    refine List.count_eq_zero.2 fun hin => ?_
    rw [normalize_eq] at hin
    obtain ⟨hslash, hpoint⟩ := ne_of_mem_tidy hin
    exact hc.elim hslash hpoint
  have hpos := List.count_pos_iff.2 hmem
  omega

/-- A format that is set reads what is written in it if it is tidy, and nothing otherwise. -/
theorem millis?_configured (l : DateLayout) :
    (l.IsTidy → ∀ t : Timestamp,
      millis? ({ dateFormats := [l.format] } : Config).datePatterns (l.text t) =
        some (t.upTo l.precision).epochMillis) ∧
    (¬ l.IsTidy → ∀ text,
      millis? ({ dateFormats := [l.format] } : Config).datePatterns text = none) := by
  have hpatterns : ({ dateFormats := [l.format] } : Config).datePatterns = [l.items] :=
    congrArg (· :: []) l.ofString_format
  rw [hpatterns]
  refine ⟨fun h t => ?_, fun h text => ?_⟩
  · have hread := millis?_quoted [l.items] l t [] [] (by simp)
    rw [List.nil_append, List.append_nil, h] at hread
    rw [DateLayout.text, hread, List.findSome?_singleton, millisBy?_layout]
  · rw [millis?]
    split
    · rfl
    · rw [List.findSome?_singleton, millisBy?_normalize_eq_none h]

/-- The last day of 2016 is read with hyphens, but not with slashes. -/
theorem millis?_configured_slash :
    millis? ({ dateFormats := ["%d-%m-%Y"] } : Config).datePatterns "31-12-2016" =
        some 1483142400000 ∧
      millis? ({ dateFormats := ["%d/%m/%Y"] } : Config).datePatterns "31/12/2016" = none := by
  let l : DateLayout := { order := .dayMonthYear, left := .hyphen, right := .hyphen, precision := .day }
  have htext : l.text Timestamp.lastLeapSecond = "31-12-2016" := by decide
  have hmillis : (Timestamp.lastLeapSecond.upTo .day).epochMillis = 1483142400000 := by decide
  constructor
  · have hread := (millis?_configured l).1 rfl Timestamp.lastLeapSecond
    rw [htext] at hread
    exact hread.trans (congrArg some hmillis)
  · exact (millis?_configured { l with left := .slash, right := .slash }).2 (by decide) "31/12/2016"

/-! ## Default formats -/

/-- The layout of the default formats. -/
def defaultLayout (precision : Precision) : DateLayout :=
  { order := .yearMonthDay, left := .hyphen, right := .hyphen, precision }

/-- The default formats are the layout of four precisions. -/
theorem defaultDateFormats_eq : defaultDateFormats =
    [Precision.day, .minute, .second, .milli].map fun p => (defaultLayout p).format := by
  decide

theorem datePatterns_default : ({} : Config).datePatterns =
    [Precision.day, .minute, .second, .milli].map fun p => (defaultLayout p).items := by
  decide

/-- At most one of the default formats reads a text. -/
theorem eq_of_millisBy?_isSome {cs : List Char} {p q : DatePattern}
    (hp : p ∈ ({} : Config).datePatterns) (hq : q ∈ ({} : Config).datePatterns)
    (hreadp : (millisBy? cs p).isSome) (hreadq : (millisBy? cs q).isSome) : p = q := by
  have hsimple : ∀ p ∈ ({} : Config).datePatterns, ∀ item ∈ p, item.isSimple := by decide
  -- There are none, one, two and two colons in the formats, and a comma in the last one.
  have hmarks : ∀ p ∈ ({} : Config).datePatterns, ∀ q ∈ ({} : Config).datePatterns,
      p.count (.char ':') = q.count (.char ':') → p.count (.char ',') = q.count (.char ',') →
      p = q := by decide
  have hcount {c : Char} (hc : IsMark c) : p.count (.char c) = q.count (.char c) :=
    (count_of_millisBy?_isSome hc (hsimple p hp) hreadp).symm.trans
      (count_of_millisBy?_isSome hc (hsimple q hq) hreadq)
  exact hmarks p hp q hq (hcount (by decide)) (hcount (by decide))

/-- A moment in a default format, with slashes or points for hyphens and with quotes around it, is
    read as the point in time that is written. -/
theorem millis?_default_layout (t : Timestamp) (precision : Precision) {left right : DateSeparator}
    (hleft : left ≠ .space) (hright : right ≠ .space) (before after : List Char)
    (h : ∀ c ∈ before ++ after, IsQuote c) :
    millis? ({} : Config).datePatterns (String.ofList
      (before ++ (DateLayout.mk .yearMonthDay left right precision).chars t ++ after)) =
        some (t.upTo precision).epochMillis := by
  have htidied (s : DateSeparator) (hs : s ≠ .space) : s.tidied = .hyphen := by
    cases s with
    | space => exact absurd rfl hs
    | _ => rfl
  have hlayout : (DateLayout.mk .yearMonthDay left right precision).tidied =
      defaultLayout precision := by
    rw [DateLayout.tidied, htidied left hleft, htidied right hright]
    rfl
  have hmem : (defaultLayout precision).items ∈ ({} : Config).datePatterns := by
    rw [datePatterns_default]
    cases precision <;> simp
  rw [millis?_quoted _ _ t before after h, hlayout]
  exact findSome?_eq_of_unique (fun p hp q hq => eq_of_millisBy?_isSome hp hq) hmem
    (millisBy?_layout _ t)

/-- The default formats are told apart by every text, and read what is written in them. -/
theorem millis?_default :
    (∀ cs, ∀ p ∈ ({} : Config).datePatterns, ∀ q ∈ ({} : Config).datePatterns,
      (millisBy? cs p).isSome → (millisBy? cs q).isSome → p = q) ∧
    (∀ formats, formats.Perm defaultDateFormats → ∀ text,
      millis? ({ dateFormats := formats } : Config).datePatterns text =
        millis? ({} : Config).datePatterns text) ∧
    defaultDateFormats =
      ([.day, .minute, .second, .milli].map fun precision =>
        (DateLayout.mk .yearMonthDay .hyphen .hyphen precision).format) ∧
    (∀ (t : Timestamp) (precision : Precision) (left right : DateSeparator)
      (before after : List Char), left ≠ .space → right ≠ .space →
      (∀ c ∈ before ++ after, IsQuote c) →
      millis? ({} : Config).datePatterns (String.ofList
        (before ++ (DateLayout.mk .yearMonthDay left right precision).chars t ++ after)) =
          some (t.upTo precision).epochMillis) := by
  refine ⟨fun cs p hp q hq => eq_of_millisBy?_isSome hp hq, fun formats h text => ?_,
    defaultDateFormats_eq, fun t precision left right before after hleft hright h =>
      millis?_default_layout t precision hleft hright before after h⟩
  have hperm : ({ dateFormats := formats } : Config).datePatterns.Perm
      ({} : Config).datePatterns := h.map DatePattern.ofString
  rw [millis?, millis?]
  split
  · rfl
  · exact findSome?_eq_of_perm (fun p hp q hq => eq_of_millisBy?_isSome hp hq) hperm

/-- A leap second between quotes is read with the default formats in reversed order. -/
theorem millis?_default_leapSecond :
    millis? ({ dateFormats := defaultDateFormats.reverse } : Config).datePatterns
      "'2016/12.31 23:59:60,500\"" = some 1483228800500 := by
  obtain ⟨-, hperm, -, hread⟩ := millis?_default
  have htext : String.ofList (['\''] ++
      (DateLayout.mk .yearMonthDay .slash .point .milli).chars Timestamp.lastLeapSecond ++ ['"']) =
        "'2016/12.31 23:59:60,500\"" := by decide
  have hmillis : (Timestamp.lastLeapSecond.upTo .milli).epochMillis = 1483228800500 := by decide
  have hlast := hread Timestamp.lastLeapSecond .milli .slash .point ['\''] ['"'] (by decide)
    (by decide) (by simp [IsQuote])
  rw [htext, hmillis] at hlast
  rw [hperm _ (List.reverse_perm _), hlast]

end DateText

end RecordFilter
