import RecordFilter.Proofs.DateText.Formats

/-!
# Quotes around dates

The blanks around a text are trimmed off before the quotes are taken out of it. So quotes around a
text without blanks at its ends make no difference, and quotes around another one keep its blanks,
which a format does not read behind the date (`DateText.millis?_between_quotes`). A text that was
normalized can begin or end with blanks that stood inside quotes; they are gone when it is
normalized again, and from then on nothing changes.
-/

namespace RecordFilter

/-! ## Trimming -/

namespace Text

variable {cs : List Char}

theorem trimLeft_blanks_append {before : List Char} (h : ∀ c ∈ before, isBlank c) (cs : List Char) :
    trimLeft (before ++ cs) = trimLeft cs :=
  List.dropWhile_append_of_pos h

/-- What is trimmed off at the front are blanks. -/
theorem exists_trimLeft (cs : List Char) :
    ∃ before, cs = before ++ trimLeft cs ∧ ∀ c ∈ before, isBlank c :=
  ⟨cs.takeWhile isBlank, List.takeWhile_append_dropWhile.symm,
    fun _ hc => List.mem_takeWhile_imp hc⟩

theorem exists_trim_append (cs : List Char) :
    ∃ after, trimLeft cs = trim cs ++ after ∧ ∀ c ∈ after, isBlank c := by
  obtain ⟨after, hafter, hblank⟩ := exists_trimLeft (trimLeft cs).reverse
  refine ⟨after.reverse, ?_, by simpa using hblank⟩
  rw [trim, ← List.reverse_append, ← hafter, List.reverse_reverse]

/-- What is trimmed off are blanks. -/
theorem exists_trim (cs : List Char) :
    ∃ before after, cs = before ++ (trim cs ++ after) ∧ ∀ c ∈ before ++ after, isBlank c := by
  obtain ⟨before, hbefore, hb⟩ := exists_trimLeft cs
  obtain ⟨after, hafter, ha⟩ := exists_trim_append cs
  exact ⟨before, after, by rw [← hafter, ← hbefore], List.forall_mem_append.2 ⟨hb, ha⟩⟩

theorem mem_of_mem_trim {c : Char} (h : c ∈ trim cs) : c ∈ cs := by
  obtain ⟨before, after, hcs, -⟩ := exists_trim cs
  rw [hcs]
  exact List.mem_append_right _ (List.mem_append_left _ h)

theorem isBlank_of_head?_trimLeft {c : Char} (h : c ∈ (trimLeft cs).head?) : isBlank c = false := by
  have hnot := List.head?_dropWhile_not isBlank cs
  rw [← trimLeft, h] at hnot
  simpa using hnot

theorem isTrimmed_trim (cs : List Char) : IsTrimmed (trim cs) := by
  obtain ⟨after, hafter, -⟩ := exists_trim_append cs
  constructor
  · intro c hc
    refine @isBlank_of_head?_trimLeft cs c ?_
    rw [hafter, List.head?_append, hc]
    rfl
  · intro c hc
    rw [trim, List.getLast?_reverse] at hc
    exact isBlank_of_head?_trimLeft hc

/-- Trimming leaves just the texts as they are that have no blanks at their ends. -/
theorem trim_eq_self_iff : trim cs = cs ↔ IsTrimmed cs :=
  ⟨fun h => h ▸ isTrimmed_trim cs, trim_eq_self⟩

/-- Nothing but blanks at the front is trimmed off a text that does not end with one. -/
theorem trim_eq_trimLeft (h : ∀ c ∈ cs.getLast?, isBlank c = false) : trim cs = trimLeft cs := by
  obtain ⟨before, hbefore, -⟩ := exists_trimLeft cs
  have hlast : ∀ c ∈ (trimLeft cs).reverse.head?, isBlank c = false := by
    intro c hc
    rw [List.head?_reverse] at hc
    refine h c ?_
    rw [hbefore, List.getLast?_append, hc]
    rfl
  rw [trim, trimLeft_eq_self hlast, List.reverse_reverse]

end Text

/-! ## Tidying -/

namespace DateText

variable {cs ds : List Char}

theorem not_isQuote_of_mem_tidy {c : Char} (h : c ∈ tidy cs) : ¬IsQuote c := by
  obtain ⟨d, hd, rfl⟩ := List.mem_map.1 h
  have hquote := of_decide_eq_true (List.mem_filter.1 hd).2
  split
  · decide
  · exact not_or.2 hquote

theorem tidy_blanks (h : ∀ c ∈ cs, Text.isBlank c) : tidy cs = cs := by
  have hnone (d : Char) (hd : Text.isBlank d = false) : d ∉ cs := by
    intro hmem
    rw [h d hmem] at hd
    cases hd
  refine tidy_eq_self_of_forall fun c hc => ⟨?_, ?_, ?_⟩
  · rintro (rfl | rfl) <;> exact hnone _ (by decide) hc
  · rintro rfl
    exact hnone _ (by decide) hc
  · rintro rfl
    exact hnone _ (by decide) hc

/-- A part of a text that was tidied is tidy. -/
theorem tidy_of_forall_mem (h : ∀ c ∈ ds, c ∈ tidy cs) : tidy ds = ds :=
  tidy_eq_self_of_forall fun c hc =>
    ⟨not_isQuote_of_mem_tidy (h c hc), ne_of_mem_tidy (h c hc)⟩

theorem trimLeft_tidy (cs : List Char) :
    Text.trimLeft (tidy cs) = Text.trimLeft (tidy (Text.trimLeft cs)) := by
  obtain ⟨before, hbefore, hblank⟩ := Text.exists_trimLeft cs
  have htidy : tidy cs = before ++ tidy (Text.trimLeft cs) := by
    conv_lhs => rw [hbefore, tidy_append, tidy_blanks hblank]
  rw [htidy, Text.trimLeft_blanks_append hblank]

/-- The blanks at the ends of a text are all that trimming it takes from the tidied text. -/
theorem tidy_trim_iff : tidy (Text.trim cs) = tidy cs ↔ Text.IsTrimmed cs := by
  refine ⟨fun h => ?_, fun h => by rw [Text.trim_eq_self h]⟩
  obtain ⟨before, after, hcs, hblank⟩ := Text.exists_trim cs
  obtain ⟨hbefore, hafter⟩ := List.forall_mem_append.1 hblank
  have htidy : tidy cs = before ++ (tidy (Text.trim cs) ++ after) := by
    conv_lhs => rw [hcs, tidy_append, tidy_append, tidy_blanks hbefore, tidy_blanks hafter]
  -- Blanks are left by tidying, so trimming changes the length unless there are none at the ends.
  have hlength := congrArg List.length (h.trans htidy)
  simp only [List.length_append] at hlength
  obtain rfl : before = [] := List.eq_nil_of_length_eq_zero (by omega)
  obtain rfl : after = [] := List.eq_nil_of_length_eq_zero (by omega)
  rw [List.nil_append, List.append_nil] at hcs
  exact Text.trim_eq_self_iff.1 hcs.symm

/-! ## Normalizing -/

/-- A text between two quotes. -/
def enclosed (quote : Char) (cs : List Char) : List Char :=
  quote :: (cs ++ [quote])

/-- Quotes around a text keep its blanks. -/
theorem normalize_enclosed {quote : Char} (h : IsQuote quote) (cs : List Char) :
    normalize (enclosed quote cs) = tidy cs := by
  have hquote : ∀ c ∈ [quote], IsQuote c := List.forall_mem_singleton.2 h
  have hblank : Text.isBlank quote = false := by
    rcases h with rfl | rfl <;> decide
  have hsplit : enclosed quote cs = [quote] ++ cs ++ [quote] := by
    rw [enclosed, List.append_assoc, List.singleton_append]
  -- The quotes stand at both ends, so nothing is trimmed before they go.
  have htrimmed : Text.IsTrimmed (enclosed quote cs) := by
    constructor
    · rintro c ⟨⟩
      exact hblank
    · intro c hc
      rw [hsplit, List.getLast?_concat] at hc
      obtain rfl := Option.some.inj hc
      exact hblank
  rw [normalize_eq, Text.trim_eq_self htrimmed, hsplit, tidy_append, tidy_append,
    tidy_quotes hquote, List.nil_append, List.append_nil]

/-- A second time a text is only trimmed. -/
theorem normalize_normalize (cs : List Char) :
    normalize (normalize cs) = Text.trim (normalize cs) := by
  rw [normalize_eq (normalize cs)]
  exact tidy_of_forall_mem fun c hc => Text.mem_of_mem_trim hc

/-! ## Reading -/

/-- Texts that are normalized alike are read alike. -/
theorem millis?_congr {text text' : String} (h : normalize text.toList = normalize text'.toList)
    (patterns : List DatePattern) : millis? patterns text = millis? patterns text' := by
  rw [millis?, millis?, h]

/-- Whether a pattern begins with the number of one of the fields that are covered: the year in
    four or in two digits, the month, the day, the hour, the minute or the second. -/
def BeginsWithNumber (pattern : DatePattern) : Prop :=
  ∃ field items, pattern = .number field :: items

variable {pattern : DatePattern}

/-- The blanks in front of a number are not read. -/
theorem millisBy?_congr (hpattern : BeginsWithNumber pattern)
    (h : Text.trimLeft cs = Text.trimLeft ds) : millisBy? cs pattern = millisBy? ds pattern := by
  obtain ⟨field, items, rfl⟩ := hpattern
  have hnumber : readNumber field cs = readNumber field ds := by
    unfold readNumber
    rw [h]
  have hread : DatePattern.read (.number field :: items) cs =
      DatePattern.read (.number field :: items) ds := by
    simp only [DatePattern.read, DatePattern.readItems, PatternItem.read, hnumber]
  rw [millisBy?, millisBy?, hread]

theorem millisBy?_nil (hpattern : BeginsWithNumber pattern) : millisBy? [] pattern = none := by
  obtain ⟨field, items, rfl⟩ := hpattern
  cases field <;> rfl

/-- Where all patterns begin with a number, a text without characters is none of them. -/
theorem millis?_eq_findSome? {patterns : List DatePattern} (h : ∀ p ∈ patterns, BeginsWithNumber p)
    (text : String) :
    millis? patterns text = patterns.findSome? (millisBy? (normalize text.toList)) := by
  rw [millis?]
  split
  · next hempty =>
    rw [List.isEmpty_iff.1 hempty]
    exact (List.findSome?_eq_none_iff.2 fun p hp => millisBy?_nil (h p hp)).symm
  · rfl

/-- Quotes around a text make no difference if all formats begin with a number and the text does not
    end with a blank: numbers are read behind any blanks. -/
theorem millis?_enclosed_of_beginsWithNumber {quote : Char} (hquote : IsQuote quote)
    {patterns : List DatePattern} (h : ∀ p ∈ patterns, BeginsWithNumber p) {text : String}
    (hlast : ∀ c ∈ text.toList.getLast?, Text.isBlank c = false) :
    millis? patterns (String.ofList (enclosed quote text.toList)) = millis? patterns text := by
  rw [millis?_eq_findSome? h, millis?_eq_findSome? h, String.toList_ofList,
    normalize_enclosed hquote, normalize_eq, Text.trim_eq_trimLeft hlast]
  rw [← List.head?_filterMap, ← List.head?_filterMap]
  exact congrArg List.head? <| List.filterMap_congr fun p hp =>
    millisBy?_congr (h p hp) (trimLeft_tidy _)

/-- Quotes around a text make a difference if it begins or ends with blanks: they are trimmed off
    the text alone. To normalize a text twice is to trim it once more. -/
theorem millis?_between_quotes (quote : Char) (hquote : IsQuote quote) (text : String) :
    normalize (enclosed quote text.toList) = tidy text.toList ∧
    (normalize (enclosed quote text.toList) = normalize text.toList ↔
      Text.IsTrimmed text.toList) ∧
    (∀ patterns, Text.IsTrimmed text.toList →
      millis? patterns (String.ofList (enclosed quote text.toList)) = millis? patterns text) ∧
    (∀ patterns, (∀ p ∈ patterns, BeginsWithNumber p) →
      (∀ c ∈ text.toList.getLast?, Text.isBlank c = false) →
      millis? patterns (String.ofList (enclosed quote text.toList)) = millis? patterns text) ∧
    ∀ cs, normalize (normalize cs) = Text.trim (normalize cs) ∧
      (normalize (normalize cs) = normalize cs ↔ Text.IsTrimmed (normalize cs)) ∧
      normalize (normalize (normalize cs)) = normalize (normalize cs) := by
  have hsame : normalize (enclosed quote text.toList) = normalize text.toList ↔
      Text.IsTrimmed text.toList := by
    rw [normalize_enclosed hquote, normalize_eq, eq_comm, tidy_trim_iff]
  refine ⟨normalize_enclosed hquote _, hsame, fun patterns htrimmed => ?_,
    fun patterns h hlast => millis?_enclosed_of_beginsWithNumber hquote h hlast, fun cs => ?_⟩
  · refine millis?_congr ?_ patterns
    rw [String.toList_ofList]
    exact hsame.2 htrimmed
  · refine ⟨normalize_normalize cs, by rw [normalize_normalize, Text.trim_eq_self_iff], ?_⟩
    rw [normalize_normalize (normalize cs), normalize_normalize cs,
      Text.trim_eq_self (Text.isTrimmed_trim _)]

/-- The last day of 2016 between quotes, without blanks and with some at its front. -/
theorem millis?_between_quotes_indented :
    (IsQuote '\'' ∧ Text.IsTrimmed "2016.12/31".toList ∧
      millis? ({} : Config).datePatterns "'2016.12/31'" = some 1483142400000) ∧
    IsQuote '"' ∧ (∀ c ∈ "  2016.12/31".toList.getLast?, Text.isBlank c = false) ∧
      (∀ p ∈ ({} : Config).datePatterns, BeginsWithNumber p) ∧
      millis? ({} : Config).datePatterns "\"  2016.12/31\"" = some 1483142400000 := by
  have htrimmed : Text.IsTrimmed "2016.12/31".toList := by
    constructor <;> rintro _ ⟨⟩ <;> rfl
  have hlast : ∀ c ∈ "  2016.12/31".toList.getLast?, Text.isBlank c = false := by
    rintro _ ⟨⟩
    rfl
  have hnumber : ∀ p ∈ ({} : Config).datePatterns, BeginsWithNumber p := by
    rw [datePatterns_default]
    exact List.forall_mem_map.2 fun precision _ => ⟨.year, _, rfl⟩
  obtain ⟨-, -, hplain, -⟩ := millis?_between_quotes '\'' (.inl rfl) "2016.12/31"
  obtain ⟨-, -, -, hindented, -⟩ := millis?_between_quotes '"' (.inr rfl) "  2016.12/31"
  refine ⟨⟨.inl rfl, htrimmed, ?_⟩, .inr rfl, hlast, hnumber, ?_⟩
  · exact (hplain _ htrimmed).trans (by decide)
  · exact (hindented _ hnumber hlast).trans (by decide)

/-- A blank between a date and a quote is not read, nor is one in front of a date that does not
    begin with a number; without the quotes they are trimmed off. A text that was normalized can
    still begin with a blank. -/
theorem millis?_blanks_in_quotes :
    millis? ({} : Config).datePatterns "2020-01-01 " = some 1577836800000 ∧
      millis? ({} : Config).datePatterns "'2020-01-01 '" = none ∧
      millis? ({ dateFormats := ["on %Y-%m-%d"] } : Config).datePatterns " on 2020-01-01" =
        some 1577836800000 ∧
      millis? ({ dateFormats := ["on %Y-%m-%d"] } : Config).datePatterns "' on 2020-01-01'" =
        none ∧
      normalize (normalize "' x'".toList) ≠ normalize "' x'".toList := by
  decide

end DateText

end RecordFilter
