import RecordFilter.Proofs.Expr.Primaries

/-!
# Words as names of columns

A word that is no keyword is a column of this name, character for character, and behind
the name of a table and a point it is a column of the table. Of the keywords three are
columns too where no string follows, `DATE`, `TIME` and `TIMESTAMP`. The column has the
name of the keyword in small letters then, however the word is written, and behind a point
a keyword is no name at all (`Expr.parse_word`).
-/

namespace RecordFilter

open RecordFilter.Parser

/-! ## Tokens of words -/

namespace Token

/-- A text of one word has one token in front of the end of the input. -/
theorem ofString_word {word : String} (h : isWord word.toList) :
    ofString word = [ofWord word, .endOfInput] := by
  have hlex := lexes_word h [] stops_nil
  rwa [List.append_nil, String.ofList_toList, tokens_nil] at hlex

/-- Two words with a point between them have three. -/
theorem ofString_qualified {left right : String} (hl : isWord left.toList)
    (hr : isWord right.toList) : ofString (left ++ "." ++ right) =
      [ofWord left, .symbol .dot, ofWord right, .endOfInput] := by
  have hlex := lexes_qualified hl hr [] stops_nil
  rw [List.append_nil, tokens_nil] at hlex
  have htext : (left ++ "." ++ right).toList = left.toList ++ '.' :: right.toList := by
    simp
  rw [ofString, htext, hlex]
  rfl

/-- The name of the column that a token is read as, if it stands alone. -/
def columnName? : Token → Option String
  | .name s => some s
  | .keyword kind => keywordName? kind
  | _ => none

end Token

namespace Parser

variable {t : Token} {name : String}

theorem filter_word (h : t.columnName? = some name) :
    filter [t, .endOfInput] = .ok (.column ⟨none, name⟩) [.endOfInput] := by
  cases t with
  | name => cases h; rfl
  | keyword kind => cases kind <;> cases h <;> rfl
  | _ => cases h

/-- In front of a point it is read as the table of the column behind. -/
theorem filter_qualified (h : t.columnName? = some name) (column : String) :
    filter [t, .symbol .dot, .name column, .endOfInput] =
      .ok (.column ⟨some name, column⟩) [.endOfInput] := by
  cases t with
  | name => cases h; rfl
  | keyword kind => cases kind <;> cases h <;> rfl
  | _ => cases h

/-- A keyword is not the name of a column of a table. -/
theorem filter_qualified_keyword (h : t.columnName? = some name) (kind : Keyword) :
    filter [t, .symbol .dot, .keyword kind, .endOfInput] =
      .error (.expectedName (.keyword kind)) [.keyword kind, .endOfInput] := by
  cases t with
  | name => cases h; rfl
  | keyword own => cases own <;> cases h <;> rfl
  | _ => cases h

/-- A word that is read as a column has the name of one. -/
theorem columnName?_of_filter {word : String} {c : Column} {rest : List Token}
    (h : filter [Token.ofWord word, .endOfInput] = .ok (.column c) rest) :
    ∃ name, (Token.ofWord word).columnName? = some name ∧ c = ⟨none, name⟩ := by
  -- A filter of this length is evaluated as soon as its first token is known.
  rcases Token.ofWord_cases word with ⟨kind, hword⟩ | ⟨-, hword⟩ <;> rw [hword] at h ⊢
  · cases kind <;> cases h <;> exact ⟨_, rfl, rfl⟩
  · cases h
    exact ⟨_, rfl, rfl⟩

end Parser

/-! ## Columns -/

namespace Expr

open Token

/-- When a word is a column, and which one it is. -/
theorem parse_eq_column {w : String} (hw : isWord w.toList) {c : Column} :
    Expr.parse w = .ok (.column c) ↔
      ∃ name, (ofWord w).columnName? = some name ∧ c = ⟨none, name⟩ := by
  unfold Expr.parse
  rw [ofString_word hw]
  constructor
  · intro h
    split at h
    · next he =>
      obtain rfl := Except.ok.inj h
      exact columnName?_of_filter he
    · cases h
  · rintro ⟨name, hname, rfl⟩
    rw [filter_word hname]

/-- The column of a keyword has the spelling of the word if that is in small letters. -/
theorem keywordName?_eq_word {w name : String} {kind : Keyword}
    (hk : Keyword.ofName? w = some kind) (hname : keywordName? kind = some name) :
    name = w ↔ w ∈ ["date", "time", "timestamp"] := by
  constructor
  · rintro rfl
    unfold keywordName? at hname
    split at hname <;> cases hname <;> simp
  · intro hmem
    have hself : ∀ w ∈ ["date", "time", "timestamp"],
        (Keyword.ofName? w).bind keywordName? = some w := by
      decide +kernel
    have hword := hself w hmem
    rw [hk, Option.bind_some, hname] at hword
    exact Option.some.inj hword

/-- What a word is read as. If it is no keyword, it is a column of its own name. If it is
    one, it can only be a column with the name that the keyword has as such; that is the
    word itself only where it is written in small letters. Behind the name of a table, which
    is anything that is a column by itself, and a point, a word is a column of the table if
    it is no keyword, and an error otherwise. -/
theorem parse_word (w : String) (hw : isWord w.toList) :
    (Keyword.ofName? w = none → Expr.parse w = .ok (.column ⟨none, w⟩)) ∧
    (∀ kind, Keyword.ofName? w = some kind → ∀ c, Expr.parse w = .ok (.column c) ↔
      ∃ name, keywordName? kind = some name ∧ c = ⟨none, name⟩) ∧
    (∀ c, Expr.parse w = .ok (.column c) →
      (c.name = w ↔ Keyword.ofName? w = none ∨ w ∈ ["date", "time", "timestamp"])) ∧
    ∀ t c, isWord t.toList → Expr.parse t = .ok (.column c) →
      (Keyword.ofName? w = none →
        Expr.parse (t ++ "." ++ w) = .ok (.column ⟨some c.name, w⟩)) ∧
      (∀ kind, Keyword.ofName? w = some kind →
        Expr.parse (t ++ "." ++ w) = .error (.expectedName (.keyword kind))) := by
  refine ⟨?name, ?keyword, ?spelling, ?qualified⟩
  case name =>
    intro hnone
    exact (parse_eq_column hw).2 ⟨w, by rw [ofWord_of_none hnone]; rfl, rfl⟩
  case keyword =>
    intro kind hkind c
    rw [parse_eq_column hw, ofWord_of_some hkind]
    rfl
  case spelling =>
    intro c hc
    obtain ⟨name, hname, rfl⟩ := (parse_eq_column hw).1 hc
    cases hk : Keyword.ofName? w with
    | none =>
      rw [ofWord_of_none hk] at hname
      exact iff_of_true (Option.some.inj hname).symm (.inl rfl)
    | some kind =>
      rw [ofWord_of_some hk] at hname
      rw [keywordName?_eq_word hk hname]
      simp
  case qualified =>
    intro t c ht hc
    obtain ⟨name, hname, rfl⟩ := (parse_eq_column ht).1 hc
    unfold Expr.parse
    rw [ofString_qualified ht hw]
    refine ⟨fun hnone => ?_, fun kind hkind => ?_⟩
    · rw [ofWord_of_none hnone, filter_qualified hname]
    · rw [ofWord_of_some hkind, filter_qualified_keyword hname]

/-- A keyword in front of the point is a table, behind it an error. -/
theorem parse_word_date : isWord "Date".toList ∧ isWord "größe".toList ∧
    Expr.parse "Date" = .ok (.column ⟨none, "date"⟩) ∧
    Expr.parse "Date.größe" = .ok (.column ⟨some "date", "größe"⟩) ∧
    Expr.parse "größe.Date" = .error (.expectedName (.keyword .date)) := by
  have hwords : isWord "Date".toList ∧ isWord "größe".toList := by decide +kernel
  have hkinds : Keyword.ofName? "Date" = some .date ∧ Keyword.ofName? "größe" = none := by
    decide +kernel
  obtain ⟨-, hdate, -, htable⟩ := parse_word "Date" hwords.1
  obtain ⟨hname, -, -, hcolumn⟩ := parse_word "größe" hwords.2
  have hparse := (hdate .date hkinds.1 ⟨none, "date"⟩).2 ⟨"date", rfl, rfl⟩
  exact ⟨hwords.1, hwords.2, hparse, (hcolumn "Date" _ hwords.1 hparse).1 hkinds.2,
    (htable "größe" _ hwords.2 (hname hkinds.2)).2 .date hkinds.1⟩

end Expr

end RecordFilter
