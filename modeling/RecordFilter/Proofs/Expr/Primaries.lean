import RecordFilter.Proofs.Expr.Printing
import RecordFilter.Proofs.Text.Uppercase

/-!
# Columns, calls and bracketed expressions that are read back

What has a name prints if the name can be written without quotes; `date`, `time` and
`timestamp` can too, though they are keywords. What stands between parentheses or
keywords prints if its operands print as whole expressions.
-/

namespace RecordFilter

open RecordFilter.Parser RecordFilter.Token

namespace Expr.Prints

variable {e : Expr}

/-! ## Names -/

/-- Whether a word can be the name of a column, a table or a function. -/
def IsHead (name : String) : Prop :=
  IsBare name ∨ ∃ kind, keywordName? kind = some name

/-- The name of such a keyword is a word, and it is read as the keyword again. -/
theorem keywordName?_cases {kind : Keyword} {name : String} (h : keywordName? kind = some name) :
    isWord name.toList ∧ ofWord name = .keyword kind := by
  unfold keywordName? at h
  split at h <;> cases h <;> decide +kernel

theorem isWord_of_isHead {name : String} (h : IsHead name) : isWord name.toList := by
  rcases h with h | ⟨kind, h⟩
  · exact h.1
  · exact (keywordName?_cases h).1

/-- A word that is a name begins what a name can begin. -/
theorem phrase_of_isHead {name : String} {ts : List Token} (h : IsHead name)
    (he : Phrase (.named name e) ts) : Phrase (.expression .primary e) (ofWord name :: ts) := by
  rcases h with h | ⟨kind, h⟩
  · rw [ofWord_of_isBare h]
    exact .name he
  · rw [(keywordName?_cases h).2]
    exact .keyword h he

theorem followsMinus_of_isWord {cs : List Char} (h : isWord cs) : FollowsMinus cs := by
  cases cs with
  | nil => cases h
  | cons c cs =>
    rw [isWord, Bool.and_eq_true] at h
    refine ⟨c, cs, rfl, ?_, ?_⟩ <;> rintro rfl <;> exact absurd h.1 (by decide +kernel)

theorem lexes_head {name : String} (h : IsHead name) : Lexes name.toList [ofWord name] := by
  have hlex := lexes_word (isWord_of_isHead h)
  rwa [String.ofList_toList] at hlex

/-- A column prints if its name needs no quotes or is a keyword of a date or time. -/
theorem column {name : String} (h : IsHead name) : (Expr.column ⟨none, name⟩).Prints .primary := by
  refine of_primary (phrase_of_isHead h .column) ?_ ?_
  · exact lexes_head h
  · exact followsMinus_of_isWord (isWord_of_isHead h)

/-- A column of a table prints if the column's name needs no quotes; only the table's may be a
    keyword. -/
theorem qualified {table name : String} (ht : IsHead table) (hn : IsBare name) :
    (Expr.column ⟨some table, name⟩).Prints .primary := by
  have htext : (Expr.column ⟨some table, name⟩).text.toList =
      table.toList ++ '.' :: name.toList := by
    simp [Column.text]
  -- Behind the point a keyword would not be taken for a name, so there the word has to be bare.
  refine of_primary (phrase_of_isHead ht .qualified) ?_ ?_
  · rw [htext, ← ofWord_of_isBare hn]
    exact lexes_qualified (isWord_of_isHead ht) hn.1
  · rw [htext]
    exact (followsMinus_of_isWord (isWord_of_isHead ht)).append

/-- A call prints if its function has a name that can stand alone and its arguments print. -/
theorem call {name : String} {arguments : List Expr} (hn : IsHead name)
    (h : ∀ e ∈ arguments, e.Prints .disjunction) : (Expr.call name arguments).Prints .primary := by
  obtain ⟨ts, hts, hlex⟩ : ∃ ts, Phrase (.named name (.call name arguments))
        (.symbol .leftParen :: (ts ++ [.symbol .rightParen])) ∧
      Lexes (listText arguments).toList ts := by
    cases arguments with
    | nil => exact ⟨[], .call, Lexes.nil⟩
    | cons e es =>
      obtain ⟨ts, hes, hlex⟩ := list (List.cons_ne_nil e es) h
      exact ⟨ts, .callWith hes, hlex⟩
  have htext : (Expr.call name arguments).text.toList =
      name.toList ++ '(' :: ((listText arguments).toList ++ [')']) := by
    simp
  refine of_primary (phrase_of_isHead hn hts) ?_ ?_
  · rw [htext]
    exact (lexes_head hn).append hlex.parens (stops_cons.2 (by decide))
  · rw [htext]
    exact (followsMinus_of_isWord (isWord_of_isHead hn)).append

/-! ## Parentheses -/

/-- What prints as a whole prints in parentheses as a primary expression. -/
theorem paren (h : e.Prints .disjunction) : e.paren.Prints .primary := by
  obtain ⟨ts, he, hlex, -⟩ := h
  have htext : e.paren.text.toList = '(' :: (e.text.toList ++ [')']) := by
    simp
  refine of_primary (.paren he) ?_ ?_
  · rw [htext]
    exact hlex.parens
  · rw [htext]
    exact ⟨'(', _, rfl, by decide, by decide⟩

/-- A sub-select prints if the tokens of its body are read again from their texts. -/
theorem subselect {body : List Token} (hbody : IsBody 0 (.keyword .select :: body))
    (h : ∀ t ∈ Token.keyword .select :: body, Lexes t.text.toList [t]) :
    (Expr.subselect (bodyText (.keyword .select :: body))).Prints .primary := by
  have htext : (Expr.subselect (bodyText (.keyword .select :: body))).text.toList =
      '(' :: ((bodyText (.keyword .select :: body)).toList ++ [')']) := by
    simp
  refine of_primary (.subselect hbody) ?_ ?_
  · rw [htext]
    exact (lexes_bodyText h).parens
  · rw [htext]
    exact ⟨'(', _, rfl, by decide, by decide⟩

/-- `EXISTS` prints if the tokens of its sub-select are read again from their texts. -/
theorem «exists» {body : List Token} (hbody : IsBody 0 body)
    (h : ∀ t ∈ body, Lexes t.text.toList [t]) :
    (Expr.exists false (bodyText body)).Prints .primary := by
  have htext : (Expr.exists false (bodyText body)).text.toList =
      Keyword.exists.text.toList ++ ' ' :: '(' :: ((bodyText body).toList ++ [')']) := by
    simp [notText, Keyword.text]
  refine of_primary (.exists hbody) ?_ ?_
  · rw [htext]
    exact (lexes_keyword .exists).spaced (lexes_bodyText h).parens
  · rw [htext]
    exact followsMinus_keyword .exists _

/-! ## Casts -/

/-- The name of a type is read from its own text, which is in capitals, if it is ASCII. -/
theorem lexes_typeToken {t : Token} {name : String} (ht : typeToken? t = some name)
    (hbare : ∀ n, t = .name n → IsBare n) (hascii : ∀ c ∈ name.toList, c.toNat < 128) :
    ∃ u, typeToken? u = some name ∧ Lexes name.toList [u] := by
  unfold typeToken? at ht
  split at ht <;> cases ht
  · -- The text has the capitals of the name that was read; these are their own capitals as far as
    -- they are ASCII.
    next n =>
    have hupper := isBare_upper (hbare n rfl) hascii
    refine ⟨.name (Text.upper n), ?_, lexes_name hupper⟩
    rw [typeToken?, Text.upper_upper hascii]
  · exact ⟨.keyword .date, rfl, lexes_keyword .date⟩
  · exact ⟨.keyword .time, rfl, lexes_keyword .time⟩
  · exact ⟨.keyword .timestamp, rfl, lexes_keyword .timestamp⟩

/-- The parameters of a type are read from their text. -/
theorem lexes_parameters {first : String} {others : List String}
    (h : ∀ digits ∈ first :: others, Lexes digits.toList [.number digits]) :
    Lexes (", ".intercalate (first :: others)).toList
      (.number first :: others.flatMap fun digits => [.symbol .comma, .number digits]) := by
  induction others generalizing first with
  | nil =>
    have htext : ", ".intercalate [first] = first := by simp
    rw [htext]
    exact h first List.mem_cons_self
  | cons second others ih =>
    have htext : (", ".intercalate (first :: second :: others)).toList =
        first.toList ++ ',' :: ' ' :: (", ".intercalate (second :: others)).toList := by
      simp
    have hothers := ih fun digits hd => h digits (List.mem_cons_of_mem first hd)
    rw [htext]
    exact (h first List.mem_cons_self).append hothers.blank.comma (stops_cons.2 (by decide))

/-- A type is read from its own text, if it is ASCII. -/
theorem lexes_type {type : String} {ts : List Token} (h : IsType type ts)
    (hlex : ∀ t ∈ ts, Lexes t.text.toList [t]) (hbare : ∀ name, .name name ∈ ts → IsBare name)
    (hascii : ∀ c ∈ type.toList, c.toNat < 128) :
    ∃ us, IsType type us ∧ Lexes type.toList us := by
  cases h with
  | plain ht =>
    obtain ⟨u, hu, hulex⟩ :=
      lexes_typeToken ht (fun n hn => hbare n (hn ▸ List.mem_cons_self)) hascii
    exact ⟨[u], .plain hu, hulex⟩
  | @sized t name first others ht =>
    have htext : (name ++ "(" ++ ", ".intercalate (first :: others) ++ ")").toList =
        name.toList ++ '(' :: ((", ".intercalate (first :: others)).toList ++ [')']) := by
      simp
    obtain ⟨u, hu, hulex⟩ := lexes_typeToken ht (fun n hn => hbare n (hn ▸ List.mem_cons_self))
      fun c hc => hascii c (by rw [htext]; exact List.mem_append_left _ hc)
    have hparameters : ∀ digits ∈ first :: others, Lexes digits.toList [.number digits] := by
      intro digits hd
      refine hlex (.number digits) ?_
      rcases List.mem_cons.1 hd with rfl | hd
      · simp
      · simp [hd]
    refine ⟨_, .sized hu, ?_⟩
    rw [htext]
    exact hulex.append (lexes_parameters hparameters).parens (stops_cons.2 (by decide))

theorem cast {type : String} {us : List Token} (h : e.Prints .disjunction) (ht : IsType type us)
    (htype : Lexes type.toList us) : (Expr.cast e type).Prints .primary := by
  obtain ⟨ts, he, hlex, -⟩ := h
  have htext : (Expr.cast e type).text.toList = Keyword.cast.text.toList ++
      '(' :: (e.text.toList ++ ' ' :: (Keyword.as.text.toList ++ ' ' :: type.toList) ++ [')']) := by
    simp [Keyword.text]
  have hinner := hlex.spaced ((lexes_keyword .as).spaced htype)
  have hall := (lexes_keyword .cast).append hinner.parens (stops_cons.2 (by decide))
  refine of_primary (.cast he ht) ?_ ?_
  · rw [htext]
    simpa using hall
  · rw [htext]
    exact followsMinus_keyword .cast _

/-! ## Cases -/

/-- An expression that may be missing, behind keywords, with a blank in front. -/
def optionalChars (mark : List Keyword) (e : Option Expr) : List Char :=
  match e with
  | none => []
  | some e => mark.flatMap (fun k => ' ' :: k.text.toList) ++ ' ' :: e.text.toList

/-- An expression that may be missing is split into its keywords and tokens, or nothing. -/
theorem lexes_optional (mark : List Keyword) {e : Option Expr}
    (h : ∀ x ∈ e, Prints .disjunction x) :
    ∃ ts, Phrase (.optional mark e) ts ∧ Lexes (optionalChars mark e) ts := by
  cases e with
  | none => exact ⟨[], .missing, Lexes.nil⟩
  | some e =>
    obtain ⟨ts, he, hlex, -⟩ := h e rfl
    refine ⟨_, .marked he, ?_⟩
    have hmark : Lexes (mark.flatMap fun k => ' ' :: k.text.toList) (mark.map .keyword) := by
      induction mark with
      | nil => exact Lexes.nil
      | cons k mark ih =>
        have hstops : Stops (mark.flatMap fun k => ' ' :: k.text.toList) := by
          cases mark with
          | nil => exact stops_nil
          | cons k mark => exact stops_blank _
        exact (lexes_keyword k).blank.append ih hstops
    exact hmark.spaced hlex

/-- No token goes on with an expression that may be missing: a blank is in front of it. -/
theorem stops_optionalChars (mark : List Keyword) (e : Option Expr) :
    Stops (optionalChars mark e) := by
  cases e with
  | none => exact stops_nil
  | some e =>
    cases mark with
    | nil => exact stops_blank _
    | cons k mark => exact stops_blank _

/-- No token goes on with branches: a blank is in front of each. -/
theorem stops_branchesText (branches : List (Expr × Expr)) :
    Stops (branchesText branches).toList := by
  cases branches with
  | nil => exact stops_nil
  | cons b branches =>
    simp only [branchesText, String.toList_append]
    exact stops_blank _

/-- Branches whose conditions and results print are read from their text. -/
theorem lexes_branches {branches : List (Expr × Expr)}
    (h : ∀ b ∈ branches, b.1.Prints .disjunction ∧ b.2.Prints .disjunction) :
    ∃ ts, Phrase (.branches branches) ts ∧ Lexes (branchesText branches).toList ts := by
  induction branches with
  | nil => exact ⟨[], .noBranch, Lexes.nil⟩
  | cons b branches ih =>
    obtain ⟨⟨ts, hc, hclex, -⟩, ⟨us, hr, hrlex, -⟩⟩ := h b List.mem_cons_self
    obtain ⟨vs, hb, hblex⟩ := ih fun b hb => h b (List.mem_cons_of_mem _ hb)
    refine ⟨_, .branch hc hr hb, ?_⟩
    have htext : (branchesText (b :: branches)).toList = ' ' :: (Keyword.when.text.toList ++
        ' ' :: (b.1.text.toList ++ ' ' :: (Keyword.then.text.toList ++
          ' ' :: (b.2.text.toList ++ (branchesText branches).toList)))) := by
      simp [Keyword.text]
    rw [htext]
    exact ((lexes_keyword .when).spaced (hclex.spaced ((lexes_keyword .then).spaced
      (hrlex.append hblex (stops_branchesText branches))))).blank

/-- A `CASE` prints if it has a branch and all its operands print. -/
theorem case {operand otherwise : Option Expr} {branches : List (Expr × Expr)}
    (ho : ∀ e ∈ operand, Prints .disjunction e) (hne : branches ≠ [])
    (hb : ∀ b ∈ branches, b.1.Prints .disjunction ∧ b.2.Prints .disjunction)
    (he : ∀ e ∈ otherwise, Prints .disjunction e) :
    (Expr.case operand branches otherwise).Prints .primary := by
  obtain ⟨ts, ho, holex⟩ := lexes_optional [] ho
  obtain ⟨us, hb, hblex⟩ := lexes_branches hb
  obtain ⟨vs, he, helex⟩ := lexes_optional [.else] he
  have htext : (Expr.case operand branches otherwise).text.toList = Keyword.case.text.toList ++
      (optionalChars [] operand ++ ((branchesText branches).toList ++
        (optionalChars [.else] otherwise ++ ' ' :: Keyword.end.text.toList))) := by
    cases operand <;> cases otherwise <;> simp [optionalChars, Keyword.text]
  -- Every part begins with a blank if it is not empty, so each one stops the part in front of it.
  have hend : Stops (' ' :: Keyword.end.text.toList) := stops_blank _
  have helse := helex.append (lexes_keyword .end).blank hend
  have hbranches := hblex.append helse ((stops_optionalChars _ _).append hend)
  have hstops := (stops_branchesText branches).append
    ((stops_optionalChars [.else] otherwise).append hend)
  refine of_primary (.case ho hne hb he) ?_ ?_
  · rw [htext]
    exact (lexes_keyword .case).append (holex.append hbranches hstops)
      ((stops_optionalChars [] operand).append hstops)
  · rw [htext]
    exact followsMinus_keyword .case _

end Expr.Prints

end RecordFilter
