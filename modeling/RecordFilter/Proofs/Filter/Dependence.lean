import RecordFilter.Proofs.Filter.Creation

/-!
# What a filter depends on

A filter names columns, as subjects and as values, and calls of functions, as subjects. All
columns it names are fields of the records. Beyond what a record has for these names, the
answer does not depend on the record (`Filter.accepts_of_agree`).

The table that a column is said to be of is a remark: it is neither looked up when the
filter is made nor when it is used, and only tells the column in an error
(`Filter.ofGroups_bare`). Such an error is one of two: the records do not have the column,
or it stands where `LIKE` has its pattern.
-/

namespace RecordFilter

/-! ## Columns without tables -/

/-- A column without its table. -/
def Column.bare (c : Column) : Column :=
  ⟨none, c.name⟩

/-- A subject without the table of its column. -/
def Subject.bare : Subject → Subject
  | .column c => .column c.bare
  | s => s

/-- An operand without the table of its column. -/
def Operand.bare : Operand → Operand
  | .column c => .column c.bare
  | .literal v => .literal v

/-- A term without the tables of its columns. -/
def Term.bare (t : Term) : Term :=
  { t with subject := t.subject.bare, values := t.values.map Operand.bare }

/-- A group without the tables of its columns. -/
def Group.bare (g : Group) : Group :=
  { g with term := g.term.bare }

/-- Whether two errors differ in nothing but the table of a column that the records do not
    have or that is no pattern. -/
inductive FilterError.IsAlike : FilterError → FilterError → Prop
  | same (cause : FilterError) : IsAlike cause cause
  | unresolved {c c' : Column} {type : String} : c.bare = c'.bare →
    IsAlike (.unresolvedField c.text type) (.unresolvedField c'.text type)
  | pattern {c c' : Column} : c.bare = c'.bare →
    IsAlike (.unsupported (.patternNotString c.text)) (.unsupported (.patternNotString c'.text))

/-- Whether two reasons why an expression is not supported are alike. -/
def Unsupported.IsAlike (cause cause' : Unsupported) : Prop :=
  FilterError.IsAlike (.unsupported cause) (.unsupported cause')

theorem Unsupported.isAlike_self (x : Except Unsupported Unit) :
    Except.Rel IsAlike (fun _ _ => True) x x := by
  cases x with
  | ok => exact .ok trivial
  | error cause => exact .error (.same _)

variable {ρ : Type} [Record ρ]

@[simp]
theorem Subject.valueIn_bare (r : ρ) (s : Subject) : s.bare.valueIn r = s.valueIn r := by
  cases s <;> rfl

@[simp]
theorem Operand.valueIn_bare (r : ρ) (v : Operand) : v.bare.valueIn r = v.valueIn r := by
  cases v <;> rfl

theorem Subject.column?_bare (s : Subject) : s.bare.column? = s.column?.map Column.bare := by
  cases s <;> rfl

theorem Operand.column?_bare (v : Operand) : v.bare.column? = v.column?.map Column.bare := by
  cases v <;> rfl

namespace Predicate

variable {s s' : Subject} {vs vs' : List Operand}

theorem columns_bare :
    columns s.bare (vs.map Operand.bare) = (columns s vs).map Column.bare := by
  rw [columns, columns, Subject.column?_bare, List.map_append, List.map_filterMap,
    List.filterMap_map, Option.toList_map]
  congr 2
  funext v
  exact v.column?_bare

/-- The check of the columns gives errors that are alike for columns that differ in their tables
    only. -/
theorem checkColumns_bare (hs : s.bare = s'.bare)
    (hvs : vs.map Operand.bare = vs'.map Operand.bare) :
    Except.Rel FilterError.IsAlike (fun _ _ => True) (checkColumns ρ s vs)
      (checkColumns ρ s' vs') := by
  have hfind (cs : List Column) : (cs.map Column.bare).find? (fun c => !Record.hasField ρ c.name) =
      (cs.find? fun c => !Record.hasField ρ c.name).map Column.bare := List.find?_map
  have hfound : ((columns s vs).find? fun c => !Record.hasField ρ c.name).map Column.bare =
      ((columns s' vs').find? fun c => !Record.hasField ρ c.name).map Column.bare := by
    rw [← hfind, ← hfind, ← columns_bare, ← columns_bare, hs, hvs]
  rw [checkColumns, checkColumns]
  generalize ((columns s vs).find? fun c => !Record.hasField ρ c.name) = found at hfound ⊢
  generalize ((columns s' vs').find? fun c => !Record.hasField ρ c.name) = found' at hfound ⊢
  rcases found with _ | c <;> rcases found' with _ | c'
  · exact .ok trivial
  · cases hfound
  · cases hfound
  · exact .error (.unresolved (Option.some.inj hfound))

/-- The check of the pattern does so too: a column in its place is named with its table. -/
theorem checkPattern_bare (op : PredicateOperator)
    (hvs : vs.map Operand.bare = vs'.map Operand.bare) :
    Except.Rel Unsupported.IsAlike (fun _ _ => True) (checkPattern op vs)
      (checkPattern op vs') := by
  by_cases hop : op = .like ∨ op = .notLike
  · rcases vs with _ | ⟨v, vs⟩ <;> rcases vs' with _ | ⟨v', vs'⟩
    · exact Unsupported.isAlike_self _
    · cases hvs
    · cases hvs
    · have hv : v.bare = v'.bare := (List.cons.inj hvs).1
      rcases v with v | c <;> rcases v' with v' | c'
      · obtain rfl : v = v' := Operand.literal.inj hv
        have hsame : checkPattern op (.literal v :: vs) = checkPattern op (.literal v :: vs') := by
          rcases hop with rfl | rfl <;> cases v <;> rfl
        rw [hsame]
        exact Unsupported.isAlike_self _
      · cases hv
      · cases hv
      · -- The error tells the column that is no pattern, with its table.
        have hc : c.bare = c'.bare := Operand.column.inj hv
        rcases hop with rfl | rfl <;> exact .error (.pattern hc)
  · have hok (vs : List Operand) : checkPattern op vs = .ok () := by
      cases op <;> simp_all [checkPattern]
    rw [hok, hok]
    exact .ok trivial

/-- Both checks of the values give errors that are alike. -/
theorem checkValues_bare (op : PredicateOperator)
    (hvs : vs.map Operand.bare = vs'.map Operand.bare) :
    Except.Rel FilterError.IsAlike (fun _ _ => True)
      ((checkValues op vs).mapError .unsupported) ((checkValues op vs').mapError .unsupported) := by
  have hlength : vs.length = vs'.length := by
    simpa using congrArg List.length hvs
  have hcount := Unsupported.isAlike_self (checkCount op vs.length)
  nth_rewrite 2 [hlength] at hcount
  exact (hcount.bind fun _ _ _ => checkPattern_bare op hvs).mapError fun _ _ h => h

end Predicate

namespace Term

variable {config : Config} {t t' : Term}

/-- The predicate of a term does not look at tables. -/
theorem holds_predicate_bare (r : ρ) :
    (t.bare.predicate config).holds r = (t.predicate config).holds r := by
  simp only [holds_predicate, bare, Subject.valueIn_bare, List.map_map, Function.comp_def,
    Operand.valueIn_bare]

/-- Terms that differ in tables only have predicates that hold of the same records, or errors that
    are alike. -/
theorem compile_bare (h : t.bare = t'.bare) :
    Except.Rel FilterError.IsAlike (fun p p' : Predicate ρ => ∀ r, p.holds r = p'.holds r)
      ((Registry.standard config).compile t) ((Registry.standard config).compile t') := by
  obtain ⟨hs, hop, hnegated, hvs⟩ := Term.mk.inj h
  have hresolve : t.operator.resolve t.negated = t'.operator.resolve t'.negated := by
    rw [hop, hnegated]
  rw [Registry.compile_eq, Registry.compile_eq, hresolve]
  refine (Predicate.checkColumns_bare hs hvs).bind fun _ _ _ =>
    (Predicate.checkValues_bare _ hvs).bind fun _ _ _ => .ok fun r => ?_
  rw [← holds_predicate_bare, h, holds_predicate_bare]

end Term

namespace Filter

omit [Record ρ] in
/-- Filters whose clauses have the same joiners and give the same answers, each for a record
    of its own, give the same answer. -/
theorem accepts_congr {f f' : Filter ρ} {r r' : ρ}
    (h : List.Forall₂ (fun c c' => c.joiner = c'.joiner ∧
      c.predicate.holds r = c'.predicate.holds r') f.clauses f'.clauses) :
    f.accepts r = f'.accepts r' := by
  obtain ⟨clauses⟩ := f
  obtain ⟨clauses'⟩ := f'
  cases h with
  | nil => rfl
  | cons hfirst hrest =>
    exact List.rel_foldl (P := Eq) (fun _ _ ha _ _ hc => by rw [ha, hc.1, hc.2]) hfirst.2 hrest

/-- Groups that differ in the tables of their columns alone are both no filter, and for
    reasons that are alike, or they are filters that accept the same records. -/
theorem ofGroups_bare {config : Config} {gs gs' : List Group}
    (h : gs.map Group.bare = gs'.map Group.bare) :
    Except.Rel FilterError.IsAlike (fun f f' : Filter ρ => ∀ r, f.accepts r = f'.accepts r)
      (ofGroups (.standard config) gs) (ofGroups (.standard config) gs') := by
  have hgroups : List.Forall₂ (fun g g' => Group.bare g = Group.bare g') gs gs' := by
    rwa [← List.forall₂_eq_eq_eq, List.forall₂_map_left_iff, List.forall₂_map_right_iff] at h
  have hclause (g g' : Group) (hg : g.bare = g'.bare) :
      Except.Rel FilterError.IsAlike
        (fun c c' : Clause ρ => c.joiner = c'.joiner ∧
          ∀ r, c.predicate.holds r = c'.predicate.holds r)
        (do return Clause.mk g.joiner (← (Registry.standard config).compile g.term))
        (do return Clause.mk g'.joiner (← (Registry.standard config).compile g'.term)) := by
    obtain ⟨hjoiner, hterm⟩ := Group.mk.inj hg
    exact (Term.compile_bare hterm).bind fun p p' hp => .ok ⟨hjoiner, hp⟩
  exact (Except.Rel.mapM hgroups hclause).bind fun clauses clauses' hclauses => .ok fun r =>
    accepts_congr (hclauses.imp fun c c' hc => ⟨hc.1, hc.2 r⟩)

/-! ## Records that agree -/

/-- Whether a filter names a column, as a subject or as a value. -/
def NamesColumn (f : Filter ρ) (c : Column) : Prop :=
  ∃ clause ∈ f.clauses, clause.predicate.subject = .column c ∨
    .column c ∈ clause.predicate.values

/-- Whether a filter names a call of a function, as a subject. -/
def NamesCall (f : Filter ρ) (function : String) (argument : Option Literal) : Prop :=
  ∃ clause ∈ f.clauses, clause.predicate.subject = .call function argument

variable {config : Config} {gs : List Group} {f : Filter ρ}

/-- Each clause of a filter has the predicate of a declared term. -/
theorem predicate_of_mem (hf : ofGroups (.standard config) gs = .ok f) {c : Clause ρ}
    (hc : c ∈ f.clauses) : ∃ t : Term, t.IsDeclared ρ ∧ c.predicate = t.predicate config := by
  have hmakes := ofGroups_eq_ok.1 hf
  clear hf
  generalize f.clauses = clauses at hmakes hc
  induction hmakes with
  | nil => cases hc
  | @cons g c' _ _ hc' _ ih =>
    rcases List.mem_cons.1 hc with rfl | hc
    · obtain ⟨hdeclared, -, hp⟩ := Registry.compile_eq_ok.1 hc'.2
      exact ⟨g.term, hdeclared, hp⟩
    · exact ih hc

/-- The columns that a filter names are fields of the records. -/
theorem hasField_of_namesColumn (hf : ofGroups (.standard config) gs = .ok f) {c : Column}
    (hc : f.NamesColumn c) : Record.hasField ρ c.name := by
  obtain ⟨clause, hclause, hnames⟩ := hc
  obtain ⟨t, hdeclared, hp⟩ := predicate_of_mem hf hclause
  rw [hp] at hnames
  rcases hnames with hsubject | hvalue
  · have hs := hdeclared.subject
    rwa [show t.subject = .column c from hsubject] at hs
  · exact hdeclared.values _ hvalue

/-- The predicate of a term holds of both of two records or of neither, if they agree on the columns
    and the call that the term names. -/
theorem holds_of_agree {t : Term} {r r' : ρ}
    (hsubject : ∀ c, t.subject = .column c → Record.field r c.name = Record.field r' c.name)
    (hcall : ∀ function argument, t.subject = .call function argument →
      Record.call r function argument = Record.call r' function argument)
    (hvalues : ∀ c, .column c ∈ t.values → Record.field r c.name = Record.field r' c.name) :
    (t.predicate config).holds r = (t.predicate config).holds r' := by
  have hs : t.subject.valueIn r = t.subject.valueIn r' := by
    cases h : t.subject with
    | column c => rw [Subject.valueIn, Subject.valueIn, hsubject c h]
    | call function argument => rw [Subject.valueIn, Subject.valueIn, hcall function argument h]
    | value => rfl
  have hvs : t.values.map (·.valueIn r) = t.values.map (·.valueIn r') := by
    refine List.map_congr_left fun v hv => ?_
    cases v with
    | literal => rfl
    | column c => rw [Operand.valueIn, Operand.valueIn, hvalues c hv]
  rw [Term.holds_predicate, Term.holds_predicate, hs, hvs]

/-- A filter names fields of the records alone, and accepts either both of two records that
    have the same for the columns and the calls that it names, or neither. The tables of its
    columns make no difference: groups without them are a filter that accepts the same
    records, or none, for a reason that differs in nothing but the table of one column. -/
theorem accepts_of_agree (config : Config) (gs : List Group) :
    (∀ f : Filter ρ, ofGroups (.standard config) gs = .ok f →
      (∀ c, f.NamesColumn c → Record.hasField ρ c.name) ∧
      ∀ r r' : ρ, (∀ c, f.NamesColumn c → Record.field r c.name = Record.field r' c.name) →
        (∀ function argument, f.NamesCall function argument →
          Record.call r function argument = Record.call r' function argument) →
        f.accepts r = f.accepts r') ∧
    ∀ gs', gs.map Group.bare = gs'.map Group.bare →
      Except.Rel FilterError.IsAlike (fun f f' : Filter ρ => ∀ r, f.accepts r = f'.accepts r)
        (ofGroups (.standard config) gs) (ofGroups (.standard config) gs') := by
  refine ⟨fun f hf => ⟨fun c => hasField_of_namesColumn hf, ?_⟩, fun gs' => ofGroups_bare⟩
  intro r r' hcolumns hcalls
  refine accepts_congr (List.forall₂_same.2 fun clause hclause => ⟨rfl, ?_⟩)
  obtain ⟨t, -, hp⟩ := predicate_of_mem hf hclause
  rw [hp]
  refine holds_of_agree (fun c hc => ?_) (fun function argument hc => ?_) fun c hc => ?_
  · exact hcolumns c ⟨clause, hclause, .inl (by rw [hp]; exact hc)⟩
  · exact hcalls function argument ⟨clause, hclause, by rw [hp]; exact hc⟩
  · exact hcolumns c ⟨clause, hclause, .inr (by rw [hp]; exact hc)⟩

/-- The groups of a condition on a call and a column. -/
def calling (table : Option String) : List Group :=
  [⟨.start, ⟨.call "b" (some (.long 1)), .gt, false, [.column ⟨table, "a"⟩]⟩⟩]

/-- Two rows that differ in their third columns are told apart by no filter that does not
    name it, nor does it matter which table the first column is said to be of. -/
theorem accepts_of_agree_calling :
    ∃ f f' : Filter Row, ofGroups (.standard {}) (calling (some "t")) = .ok f ∧
      ofGroups (.standard {}) (calling none) = .ok f' ∧
      f.accepts [("a", .long 1), ("b", .long 2), ("c", .long 3)] =
        f.accepts [("a", .long 1), ("b", .long 2), ("c", .null)] ∧
      ∀ r, f.accepts r = f'.accepts r := by
  obtain ⟨hagree, htables⟩ := accepts_of_agree (ρ := Row) {} (calling (some "t"))
  let clause : Clause Row :=
    ⟨.start, Term.predicate {} ⟨.call "b" (some (.long 1)), .gt, false, [.column ⟨some "t", "a"⟩]⟩⟩
  have hf : ofGroups (.standard {}) (calling (some "t")) = .ok ⟨[clause]⟩ := rfl
  have hbare := htables (calling none) rfl
  obtain ⟨f', hf'⟩ : ∃ f', ofGroups (.standard {} : Registry Row) (calling none) = .ok f' :=
    ⟨_, rfl⟩
  rw [hf, hf'] at hbare
  obtain ⟨haccepts⟩ := hbare
  refine ⟨⟨[clause]⟩, f', hf, hf', (hagree _ hf).2 _ _ ?_ ?_, haccepts⟩
  · rintro c ⟨clause', hclause, hc⟩
    obtain rfl := List.mem_singleton.1 hclause
    obtain ⟨⟨⟩⟩ | hc := hc
    obtain rfl := Operand.column.inj (List.mem_singleton.1 hc)
    rfl
  · rintro function argument ⟨clause', hclause, hc⟩
    obtain rfl := List.mem_singleton.1 hclause
    obtain ⟨rfl, rfl⟩ := Subject.call.inj hc
    rfl

/-- The groups of a condition that has a column for a pattern. -/
def columnPattern (table : Option String) : List Group :=
  [⟨.start, ⟨.column ⟨none, "a"⟩, .like, false, [.column ⟨table, "b"⟩]⟩⟩]

/-- An error tells the table of a column that is no pattern, though the records have it. -/
theorem ofGroups_columnPattern :
    (columnPattern (some "t")).map Group.bare = (columnPattern none).map Group.bare ∧
    ofGroups (.standard {} : Registry Row) (columnPattern (some "t")) =
      .error (.unsupported (.patternNotString "t.b")) ∧
    ofGroups (.standard {} : Registry Row) (columnPattern none) =
      .error (.unsupported (.patternNotString "b")) :=
  ⟨rfl, rfl, rfl⟩

end Filter

end RecordFilter
