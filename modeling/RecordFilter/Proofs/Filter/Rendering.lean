import RecordFilter.Proofs.Expr.RoundTrip
import RecordFilter.Proofs.Filter.Chains
import RecordFilter.Proofs.Filter.Meaning
import RecordFilter.Proofs.Group.Rebuild

/-!
# Filters that are read back

The groups of a filter can be written as a text again, by way of the expression rebuilt
from them. The text is a filter with the same groups if everything in the groups can be
told by its text (`Group.ofText_rebuilt`): names that need no quotes, since names are
written bare; numbers that are written in digits and read as numbers of the same kind;
times of whole milliseconds, since no more is written of them; and arguments that are not
taken for dates.

Each of these conditions is needed (`Group.isLost_samples`).
-/

namespace RecordFilter

open RecordFilter.Parser

variable {patterns : List DatePattern}

/-! ## What a text can tell -/

/-- Whether a value is read from its text. The least whole number is not, because a sign
    is read on its own and its magnitude does not fit. -/
def Literal.IsLegible : Literal → Prop
  | .long v => v ≠ Int64.minValue
  | .double x => Decimal.IsPlain x
  | .time t => t.nano % 1000000 = 0
  | .timestamp t => t.time.nano % 1000000 = 0
  | _ => True

/-- Whether a column is read from its text. -/
def Column.IsLegible (c : Column) : Prop :=
  match c.table with
  | none => Expr.Prints.IsHead c.name
  | some table => Expr.Prints.IsHead table ∧ Token.IsBare c.name

/-- Whether a subject is read from its text. An argument that is a string is no date. -/
def Subject.IsLegible (patterns : List DatePattern) : Subject → Prop
  | .column c => c.IsLegible
  | .call function argument => Expr.Prints.IsHead function ∧
      ∀ v ∈ argument, v.IsLegible ∧ ∀ s, v = .string s → DateText.millis? patterns s = none
  | .value v => v.IsLegible

/-- Whether an operand is read from its text. -/
def Operand.IsLegible : Operand → Prop
  | .literal v => v.IsLegible
  | .column c => c.IsLegible

/-- Whether a term is read from its text. -/
structure Term.IsLegible (patterns : List DatePattern) (t : Term) : Prop where
  subject : t.subject.IsLegible patterns
  values : ∀ v ∈ t.values, v.IsLegible

/-! ## Terms -/

/-- An operand of a condition prints as a whole. -/
theorem Expr.Prints.disjunction_of_bitwise {e : Expr} (h : e.Prints .bitwise) :
    e.Prints .disjunction :=
  h.subject.negation_of_comparison.disjunction_of_negation

/-- A value prints as an operand of a condition, if its text tells it. -/
theorem Literal.prints {v : Literal} (hw : v.IsWide) (h : v.IsLegible) :
    (Expr.ofLiteral v).Prints .bitwise := by
  -- Numbers may be written with a sign, all other values without.
  refine Expr.Prints.bitwise_of_sign ?_
  cases v with
  | integer => exact hw.elim
  | long => exact .long h
  | double => exact .double h
  | string s => exact (Expr.Prints.string s).sign_of_primary
  | date d => exact (Expr.Prints.date d).sign_of_primary
  | time => exact (Expr.Prints.time h).sign_of_primary
  | timestamp => exact (Expr.Prints.timestamp h).sign_of_primary
  | null => exact Expr.Prints.null.sign_of_primary

theorem Column.prints {c : Column} (h : c.IsLegible) : (Expr.column c).Prints .bitwise := by
  refine Expr.Prints.bitwise_of_sign (Expr.Prints.sign_of_primary ?_)
  obtain ⟨table, name⟩ := c
  cases table with
  | none => exact .column h
  | some table => exact .qualified h.1 h.2

/-- A subject prints if its names and its argument do. -/
theorem Subject.prints {s : Subject} (hw : s.IsWide) (h : s.IsLegible patterns) :
    s.toExpr.Prints .bitwise := by
  cases s with
  | column c => exact c.prints h
  | value v => exact v.prints hw h
  | call function argument =>
    refine Expr.Prints.bitwise_of_sign (Expr.Prints.sign_of_primary (.call h.1 ?_))
    intro e he
    obtain ⟨v, hv, rfl⟩ := List.mem_map.1 he
    have hv := Option.mem_toList.1 hv
    exact (v.prints (hw v hv) (h.2 v hv).1).disjunction_of_bitwise

theorem Operand.prints {v : Operand} (hw : v.IsWide) (h : v.IsLegible) :
    v.toExpr.Prints .bitwise := by
  cases v with
  | literal v => exact v.prints hw h
  | column c => exact c.prints h

namespace Term

variable {t : Term}

/-- What is rebuilt from a term without its `NOT` prints as a condition, by the operator. -/
theorem prints_condition (hw : t.WellFormed) (h : t.IsLegible patterns) :
    t.conditionExpr.Prints .comparison := by
  have hs := Subject.prints hw.subject h.subject
  have hvalues : ∀ v ∈ t.values, v.toExpr.Prints .bitwise :=
    fun v hv => v.prints (hw.values v hv) (h.values v hv)
  -- The arity says how many values there are, so that they can be put in their places.
  have harity := hw.arity
  obtain ⟨subject, op, negated, values⟩ := t
  cases op with
  | isNull => exact hs.isNull false
  | isNotNull => exact hs.isNull true
  | between =>
    obtain ⟨low, high, rfl⟩ := Arity.exists_two_of_accepts harity
    exact hs.between false (hvalues low (by simp)) (hvalues high (by simp))
  | «in» =>
    have hne : values ≠ [] := by
      rintro rfl
      simp [TermOperator.arity, Arity.accepts] at harity
    refine hs.inList false (by simpa using hne) ?_
    exact List.forall_mem_map.2 fun v hv => (hvalues v hv).disjunction_of_bitwise
  | _ =>
    obtain ⟨v, rfl⟩ := Arity.exists_one_of_accepts harity
    have hv := List.forall_mem_singleton.1 hvalues
    first
    | exact hs.compare _ hv
    | exact hs.like false hv

theorem prints (hw : t.WellFormed) (h : t.IsLegible patterns) : t.toExpr.Prints .negation := by
  have hcondition := (prints_condition hw h).negation_of_comparison
  unfold toExpr
  split
  · exact hcondition.not
  · exact hcondition

end Term

/-! ## Chains -/

namespace Expr

/-- Terms that are joined in the same way to what prints at the level of the joiner. -/
theorem prints_foldlM {level : Level} {joiner : Joiner} {f : Expr → Expr → Expr}
    (hjoin : ∀ e g, g.joiner = joiner → join e g = .ok (f e g.term.toExpr))
    (hstep : ∀ l r : Expr, l.Prints level → r.Prints .negation → (f l r).Prints level)
    {gs : List Group} (hj : ∀ g ∈ gs, g.joiner = joiner)
    (ht : ∀ g ∈ gs, g.term.toExpr.Prints .negation) {e : Expr} (he : e.Prints level) :
    ∃ e', gs.foldlM join e = .ok e' ∧ e'.Prints level := by
  induction gs generalizing e with
  | nil => exact ⟨e, rfl, he⟩
  | cons g gs ih =>
    obtain ⟨hg, hgs⟩ := List.forall_mem_cons.1 hj
    obtain ⟨hprints, hothers⟩ := List.forall_mem_cons.1 ht
    rw [List.foldlM_cons, hjoin e g hg]
    exact ih hgs hothers (hstep _ _ he hprints)

/-- Groups of which first all are joined by `AND` and then all by `OR` are rebuilt as an
    expression that prints. -/
theorem prints_ofGroups {gs : List Group} {k m : Nat}
    (hj : gs.map Group.joiner = .start :: (List.replicate k .and ++ List.replicate m .or))
    (ht : ∀ g ∈ gs, g.term.toExpr.Prints .negation) :
    ∃ e, ofGroups gs = .ok e ∧ e.Prints .disjunction := by
  obtain ⟨first, others, rfl, -, hothers⟩ := List.map_eq_cons_iff.1 hj
  obtain ⟨ands, ors, rfl, hands, hors⟩ := List.map_eq_append_iff.1 hothers
  obtain ⟨hfirst, hterms⟩ := List.forall_mem_cons.1 ht
  obtain ⟨htands, htors⟩ := List.forall_mem_append.1 hterms
  have hjoiner {gs : List Group} {joiner : Joiner} {n : Nat}
      (h : gs.map Group.joiner = List.replicate n joiner) : ∀ g ∈ gs, g.joiner = joiner :=
    fun g hg => List.eq_of_mem_replicate (h ▸ List.mem_map_of_mem hg)
  have hand : Level.conjunction.join? (.keyword .and) = some .and := rfl
  have hor : Level.disjunction.join? (.keyword .or) = some .or := rfl
  have hjoin_and (e : Expr) (g : Group) (h : g.joiner = .and) :
      join e g = .ok (.and e g.term.toExpr) := by
    rw [join, h]
  have hjoin_or (e : Expr) (g : Group) (h : g.joiner = .or) :
      join e g = .ok (.or e g.term.toExpr) := by
    rw [join, h]
  -- First the conjunction is rebuilt, and then it is the first side of the `OR`.
  obtain ⟨e, he, hconjunction⟩ := prints_foldlM hjoin_and (fun _ _ hl hr => hl.join hand hr)
    (hjoiner hands) htands (Prints.of_next rfl hfirst)
  obtain ⟨e', he', hdisjunction⟩ := prints_foldlM hjoin_or
    (fun _ _ hl hr => hl.join hor (Prints.of_next rfl hr)) (hjoiner hors) htors
    (Prints.of_next rfl hconjunction)
  refine ⟨e', ?_, hdisjunction⟩
  rw [ofGroups, List.foldlM_append, he]
  exact he'

end Expr

/-! ## Filters -/

namespace Group

/-- Legible terms do not change when they are read once more. -/
theorem map_reread_of_isLegible {gs : List Group} (h : ∀ g ∈ gs, g.term.IsLegible patterns) :
    gs.map (reread patterns) = gs := by
  have hself : ∀ g ∈ gs, reread patterns g = g := by
    intro g hg
    rw [reread, Term.reread_eq_self]
    intro function s hsubject
    have hlegible := (h g hg).subject
    rw [hsubject] at hlegible
    exact (hlegible.2 _ rfl).2 s rfl
  rw [List.map_congr_left hself, List.map_id']

/-- A filter whose groups can be told by their text is read again from the text of what
    is rebuilt from the groups. -/
theorem ofText_rebuilt (config : Config) (text : String) (gs : List Group)
    (h : ofText config text = .ok gs) (hlegible : ∀ g ∈ gs, g.term.IsLegible config.datePatterns) :
    ∃ e, Expr.ofGroups gs = .ok e ∧ ofText config e.text = .ok gs := by
  obtain ⟨e₀, hparse, hgroups⟩ := Except.bind_eq_ok.1 h
  rw [Except.mapError_eq_ok] at hparse hgroups
  obtain ⟨ts, -, -, pe⟩ := Expr.parse_eq_ok_iff.1 hparse
  have hchain := ofExpr_eq_ok.1 hgroups
  have hwell : ∀ g ∈ gs, g.term.WellFormed := by
    intro g hg
    obtain ⟨c, -, hc⟩ := hchain.exists_condition g hg
    exact Term.wellFormed_of_ofExpr hc
  obtain ⟨k, m, hjoiners⟩ := pe.joiners
  obtain ⟨e, he, hprints⟩ := Expr.prints_ofGroups (hjoiners ▸ Filter.joiner_of_isChain hchain)
    fun g hg => Term.prints (hwell g hg) (hlegible g hg)
  -- What is rebuilt has the groups as they are reread, and those are the same.
  obtain ⟨e', he', hchain'⟩ := hchain.rebuild
  obtain rfl : e = e' := Except.ok.inj (he.symm.trans he')
  rw [map_reread_of_isLegible hlegible] at hchain'
  refine ⟨e, he, ?_⟩
  rw [ofText, hprints.parse_eq]
  change (ofExpr config.datePatterns e).mapError _ = _
  rw [ofExpr_eq_ok.2 hchain']
  rfl

/-- The groups of a filter with numbers and quotes that its text writes in another way. -/
def legible : List Group :=
  [⟨.start, ⟨.column ⟨some "a", "b"⟩, .in, true,
      [.literal (.double (-Decimal.toFloat ⟨150, -2⟩)), .literal (.string "x'y")]⟩⟩,
    ⟨.or, ⟨.call "f" (some (.string "c")), .gt, false, [.literal (.long 9)]⟩⟩]

/-- A number with a needless digit, a column between needless quotes and a sum are written otherwise
    and read back as the same groups. -/
theorem ofText_rebuilt_legible :
    ofText {} "a.b NOT IN (-1.50, 'x''y') OR f(\"c\") > 4 + 5" = .ok legible ∧
    ∃ e, Expr.ofGroups legible = .ok e ∧ ofText {} e.text = .ok legible := by
  have htokens : Token.ofString "a.b NOT IN (-1.50, 'x''y') OR f(\"c\") > 4 + 5" =
      [.name "a", .symbol .dot, .name "b", .keyword .not, .keyword .in, .symbol .leftParen,
        .symbol .minus, .number "1.50", .symbol .comma, .string "x'y", .symbol .rightParen,
        .keyword .or, .name "f", .symbol .leftParen, .name "c", .symbol .rightParen,
        .symbol .greater, .number "4", .symbol .plus, .number "5", .endOfInput] := by
    decide +kernel
  have h : ofText {} "a.b NOT IN (-1.50, 'x''y') OR f(\"c\") > 4 + 5" = .ok legible := by
    rw [ofText_eq_ofTokens, htokens]
    rfl
  refine ⟨h, ofText_rebuilt {} _ legible h ?_⟩
  have hnames : ∀ name ∈ ["a", "b", "f"], Token.IsBare name := by decide +kernel
  have hplain : Decimal.IsPlain (-Decimal.toFloat ⟨150, -2⟩) := by decide +kernel
  have hdate : DateText.millis? ({} : Config).datePatterns "c" = none := by decide +kernel
  refine List.forall_mem_cons.2 ⟨⟨⟨.inl (hnames "a" (by simp)), hnames "b" (by simp)⟩, ?_⟩,
    List.forall_mem_singleton.2 ⟨⟨.inl (hnames "f" (by simp)), ?_⟩, ?_⟩⟩
  · exact List.forall_mem_cons.2 ⟨hplain, List.forall_mem_singleton.2 trivial⟩
  · rintro v ⟨⟩
    refine ⟨trivial, ?_⟩
    rintro s ⟨⟩
    exact hdate
  · exact List.forall_mem_singleton.2 (show (9 : Int64) ≠ Int64.minValue by decide)

/-! ## What a text does not tell -/

/-- Whether a filter is not read again from the text of what is rebuilt from its groups. -/
def IsLost (config : Config) (text : String) : Prop :=
  ∃ gs e, ofText config text = .ok gs ∧ Expr.ofGroups gs = .ok e ∧ ofText config e.text ≠ .ok gs

/-- A filter is lost if its groups are not those of the tokens that its text is written with. -/
theorem isLost_of_tokens {config : Config} {text : String} {gs : List Group} {e : Expr}
    (ts us : List Token) (hts : Token.ofString text = ts) (hgs : ofTokens config ts = .ok gs)
    (he : Expr.ofGroups gs = .ok e) (hus : Token.ofString e.text = us)
    (hne : ofTokens config us ≠ .ok gs) : IsLost config text :=
  ⟨gs, e, by rw [ofText_eq_ofTokens, hts, hgs], he, by rwa [ofText_eq_ofTokens, hus]⟩

/-- The groups of a filter with a time in it. -/
def atTime (t : Time) : List Group :=
  [⟨.start, ⟨.column ⟨none, "a"⟩, .eq, false, [.literal (.time t)]⟩⟩]

/-- Filters that are lost: one with a name that needs quotes, one with a number that is
    written with an exponent, one with half a millisecond, one that computes the least
    whole number and one with an argument that is taken for a date. -/
theorem isLost_samples :
    IsLost {} "\"order date\" = 1" ∧ IsLost {} "a = 10000000000000000.0" ∧
    IsLost {} "a = TIME '12:00:00.0005'" ∧ IsLost {} "a = 0 - 9223372036854775807 - 1" ∧
    IsLost {} "f(\"2020-01-01\") = 1" := by
  refine ⟨?_, ?_, ?_, ?_, ?_⟩
  · exact isLost_of_tokens [.name "order date", .symbol .equal, .number "1", .endOfInput]
      [.name "order", .keyword .date, .symbol .equal, .number "1", .endOfInput]
      (by decide +kernel) rfl rfl (by decide +kernel) (by rintro ⟨⟩)
  · exact isLost_of_tokens
      [.name "a", .symbol .equal, .number "10000000000000000.0", .endOfInput]
      [.name "a", .symbol .equal, .number "1", .name "e16", .endOfInput]
      (by decide +kernel) rfl rfl (by decide +kernel) (by rintro ⟨⟩)
  · have hne : atTime ⟨12, 0, 0, 0, by decide⟩ ≠ atTime ⟨12, 0, 0, 500000, by decide⟩ := by
      simp [atTime]
    exact isLost_of_tokens
      [.name "a", .symbol .equal, .keyword .time, .string "12:00:00.0005", .endOfInput]
      [.name "a", .symbol .equal, .keyword .time, .string "12:00:00.000", .endOfInput]
      (by decide +kernel) rfl rfl (by decide +kernel) fun h => hne (Except.ok.inj h)
  · exact isLost_of_tokens
      [.name "a", .symbol .equal, .number "0", .symbol .minus, .number "9223372036854775807",
        .symbol .minus, .number "1", .endOfInput]
      [.name "a", .symbol .equal, .symbol .minus, .number "9223372036854775808", .endOfInput]
      (by decide +kernel) rfl rfl (by decide +kernel) (by rintro ⟨⟩)
  · exact isLost_of_tokens
      [.name "f", .symbol .leftParen, .name "2020-01-01", .symbol .rightParen,
        .symbol .equal, .number "1", .endOfInput]
      [.name "f", .symbol .leftParen, .string "2020-01-01", .symbol .rightParen,
        .symbol .equal, .number "1", .endOfInput]
      (by decide +kernel) rfl rfl (by decide +kernel) (by rintro ⟨⟩)

end Group

end RecordFilter
