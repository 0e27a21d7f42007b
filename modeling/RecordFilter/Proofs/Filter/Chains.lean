import RecordFilter.FilterText
import RecordFilter.Proofs.Expr.Printing
import RecordFilter.Proofs.Group.Links

/-!
# Chains without parentheses

Conditions that are written one behind the other, with `AND` or `OR` between them, are a
filter just if no `AND` follows an `OR` (`Group.ofTokens_chain`). Its groups are then the
conditions as each is read alone: what stands in front of a joiner or behind it makes no
difference to a condition, although `BETWEEN` takes an `AND` too and a `NOT` can belong
to what follows it.
-/

namespace RecordFilter

open RecordFilter.Parser

variable {patterns : List DatePattern}

/-! ## Filters from tokens -/

/-- The groups of a list of tokens. -/
def Group.ofTokens (config : Config) (ts : List Token) : Except TextError (List Group) :=
  match Parser.filter ts with
  | .ok e _ => (Group.ofExpr config.datePatterns e).mapError fun cause => .filter (.unsupported cause)
  | .error cause _ => .error (.parse cause)

theorem Group.ofText_eq_ofTokens (config : Config) (text : String) :
    ofText config text = ofTokens config (Token.ofString text) := by
  unfold ofText ofTokens Expr.parse
  cases Parser.filter (Token.ofString text) <;> rfl

/-! ## What is grammatical -/

/-- An operator of one of the two lowest levels joins conditions. -/
theorem Parser.Level.isJunction_join {level : Level} {t : Token} {f : Expr → Expr → Expr}
    (hj : level.join? t = some f) (hlevel : level.rank < 2) (l r : Expr) :
    (f l r).isJunction = true := by
  rcases join?_cases hj with ⟨-, rfl⟩ | ⟨-, rfl⟩ | ⟨hrank, -⟩
  · rfl
  · rfl
  · omega

namespace Phrase

/-- An operator of conditions has joined them, whatever follows. -/
theorem isJunction_of_joined {level : Level} {l e : Expr} {us : List Token}
    (hlevel : level.rank < 2) (h : Phrase (.joined level l e) us) (hl : l.isJunction = true) :
    e.isJunction = true := by
  generalize hform : Form.joined level l e = form at h
  induction h generalizing l with
  | last =>
    cases hform
    exact hl
  | @join _ _ _ l' r _ _ _ hj _ _ _ ih =>
    cases hform
    exact ih (Level.isJunction_join hj hlevel l' r) rfl
  | _ => cases hform

/-- What joins no conditions is an expression of the next level. -/
theorem next_of_isJunction {level : Level} {e : Expr} {ts : List Token} (hlevel : level.rank < 2)
    (h : Phrase (.expression level e) ts) (he : e.isJunction = false) :
    Phrase (.expression level.next e) ts := by
  cases h with
  | chain _ hl hjoined =>
    cases hjoined with
    | last => rwa [List.append_nil]
    | join hj _ hrest =>
      have hjunction :=
        isJunction_of_joined hlevel hrest (Level.isJunction_join hj hlevel _ _)
      cases he.symm.trans hjunction
  | _ => simp [Level.rank] at hlevel

/-- On the right of `OR` conditions are joined only by `AND`. -/
theorem right_of_conjunction {e : Expr} {ts : List Token}
    (h : Phrase (.expression .conjunction e) ts) :
    e.isJunction = false ∨ ∃ a b, e = .and a b := by
  obtain ⟨k, hk⟩ : ∃ k, e.joiners = .start :: List.replicate k .and := h.joins
  cases e with
  | and a b => exact .inr ⟨a, b, rfl⟩
  -- Its joiners would have an `OR`, and those of a conjunction have none.
  | or a b =>
    have hmem : Joiner.or ∈ Joiner.start :: List.replicate k .and := by
      rw [← hk]
      exact List.mem_append_right _ (List.mem_singleton_self _)
    simp at hmem
  | _ => exact .inl rfl

/-- What the operators of a level join stands on the spine. -/
theorem spine_of_joined {level : Level} {l e : Expr} {us : List Token} (hlevel : level.rank < 2)
    (h : Phrase (.joined level l e) us) : ∀ x ∈ e.spine, x ∈ l.spine ∨
      x.condition.isJunction = false ∨ x.joiner = .or ∧ ∃ a b, x.condition = .and a b := by
  generalize hform : Form.joined level l e = form at h
  induction h generalizing l with
  | last =>
    cases hform
    exact fun x hx => .inl hx
  | join hj hr _ _ ih =>
    cases hform
    intro x hx
    rcases ih rfl x hx with hx | hx
    · -- Only the two levels of joiners are this loose. What stands on the right is of the next
      -- level, which for `OR` may be a conjunction.
      rcases Level.join?_cases hj with ⟨rfl, rfl⟩ | ⟨rfl, rfl⟩ | ⟨hrank, -⟩
      · rcases List.mem_append.1 hx with hx | hx
        · exact .inl hx
        · obtain rfl := List.mem_singleton.1 hx
          exact .inr (hr.right_of_conjunction.imp_right fun h => ⟨rfl, h⟩)
      · rcases List.mem_append.1 hx with hx | hx
        · exact .inl hx
        · obtain rfl := List.mem_singleton.1 hx
          exact .inr (.inl (Expr.isJunction_of_joiners hr.joins))
      · omega
    · exact .inr hx
  | _ => cases hform

/-- An expression that is read has no `AND` behind an `OR` on its spine, and on the right of its
    joiners stand single conditions, or conjunctions behind an `OR`. -/
theorem isLayered {e : Expr} {ts : List Token} (h : Phrase (.expression .disjunction e) ts) :
    e.IsLayered := by
  obtain ⟨k, m, hjoiners⟩ := h.joiners
  refine ⟨⟨_, ⟨k, m, rfl⟩, hjoiners⟩, ?_⟩
  cases h with
  | chain _ hl hor =>
    cases hl with
    | chain _ hfirst hand =>
      intro x hx
      -- A link is the first condition, behind an `AND`, or behind an `OR`.
      rcases spine_of_joined (by decide) hor x hx with hx | hx
      · rcases spine_of_joined (by decide) hand x hx with hx | hx
        · have hsingle := Expr.isJunction_of_joiners hfirst.joins
          rw [Expr.spine_of_isJunction hsingle] at hx
          obtain rfl := List.mem_singleton.1 hx
          exact .inl hsingle
        · exact hx
      · exact hx

end Phrase

/-! ## Conditions in a row -/

/-- A condition as it is written in a filter: its tokens, the term they are read as when
    they stand alone, and how it is joined to what is in front of it. -/
structure Written where
  joiner : Joiner
  tokens : List Token
  term : Term

namespace Written

/-- The group of a written condition. -/
def group (w : Written) : Group :=
  ⟨w.joiner, w.term⟩

/-- The word in front of a condition. -/
def mark : Joiner → List Token
  | .start => []
  | .and => [.keyword .and]
  | .or => [.keyword .or]

/-- The tokens of conditions in a row. -/
def row (ws : List Written) : List Token :=
  ws.flatMap fun w => mark w.joiner ++ w.tokens

/-- Whether the tokens alone are one condition, with the term. -/
structure IsRead (patterns : List DatePattern) (w : Written) : Prop where
  endOfInput_notMem : .endOfInput ∉ w.tokens
  filter_eq : ∃ e rest, Parser.filter (w.tokens ++ [.endOfInput]) = .ok e rest ∧
    e.isJunction = false ∧ Term.ofExpr patterns e = .ok w.term

/-- A condition that is read alone is a phrase of the level of negations, so it is read alike behind
    a joiner. -/
theorem IsRead.phrase {w : Written} (h : w.IsRead patterns) :
    unterminatedQuote? w.tokens = none ∧ ∃ e, Phrase (.expression .negation e) w.tokens ∧
      e.isJunction = false ∧ Term.ofExpr patterns e = .ok w.term := by
  obtain ⟨e, rest, he, hj, ht⟩ := h.filter_eq
  obtain ⟨hq, pe⟩ := filter_sound he h.endOfInput_notMem
  have hconjunction : Phrase (.expression .conjunction e) w.tokens :=
    pe.next_of_isJunction (by decide) hj
  exact ⟨hq, e, hconjunction.next_of_isJunction (by decide) hj, hj, ht⟩

/-- Whether tokens are an expression of a level that joins the conditions of groups. -/
def Makes (patterns : List DatePattern) (level : Level) (ts : List Token) (gs : List Group) : Prop :=
  ∃ e, Phrase (.expression level e) ts ∧ List.Forall₂ (Link.Gives patterns) e.links gs

/-- A condition alone is a conjunction of one. -/
theorem IsRead.makes {w : Written} (h : w.IsRead patterns) :
    Makes patterns .conjunction w.tokens [⟨.start, w.term⟩] := by
  obtain ⟨-, e, pe, hj, ht⟩ := h.phrase
  refine ⟨e, pe.of_next rfl, ?_⟩
  rw [Expr.links_of_isJunction hj]
  exact .cons ⟨rfl, hj, ht⟩ .nil

/-- Behind a joiner the groups of a conjunction stay, but for the joiner of the first. -/
theorem forall₂_behind {ls : List Link} {g : Group} {gs : List Group} (joiner : Joiner)
    (h : List.Forall₂ (Link.Gives patterns) ls (g :: gs)) :
    List.Forall₂ (Link.Gives patterns) (Link.behind joiner ls) (⟨joiner, g.term⟩ :: gs) := by
  cases h with
  | cons hl hls => exact .cons ⟨rfl, hl.single, hl.term⟩ hls

/-- One more condition behind an `AND`. -/
theorem Makes.and {ts : List Token} {gs : List Group} {w : Written}
    (h : Makes patterns .conjunction ts gs) (hw : w.IsRead patterns) :
    Makes patterns .conjunction (ts ++ .keyword .and :: w.tokens) (gs ++ [⟨.and, w.term⟩]) := by
  obtain ⟨e, pe, hlinks⟩ := h
  obtain ⟨-, r, pr, hj, ht⟩ := hw.phrase
  have hand : Level.conjunction.join? (.keyword .and) = some .and := rfl
  refine ⟨.and e r, pe.snoc hand pr, ?_⟩
  rw [Expr.links, Expr.links_of_isJunction hj]
  exact List.rel_append hlinks (.cons ⟨rfl, hj, ht⟩ .nil)

/-- More conditions behind an `OR`. -/
theorem Makes.or {ts us : List Token} {gs others : List Group} {g : Group}
    (h : Makes patterns .disjunction ts gs) (hothers : Makes patterns .conjunction us (g :: others)) :
    Makes patterns .disjunction (ts ++ .keyword .or :: us) (gs ++ ⟨.or, g.term⟩ :: others) := by
  obtain ⟨e, pe, hlinks⟩ := h
  obtain ⟨r, pr, hright⟩ := hothers
  have hor : Level.disjunction.join? (.keyword .or) = some .or := rfl
  refine ⟨.or e r, pe.snoc hor pr, ?_⟩
  rw [Expr.links]
  exact List.rel_append hlinks (forall₂_behind .or hright)

/-- Whether a conjunction behind tokens makes a disjunction with them, which has more
    groups in front and joins those of the conjunction to them. -/
def Leads (patterns : List DatePattern) (joiner : Joiner) (ts : List Token) (gs : List Group) :
    Prop :=
  ∀ {us : List Token} {t : Term} {others : List Group},
    Makes patterns .conjunction us (⟨.start, t⟩ :: others) →
    Makes patterns .disjunction (ts ++ us) (gs ++ ⟨joiner, t⟩ :: others)

theorem leads_start : Leads patterns .start [] [] := by
  rintro us t others ⟨e, pe, hlinks⟩
  exact ⟨e, pe.of_next rfl, hlinks⟩

/-- A conjunction that an `OR` closes stands in front of the next one. -/
theorem Leads.or {joiner : Joiner} {ts us : List Token} {gs others : List Group} {t : Term}
    (h : Leads patterns joiner ts gs)
    (hmakes : Makes patterns .conjunction us (⟨.start, t⟩ :: others)) :
    Leads patterns .or (ts ++ us ++ [.keyword .or]) (gs ++ ⟨joiner, t⟩ :: others) := by
  intro vs t' more hmore
  have := (h hmakes).or hmore
  rwa [List.append_assoc (ts ++ us)]

/-- Conditions in a row behind a conjunction make a disjunction. The conjunction is the
    part that further conditions behind `AND` belong to. -/
theorem makes_row {joiner : Joiner} {ts us : List Token} {gs others : List Group} {t : Term}
    (hleads : Leads patterns joiner ts gs)
    (hmakes : Makes patterns .conjunction us (⟨.start, t⟩ :: others)) {ws : List Written}
    (hjoiner : ∀ w ∈ ws, w.joiner ≠ .start) (hread : ∀ w ∈ ws, w.IsRead patterns) :
    Makes patterns .disjunction (ts ++ us ++ row ws)
      (gs ++ ⟨joiner, t⟩ :: others ++ ws.map group) := by
  -- An `AND` extends the conjunction `us`; an `OR` closes it, and the next one begins.
  induction ws generalizing joiner ts us gs t others with
  | nil =>
    rw [row, List.flatMap_nil, List.map_nil, List.append_nil, List.append_nil]
    exact hleads hmakes
  | cons w ws ih =>
    obtain ⟨hw, hws⟩ := List.forall_mem_cons.1 hread
    obtain ⟨hne, hjoiners⟩ := List.forall_mem_cons.1 hjoiner
    obtain ⟨j, tokens, term⟩ := w
    cases j with
    | start => exact absurd rfl hne
    | and =>
      have := ih hleads (hmakes.and hw) hjoiners hws
      simpa [row, mark, group] using this
    | or =>
      have := ih (hleads.or hmakes) hw.makes hjoiners hws
      simpa [row, mark, group] using this

/-- Conditions in a row have no open quote if none of them has. -/
theorem unterminatedQuote?_row {ws : List Written} (hread : ∀ w ∈ ws, w.IsRead patterns) :
    unterminatedQuote? (row ws) = none := by
  rw [unterminatedQuote?, List.findSome?_eq_none_iff]
  intro t ht
  obtain ⟨w, hw, ht⟩ := List.mem_flatMap.1 ht
  rcases List.mem_append.1 ht with ht | ht
  · cases hj : w.joiner <;> simp_all [mark]
  · have hquote := (hread w hw).phrase.1
    rw [unterminatedQuote?, List.findSome?_eq_none_iff] at hquote
    exact hquote t ht

/-- Conditions in a row are read as an expression that has their groups as links. -/
theorem filter_row {first : Written} {others : List Written} (hfirst : first.joiner = .start)
    (hjoiner : ∀ w ∈ others, w.joiner ≠ .start)
    (hread : ∀ w ∈ first :: others, w.IsRead patterns) :
    ∃ e, Parser.filter (row (first :: others) ++ [.endOfInput]) = .ok e [.endOfInput] ∧
      e.IsLayered ∧ List.Forall₂ (Link.Gives patterns) e.links ((first :: others).map group) := by
  obtain ⟨hw, hothers⟩ := List.forall_mem_cons.1 hread
  have hmakes := makes_row leads_start hw.makes hjoiner hothers
  have hrow : row (first :: others) = [] ++ first.tokens ++ row others := by
    rw [row, List.flatMap_cons, hfirst]
    rfl
  have hgroup : (first :: others).map group = [] ++ [⟨.start, first.term⟩] ++ others.map group := by
    rw [List.map_cons, group, hfirst]
    rfl
  rw [← hrow, ← hgroup] at hmakes
  obtain ⟨e, pe, hlinks⟩ := hmakes
  exact ⟨e, filter_complete (unterminatedQuote?_row hread) pe, pe.isLayered, hlinks⟩

end Written

open Written in
/-- Conditions in a row are a filter just if no `AND` directly follows an `OR`, that is if
    all `AND` come first. The groups are then the terms of the conditions as they are read
    alone, with the joiners as they are written. Otherwise the message is always the
    same. -/
theorem Group.ofTokens_chain (config : Config) (first : Written) (others : List Written)
    (hfirst : first.joiner = .start) (hjoiner : ∀ w ∈ others, w.joiner ≠ .start)
    (hread : ∀ w ∈ first :: others, w.IsRead config.datePatterns) :
    ((∃ gs, ofTokens config (row (first :: others) ++ [.endOfInput]) = .ok gs) ↔
      ¬[.or, .and] <:+: others.map Written.joiner) ∧
    (¬[.or, .and] <:+: others.map Written.joiner ↔
      ∃ k m, others.map Written.joiner = List.replicate k .and ++ List.replicate m .or) ∧
    (¬[.or, .and] <:+: others.map Written.joiner →
      ofTokens config (row (first :: others) ++ [.endOfInput]) = .ok ((first :: others).map group)) ∧
    ([.or, .and] <:+: others.map Written.joiner →
      ∃ error, ofTokens config (row (first :: others) ++ [.endOfInput]) = .error error ∧
        error = .filter (.unsupported (.nestedOnRight "AND expression" .or)) ∧
        error.message = "Unsupported expression: nested AND expression on the " ++
          "right-hand side of OR is not supported") ∧
    ∀ text, Token.ofString text = row (first :: others) ++ [.endOfInput] →
      ofText config text = ofTokens config (row (first :: others) ++ [.endOfInput]) := by
  have hstart : .start ∉ others.map Written.joiner := by
    rintro hmem
    obtain ⟨w, hw, hj⟩ := List.mem_map.1 hmem
    exact hjoiner w hw hj
  -- That no `AND` directly follows an `OR` says of the whole list that all `AND` come first.
  have hshape := Joiner.isAndOr_iff hstart
  obtain ⟨e, hfilter, hlayered, hlinks⟩ := filter_row hfirst hjoiner hread
  have htokens : ofTokens config (row (first :: others) ++ [.endOfInput]) =
      (ofExpr config.datePatterns e).mapError fun cause => .filter (.unsupported cause) := by
    rw [ofTokens, hfilter]
  have hjoiners : ((first :: others).map group).map Group.joiner =
      .start :: others.map Written.joiner := by
    rw [List.map_cons, List.map_cons, group, hfirst, List.map_map]
    rfl
  obtain ⟨hok, herror⟩ := ofExpr_of_links hlayered hlinks hjoiners
  rw [hshape] at hok herror
  have hsuccess (h : ¬[.or, .and] <:+: others.map Written.joiner) :
      ofTokens config (row (first :: others) ++ [.endOfInput]) = .ok ((first :: others).map group) := by
    rw [htokens, hok h]
    rfl
  have hfailure (h : [.or, .and] <:+: others.map Written.joiner) :
      ofTokens config (row (first :: others) ++ [.endOfInput]) =
        .error (.filter (.unsupported (.nestedOnRight "AND expression" .or))) := by
    rw [htokens, herror (not_not.2 h)]
    rfl
  refine ⟨⟨?_, fun h => ⟨_, hsuccess h⟩⟩, hshape.symm, hsuccess, ?_, ?_⟩
  · rintro ⟨gs, hgs⟩ h
    cases (hfailure h).symm.trans hgs
  · exact fun h => ⟨_, hfailure h, rfl, rfl⟩
  · intro text htext
    rw [ofText_eq_ofTokens, htext]

namespace Written

/-- A condition with an `AND` of its own. -/
def range (joiner : Joiner) : Written where
  joiner := joiner
  tokens := [.name "a", .keyword .between, .number "1", .keyword .and, .number "2"]
  term := ⟨.column ⟨none, "a"⟩, .between, false, [.literal (.long 1), .literal (.long 2)]⟩

/-- A condition that begins with a `NOT` and has another one, which is not its own. -/
def exclusion (joiner : Joiner) : Written where
  joiner := joiner
  tokens := [.keyword .not, .name "b", .keyword .is, .keyword .not, .keyword .null]
  term := ⟨.column ⟨none, "b"⟩, .isNotNull, true, []⟩

theorem isRead_range (joiner : Joiner) : (range joiner).IsRead patterns :=
  ⟨by simp [range], _, _, rfl, rfl, rfl⟩

theorem isRead_exclusion (joiner : Joiner) : (exclusion joiner).IsRead patterns :=
  ⟨by simp [exclusion], _, _, rfl, rfl, rfl⟩

end Written

open Written in
/-- A chain that is a filter, and one with an `AND` too late. -/
theorem Group.ofTokens_chain_range :
    ofText {} "a BETWEEN 1 AND 2 AND NOT b IS NOT NULL OR a BETWEEN 1 AND 2" =
      .ok [⟨.start, (range .start).term⟩, ⟨.and, (exclusion .and).term⟩, ⟨.or, (range .or).term⟩] ∧
    ∃ error, ofText {} "a BETWEEN 1 AND 2 OR a BETWEEN 1 AND 2 AND NOT b IS NOT NULL" =
      .error error ∧ error.message =
        "Unsupported expression: nested AND expression on the right-hand side of OR is not supported" := by
  have hsorted : ∀ w ∈ [range .start, exclusion .and, range .or], w.IsRead ({} : Config).datePatterns := by
    simp [isRead_range, isRead_exclusion]
  have hlate : ∀ w ∈ [range .start, range .or, exclusion .and], w.IsRead ({} : Config).datePatterns := by
    simp [isRead_range, isRead_exclusion]
  have htokens : Token.ofString "a BETWEEN 1 AND 2 AND NOT b IS NOT NULL OR a BETWEEN 1 AND 2" =
      row [range .start, exclusion .and, range .or] ++ [.endOfInput] := by
    decide +kernel
  have htokens' : Token.ofString "a BETWEEN 1 AND 2 OR a BETWEEN 1 AND 2 AND NOT b IS NOT NULL" =
      row [range .start, range .or, exclusion .and] ++ [.endOfInput] := by
    decide +kernel
  obtain ⟨-, -, hok, -, htext⟩ := ofTokens_chain {} (range .start) [exclusion .and, range .or] rfl
    (by simp [exclusion, range]) hsorted
  obtain ⟨-, -, -, herror, htext'⟩ := ofTokens_chain {} (range .start) [range .or, exclusion .and] rfl
    (by simp [exclusion, range]) hlate
  refine ⟨?_, ?_⟩
  · rw [htext _ htokens]
    exact hok (by decide)
  · obtain ⟨error, he, -, hmessage⟩ := herror (by decide)
    exact ⟨error, by rw [htext' _ htokens', he], hmessage⟩

end RecordFilter
