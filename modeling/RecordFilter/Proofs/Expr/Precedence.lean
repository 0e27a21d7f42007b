import RecordFilter.Proofs.Expr.Constants

/-!
# Precedence

An expression that was read is in a form in which nothing in it needs parentheses that
are not there: below an operator stands only what binds tighter, or on the left of an
operator that is joined from left to right what binds alike (`Expr.IsOrdered`). This is
so at every depth (`Expr.isOrdered_of_parse`), as parentheses, lists and calls are read
from their first token on as expressions of their own.

A number in front of which a minus sign was read binds as the sign does.
-/

namespace RecordFilter

open RecordFilter.Parser

/-! ## Levels of expressions -/

/-- The level of an operator. -/
def BinaryOperator.level : BinaryOperator → Level
  | .regexMatch => .comparison
  | .bitwiseAnd | .bitwiseOr | .bitwiseXor => .bitwise
  | .add | .sub | .concat => .additive
  | .mul | .div | .integerDiv | .modulo => .multiplicative
  | .jsonAccess => .access

/-- Whether a constant is a number with a minus sign. -/
def Constant.IsNegative : Constant → Prop
  | .long v => v < 0
  | .double x => ¬Decimal.HasNoSign x
  | _ => False

instance : DecidablePred Constant.IsNegative := fun c =>
  match c with
  | .long v => inferInstanceAs (Decidable (v < 0))
  | .double x => inferInstanceAs (Decidable (¬Decimal.HasNoSign x))
  | .string _ | .date _ | .time _ | .timestamp _ | .null => inferInstanceAs (Decidable False)

namespace Expr

/-- The level of the operator at the root of an expression. What has none is primary. -/
def level : Expr → Level
  | .or .. => .disjunction
  | .and .. => .conjunction
  | .not _ => .negation
  | .compare .. | .between .. | .inList .. | .inSubselect .. | .like .. | .isNull .. => .comparison
  | .binary op .. => op.level
  | .negative _ => .sign
  | .constant c => if c.IsNegative then .sign else .primary
  | .column _ | .call .. | .boolean _ | .paren _ | .subselect _ | .exists .. | .case .. |
    .cast .. => .primary

/-- Whether an expression binds at least as much as a level. -/
def Binds (level : Level) (e : Expr) : Prop :=
  level.rank ≤ e.level.rank

/-- Whether a minus sign in front of the expression becomes part of it. -/
def IsNumber : Expr → Prop
  | .constant (.long _) | .constant (.double _) => True
  | _ => False

/-- Whether two expressions can be the operands of an operator of a level that is joined
    from left to right. -/
def Joins (level : Level) (left right : Expr) : Prop :=
  left.Binds level ∧ level.rank < right.level.rank

/-- Whether the operands of an expression bind as much as its operator asks for, and lists
    that cannot be empty are not. -/
def IsOrdered : Expr → Prop
  | .or left right => Joins .disjunction left right
  | .and left right => Joins .conjunction left right
  | .not e => e.Binds .negation
  | .compare _ left right | .binary .regexMatch left right => left.Binds .bitwise ∧ right.Binds .bitwise
  | .between _ subject low high =>
    subject.Binds .bitwise ∧ low.Binds .bitwise ∧ high.Binds .bitwise
  | .inList _ subject items => subject.Binds .bitwise ∧ items ≠ []
  | .inSubselect _ subject _ | .isNull _ subject => subject.Binds .bitwise
  | .like _ subject pattern => subject.Binds .bitwise ∧ pattern.Binds .bitwise
  | .binary op left right => Joins op.level left right
  | .negative e => e.Binds .sign ∧ ¬e.IsNumber
  | .case _ branches _ => branches ≠ []
  | .exists negated _ => negated = false
  | .constant _ | .column _ | .call .. | .boolean _ | .paren _ | .subselect _ | .cast .. => True

/-- Whether every part of an expression is ordered. -/
def IsCanonical (e : Expr) : Prop :=
  ∀ p : Expr, p.IsPart e → p.IsOrdered

theorem isCanonical_iff {e : Expr} :
    e.IsCanonical ↔ e.IsOrdered ∧ ∀ o ∈ e.operands, o.IsCanonical :=
  forall_isPart_iff

theorem Binds.mono {low high : Level} {e : Expr} (h : e.Binds high) (hle : low.rank ≤ high.rank) :
    e.Binds low :=
  Nat.le_trans hle h

end Expr

namespace Parser

/-! ## Signs -/

/-- Whole numbers and doubles that were read without a sign in front have none. -/
theorem not_isNegative_numberConstant? {digits : String} {c : Constant}
    (h : numberConstant? digits = some c) (hn : Token.IsNumber digits.toList) : ¬c.IsNegative := by
  rcases numberConstant?_cases h with ⟨n, hlt, rfl⟩ | ⟨x, hx, rfl⟩
  · intro hneg
    rw [Constant.IsNegative, Int64.lt_iff_toInt_lt, Int64.toInt_ofNat_of_lt hlt] at hneg
    exact absurd hneg (by simp)
  · -- For doubles this takes that the rounding of digits keeps clear of the sign bit.
    rw [Expr.Prints.readFloat?_of_isNumber hn] at hx
    exact fun hneg => hneg (Expr.Prints.hasNoSign_readMagnitude? hx)

/-- A minus sign is taken into a number or stands in front of something else. -/
theorem negate_eq (e : Expr) : (e.IsNumber ∧ ∃ c, negate e = .constant c) ∨
    (¬e.IsNumber ∧ negate e = .negative e) := by
  cases e with
  | constant c =>
    cases c with
    | long v => exact .inl ⟨trivial, _, rfl⟩
    | double x => exact .inl ⟨trivial, _, rfl⟩
    | _ => exact .inr ⟨id, rfl⟩
  | _ => exact .inr ⟨id, rfl⟩

end Parser

/-! ## What is read -/

namespace Expr

theorem binds_constant {level : Level} (h : level.rank ≤ 7) (c : Constant) :
    (Expr.constant c).Binds level := by
  rw [Binds, Expr.level]
  split
  · exact h
  · exact Nat.le_trans h (by decide)

theorem isCanonical_constant (c : Constant) : (Expr.constant c).IsCanonical :=
  isCanonical_iff.2 ⟨trivial, fun _ ho => absurd ho List.not_mem_nil⟩

theorem level_join {level : Level} {t : Token} {f : Expr → Expr → Expr}
    (hj : level.join? t = some f) (l r : Expr) : (f l r).level = level := by
  unfold Level.join? at hj
  split at hj <;> cases hj <;> rfl

/-- An operator that is joined from left to right is ordered if its operands can be joined at its
    level. -/
theorem isOrdered_join {level : Level} {t : Token} {f : Expr → Expr → Expr}
    (hj : level.join? t = some f) {l r : Expr} (h : Joins level l r) : (f l r).IsOrdered := by
  unfold Level.join? at hj
  split at hj <;> cases hj <;> exact h

/-! ## Rules of the grammar -/

/-- An expression that is ordered, of canonical operands, stands at its own level and is
    canonical. -/
theorem stands {level : Level} {e : Expr} (hlevel : e.level = level) (he : e.IsOrdered)
    (ho : ∀ o ∈ e.operands, o.IsCanonical) : e.Binds level ∧ e.IsCanonical :=
  ⟨Nat.le_of_eq (congrArg Level.rank hlevel.symm), isCanonical_iff.2 ⟨he, ho⟩⟩

/-- The right operand of an operator that is joined from left to right is of the next level, so
    it binds tighter than the operator. -/
theorem stands_join {level : Level} {t : Token} {f : Expr → Expr → Expr} {l r : Expr}
    (hj : level.join? t = some f) (hl : l.Binds level) (hlc : l.IsCanonical)
    (hr : r.Binds level.next) (hrc : r.IsCanonical) :
    (f l r).Binds level ∧ (f l r).IsCanonical := by
  have hrank := Level.rank_next (Level.isChain_of_join? hj)
  have hjoins : Joins level l r := by
    refine ⟨hl, Nat.lt_of_lt_of_le ?_ hr⟩
    omega
  have hoperands : ∀ o ∈ (f l r).operands, o.IsCanonical := by
    rw [Level.operands_join hj]
    exact List.forall_mem_cons.2 ⟨hlc, List.forall_mem_singleton.2 hrc⟩
  exact stands (level_join hj l r) (isOrdered_join hj hjoins) hoperands

/-- A sign in front of a number leaves no operator behind, and in front of anything else it is
    one. -/
theorem stands_negate {e : Expr} (hb : e.Binds .sign) (hc : e.IsCanonical) :
    (negate e).Binds .sign ∧ (negate e).IsCanonical := by
  rcases negate_eq e with ⟨-, c, hneg⟩ | ⟨hnumber, hneg⟩
  · rw [hneg]
    exact ⟨binds_constant (by decide) c, isCanonical_constant c⟩
  · rw [hneg]
    exact stands rfl ⟨hb, hnumber⟩ (List.forall_mem_singleton.2 hc)

/-- A constant in front of which no sign was read is primary. -/
theorem stands_constant {c : Constant} (hc : ¬c.IsNegative) :
    (Expr.constant c).Binds .primary ∧ (Expr.constant c).IsCanonical := by
  refine ⟨?_, isCanonical_constant c⟩
  rw [Binds, level, if_neg hc]

/-- A condition with one more operand, both of which bind tighter than it. -/
theorem stands_beside {e s r : Expr} (hlevel : e.level = .comparison) (ho : e.operands = [s, r])
    (he : e.IsOrdered) (hs : s.IsCanonical) (hr : r.IsCanonical) :
    e.Binds .comparison ∧ e.IsCanonical :=
  stands hlevel he (ho ▸ List.forall_mem_cons.2 ⟨hs, List.forall_mem_singleton.2 hr⟩)

end Expr

/-- What a piece of the grammar makes: of what binds enough and is canonical, something
    that binds enough and is canonical. -/
def Form.IsCanonical : Form → Prop
  | .expression level e => e.Binds level ∧ e.IsCanonical
  | .joined level left e => left.Binds level → left.IsCanonical → e.Binds level ∧ e.IsCanonical
  | .condition subject e =>
    subject.Binds .bitwise → subject.IsCanonical → e.Binds .comparison ∧ e.IsCanonical
  | .list es => es ≠ [] ∧ ∀ e ∈ es, e.IsCanonical
  | .named _ e => e.Binds .primary ∧ e.IsCanonical
  | .branches bs => ∀ b ∈ bs, b.1.IsCanonical ∧ b.2.IsCanonical
  | .optional _ e => ∀ x ∈ e, x.IsCanonical

namespace Phrase

/-- By the rules of the grammar: each asks of its operands the levels that its expression needs
    to be ordered. -/
theorem isCanonical {form : Form} {ts : List Token} (h : Phrase form ts)
    (hts : ∀ digits, .number digits ∈ ts → Token.IsNumber digits.toList) : form.IsCanonical := by
  induction h with
  | chain hl _ _ ihl ihe =>
    obtain ⟨hb, hc⟩ := ihl fun d hd => hts d (by simp [hd])
    have hrank := Level.rank_next hl
    exact ihe (fun d hd => hts d (by simp [hd])) (hb.mono (by omega)) hc
  | last => exact fun hb hc => ⟨hb, hc⟩
  | join hj _ _ ihr ihe =>
    intro hb hc
    obtain ⟨hr, hrc⟩ := ihr fun d hd => hts d (by simp [hd])
    obtain ⟨hjoined, hjoinedc⟩ := Expr.stands_join hj hb hc hr hrc
    exact ihe (fun d hd => hts d (by simp [hd])) hjoined hjoinedc
  | not _ ih =>
    obtain ⟨hb, hc⟩ := ih fun d hd => hts d (by simp [hd])
    exact Expr.stands rfl hb (List.forall_mem_singleton.2 hc)
  | positive _ ih | unsigned _ ih =>
    obtain ⟨hb, hc⟩ := ih hts
    exact ⟨hb.mono (by decide), hc⟩
  | plus _ ih => exact ih fun d hd => hts d (by simp [hd])
  | minus _ ih =>
    obtain ⟨hb, hc⟩ := ih fun d hd => hts d (by simp [hd])
    exact Expr.stands_negate hb hc
  | comparison _ _ ihs ihe =>
    obtain ⟨hb, hc⟩ := ihs fun d hd => hts d (by simp [hd])
    exact ihe (fun d hd => hts d (by simp [hd])) hb hc
  | subject => exact fun hb hc => ⟨hb.mono (by decide), hc⟩
  | isNull | inSubselect => exact fun hb hc => Expr.stands rfl hb (List.forall_mem_singleton.2 hc)
  | inList _ ih =>
    obtain ⟨hne, hitems⟩ := ih fun d hd => hts d (by simp [hd])
    exact fun hb hc => Expr.stands rfl ⟨hb, hne⟩ (List.forall_mem_cons.2 ⟨hc, hitems⟩)
  | between _ _ ihl ihh =>
    obtain ⟨hl, hlc⟩ := ihl fun d hd => hts d (by simp [hd])
    obtain ⟨hh, hhc⟩ := ihh fun d hd => hts d (by simp [hd])
    exact fun hb hc => Expr.stands rfl ⟨hb, hl, hh⟩ (by simp [Expr.operands, hc, hlc, hhc])
  | like _ ih | regex _ ih | compare _ _ ih =>
    obtain ⟨hr, hrc⟩ := ih fun d hd => hts d (by simp [hd])
    exact fun hb hc => Expr.stands_beside rfl rfl ⟨hb, hr⟩ hc hrc
  | one _ ih => exact ⟨List.cons_ne_nil _ _, List.forall_mem_singleton.2 (ih hts).2⟩
  | more _ _ ihe ihes =>
    have hfirst := ihe fun d hd => hts d (by simp [hd])
    have hothers := ihes fun d hd => hts d (by simp [hd])
    exact ⟨List.cons_ne_nil _ _, List.forall_mem_cons.2 ⟨hfirst.2, hothers.2⟩⟩
  | @number digits c hc =>
    -- The only place where the tokens matter: digits have no sign of their own.
    exact Expr.stands_constant (not_isNegative_numberConstant? hc (hts digits List.mem_cons_self))
  | dated _ hc =>
    rcases dateConstant_cases hc with ⟨d, rfl⟩ | ⟨t, rfl⟩ | ⟨t, rfl⟩ <;>
      exact Expr.stands_constant id
  | string | null => exact Expr.stands_constant id
  | name _ ih | keyword _ _ ih => exact ih fun d hd => hts d (by simp [hd])
  | boolean | column | qualified | call | subselect | «exists» =>
    refine Expr.stands rfl ?_ fun _ ho => absurd ho List.not_mem_nil
    trivial
  | callWith _ ih =>
    obtain ⟨-, harguments⟩ := ih fun d hd => hts d (by simp [hd])
    exact Expr.stands rfl trivial harguments
  | paren _ ih | cast _ _ ih =>
    obtain ⟨-, hc⟩ := ih fun d hd => hts d (by simp [hd])
    exact Expr.stands rfl trivial (List.forall_mem_singleton.2 hc)
  | case _ hne _ _ iho ihb ihe =>
    have ho := iho fun d hd => hts d (by simp [hd])
    have hb := ihb fun d hd => hts d (by simp [hd])
    have he := ihe fun d hd => hts d (by simp [hd])
    exact Expr.stands rfl hne (Expr.forall_mem_operands_case.2 ⟨ho, hb, he⟩)
  | noBranch => exact fun b hb => absurd hb List.not_mem_nil
  | branch _ _ _ ihc ihr ihb =>
    have hc := ihc fun d hd => hts d (by simp [hd])
    have hr := ihr fun d hd => hts d (by simp [hd])
    exact List.forall_mem_cons.2 ⟨⟨hc.2, hr.2⟩, ihb fun d hd => hts d (by simp [hd])⟩
  | missing => exact fun x hx => by cases hx
  | marked _ ih =>
    have he := ih fun d hd => hts d (by simp [hd])
    rintro x ⟨⟩
    exact he.2

end Phrase

/-- The numbers among the tokens of a text are digits, with a point among them at most. -/
theorem Token.isNumber_of_mem_tokens {cs : List Char} {digits : String}
    (h : .number digits ∈ tokens cs) : IsNumber digits.toList := by
  obtain ⟨c, -, hc⟩ := exists_begins h (by simp)
  generalize ht : Token.number digits = t at hc
  cases hc with
  | number hn =>
    obtain rfl := Token.number.inj ht
    exact hn
  | @word word _ => rcases ofWord_cases word with ⟨kind, h⟩ | ⟨-, h⟩ <;> cases ht.trans h
  | _ => cases ht

namespace Expr

/-- Every part of an expression that was read is ordered by precedence. -/
theorem isOrdered_of_parse {text : String} {e : Expr} (h : Expr.parse text = .ok e) :
    ∀ p : Expr, p.IsPart e → p.IsOrdered := by
  obtain ⟨ts, hts, -, pe⟩ := Expr.parse_eq_ok_iff.1 h
  refine (pe.isCanonical fun digits hd => ?_).2
  have hmem : .number digits ∈ Token.ofString text := by
    rw [hts]
    exact List.mem_append_left _ hd
  exact Token.isNumber_of_mem_tokens hmem

/-- The expression of a filter with operators of most levels. -/
def layered : Expr :=
  .or (.not (.compare .lt
      (.binary .sub (.binary .sub (.column ⟨none, "a"⟩) (.constant (.long 1)))
        (.binary .mul (.column ⟨none, "b"⟩) (.constant (.long (-2)))))
      (.negative (.binary .jsonAccess (.column ⟨none, "c"⟩) (.constant (.string "k"))))))
    (.and (.paren (.or (.column ⟨none, "d"⟩) (.boolean true)))
      (.inList true (.column ⟨none, "e"⟩) [.and (.column ⟨none, "f"⟩) (.column ⟨none, "g"⟩)]))

/-- A filter with operators of most levels is read as it is grouped, and all its parts are
    ordered. -/
theorem isOrdered_of_parse_layered :
    Expr.parse "NOT a - 1 - b * -2 < -c -> 'k' OR (d OR TRUE) AND e NOT IN (f AND g)" =
      .ok layered ∧ ∀ p : Expr, p.IsPart layered → p.IsOrdered := by
  have htokens : Token.ofString
      "NOT a - 1 - b * -2 < -c -> 'k' OR (d OR TRUE) AND e NOT IN (f AND g)" =
      [.keyword .not, .name "a", .symbol .minus, .number "1", .symbol .minus, .name "b",
        .symbol .star, .symbol .minus, .number "2", .symbol .less, .symbol .minus, .name "c",
        .symbol .arrow, .string "k", .keyword .or, .symbol .leftParen, .name "d", .keyword .or,
        .keyword .true, .symbol .rightParen, .keyword .and, .name "e", .keyword .not, .keyword .in,
        .symbol .leftParen, .name "f", .keyword .and, .name "g", .symbol .rightParen,
        .endOfInput] := by
    decide +kernel
  have hparse : Expr.parse
      "NOT a - 1 - b * -2 < -c -> 'k' OR (d OR TRUE) AND e NOT IN (f AND g)" = .ok layered := by
    rw [Expr.parse, htokens]
    rfl
  exact ⟨hparse, isOrdered_of_parse hparse⟩

end Expr

end RecordFilter
