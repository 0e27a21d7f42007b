import RecordFilter.Expr.Parser

/-!
# The grammar of expressions

Which lists of tokens are expressions, and of which tree (`Phrase`). The grammar
says nothing about how a list is found to be one: it has no allowance, no look
ahead and no order of trial. The parser is measured against it, in both
directions (`Parser.sound`, `Phrase.reads`).

What the grammar describes is a *form*: an expression of a level together with
its tree, or a piece of one that the parser reads on its own, as the operators
and operands that follow a first operand.
-/

namespace RecordFilter

open RecordFilter.Parser (Level)

namespace Parser

/-- Whether operators of the level stand between two operands and are joined from
    left to right. -/
def Level.isChain : Level → Bool
  | .disjunction | .conjunction | .bitwise | .additive | .multiplicative | .access => true
  | .negation | .comparison | .sign | .primary => false

theorem Level.isChain_of_join? {level : Level} {t : Token} {f : Expr → Expr → Expr}
    (h : level.join? t = some f) : level.isChain := by
  cases level <;> first | rfl | simp [join?] at h

/-- Whether tokens can stand in the parentheses of a sub-select, of which some
    were opened before: all that are opened are closed. -/
def IsBody : (opened : Nat) → List Token → Prop
  | opened, [] => opened = 0
  | _, .endOfInput :: _ => False
  | 0, .symbol .rightParen :: _ => False
  | opened + 1, .symbol .rightParen :: rest => IsBody opened rest
  | opened, .symbol .leftParen :: rest => IsBody (opened + 1) rest
  | opened, _ :: rest => IsBody opened rest

/-- The text of a sub-select. -/
def bodyText (body : List Token) : String :=
  " ".intercalate (body.map Token.text)

/-- The name that a keyword is if no string follows it. -/
def keywordName? : Keyword → Option String
  | .date => some "date"
  | .time => some "time"
  | .timestamp => some "timestamp"
  | _ => none

/-- The name of a type that a token is. -/
def typeToken? : Token → Option String
  | .name name => some (Text.upper name)
  | .keyword .date => some Keyword.date.text
  | .keyword .time => some Keyword.time.text
  | .keyword .timestamp => some Keyword.timestamp.text
  | _ => none

/-- The tokens of a type, and its text. -/
inductive IsType : String → List Token → Prop
  | plain {t : Token} {name : String} : typeToken? t = some name → IsType name [t]
  | sized {t : Token} {name first : String} {others : List String} : typeToken? t = some name →
    IsType (name ++ "(" ++ ", ".intercalate (first :: others) ++ ")")
      (t :: .symbol .leftParen :: .number first ::
        (others.flatMap (fun digits => [.symbol .comma, .number digits]) ++ [.symbol .rightParen]))

/-- The `NOT` of a negated condition. -/
def notTokens (negated : Bool) : List Token :=
  if negated then [.keyword .not] else []

end Parser

open RecordFilter.Parser

/-- What a piece of the grammar is. -/
inductive Form
  /-- An expression whose operators bind at least as much as those of a level. -/
  | expression (level : Level) (e : Expr)
  /-- The operators of a level and their right operands, which make of an
      expression another one. -/
  | joined (level : Level) (left e : Expr)
  /-- The part of a condition behind its subject. -/
  | condition (subject e : Expr)
  /-- One or more expressions between commas. -/
  | list (es : List Expr)
  /-- What follows a name and makes a column or a call of it. -/
  | named (name : String) (e : Expr)
  /-- The branches of a `CASE`. -/
  | branches (branches : List (Expr × Expr))
  /-- An expression behind keywords; without an expression they are missing too. -/
  | optional (mark : List Keyword) (e : Option Expr)

/-- The lists of tokens that a form has. -/
inductive Phrase : Form → List Token → Prop
  -- Operators that are joined from left to right
  | chain {level : Level} {l e : Expr} {ts us : List Token} : level.isChain →
    Phrase (.expression level.next l) ts → Phrase (.joined level l e) us →
    Phrase (.expression level e) (ts ++ us)
  | last {level : Level} {e : Expr} : Phrase (.joined level e e) []
  | join {level : Level} {t : Token} {f : Expr → Expr → Expr} {l r e : Expr} {ts us : List Token} :
    level.join? t = some f → Phrase (.expression level.next r) ts →
    Phrase (.joined level (f l r) e) us → Phrase (.joined level l e) (t :: (ts ++ us))
  -- Operators in front
  | not {e : Expr} {ts : List Token} : Phrase (.expression .negation e) ts →
    Phrase (.expression .negation (.not e)) (.keyword .not :: ts)
  | positive {e : Expr} {ts : List Token} : Phrase (.expression .comparison e) ts →
    Phrase (.expression .negation e) ts
  | plus {e : Expr} {ts : List Token} : Phrase (.expression .sign e) ts →
    Phrase (.expression .sign e) (.symbol .plus :: ts)
  | minus {e : Expr} {ts : List Token} : Phrase (.expression .sign e) ts →
    Phrase (.expression .sign (negate e)) (.symbol .minus :: ts)
  | unsigned {e : Expr} {ts : List Token} : Phrase (.expression .access e) ts →
    Phrase (.expression .sign e) ts
  -- Conditions
  | comparison {s e : Expr} {ts us : List Token} : Phrase (.expression .bitwise s) ts →
    Phrase (.condition s e) us → Phrase (.expression .comparison e) (ts ++ us)
  | subject {s : Expr} : Phrase (.condition s s) []
  | isNull {s : Expr} {negated : Bool} : Phrase (.condition s (.isNull negated s))
      (.keyword .is :: (notTokens negated ++ [.keyword .null]))
  | inSubselect {s : Expr} {negated : Bool} {body : List Token} :
    IsBody 0 (.keyword .select :: body) →
    Phrase (.condition s (.inSubselect negated s (bodyText (.keyword .select :: body))))
      (notTokens negated ++ .keyword .in :: .symbol .leftParen :: .keyword .select ::
        (body ++ [.symbol .rightParen]))
  | inList {s : Expr} {negated : Bool} {items : List Expr} {ts : List Token} :
    Phrase (.list items) ts → Phrase (.condition s (.inList negated s items))
      (notTokens negated ++ .keyword .in :: .symbol .leftParen :: (ts ++ [.symbol .rightParen]))
  | between {s low high : Expr} {negated : Bool} {ts us : List Token} :
    Phrase (.expression .bitwise low) ts → Phrase (.expression .bitwise high) us →
    Phrase (.condition s (.between negated s low high))
      (notTokens negated ++ .keyword .between :: (ts ++ .keyword .and :: us))
  | like {s pattern : Expr} {negated : Bool} {ts : List Token} :
    Phrase (.expression .bitwise pattern) ts →
    Phrase (.condition s (.like negated s pattern)) (notTokens negated ++ .keyword .like :: ts)
  | regex {s r : Expr} {ts : List Token} : Phrase (.expression .bitwise r) ts →
    Phrase (.condition s (.binary .regexMatch s r)) (.symbol .tilde :: ts)
  | compare {s r : Expr} {t : Token} {op : ComparisonOperator} {ts : List Token} :
    comparison? t = some op → Phrase (.expression .bitwise r) ts →
    Phrase (.condition s (.compare op s r)) (t :: ts)
  -- Lists
  | one {e : Expr} {ts : List Token} : Phrase (.expression .disjunction e) ts →
    Phrase (.list [e]) ts
  | more {e : Expr} {es : List Expr} {ts us : List Token} :
    Phrase (.expression .disjunction e) ts → Phrase (.list es) us →
    Phrase (.list (e :: es)) (ts ++ .symbol .comma :: us)
  -- Constants
  | number {digits : String} {c : Constant} : numberConstant? digits = some c →
    Phrase (.expression .primary (.constant c)) [.number digits]
  | string {text : String} :
    Phrase (.expression .primary (.constant (.string text))) [.string text]
  | boolean {value : Bool} : Phrase (.expression .primary (.boolean value))
      [.keyword (if value then .true else .false)]
  | null : Phrase (.expression .primary (.constant .null)) [.keyword .null]
  | dated {kind : Keyword} {name text : String} {c : Constant} : keywordName? kind = some name →
    dateConstant kind text = .ok c →
    Phrase (.expression .primary (.constant c)) [.keyword kind, .string text]
  -- Names
  | name {name : String} {e : Expr} {ts : List Token} : Phrase (.named name e) ts →
    Phrase (.expression .primary e) (.name name :: ts)
  | keyword {kind : Keyword} {name : String} {e : Expr} {ts : List Token} :
    keywordName? kind = some name → Phrase (.named name e) ts →
    Phrase (.expression .primary e) (.keyword kind :: ts)
  | column {name : String} : Phrase (.named name (.column ⟨none, name⟩)) []
  | qualified {name column : String} :
    Phrase (.named name (.column ⟨some name, column⟩)) [.symbol .dot, .name column]
  | call {name : String} : Phrase (.named name (.call name []))
      [.symbol .leftParen, .symbol .rightParen]
  | callWith {name : String} {arguments : List Expr} {ts : List Token} :
    Phrase (.list arguments) ts → Phrase (.named name (.call name arguments))
      (.symbol .leftParen :: (ts ++ [.symbol .rightParen]))
  -- Expressions in parentheses and between keywords
  | paren {e : Expr} {ts : List Token} : Phrase (.expression .disjunction e) ts →
    Phrase (.expression .primary (.paren e))
      (.symbol .leftParen :: (ts ++ [.symbol .rightParen]))
  | subselect {body : List Token} : IsBody 0 (.keyword .select :: body) →
    Phrase (.expression .primary (.subselect (bodyText (.keyword .select :: body))))
      (.symbol .leftParen :: .keyword .select :: (body ++ [.symbol .rightParen]))
  | exists {body : List Token} : IsBody 0 body →
    Phrase (.expression .primary (.exists false (bodyText body)))
      (.keyword .exists :: .symbol .leftParen :: (body ++ [.symbol .rightParen]))
  | case {operand otherwise : Option Expr} {bs : List (Expr × Expr)} {ts us vs : List Token} :
    Phrase (.optional [] operand) ts → bs ≠ [] → Phrase (.branches bs) us →
    Phrase (.optional [.else] otherwise) vs →
    Phrase (.expression .primary (.case operand bs otherwise))
      (.keyword .case :: (ts ++ (us ++ (vs ++ [.keyword .end]))))
  | cast {e : Expr} {type : String} {ts us : List Token} :
    Phrase (.expression .disjunction e) ts → IsType type us →
    Phrase (.expression .primary (.cast e type))
      (.keyword .cast :: .symbol .leftParen :: (ts ++ .keyword .as :: (us ++ [.symbol .rightParen])))
  | noBranch : Phrase (.branches []) []
  | branch {condition result : Expr} {bs : List (Expr × Expr)} {ts us vs : List Token} :
    Phrase (.expression .disjunction condition) ts → Phrase (.expression .disjunction result) us →
    Phrase (.branches bs) vs →
    Phrase (.branches ((condition, result) :: bs))
      (.keyword .when :: (ts ++ .keyword .then :: (us ++ vs)))
  | missing {mark : List Keyword} : Phrase (.optional mark none) []
  | marked {mark : List Keyword} {e : Expr} {ts : List Token} :
    Phrase (.expression .disjunction e) ts →
    Phrase (.optional mark (some e)) (mark.map .keyword ++ ts)

end RecordFilter
