import RecordFilter.Decimal.Reading
import RecordFilter.Expr.Basic
import RecordFilter.Expr.ParseError
import RecordFilter.Token.Scanner

/-!
# Reading expressions

Expressions are read by recursive descent through the levels of precedence, from
`OR`, which binds least, to names and literals. Operators of one level are
joined from left to right. A parser takes the tokens left to read and gives back
those it left, also when it fails: a failure leaves the tokens from the one that
could not be read.

The descent is bounded by an allowance, which every step of it lowers by one and
which is never used up: between two tokens that are read there are fewer steps
than the allowance has for one token.
-/

namespace RecordFilter

/-- What a parser gives: a value or an error, with the tokens left. -/
inductive Outcome (α : Type)
  | ok (value : α) (rest : List Token)
  | error (cause : ParseError) (rest : List Token)

/-- A parser. -/
def Parser (α : Type) : Type :=
  List Token → Outcome α

namespace Parser

instance : Monad Parser where
  pure value := fun tokens => .ok value tokens
  bind parser next := fun tokens =>
    match parser tokens with
    | .ok value rest => next value rest
    | .error cause rest => .error cause rest

/-- Fails in front of the current token. -/
def fail {α : Type} (cause : ParseError) : Parser α :=
  fun tokens => .error cause tokens

/-- The current token. -/
def peek : Parser Token :=
  fun tokens => .ok (tokens.headD .endOfInput) tokens

/-- Passes the current token. -/
def advance : Parser Unit :=
  fun tokens => .ok () tokens.tail

/-- Passes the given token, if it is the current one, and tells whether it was. -/
def skip (wanted : Token) : Parser Bool := do
  if (← peek) = wanted then
    advance
    return true
  else return false

/-- Passes the given token, which has to be the current one. -/
def expect (wanted : Token) : Parser Unit := do
  let found ← peek
  if found = wanted then advance else fail (.expected wanted found)

/-- Passes a name. -/
def expectName : Parser String := do
  match ← peek with
  | .name name =>
    advance
    return name
  | found => fail (.expectedName found)

/-- Passes a number. -/
def expectNumber : Parser String := do
  match ← peek with
  | .number digits =>
    advance
    return digits
  | found => fail (.expectedNumber found)

/-- Passes a `NOT` in front of `IN`, `BETWEEN` or `LIKE`, and tells whether
    there was one. Another `NOT` does not belong to the condition. -/
def skipNegation : Parser Bool :=
  fun tokens =>
    match tokens with
    | .keyword .not :: .keyword .in :: rest => .ok true (.keyword .in :: rest)
    | .keyword .not :: .keyword .between :: rest => .ok true (.keyword .between :: rest)
    | .keyword .not :: .keyword .like :: rest => .ok true (.keyword .like :: rest)
    | tokens => .ok false tokens

/-! ## Sub-selects -/

/-- The tokens in front of the closing parenthesis that is one more than were
    opened, and what follows them; without one, the tokens to the end. -/
def splitBody : (opened : Nat) → List Token → List Token × List Token
  | _, [] => ([], [])
  | _, .endOfInput :: rest => ([], .endOfInput :: rest)
  | 0, .symbol .rightParen :: rest => ([], .symbol .rightParen :: rest)
  | opened + 1, .symbol .rightParen :: rest =>
    let (body, after) := splitBody opened rest
    (.symbol .rightParen :: body, after)
  | opened, .symbol .leftParen :: rest =>
    let (body, after) := splitBody (opened + 1) rest
    (.symbol .leftParen :: body, after)
  | opened, token :: rest =>
    let (body, after) := splitBody opened rest
    (token :: body, after)

/-- The text of a sub-select, up to the parenthesis that closes it. -/
def subselect : Parser String :=
  fun tokens =>
    let (body, after) := splitBody 0 tokens
    match after.headD .endOfInput with
    | .endOfInput => .error .openSubselect after
    | _ => .ok (" ".intercalate (body.map Token.text)) after

/-! ## Literals and operators -/

/-- The constant a number stands for: a whole number of 64 bits, if it is
    written without a point and small enough, or a double. -/
def numberConstant? (digits : String) : Option Constant :=
  let cs := digits.toList
  let value := Text.digitsValue cs
  if cs ≠ [] ∧ cs.all Char.isDigit ∧ value < Nat.pow 2 63 then some (.long (Int64.ofNat value))
  else (Decimal.readFloat? cs).map .double

/-- The constant that `DATE`, `TIME` or `TIMESTAMP` and a string stand for. -/
def dateConstant (kind : Keyword) (text : String) : Except DateError Constant :=
  match kind with
  | .date => .date <$> Date.ofText text.toList
  | .time => .time <$> Time.ofText text.toList
  | _ => .timestamp <$> Timestamp.ofText text.toList

/-- The comparison a token stands for. -/
def comparison? : Token → Option ComparisonOperator
  | .symbol .equal => some .eq
  | .symbol .notEqual => some .ne
  | .symbol .less => some .lt
  | .symbol .greater => some .gt
  | .symbol .lessEqual => some .le
  | .symbol .greaterEqual => some .ge
  | _ => none

/-- The levels of precedence, from the operators that bind least to what needs none. -/
inductive Level
  | disjunction | conjunction | negation | comparison | bitwise | additive | multiplicative
  | sign | access | primary
  deriving DecidableEq, Repr

namespace Level

/-- The number of the level. -/
def rank : Level → Nat
  | .disjunction => 0
  | .conjunction => 1
  | .negation => 2
  | .comparison => 3
  | .bitwise => 4
  | .additive => 5
  | .multiplicative => 6
  | .sign => 7
  | .access => 8
  | .primary => 9

/-- The level that binds next more. -/
def next : Level → Level
  | .disjunction => .conjunction
  | .conjunction => .negation
  | .negation => .comparison
  | .comparison => .bitwise
  | .bitwise => .additive
  | .additive => .multiplicative
  | .multiplicative => .sign
  | .sign => .access
  | .access | .primary => .primary

/-- How a token joins two expressions at a level whose operators are joined from
    left to right. -/
def join? : Level → Token → Option (Expr → Expr → Expr)
  | .disjunction, .keyword .or => some .or
  | .conjunction, .keyword .and => some .and
  | .bitwise, .symbol .ampersand => some (.binary .bitwiseAnd)
  | .bitwise, .symbol .pipe => some (.binary .bitwiseOr)
  | .bitwise, .symbol .caret => some (.binary .bitwiseXor)
  | .additive, .symbol .plus => some (.binary .add)
  | .additive, .symbol .minus => some (.binary .sub)
  | .additive, .symbol .concat => some (.binary .concat)
  | .multiplicative, .symbol .star => some (.binary .mul)
  | .multiplicative, .symbol .slash => some (.binary .div)
  | .multiplicative, .keyword .div => some (.binary .integerDiv)
  | .multiplicative, .symbol .percent => some (.binary .modulo)
  | .access, .symbol .arrow => some (.binary .jsonAccess)
  | _, _ => none

end Level

/-- An expression with a minus sign in front. The sign becomes part of a number. -/
def negate : Expr → Expr
  | .constant (.long v) => .constant (.long (-v))
  | .constant (.double v) => .constant (.double (-v))
  | e => .negative e

/-- The parameters of a type, after the first one. -/
def typeParameters : (allowance : Nat) → Parser (List String)
  | 0 => fail .tooDeep
  | n + 1 => do
    if ← skip (.symbol .comma) then
      let parameter ← expectNumber
      return parameter :: (← typeParameters n)
    else return []

/-- The type of a cast: a name in capitals, with its parameters if there are any. -/
def typeName (allowance : Nat) : Parser String := do
  let name ←
    match ← peek with
    | .name name => pure (Text.upper name)
    | .keyword .date => pure Keyword.date.text
    | .keyword .time => pure Keyword.time.text
    | .keyword .timestamp => pure Keyword.timestamp.text
    | found => fail (.expectedType found)
  advance
  if ← skip (.symbol .leftParen) then
    let first ← expectNumber
    let others ← typeParameters allowance
    expect (.symbol .rightParen)
    return name ++ "(" ++ ", ".intercalate (first :: others) ++ ")"
  else return name

/-! ## The descent -/

mutual

/-- An expression whose operators bind at least as much as those of a level. -/
def expression : (allowance : Nat) → Level → Parser Expr
  | 0, _ => fail .tooDeep
  | n + 1, .negation => do
    if ← skip (.keyword .not) then return .not (← expression n .negation)
    else expression n .comparison
  | n + 1, .comparison => do condition n (← expression n .bitwise)
  | n + 1, .sign => do
    match ← peek with
    | .symbol .plus =>
      advance
      expression n .sign
    | .symbol .minus =>
      advance
      return negate (← expression n .sign)
    | _ => expression n .access
  | n + 1, .primary => primary n
  | n + 1, level => do joined n level (← expression n level.next)

/-- What operators of a level join to the expression in front of them. -/
def joined : (allowance : Nat) → Level → Expr → Parser Expr
  | 0, _, _ => fail .tooDeep
  | n + 1, level, left => do
    match level.join? (← peek) with
    | some join =>
      advance
      joined n level (join left (← expression n level.next))
    | none => return left

/-- The condition an expression is the subject of, or the expression itself. -/
def condition : (allowance : Nat) → Expr → Parser Expr
  | 0, _ => fail .tooDeep
  | n + 1, subject => do
    if ← skip (.keyword .is) then
      let negated ← skip (.keyword .not)
      expect (.keyword .null)
      return .isNull negated subject
    else
      let negated ← skipNegation
      match ← peek with
      | .keyword .in =>
        advance
        expect (.symbol .leftParen)
        if (← peek) = .keyword .select then
          let sql ← subselect
          expect (.symbol .rightParen)
          return .inSubselect negated subject sql
        else
          let items ← expressions n
          expect (.symbol .rightParen)
          return .inList negated subject items
      | .keyword .between =>
        advance
        let low ← expression n .bitwise
        expect (.keyword .and)
        return .between negated subject low (← expression n .bitwise)
      | .keyword .like =>
        advance
        return .like negated subject (← expression n .bitwise)
      | .symbol .tilde =>
        advance
        return .binary .regexMatch subject (← expression n .bitwise)
      | token =>
        match comparison? token with
        | some op =>
          advance
          return .compare op subject (← expression n .bitwise)
        | none => return subject

/-- A list of one or more expressions. -/
def expressions : (allowance : Nat) → Parser (List Expr)
  | 0 => fail .tooDeep
  | n + 1 => do
    let first ← expression n .disjunction
    if ← skip (.symbol .comma) then return first :: (← expressions n)
    else return [first]

/-- An expression without an operator in front or between. -/
def primary : (allowance : Nat) → Parser Expr
  | 0 => fail .tooDeep
  | n + 1 => do
    match ← peek with
    | .number digits =>
      advance
      match numberConstant? digits with
      | some constant => return .constant constant
      | none => fail (.badNumber digits)
    | .string text =>
      advance
      return .constant (.string text)
    | .keyword .true =>
      advance
      return .boolean true
    | .keyword .false =>
      advance
      return .boolean false
    | .keyword .null =>
      advance
      return .constant .null
    | .keyword .date =>
      advance
      typed n .date "date"
    | .keyword .time =>
      advance
      typed n .time "time"
    | .keyword .timestamp =>
      advance
      typed n .timestamp "timestamp"
    | .name name =>
      advance
      named n name
    | .symbol .leftParen =>
      advance
      if (← peek) = .keyword .select then
        let sql ← subselect
        expect (.symbol .rightParen)
        return .subselect sql
      else
        let inner ← expression n .disjunction
        expect (.symbol .rightParen)
        return .paren inner
    | .keyword .exists =>
      advance
      expect (.symbol .leftParen)
      let sql ← subselect
      expect (.symbol .rightParen)
      return .exists false sql
    | .keyword .case =>
      advance
      let operand ←
        if (← peek) = .keyword .when then pure none
        else some <$> expression n .disjunction
      let branches ← caseBranches n
      if branches.isEmpty then fail .noBranch
      else
        let otherwise ←
          if ← skip (.keyword .else) then some <$> expression n .disjunction
          else pure none
        expect (.keyword .end)
        return .case operand branches otherwise
    | .keyword .cast =>
      advance
      expect (.symbol .leftParen)
      let operand ← expression n .disjunction
      expect (.keyword .as)
      let type ← typeName n
      expect (.symbol .rightParen)
      return .cast operand type
    | found => fail (.unexpected found)

/-- What follows `DATE`, `TIME` or `TIMESTAMP`: the string of a literal, or
    something that makes the word a name. -/
def typed : (allowance : Nat) → (kind : Keyword) → (name : String) → Parser Expr
  | 0, _, _ => fail .tooDeep
  | n + 1, kind, name => do
    match ← peek with
    | .string text =>
      advance
      match dateConstant kind text with
      | .ok constant => return .constant constant
      | .error cause => fail (.badLiteral kind text cause)
    | _ => named n name

/-- What a name begins: a qualified column, a function call or a column. -/
def named : (allowance : Nat) → (name : String) → Parser Expr
  | 0, _ => fail .tooDeep
  | n + 1, name => do
    if ← skip (.symbol .dot) then
      let column ← expectName
      return .column ⟨some name, column⟩
    else if ← skip (.symbol .leftParen) then
      let arguments ←
        if (← peek) = .symbol .rightParen then pure []
        else expressions n
      expect (.symbol .rightParen)
      return .call name arguments
    else return .column ⟨none, name⟩

/-- The branches of a `CASE`. -/
def caseBranches : (allowance : Nat) → Parser (List (Expr × Expr))
  | 0 => fail .tooDeep
  | n + 1 => do
    if ← skip (.keyword .when) then
      let condition ← expression n .disjunction
      expect (.keyword .then)
      let result ← expression n .disjunction
      return (condition, result) :: (← caseBranches n)
    else return []

end

/-! ## Whole filters -/

/-- The allowance for a number of tokens. -/
def allowance (count : Nat) : Nat :=
  16 * (count + 1)

/-- The quote that is not closed, if there is one. -/
def unterminatedQuote? (tokens : List Token) : Option Char :=
  tokens.findSome? fun
    | .unterminated quote => some quote
    | _ => none

/-- An expression that takes all tokens. -/
def filter : Parser Expr :=
  fun tokens =>
    match tokens.headD .endOfInput, unterminatedQuote? tokens with
    | .endOfInput, _ => .error .empty tokens
    | _, some quote => .error (.unterminated quote) tokens
    | _, none =>
      match expression (allowance tokens.length) .disjunction tokens with
      | .error cause rest => .error cause rest
      | .ok e rest =>
        match rest.headD .endOfInput with
        | .endOfInput => .ok e rest
        | found => .error (.trailing found) rest

end Parser

/-- The expression a text holds. -/
def Expr.parse (text : String) : Except ParseError Expr :=
  match Parser.filter (Token.ofString text) with
  | .ok e _ => .ok e
  | .error cause _ => .error cause

end RecordFilter
