import RecordFilter.Calendar.Reader
import RecordFilter.Token.Basic

/-!
# Why a filter cannot be read

Each cause has a message. A date literal that is no date has a further cause,
what is wrong with the date.
-/

namespace RecordFilter

/-- Why a text is not an expression. -/
inductive ParseError
  /-- There is nothing to read. -/
  | empty
  /-- A quote is not closed. -/
  | unterminated (quote : Char)
  /-- The expression ends in front of the token. -/
  | trailing (found : Token)
  /-- No expression begins with the token. -/
  | unexpected (found : Token)
  /-- Another token has to stand in place of the one found. -/
  | expected (wanted found : Token)
  | expectedName (found : Token)
  | expectedNumber (found : Token)
  | expectedType (found : Token)
  /-- A `CASE` has no `WHEN`. -/
  | noBranch
  /-- The parenthesis around a sub-select is not closed. -/
  | openSubselect
  /-- The string after `DATE`, `TIME` or `TIMESTAMP` is none. -/
  | badLiteral (kind : Keyword) (text : String) (cause : DateError)
  | badNumber (digits : String)
  /-- The allowance for nested expressions is used up. -/
  | tooDeep
  deriving DecidableEq, Repr

namespace ParseError

/-- What is wrong, in words. -/
def message : ParseError → String
  | .empty => "Empty filter expression"
  | .unterminated quote =>
    if quote = '\'' then "Unterminated string literal"
    else "Unterminated quoted identifier: missing closing " ++ quote.toString
  | .trailing found => "Unexpected token after expression: " ++ found.text
  | .unexpected found => "Unexpected token: " ++ found.text
  | .expected wanted found => "Expected " ++ wanted.text ++ ", found " ++ found.text
  | .expectedName found => "Expected identifier, found " ++ found.text
  | .expectedNumber found => "Expected number, found " ++ found.text
  | .expectedType found => "Expected data type, found " ++ found.text
  | .noBranch => "CASE requires at least one WHEN clause"
  | .openSubselect => "Unterminated sub-select"
  | .badLiteral kind text _ => "Invalid " ++ kind.text ++ " literal '" ++ text ++ "'"
  | .badNumber digits => "Invalid number: " ++ digits
  | .tooDeep => "Expression is nested too deeply"

/-- What lies behind the error, in words. -/
def causes : ParseError → List String
  | .badLiteral _ _ cause => [cause.message]
  | _ => []

end ParseError

end RecordFilter
