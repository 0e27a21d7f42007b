import RecordFilter.Arithmetic

/-!
# Parameters of functions

The arguments of a call become values. Arithmetic is computed, and so are calls
of calendar units; a string that is a date stands for its milliseconds. Columns
and other calls are not looked up but passed on by their text.
-/

namespace RecordFilter

/-- The value of an argument of a call. -/
def Expr.parameter (patterns : List DatePattern) : Expr → Except Unsupported Literal
  | .constant (.string text) =>
    match DateText.millis? patterns text with
    | some millis => return .long (Int64.ofInt millis)
    | none => return .string text
  | .constant c => return c.toLiteral
  | .column c => return .string c.text
  | e@(.call function _) =>
    if (calendarUnit? function).isSome then return .long (← e.evaluate patterns)
    else return .string e.text
  | e@(.binary op _ _) =>
    if op.isArithmetic then return .long (← e.evaluate patterns)
    else throw (.parameter op.describe)
  | e => throw (.parameter e.describe)

/-- The values of the arguments of an expression that is a call. -/
def Expr.parameters (patterns : List DatePattern) : Expr → Except Unsupported (List Literal)
  | .call _ arguments => arguments.mapM (parameter patterns)
  | e => throw (.notACall e.describe)

end RecordFilter
