import RecordFilter.DateText
import RecordFilter.Expr.Printer
import RecordFilter.FilterError

/-!
# Arithmetic

Arithmetic expressions are computed in whole numbers of 64 bits; what does not
fit is an error. Dates, times and strings that are dates count as milliseconds.

Operands are put on a stack in the order in which they are written, and an
operator takes the two last ones off. A call of a calendar unit, as `days(2)`,
sets a scale for the next whole number, which is then counted in that unit. An
expression has a value if in the end there is exactly one number on the stack.
-/

namespace RecordFilter

/-- The number, if it fits into 64 bits. -/
def fit? (n : Int) : Option Int64 :=
  if -9223372036854775808 ≤ n ∧ n ≤ 9223372036854775807 then some (Int64.ofInt n) else none

/-- The milliseconds of the calendar unit with the given name, in any case and
    with or without an s at the end. -/
def calendarUnit? (name : String) : Option Int64 :=
  match name.map Char.toLower with
  | "day" | "days" => some 86400000
  | "hour" | "hours" => some 3600000
  | "minute" | "minutes" => some 60000
  | "second" | "seconds" => some 1000
  | _ => none

namespace BinaryOperator

/-- The exact result of an arithmetic operator. Division is truncated toward
    zero; the divisor is not zero. -/
def unbounded? : BinaryOperator → Int → Int → Option Int
  | .add, a, b => some (a + b)
  | .sub, a, b => some (a - b)
  | .mul, a, b => some (a * b)
  | .div, a, b => some (a.tdiv b)
  | .integerDiv, a, b => some (a.tdiv b)
  | _, _, _ => none

/-- The result of an arithmetic operator in 64 bits. -/
def compute (op : BinaryOperator) (a b : Int64) : Except Unsupported Int64 :=
  if (op = .div ∨ op = .integerDiv) ∧ b = 0 then .error .divisionByZero
  else
    match op.unbounded? a.toInt b.toInt with
    | none => .error (.inArithmetic op.describe)
    | some unbounded =>
      match fit? unbounded with
      | some result => .ok result
      | none => .error (.overflow a op b)

end BinaryOperator

namespace Arithmetic

/-- How far an expression has been computed. -/
structure State where
  /-- The numbers not yet used, the last one first. -/
  stack : List Int64 := []
  /-- What the next whole number is multiplied by. -/
  scale : Int64 := 1

namespace State

/-- Puts a number on the stack. -/
def push (s : State) (n : Int64) : State :=
  { s with stack := n :: s.stack }

/-- Takes the two last numbers off the stack and puts their result on it. -/
def apply (s : State) (op : BinaryOperator) : Except Unsupported State :=
  match s.stack with
  | right :: left :: rest =>
    match op.compute left right with
    | .ok result => .ok { s with stack := result :: rest }
    | .error cause => .error cause
  | _ => .error (.missingOperand op)

/-- Puts a constant on the stack. Whole numbers are scaled, which ends the scale. -/
def pushConstant (patterns : List DatePattern) (s : State) :
    Constant → Except Unsupported State
  | .long v =>
    match fit? (v.toInt * s.scale.toInt) with
    | some n => .ok { stack := n :: s.stack }
    | none => .error (.scalingOverflow v s.scale)
  | .string text =>
    match DateText.millis? patterns text with
    | some n => .ok (s.push (Int64.ofInt n))
    | none => .error (.notADate text)
  | .date v => .ok (s.push (Int64.ofInt v.epochMillis))
  | .time v => .ok (s.push (Int64.ofNat v.dayMillis))
  | .timestamp v => .ok (s.push (Int64.ofInt v.epochMillis))
  | c => .error (.inArithmetic c.describe)

end State

mutual

/-- Computes an expression. -/
def run (patterns : List DatePattern) (s : State) : Expr → Except Unsupported State
  | .constant c => s.pushConstant patterns c
  | .binary op left right =>
    if op.isArithmetic then do
      let s ← run patterns s left
      let s ← run patterns s right
      s.apply op
    else .error (.inArithmetic op.describe)
  | .call function arguments =>
    match calendarUnit? function with
    | some unit => runAll patterns { s with scale := unit } arguments
    | none => .error (.functionInArithmetic function)
  | e => .error (.inArithmetic e.describe)

/-- Computes expressions one after the other. -/
def runAll (patterns : List DatePattern) (s : State) : List Expr → Except Unsupported State
  | [] => .ok s
  | e :: es => do
    let s ← run patterns s e
    runAll patterns s es

end

end Arithmetic

/-- The value of an arithmetic expression. -/
def Expr.evaluate (patterns : List DatePattern) (e : Expr) : Except Unsupported Int64 := do
  let s ← Arithmetic.run patterns {} e
  match s.stack with
  | [value] => return value
  | _ => throw (.notOneValue e.text)

end RecordFilter
