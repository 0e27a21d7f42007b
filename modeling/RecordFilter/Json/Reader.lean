import RecordFilter.Json.Number

/-!
# Reading JSON

A text is divided into brackets, commas, colons and scalars, which are then put
together to a value (`Json.ofText?`). The text has to be JSON to the letter: no
comments, no comma after the last item, no leading zeros, nothing after the value.

Strings are read as UTF-16 units, since a character may be written as two escapes;
a unit that stands alone where it should not makes the string unusable.
-/

namespace RecordFilter

/-- A piece of a JSON text. -/
inductive JsonToken
  | openArray | closeArray | openObject | closeObject | comma | colon
  /-- A string; it has no text if half of a surrogate pair is in it. -/
  | string (text : Option String)
  /-- A number, `true`, `false` or `null`. -/
  | scalar (value : Json)

namespace JsonToken

/-! ## Strings -/

/-- The value of a hexadecimal digit. -/
def hexValue? (c : Char) : Option Nat :=
  if c.isDigit then some (c.toNat - '0'.toNat)
  else if 'a' ≤ c ∧ c ≤ 'f' then some (c.toNat - 'a'.toNat + 10)
  else if 'A' ≤ c ∧ c ≤ 'F' then some (c.toNat - 'A'.toNat + 10)
  else none

/-- The value of four hexadecimal digits. -/
def unit? (a b c d : Char) : Option Nat := do
  return (← hexValue? a) * 4096 + (← hexValue? b) * 256 + (← hexValue? c) * 16 + (← hexValue? d)

/-- The character an escape of a single letter stands for. -/
def escape? : Char → Option Char
  | '"' => some '"'
  | '\\' => some '\\'
  | '/' => some '/'
  | 'b' => some '\x08'
  | 'f' => some '\x0c'
  | 'n' => some '\n'
  | 'r' => some '\r'
  | 't' => some '\t'
  | _ => none

/-- The units up to the closing quote and what follows it. A unit is a character or
    a half of a surrogate pair. -/
def readUnits? : List Char → Option (List Nat × List Char)
  | '"' :: rest => some ([], rest)
  | '\\' :: 'u' :: a :: b :: c :: d :: rest => do
    let unit ← unit? a b c d
    let (units, rest) ← readUnits? rest
    return (unit :: units, rest)
  | '\\' :: c :: rest => do
    let char ← escape? c
    let (units, rest) ← readUnits? rest
    return (char.toNat :: units, rest)
  | c :: rest =>
    if c.toNat < 0x20 then none
    else do
      let (units, rest) ← readUnits? rest
      return (c.toNat :: units, rest)
  | [] => none

/-- Whether a unit is the first half of a pair. -/
def isHigh (unit : Nat) : Bool :=
  0xD800 ≤ unit && unit ≤ 0xDBFF

/-- Whether a unit is the second half of a pair. -/
def isLow (unit : Nat) : Bool :=
  0xDC00 ≤ unit && unit ≤ 0xDFFF

/-- The characters of units, if all halves are paired. -/
def joinUnits? : List Nat → Option (List Char)
  | [] => some []
  | [unit] => if isHigh unit || isLow unit then none else some [Char.ofNat unit]
  | high :: low :: rest =>
    if isHigh high && isLow low then
      (joinUnits? rest).map (Char.ofNat ((high - 0xD800) * 1024 + (low - 0xDC00) + 0x10000) :: ·)
    else if isHigh high || isLow high then none
    else (joinUnits? (low :: rest)).map (Char.ofNat high :: ·)

/-! ## Numbers -/

/-- Splits off the digits that a text begins with. -/
def readDigits (cs : List Char) : List Char × List Char :=
  (cs.takeWhile Char.isDigit, cs.dropWhile Char.isDigit)

/-- Reads an exponent, after its mark. -/
def readExponent? (cs : List Char) : Option (Int × List Char) :=
  let (negative, cs) :=
    match cs with
    | '-' :: rest => (true, rest)
    | '+' :: rest => (false, rest)
    | rest => (false, rest)
  match readDigits cs with
  | ([], _) => none
  | (digits, rest) =>
    let exponent : Int := Text.digitsValue digits
    some (if negative then -exponent else exponent, rest)

/-- Reads the rest of a number after its digits in front of the point. -/
def readFraction? (negative : Bool) (whole cs : List Char) : Option (NumberText × List Char) := do
  let (fraction, cs) ←
    match cs with
    | '.' :: rest =>
      match readDigits rest with
      | ([], _) => none
      | found => some found
    | rest => some ([], rest)
  match cs with
  | 'e' :: rest | 'E' :: rest =>
    let (exponent, rest) ← readExponent? rest
    return (⟨negative, whole, fraction, some exponent⟩, rest)
  | rest => return (⟨negative, whole, fraction, none⟩, rest)

/-- Reads a number after its sign. -/
def readNumber? (negative : Bool) (cs : List Char) : Option (NumberText × List Char) :=
  match readDigits cs with
  | ([], _) => none
  | (['0'], rest) => readFraction? negative ['0'] rest
  | ('0' :: _, _) => none
  | (whole, rest) => readFraction? negative whole rest

/-! ## Pieces -/

/-- The first piece of a text that does not begin with a space. -/
def next? : List Char → Option (JsonToken × List Char)
  | '[' :: rest => some (.openArray, rest)
  | ']' :: rest => some (.closeArray, rest)
  | '\x7b' :: rest => some (.openObject, rest)
  | '\x7d' :: rest => some (.closeObject, rest)
  | ',' :: rest => some (.comma, rest)
  | ':' :: rest => some (.colon, rest)
  | 'n' :: 'u' :: 'l' :: 'l' :: rest => some (.scalar .null, rest)
  | 't' :: 'r' :: 'u' :: 'e' :: rest => some (.scalar (.bool true), rest)
  | 'f' :: 'a' :: 'l' :: 's' :: 'e' :: rest => some (.scalar (.bool false), rest)
  | '"' :: rest => do
    let (units, rest) ← readUnits? rest
    return (.string ((joinUnits? units).map String.ofList), rest)
  | '-' :: rest => do
    let (number, rest) ← readNumber? true rest
    return (.scalar number.value, rest)
  | rest => do
    let (number, rest) ← readNumber? false rest
    return (.scalar number.value, rest)

/-- Whether a character may stand between pieces. -/
def isSpace (c : Char) : Bool :=
  c == ' ' || c == '\t' || c == '\n' || c == '\r'

/-- The pieces of a text. Each takes at least one character, so as many steps as
    there are characters suffice. -/
def scan : (fuel : Nat) → List Char → Option (List JsonToken)
  | 0, cs => if cs.all isSpace then some [] else none
  | fuel + 1, cs =>
    match cs.dropWhile isSpace with
    | [] => some []
    | cs => do
      let (token, rest) ← next? cs
      let tokens ← scan fuel rest
      return token :: tokens

end JsonToken

namespace Json

/-- An object, which is unusable if one of its names is. -/
def ofMembers (members : List (Option String × Json)) : Json :=
  match members.mapM fun m => m.1.map (·, m.2) with
  | some members => .object members
  | none => .unusable

mutual

/-- Reads a value. -/
def value? : (fuel : Nat) → List JsonToken → Option (Json × List JsonToken)
  | fuel + 1, .openArray :: rest =>
    match rest with
    | .closeArray :: rest => some (.array [], rest)
    | rest => do
      let (items, rest) ← items? fuel rest
      return (.array items, rest)
  | fuel + 1, .openObject :: rest =>
    match rest with
    | .closeObject :: rest => some (.object [], rest)
    | rest => do
      let (members, rest) ← members? fuel rest
      return (ofMembers members, rest)
  | _ + 1, .string (some text) :: rest => some (.string text, rest)
  | _ + 1, .string none :: rest => some (.unusable, rest)
  | _ + 1, .scalar value :: rest => some (value, rest)
  | _, _ => none

/-- Reads the items of an array and its closing bracket. -/
def items? : (fuel : Nat) → List JsonToken → Option (List Json × List JsonToken)
  | fuel + 1, tokens => do
    let (item, rest) ← value? fuel tokens
    match rest with
    | .closeArray :: rest => return ([item], rest)
    | .comma :: rest =>
      let (items, rest) ← items? fuel rest
      return (item :: items, rest)
    | _ => none
  | 0, _ => none

/-- Reads the members of an object and its closing brace. -/
def members? : (fuel : Nat) → List JsonToken →
    Option (List (Option String × Json) × List JsonToken)
  | fuel + 1, .string name :: .colon :: rest => do
    let (value, rest) ← value? fuel rest
    match rest with
    | .closeObject :: rest => return ([(name, value)], rest)
    | .comma :: rest =>
      let (members, rest) ← members? fuel rest
      return ((name, value) :: members, rest)
    | _ => none
  | _, _ => none

end

/-- The value a text holds. Between two tokens that are passed there are at most two
    steps, so the fuel suffices. -/
def ofText? (text : String) : Option Json := do
  let cs := text.toList
  let tokens ← JsonToken.scan cs.length cs
  match ← value? (2 * tokens.length + 1) tokens with
  | (value, []) => return value
  | _ => none

end Json

end RecordFilter
