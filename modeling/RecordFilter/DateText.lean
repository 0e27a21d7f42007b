import RecordFilter.Calendar.Reader

/-!
# Strings as dates

A string in a filter may be meant as a date. It is tidied first (`normalize`) and
then read by the patterns of the settings, in their order; the first pattern
that takes the whole string gives the point in time.
-/

namespace RecordFilter.DateText

/-- The text without blanks around it and quotes in it, and with hyphens for
    slashes and points. -/
def normalize (cs : List Char) : List Char :=
  ((Text.trim cs).filter fun c => c ≠ '\'' ∧ c ≠ '"').map fun c =>
    if c = '/' ∨ c = '.' then '-' else c

/-- The milliseconds since the beginning of 1970 that a text stands for by one
    pattern, which may have a time of day or not. -/
def millisBy? (cs : List Char) (pattern : DatePattern) : Option Int :=
  match pattern.read cs with
  | .error _ => none
  | .ok parts =>
    match parts.timestamp with
    | .ok t => some t.epochMillis
    | .error _ => parts.date.toOption.map Date.epochMillis

/-- The milliseconds since the beginning of 1970 that a text stands for, if it
    is a date. -/
def millis? (patterns : List DatePattern) (text : String) : Option Int :=
  let cs := normalize text.toList
  if cs.isEmpty then none else patterns.findSome? (millisBy? cs)

end RecordFilter.DateText
