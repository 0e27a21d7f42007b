import RecordFilter.Text.CaseFold

/-!
# Patterns with wildcards

In the pattern of `LIKE` a percent sign stands for any text and an underscore for
any one character; every other character stands for itself. The whole text has to
be matched. A pattern can be written as an anchored regular expression
(`Wildcard.regex`), in which a dot stands for any character, line ends included.

Matching goes through the pattern from its end. For each part of it a row of
answers tells which ends of the text the pattern from there on matches
(`Wildcard.row`), the longest end first, so the time is at most the product of the
two lengths.
-/

namespace RecordFilter

/-- A part of a pattern. -/
inductive WildcardAtom
  | anyText
  | anyChar
  | char (c : Char)
  deriving DecidableEq, Repr

/-- A pattern with wildcards. -/
abbrev Wildcard := List WildcardAtom

namespace WildcardAtom

/-- The part of a pattern that a character of it is. -/
def ofChar (c : Char) : WildcardAtom :=
  if c = '%' then .anyText else if c = '_' then .anyChar else .char c

/-- From the answers for the rest of the pattern, the answers with this part in
    front. Characters are compared by the given test. -/
def row (same : Char → Char → Bool) (text : List Char) (next : List Bool) :
    WildcardAtom → List Bool
  | .anyText => next.foldr (fun here after => (here || after.headD false) :: after) []
  | .anyChar => next.tail ++ [false]
  | .char c => List.zipWith (fun x after => same c x && after) text next.tail ++ [false]

end WildcardAtom

namespace Wildcard

/-- The pattern that is written as the given text. -/
def ofString (pattern : String) : Wildcard :=
  pattern.toList.map WildcardAtom.ofChar

/-- The characters with a meaning of their own in a regular expression. -/
def regexSigns : List Char :=
  ['\\', '.', '+', '*', '?', '(', ')', '|', '[', ']', '\x7b', '\x7d', '^', '$', '#', '&', '-', '~']

/-- The regular expression of a text that stands for itself. -/
def escape (literal : String) : String :=
  String.ofList (literal.toList.flatMap fun c => if regexSigns.contains c then ['\\', c] else [c])

/-- Writes a pattern as a regular expression behind what is written already. Characters that
    stand for themselves are collected, and escaped together when a wildcard or the end
    comes. -/
def regexFrom (written literal : String) : Wildcard → String
  | [] => written ++ escape literal ++ "$"
  | .anyText :: w => regexFrom (written ++ escape literal ++ ".*") "" w
  | .anyChar :: w => regexFrom (written ++ escape literal ++ ".") "" w
  | .char c :: w => regexFrom written (literal.push c) w

/-- The pattern as a regular expression. -/
def regex (w : Wildcard) : String :=
  regexFrom "^" "" w

/-- For each end of the text, from the whole of it to the empty one, whether the
    pattern matches it. -/
def row (same : Char → Char → Bool) (text : List Char) : Wildcard → List Bool
  | [] => text.map (fun _ => false) ++ [true]
  | atom :: w => atom.row same text (row same text w)

/-- Whether two characters are the same, regardless of case if so wanted. -/
def sameChar (ignoreCase : Bool) (a b : Char) : Bool :=
  if ignoreCase then Text.caseFold a == Text.caseFold b else a == b

/-- Whether the pattern matches the text. -/
def isMatch (ignoreCase : Bool) (w : Wildcard) (text : String) : Bool :=
  (w.row (sameChar ignoreCase) text.toList).headD false

end Wildcard

end RecordFilter
