import RecordFilter.Config
import RecordFilter.Expr.Parser
import RecordFilter.Filter
import RecordFilter.Group.Flatten
import RecordFilter.Predicate.Standard

/-!
# Filters from text

The whole way from a text to its groups (`Group.ofText`) and to a filter of records
(`Filter.ofText`).
-/

namespace RecordFilter

/-- Why a text is no filter. -/
inductive TextError
  /-- The text is no expression. -/
  | parse (cause : ParseError)
  /-- The expression is no filter. -/
  | filter (cause : FilterError)
  deriving DecidableEq

namespace TextError

/-- What is wrong, in words. -/
def message : TextError → String
  | .parse cause => cause.message
  | .filter cause => cause.message

/-- What lies behind the error, in words. -/
def causes : TextError → List String
  | .parse cause => cause.causes
  | .filter _ => []

end TextError

/-- The groups of a text. -/
def Group.ofText (config : Config) (text : String) : Except TextError (List Group) := do
  let e ← (Expr.parse text).mapError .parse
  (Group.ofExpr config.datePatterns e).mapError fun cause => .filter (.unsupported cause)

/-- The filter of a text. -/
def Filter.ofText {ρ : Type} [Record ρ] (config : Config) (text : String) :
    Except TextError (Filter ρ) := do
  let groups ← Group.ofText config text
  (Filter.ofGroups (.standard config) groups).mapError .filter

end RecordFilter
