/-!
# Columns

A column is named alone or together with the table it belongs to.
-/

namespace RecordFilter

/-- A reference to a column. -/
structure Column where
  table : Option String := none
  name : String
  deriving DecidableEq, Repr

/-- The name of the column, after the name of its table if there is one. -/
def Column.text (c : Column) : String :=
  match c.table with
  | some table => table ++ "." ++ c.name
  | none => c.name

end RecordFilter
