import RecordFilter.Term.Basic

/-!
# Groups

A filter is a list of terms in the order in which they are written, each with the
word that joins it to the terms in front.
-/

namespace RecordFilter

/-- A term and how it is joined to the terms in front of it. -/
structure Group where
  joiner : Joiner
  term : Term
  deriving BEq

/-- The group as it is written. -/
def Group.text (g : Group) : String :=
  match g.joiner with
  | .start => g.term.text
  | joiner => joiner.text ++ " " ++ g.term.text

end RecordFilter
