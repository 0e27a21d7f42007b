import RecordFilter.Group.Basic
import RecordFilter.Term.Reading

/-!
# Flattening

A filter is a chain of conditions joined by `AND` and `OR`, which groups to the
left: in the tree, what is joined on the right is a single condition. The chain is
taken apart from its end (`Group.ofExpr`), so of several errors the last one in the
text is reported.
-/

namespace RecordFilter.Group

/-- The condition on the right of a joiner. -/
def ofRight (patterns : List DatePattern) (joiner : Joiner) (right : Expr) :
    Except Unsupported Group :=
  if right.isJunction then .error (.nestedOnRight right.describe joiner)
  else return ⟨joiner, ← Term.ofExpr patterns right⟩

/-- The groups of a chain, the last one first. -/
def reversed (patterns : List DatePattern) : Expr → Except Unsupported (List Group)
  | .and left right => do
    let last ← ofRight patterns .and right
    return last :: (← reversed patterns left)
  | .or left right => do
    let last ← ofRight patterns .or right
    return last :: (← reversed patterns left)
  | e => return [⟨.start, ← Term.ofExpr patterns e⟩]

/-- The groups of a chain of conditions. -/
def ofExpr (patterns : List DatePattern) (e : Expr) : Except Unsupported (List Group) :=
  return (← reversed patterns e).reverse

end RecordFilter.Group
