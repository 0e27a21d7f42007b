/-!
# JSON values

Values for data exchange. The members of an object are kept in the order in which
they are written, and a name may occur more than once.
-/

namespace RecordFilter

/-- A JSON value. -/
inductive Json
  | null
  | bool (value : Bool)
  | whole (value : Int)
  | double (value : Float)
  | string (value : String)
  | array (items : List Json)
  | object (members : List (String × Json))
  /-- What is written correctly but stands for no value: a number that is too
      large, half of a surrogate pair, or an object with such a name. It can be
      passed over but not be used. -/
  | unusable

namespace Json

/-- The object of a single member, which tells by its name which form of a value it holds. -/
def tagged (tag : String) (value : Json) : Json :=
  .object [(tag, value)]

/-- The member of a name, if there is one. A name that occurs twice is an error. -/
def member? (members : List (String × Json)) (name : String) : Option (Option Json) :=
  match members.filter fun m => m.1 == name with
  | [] => some none
  | [(_, value)] => some (some value)
  | _ => none

end Json

end RecordFilter
