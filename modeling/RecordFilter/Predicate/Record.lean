import RecordFilter.Literal

/-!
# Records

What can be filtered: values with fields that are found by name. A type of records
declares its fields, so that a filter that names another one is rejected when it is
made and not when it is used.
-/

namespace RecordFilter

/-- A type of records. -/
class Record (ρ : Type) where
  /-- The name of the type in messages. -/
  typeName : String
  /-- The names of the fields. -/
  fieldNames : List String
  /-- The value of a field, if the record has it. -/
  field : ρ → String → Option Literal
  /-- What a function of the record gives for an argument, if there is one. Unless
      the type has functions of its own, they are its fields. -/
  call : ρ → String → Option Literal → Option Literal := fun r name _ => field r name

/-- Whether the type declares a field. -/
def Record.hasField (ρ : Type) [Record ρ] (name : String) : Bool :=
  (fieldNames ρ).contains name

end RecordFilter
