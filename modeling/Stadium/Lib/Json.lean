import Mathlib

/-!
# JSON values

The values `JSON.parse` returns: numbers are exact and finite, an object is
the list of its fields in the order of its keys. A field is looked up by its
key; the keys of one object are distinct in every value that was parsed.
-/

inductive Json where
  | null
  | bool (value : Bool)
  | num (value : ℚ)
  | str (value : String)
  | arr (items : List Json)
  | obj (fields : List (String × Json))

namespace Json

/-- The fields of an object. -/
abbrev Fields := List (String × Json)

/-- The value of a field; `none` when it is absent. -/
def field (fields : Fields) (key : String) : Option Json := fields.lookup key

/-- The type of a value, as validators name it. -/
def typeName : Json → String
  | .null => "null"
  | .bool _ => "boolean"
  | .num _ => "number"
  | .str _ => "string"
  | .arr _ => "array"
  | .obj _ => "object"

end Json
