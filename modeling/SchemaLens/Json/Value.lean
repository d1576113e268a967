/-!
# JSON values

JSON as data. Numbers come in two forms: whole numbers written without fraction and exponent are
exact integers of any size, every other number is kept as it is written. Members of an object
keep their order.
-/

namespace SchemaLens

/-- A JSON value. -/
inductive Json where
  | null
  | bool (value : Bool)
  /-- A number without fraction and exponent. -/
  | integer (value : Int)
  /-- A number with a fraction or an exponent, as it is written. -/
  | decimal (literal : String)
  | string (text : String)
  | array (elements : List Json)
  | object (members : List (String × Json))
deriving Repr, Inhabited, BEq

end SchemaLens
