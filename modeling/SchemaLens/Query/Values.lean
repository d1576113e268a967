import SchemaLens.Data.OrderedMap

/-!
# Query values

The parameters of a query string: each key with its values, keys in the order in which they
first came and the values of a key in theirs.
-/

namespace SchemaLens.Query

/-- Parameters with their values. -/
abbrev Values := OrderedMap (List String)

namespace Values

/-- The values of a key with one more at their end. -/
def withValue (value : String) (present : Option (List String)) : List String :=
  present.getD [] ++ [value]

/-- Adds a value to a key, after the values it has. -/
def append (values : Values) (key value : String) : Values :=
  values.alter key (withValue value)

/-- Collects pairs of a key and a value. -/
def ofPairs (pairs : List (String × String)) : Values :=
  pairs.foldl (fun values pair => values.append pair.1 pair.2) .empty

end Values

end SchemaLens.Query
