import SchemaLens.Data.Named

/-!
# Query kinds and filter types

A filter parameter has one of five types, and each kind of query accepts some of them.
-/

namespace SchemaLens.Query

/-- The type of a filter parameter. -/
inductive FilterType where
  | fields
  | condition
  | order
  | limit
  | skip
deriving DecidableEq, Repr

instance : Named FilterType where
  members := [.fields, .condition, .order, .limit, .skip]
  name
    | .fields => "fields"
    | .condition => "where"
    | .order => "order"
    | .limit => "limit"
    | .skip => "skip"

/-- A kind of query that filter parameters can fill. -/
inductive QueryKind where
  | find
  | findOne
  | findById
  | count
  | update
  | destroy
deriving DecidableEq, Repr

namespace QueryKind

/-- What a kind is called in messages. -/
def title : QueryKind → String
  | .find => "findQuery"
  | .findOne => "findOneQuery"
  | .findById => "findByIdQuery"
  | .count => "countQuery"
  | .update => "updateQuery"
  | .destroy => "destroyQuery"

/-- Whether a kind of query takes a type of filter. -/
def accepts : QueryKind → FilterType → Bool
  | .find, _ => true
  | .findOne, filterType => filterType ≠ .limit
  | .findById, filterType => filterType = .fields
  | .count, filterType => filterType = .condition
  | .update, filterType => filterType = .condition
  | .destroy, filterType => filterType = .condition

end QueryKind

end SchemaLens.Query
