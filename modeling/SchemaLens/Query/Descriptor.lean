import SchemaLens.Data.OrderedMap
import SchemaLens.Query.Kind
import SchemaLens.Query.Part

/-!
# Query descriptors

What one request asks for, apart from the database it is asked of. Six kinds of descriptor are
filled by filter parameters: a part of a type that the kind takes is stored by `apply`, where
conditions add up, projections merge and the other parts replace the one before.
-/

namespace SchemaLens.Query

/-- A request for a list of rows. -/
structure FindQuery where
  projection : Option Projection := none
  conditions : List Condition := []
  order : Option SortOrder := none
  limit : Option Limit := none
  skip : Option Skip := none
deriving DecidableEq, Repr

/-- A request for the first row that fits. -/
structure FindOneQuery where
  projection : Option Projection := none
  conditions : List Condition := []
  order : Option SortOrder := none
  skip : Option Skip := none
deriving DecidableEq, Repr

/-- A request for the row with an identifier. -/
structure FindByIdQuery where
  modelId : String := ""
  projection : Option Projection := none
deriving DecidableEq, Repr

/-- A request for the number of rows that fit. -/
structure CountQuery where
  conditions : List Condition := []
deriving DecidableEq, Repr

/-- A request whether there is a row with an identifier. -/
structure ExistsQuery where
  modelId : String := ""
deriving DecidableEq, Repr

/-- A request to add a row. -/
structure InsertQuery where
  /-- Values by field, in the order given. -/
  data : OrderedMap String := .empty
deriving DecidableEq

/-- A request to change the row with an identifier. -/
structure UpdateByIdQuery where
  modelId : String := ""
  /-- Values by field, in the order given. -/
  data : OrderedMap String := .empty
deriving DecidableEq

/-- A request to change every row that fits. -/
structure UpdateQuery where
  /-- Values by field, in the order given. -/
  data : OrderedMap String := .empty
  conditions : List Condition := []
deriving DecidableEq

/-- A request to remove the row with an identifier. -/
structure DestroyByIdQuery where
  modelId : String := ""
deriving DecidableEq, Repr

/-- A request to remove every row that fits. -/
structure DestroyQuery where
  conditions : List Condition := []
deriving DecidableEq, Repr

/-- A projection to start with, or the one present merged with it. -/
def mergeProjection (present : Option Projection) (later : Projection) : Projection :=
  match present with
  | none => later
  | some projection => projection.merge later

namespace QueryKind

/-- The descriptors of a kind. -/
abbrev Descriptor : QueryKind → Type
  | .find => FindQuery
  | .findOne => FindOneQuery
  | .findById => FindByIdQuery
  | .count => CountQuery
  | .update => UpdateQuery
  | .destroy => DestroyQuery

/-- The descriptor of a kind that asks for nothing yet. -/
def blank : (kind : QueryKind) → kind.Descriptor
  | .find => ({} : FindQuery)
  | .findOne => ({} : FindOneQuery)
  | .findById => ({} : FindByIdQuery)
  | .count => ({} : CountQuery)
  | .update => ({} : UpdateQuery)
  | .destroy => ({} : DestroyQuery)

end QueryKind

namespace FindQuery

/-- Stores a part. -/
def apply (query : FindQuery) : FilterPart → FindQuery
  | .fields projection => { query with projection := mergeProjection query.projection projection }
  | .condition condition => { query with conditions := query.conditions ++ [condition] }
  | .order order => { query with order := order }
  | .limit limit => { query with limit := limit }
  | .skip skip => { query with skip := skip }

end FindQuery

namespace FindOneQuery

/-- Stores a part; there is no room for a limit. -/
def apply (query : FindOneQuery) : FilterPart → FindOneQuery
  | .fields projection => { query with projection := mergeProjection query.projection projection }
  | .condition condition => { query with conditions := query.conditions ++ [condition] }
  | .order order => { query with order := order }
  | .limit _ => query
  | .skip skip => { query with skip := skip }

end FindOneQuery

namespace FindByIdQuery

/-- Stores a part; there is room for a projection only. -/
def apply (query : FindByIdQuery) : FilterPart → FindByIdQuery
  | .fields projection => { query with projection := mergeProjection query.projection projection }
  | _ => query

end FindByIdQuery

namespace CountQuery

/-- Stores a part; there is room for conditions only. -/
def apply (query : CountQuery) : FilterPart → CountQuery
  | .condition condition => { query with conditions := query.conditions ++ [condition] }
  | _ => query

end CountQuery

namespace UpdateQuery

/-- Stores a part; there is room for conditions only. -/
def apply (query : UpdateQuery) : FilterPart → UpdateQuery
  | .condition condition => { query with conditions := query.conditions ++ [condition] }
  | _ => query

end UpdateQuery

namespace DestroyQuery

/-- Stores a part; there is room for conditions only. -/
def apply (query : DestroyQuery) : FilterPart → DestroyQuery
  | .condition condition => { query with conditions := query.conditions ++ [condition] }
  | _ => query

end DestroyQuery

/-- Stores a part in a descriptor; a part the kind has no room for is left out. -/
def QueryKind.apply : (kind : QueryKind) → kind.Descriptor → FilterPart → kind.Descriptor
  | .find => FindQuery.apply
  | .findOne => FindOneQuery.apply
  | .findById => FindByIdQuery.apply
  | .count => CountQuery.apply
  | .update => UpdateQuery.apply
  | .destroy => DestroyQuery.apply

end SchemaLens.Query
