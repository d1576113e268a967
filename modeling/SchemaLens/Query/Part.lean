import SchemaLens.Data.Named
import SchemaLens.Text.Ascii

/-!
# Query parts

The parts that make up a query: which fields to show, which rows to keep, how to order them, how
many of them to return and how many to skip.

A projection never lets a later mention of a field stand beside an earlier one on the other side:
including a field takes it from the excluded ones, and the other way round.
-/

namespace SchemaLens.Query

/-- Which way an order entry runs. -/
inductive SortDirection where
  | ascending
  | descending
deriving DecidableEq, Repr

instance : Named SortDirection where
  members := [.ascending, .descending]
  name
    | .ascending => "asc"
    | .descending => "desc"

/-- The direction a word names, in any ASCII case. -/
def SortDirection.ofWord? (word : List Char) : Option SortDirection :=
  Named.ofName? (String.ofList (Text.asciiLower word))

/-- How a condition compares a field with its value. -/
inductive Operator where
  | eq
  | neq
  | gt
  | gte
  | lt
  | lte
  | like
  | nlike
  | inq
  | nin
  | between
deriving DecidableEq, Repr

instance : Named Operator where
  members := [.eq, .neq, .gt, .gte, .lt, .lte, .like, .nlike, .inq, .nin, .between]
  name
    | .eq => "eq"
    | .neq => "neq"
    | .gt => "gt"
    | .gte => "gte"
    | .lt => "lt"
    | .lte => "lte"
    | .like => "like"
    | .nlike => "nlike"
    | .inq => "inq"
    | .nin => "nin"
    | .between => "between"

/-- The operator a word names, in any ASCII case. -/
def Operator.ofWord? (word : String) : Option Operator :=
  Named.ofName? (String.ofList (Text.asciiLower word.toList))

/-- One condition on the rows of a query. The value is kept as it was given. -/
structure Condition where
  /-- The field that is compared. -/
  fieldName : String
  /-- How it is compared. -/
  operator : Operator
  /-- What it is compared with. -/
  value : String
deriving DecidableEq, Repr

/-- One field to order by. -/
structure OrderEntry where
  /-- The field. -/
  fieldName : String
  /-- Which way it runs. -/
  direction : SortDirection
deriving DecidableEq, Repr

/-- The fields to order by, the most significant first. -/
structure SortOrder where
  /-- The entries, in the order given. -/
  entries : List OrderEntry
deriving DecidableEq, Repr

/-- The greatest number of rows to return. -/
structure Limit where
  /-- The number of rows. -/
  count : UInt64
deriving DecidableEq, Repr

/-- The number of rows to pass over. -/
structure Skip where
  /-- The number of rows. -/
  count : UInt64
deriving DecidableEq, Repr

/-- Which fields to show. -/
structure Projection where
  /-- Fields asked for. -/
  included : List String := []
  /-- Fields asked to be left out. -/
  excluded : List String := []
deriving DecidableEq, Repr, Inhabited

namespace Projection

/-- A list of names with one more name, unless it is listed already. -/
def addName (names : List String) (name : String) : List String :=
  if name ∈ names then names else names ++ [name]

/-- Includes a field and takes it from the excluded ones. -/
def includeField (projection : Projection) (fieldName : String) : Projection where
  included := addName projection.included fieldName
  excluded := projection.excluded.filter (· ≠ fieldName)

/-- Excludes a field and takes it from the included ones. -/
def excludeField (projection : Projection) (fieldName : String) : Projection where
  included := projection.included.filter (· ≠ fieldName)
  excluded := addName projection.excluded fieldName

/-- Mentions the fields of a later projection one by one, the included ones first. -/
def merge (projection later : Projection) : Projection :=
  later.excluded.foldl excludeField (later.included.foldl includeField projection)

/-- Whether no field is mentioned. -/
def isEmpty (projection : Projection) : Bool :=
  projection.included.isEmpty && projection.excluded.isEmpty

@[simp]
theorem merge_empty (projection : Projection) : projection.merge {} = projection := rfl

end Projection

/-- A part read from one value of a filter parameter. -/
inductive FilterPart where
  | fields (projection : Projection)
  | condition (condition : Condition)
  | order (order : SortOrder)
  | limit (limit : Limit)
  | skip (skip : Skip)
deriving DecidableEq, Repr

end SchemaLens.Query
