import SchemaLens.Data.Log
import SchemaLens.Query.Filter
import SchemaLens.Query.FilterKey
import SchemaLens.Query.Values

/-!
# Filling a descriptor

Query values are read key by key and value by value. Each part that a value holds goes into the
descriptor at once; the first error ends the reading, and what went into the descriptor before it
stays there. Keys that address no filter are passed over.
-/

namespace SchemaLens.Query

/-- A value that was about to be read. -/
structure ValueSeen where
  /-- The kind of query that is filled. -/
  kind : QueryKind
  /-- The key as it was given. -/
  key : String
  /-- The value as it was given. -/
  value : String
deriving DecidableEq, Repr

/-- How a value that was seen stands in the log. -/
def ValueSeen.logRecord (seen : ValueSeen) : LogRecord where
  level := .trace
  text := seen.kind.title ++ ": " ++ seen.key ++ " = " ++ Text.quoted seen.value

/-- Where the reading of query values has led. -/
structure Outcome (kind : QueryKind) where
  /-- The descriptor with the parts read so far. -/
  descriptor : kind.Descriptor
  /-- The error that ended the reading. -/
  failure : Option FilterError := none
  /-- The values read so far, one that failed included. -/
  seen : List ValueSeen := []

namespace Outcome

variable {kind : QueryKind}

/-- Goes on reading, unless an error has ended it. -/
def andThen (outcome : Outcome kind) (next : kind.Descriptor → Outcome kind) : Outcome kind :=
  match outcome.failure with
  | some _ => outcome
  | none =>
    let later := next outcome.descriptor
    { later with seen := outcome.seen ++ later.seen }

end Outcome

namespace QueryKind

/-- The filter type of a keyword, if the kind takes it. -/
def filterType? (kind : QueryKind) (keyword : String) : Option FilterType :=
  (Named.ofName? keyword).filter kind.accepts

/-- Reads one value of a filter. -/
def readValue (kind : QueryKind) (filterType : FilterType) (key : String) (path : List String)
    (descriptor : kind.Descriptor) (value : String) : Outcome kind :=
  let seen := [{ kind, key, value }]
  match FilterPart.parse filterType key path value with
  | .error failure => { descriptor, failure := some failure, seen }
  | .ok none => { descriptor, seen }
  | .ok (some part) => { descriptor := kind.apply descriptor part, seen }

/-- Reads the values of a filter in order. -/
def readValues (kind : QueryKind) (filterType : FilterType) (key : String) (path : List String)
    (descriptor : kind.Descriptor) : List String → Outcome kind
  | [] => { descriptor }
  | value :: rest =>
    (kind.readValue filterType key path descriptor value).andThen fun filled =>
      kind.readValues filterType key path filled rest

/-- Reads the values of one key. -/
def readEntry (kind : QueryKind) (descriptor : kind.Descriptor) (key : String)
    (values : List String) : Outcome kind :=
  match FilterKey.parse? key with
  | none => { descriptor }
  | some filterKey =>
    match kind.filterType? filterKey.keyword with
    | none => { descriptor, failure := some (.unknownFilter filterKey.keyword kind) }
    | some filterType => kind.readValues filterType key filterKey.path descriptor values

/-- Reads keys with their values in order. -/
def readEntries (kind : QueryKind) (descriptor : kind.Descriptor) :
    List (String × List String) → Outcome kind
  | [] => { descriptor }
  | (key, values) :: rest =>
    (kind.readEntry descriptor key values).andThen fun filled => kind.readEntries filled rest

/-- Fills a descriptor from query values. -/
def read (kind : QueryKind) (descriptor : kind.Descriptor) (values : Values) : Outcome kind :=
  kind.readEntries descriptor values.entries

end QueryKind

end SchemaLens.Query
