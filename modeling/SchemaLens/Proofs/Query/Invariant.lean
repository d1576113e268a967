import SchemaLens.Proofs.Query.Reading
import SchemaLens.Query.FormEncoding

/-!
# What every reading keeps

All that a reading does to a descriptor is to store parts, each of them read from a value of a key
that the kind takes. So a property that no such part can break is kept by every reading, whether it
succeeds or fails, and by any number of readings one after another.
-/

namespace SchemaLens.Query

/-- Whether a part is what some value of some key holds for a kind of query. -/
def FilterPart.IsReadBy (kind : QueryKind) (part : FilterPart) : Prop :=
  ∃ key filterKey filterType value, FilterKey.parse? key = some filterKey ∧
    kind.filterType? filterKey.keyword = some filterType ∧
    FilterPart.parse filterType key filterKey.path value = .ok (some part)

theorem Occurrence.isReadBy_of_part? {kind : QueryKind} {pair : String × String}
    {occurrence : Occurrence} {part : FilterPart} (occurs : ofPair? pair = some occurrence)
    (holds : occurrence.part? kind = some part) : part.IsReadBy kind := by
  rcases Option.map_eq_some_iff.mp occurs with ⟨filterKey, recognised, rfl⟩
  rcases exists_parse_of_part? holds with ⟨filterType, taken, parsed⟩
  exact ⟨pair.1, filterKey, filterType, pair.2, recognised, taken, parsed⟩

namespace Outcome

variable {kind : QueryKind}

theorem andThen_descriptor_induction {motive : kind.Descriptor → Prop} {outcome : Outcome kind}
    {next : kind.Descriptor → Outcome kind} (first : motive outcome.descriptor)
    (second : ∀ descriptor, motive descriptor → motive (next descriptor).descriptor) :
    motive (outcome.andThen next).descriptor := by
  cases failed : outcome.failure with
  | some error =>
      rw [andThen_of_failure failed]
      exact first
  | none =>
      rw [andThen_of_no_failure failed]
      exact second outcome.descriptor first

end Outcome

namespace QueryKind

variable {kind : QueryKind}

/-- Fills a descriptor from query strings, one after another. Each of them is read from its start
even if the one before it could not be read to its end. -/
def readAll (kind : QueryKind) (descriptor : kind.Descriptor) (queries : List String) :
    kind.Descriptor :=
  queries.foldl (fun filled query => (kind.read filled (Values.parse query)).descriptor) descriptor

section Induction

variable {motive : kind.Descriptor → Prop}
  (stored : ∀ descriptor part, part.IsReadBy kind → motive descriptor →
    motive (kind.apply descriptor part))

include stored

theorem readValues_induction {filterType : FilterType} {key : String} {filterKey : FilterKey}
    (recognised : FilterKey.parse? key = some filterKey)
    (taken : kind.filterType? filterKey.keyword = some filterType) {descriptor : kind.Descriptor}
    (start : motive descriptor) (values : List String) :
    motive (kind.readValues filterType key filterKey.path descriptor values).descriptor := by
  induction values generalizing descriptor with
  | nil => exact start
  | cons value rest ih =>
      rw [readValues]
      apply Outcome.andThen_descriptor_induction
      · unfold readValue
        rcases parsed : FilterPart.parse filterType key filterKey.path value with
          error | (_ | part)
        · exact start
        · exact start
        · exact stored descriptor part
            ⟨key, filterKey, filterType, value, recognised, taken, parsed⟩ start
      · intro filled filled_holds
        exact ih filled_holds

theorem readEntry_induction {descriptor : kind.Descriptor} (start : motive descriptor)
    (key : String) (values : List String) :
    motive (kind.readEntry descriptor key values).descriptor := by
  unfold readEntry
  split
  · exact start
  · rename_i filterKey recognised
    split
    · exact start
    · rename_i filterType taken
      exact readValues_induction stored recognised taken start values

theorem readEntries_induction {descriptor : kind.Descriptor} (start : motive descriptor)
    (entries : List (String × List String)) :
    motive (kind.readEntries descriptor entries).descriptor := by
  induction entries generalizing descriptor with
  | nil => exact start
  | cons entry rest ih =>
      rw [readEntries]
      apply Outcome.andThen_descriptor_induction
      · exact readEntry_induction stored start entry.1 entry.2
      · intro filled filled_holds
        exact ih filled_holds

theorem read_induction {descriptor : kind.Descriptor} (start : motive descriptor)
    (values : Values) : motive (kind.read descriptor values).descriptor :=
  readEntries_induction stored start values.entries

theorem readAll_induction {descriptor : kind.Descriptor} (start : motive descriptor)
    (queries : List String) : motive (kind.readAll descriptor queries) := by
  unfold readAll
  induction queries generalizing descriptor with
  | nil => exact start
  | cons query rest ih =>
      rw [List.foldl_cons]
      exact ih (read_induction stored start (Values.parse query))

end Induction

end QueryKind

end SchemaLens.Query
