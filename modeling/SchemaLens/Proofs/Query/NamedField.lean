import SchemaLens.Proofs.Query.EntryOrder
import SchemaLens.Proofs.Query.Rendering

/-!
# Filters that name one field

A field is named in the path of a condition, among the words of an order and in a list of fields. A
name in ASCII letters and digits is taken as a whole in each of these places, even if it is a
direction or an operator itself.
-/

namespace SchemaLens.Query

theorem Operator.ofWord?_of_asciiLower_eq {word : String} {operator : Operator}
    (spelled : Text.asciiLower word.toList = (Named.name operator).toList) :
    Operator.ofWord? word = some operator := by
  have same := Operator.ofWord?_name operator
  rwa [Operator.ofWord?, ← spelled, Text.asciiLower_asciiLower] at same

theorem SortOrder.parse?_word_direction {fieldName directionWord : String}
    {direction : SortDirection} (named : fieldName ≠ "")
    (word : ∀ character ∈ fieldName.toList, Text.isAsciiWord character = true)
    (spelled : Text.asciiLower directionWord.toList = (Named.name direction).toList) :
    SortOrder.parse? (fieldName ++ " " ++ directionWord) =
      some { entries := [⟨fieldName, direction⟩] } := by
  have directed := SortDirection.ofWord?_of_asciiLower_eq spelled
  cases fieldName_eq : fieldName.toList with
  | nil => exact absurd (String.toList_eq_nil_iff.mp fieldName_eq) named
  | cons first others =>
      rw [fieldName_eq] at word
      have value_eq : (fieldName ++ " " ++ directionWord).toList =
          first :: (others ++ ([' '] ++ (directionWord.toList ++ []))) := by
        simp [fieldName_eq]
      unfold SortOrder.parse?
      rw [value_eq, orderEntries_word_direction_append word (List.cons_ne_nil _ _)
        (List.forall_mem_singleton.mpr rfl) directed (by rintro character ⟨⟩), ← fieldName_eq,
        String.ofList_toList, orderEntries_nil]

theorem isField_of_isAsciiWord {fieldName : String} (named : fieldName ≠ "")
    (word : ∀ character ∈ fieldName.toList, Text.isAsciiWord character = true) :
    Text.IsField separatesFields fieldName.toList where
  not_empty := by rwa [ne_eq, String.toList_eq_nil_iff]
  whole := by
    intro character character_mem
    have own := word character character_mem
    have no_comma : character ≠ ',' := by
      rintro rfl
      contradiction
    simp [separatesFields, no_comma, Text.visible_of_isAsciiWord own]

namespace FindQuery

/-- The query that compares a field, orders by it and shows it alone. -/
def aboutField (fieldName : String) (operator : Operator) (value : String)
    (direction : SortDirection) : FindQuery where
  projection := some { included := [fieldName] }
  conditions := [{ fieldName, operator, value }]
  order := some { entries := [{ fieldName, direction }] }

/-- The parameters that say so. -/
def aboutFieldPairs (fieldName operatorWord value directionWord : String) :
    List (String × String) :=
  [("filter[where][" ++ fieldName ++ "][" ++ operatorWord ++ "]", value),
    ("filter[order]", fieldName ++ " " ++ directionWord), ("filter[fields]", fieldName)]

end FindQuery

namespace QueryKind

/-- Pairs of which each is the only one for its type of filter can stand in any order. -/
theorem read_ofPairs_endsWith_of_perm {kind : QueryKind} {start final : kind.Descriptor}
    {pairs others : List (String × String)} (permuted : pairs.Perm others)
    (single : ∀ filterType,
      (others.filter fun pair => FilterKey.addresses filterType pair.1).length ≤ 1)
    (ends : (kind.readInTurn start others).EndsWith final) :
    (kind.read start (Values.ofPairs pairs)).EndsWith final := by
  have regrouped := (regroup_perm pairs).trans permuted
  rcases ends with ⟨passed, rfl⟩
  rw [read_ofPairs_eq_readInTurn]
  have regrouped_passed : (kind.readInTurn start (regroup pairs)).failure = none := by
    rw [readInTurn_failure_eq_none_iff] at passed ⊢
    intro occurrence occurrence_mem
    exact passed occurrence ((Occurrence.ofPairs_perm regrouped).subset occurrence_mem)
  refine ⟨regrouped_passed, ?_⟩
  -- A permutation of at most one pair is the same list, so each type sees the same pairs in order.
  apply readInTurn_descriptor_eq_of_filter_addresses_eq regrouped_passed passed
  intro filterType
  have own_permuted := regrouped.filter fun pair => FilterKey.addresses filterType pair.1
  have own_single := single filterType
  cases own_eq : others.filter fun pair => FilterKey.addresses filterType pair.1 with
  | nil =>
      rw [own_eq] at own_permuted
      exact own_permuted.eq_nil
  | cons first rest =>
      rw [own_eq, List.length_cons] at own_single
      have alone : rest = [] := List.length_eq_zero_iff.mp (by omega)
      rw [own_eq, alone] at own_permuted
      rw [alone]
      exact List.perm_singleton.mp own_permuted

end QueryKind

namespace FindQuery

section NamedField

variable {fieldName : String} (named : fieldName ≠ "")
  (word : ∀ character ∈ fieldName.toList, Text.isAsciiWord character = true)
  {operatorWord directionWord : String} {operator : Operator} {direction : SortDirection}

theorem aboutFieldPairs_eq (value : String) :
    aboutFieldPairs fieldName operatorWord value directionWord =
      [(FilterType.condition.key [fieldName, operatorWord], value)] ++
        ([(FilterType.order.key [], fieldName ++ " " ++ directionWord)] ++
          [(FilterType.fields.key [], fieldName)]) := by
  have key_eq : FilterType.condition.key [fieldName, operatorWord] =
      "filter[where][" ++ fieldName ++ "][" ++ operatorWord ++ "]" := by
    rw [← String.toList_inj]
    simp [FilterType.key, FilterKey.render, FilterKey.bracketed, Named.name]
  rw [aboutFieldPairs, ← key_eq]
  rfl

theorem readInTurn_condition_key (segments : ∀ segment ∈ [fieldName, operatorWord],
    FilterKey.IsSegment segment.toList) (named : fieldName ≠ "")
    (spelled : Text.asciiLower operatorWord.toList = (Named.name operator).toList)
    (value : String) (query : FindQuery) :
    (QueryKind.find.readInTurn query
      [(FilterType.condition.key [fieldName, operatorWord], value)]).EndsWith
        (query.apply (.condition ⟨fieldName, operator, value⟩)) := by
  apply readInTurn_key segments
  rw [FilterPart.parse_condition_eq_ok_iff]
  refine ⟨⟨fieldName, operator, value⟩, ?_, rfl⟩
  rw [Condition.parse_eq_ok_iff]
  exact ⟨named, rfl, operatorWord, rfl, Operator.ofWord?_of_asciiLower_eq spelled⟩

include named word

theorem readInTurn_order_key
    (spelled : Text.asciiLower directionWord.toList = (Named.name direction).toList)
    (query : FindQuery) :
    (QueryKind.find.readInTurn query
      [(FilterType.order.key [], fieldName ++ " " ++ directionWord)]).EndsWith
        (query.apply (.order { entries := [⟨fieldName, direction⟩] })) := by
  apply readInTurn_key (List.forall_mem_nil _)
  rw [FilterPart.parse, List.isEmpty_nil, if_pos rfl,
    SortOrder.parse?_word_direction named word spelled]
  rfl

theorem readInTurn_fields_key (query : FindQuery) :
    (QueryKind.find.readInTurn query [(FilterType.fields.key [], fieldName)]).EndsWith
      (query.apply (.fields { included := [fieldName] })) := by
  apply readInTurn_key (List.forall_mem_nil _)
  rw [FilterPart.parse, Projection.parse_list,
    Projection.ofList?_name (isField_of_isAsciiWord named word)]
  rfl

/-- A condition, an order and a list that name one field can be read in any order, and all of them
name exactly this field. -/
theorem read_aboutFieldPairs
    (operator_spelled : Text.asciiLower operatorWord.toList = (Named.name operator).toList)
    (direction_spelled : Text.asciiLower directionWord.toList = (Named.name direction).toList)
    (value : String) {pairs : List (String × String)}
    (permuted : pairs.Perm (aboutFieldPairs fieldName operatorWord value directionWord)) :
    (QueryKind.find.read {} (Values.ofPairs pairs)).EndsWith
      (aboutField fieldName operator value direction) := by
  have operator_word : ∀ character ∈ operatorWord.toList, Text.isAsciiWord character = true := by
    rw [← Text.forall_isAsciiWord_asciiLower, operator_spelled]
    exact isAsciiWord_of_mem_operator
  have segments : ∀ segment ∈ [fieldName, operatorWord], FilterKey.IsSegment segment.toList := by
    rw [List.forall_mem_cons, List.forall_mem_singleton]
    exact ⟨FilterKey.isSegment_of_isAsciiWord word,
      FilterKey.isSegment_of_isAsciiWord operator_word⟩
  apply QueryKind.read_ofPairs_endsWith_of_perm permuted
  · intro filterType
    rw [aboutFieldPairs_eq]
    cases filterType <;>
      simp [FilterType.addresses_key segments, FilterType.addresses_key (List.forall_mem_nil _)]
  · rw [aboutFieldPairs_eq, QueryKind.readInTurn_append]
    apply (readInTurn_condition_key segments named operator_spelled value {}).andThen
    rw [QueryKind.readInTurn_append]
    exact (readInTurn_order_key named word direction_spelled _).andThen
      (readInTurn_fields_key named word _)

end NamedField

end FindQuery

end SchemaLens.Query
