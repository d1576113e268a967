import SchemaLens.Query.Filter

/-!
# What filter values hold

A part has the type of the filter whose value it was read from. The value of a condition always
holds a part if it can be read at all: the key has named the field and the operator, and the value
is kept as it is.
-/

namespace SchemaLens.Query

theorem map_eq_ok_iff {Error Source Target : Type} {result : Except Error Source}
    {change : Source → Target} {target : Target} :
    result.map change = .ok target ↔ ∃ source, result = .ok source ∧ change source = target := by
  cases result with
  | error error => simp [Except.map]
  | ok source => simp [Except.map]

theorem map_eq_error_iff {Error Source Target : Type} {result : Except Error Source}
    {change : Source → Target} {error : Error} :
    result.map change = .error error ↔ result = .error error := by
  cases result with
  | error found => simp [Except.map]
  | ok source => simp [Except.map]

/-- The type of the filter that a part comes from. -/
def FilterPart.filterType : FilterPart → FilterType
  | .fields _ => .fields
  | .condition _ => .condition
  | .order _ => .order
  | .limit _ => .limit
  | .skip _ => .skip

theorem FilterPart.filterType_of_parse {filterType : FilterType} {key value : String}
    {path : List String} {part : FilterPart}
    (parsed : FilterPart.parse filterType key path value = .ok (some part)) :
    part.filterType = filterType := by
  cases filterType with
  | fields =>
      rcases map_eq_ok_iff.mp parsed with ⟨projection?, -, stored⟩
      rcases Option.map_eq_some_iff.mp stored with ⟨projection, -, rfl⟩
      rfl
  | condition =>
      rcases map_eq_ok_iff.mp parsed with ⟨condition, -, stored⟩
      cases stored
      rfl
  | order =>
      simp only [FilterPart.parse] at parsed
      split at parsed
      · rcases Option.map_eq_some_iff.mp (Except.ok.inj parsed) with ⟨order, -, rfl⟩
        rfl
      · contradiction
  | limit =>
      simp only [FilterPart.parse] at parsed
      split at parsed
      · rcases map_eq_ok_iff.mp parsed with ⟨limit, -, stored⟩
        cases stored
        rfl
      · contradiction
  | skip =>
      simp only [FilterPart.parse] at parsed
      split at parsed
      · rcases map_eq_ok_iff.mp parsed with ⟨skip, -, stored⟩
        cases stored
        rfl
      · contradiction

theorem Operator.parse_eq_ok_iff {word : String} {operator : Operator} :
    Operator.parse word = .ok operator ↔ Operator.ofWord? word = some operator := by
  unfold Operator.parse
  cases Operator.ofWord? word <;> simp

/-- A condition is read exactly if the path is a field with a name and an operator. -/
theorem Condition.parse_eq_ok_iff {key value : String} {path : List String}
    {condition : Condition} :
    Condition.parse key path value = .ok condition ↔
      condition.fieldName ≠ "" ∧ condition.value = value ∧
        ∃ word, path = [condition.fieldName, word] ∧
          Operator.ofWord? word = some condition.operator := by
  constructor
  · intro parsed
    unfold Condition.parse at parsed
    split at parsed
    · contradiction
    · rename_i fieldName word
      split at parsed
      · contradiction
      · rename_i named
        rcases map_eq_ok_iff.mp parsed with ⟨operator, operator_parsed, rfl⟩
        rw [Operator.parse_eq_ok_iff] at operator_parsed
        exact ⟨by simpa using named, rfl, word, rfl, operator_parsed⟩
    · contradiction
  · rcases condition with ⟨fieldName, operator, conditionValue⟩
    rintro ⟨named, rfl, word, rfl, operator_named⟩
    have not_empty : fieldName.isEmpty = false := by simpa using named
    simp only [Condition.parse, not_empty, Bool.false_eq_true, if_false]
    exact map_eq_ok_iff.mpr ⟨operator, Operator.parse_eq_ok_iff.mpr operator_named, rfl⟩

theorem FilterPart.parse_condition_eq_ok_iff {key value : String} {path : List String}
    {part? : Option FilterPart} :
    FilterPart.parse .condition key path value = .ok part? ↔
      ∃ condition, Condition.parse key path value = .ok condition ∧
        part? = some (.condition condition) := by
  simp only [FilterPart.parse, map_eq_ok_iff, Function.comp_apply]
  exact exists_congr fun condition => and_congr_right fun _ => eq_comm

end SchemaLens.Query
