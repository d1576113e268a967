import SchemaLens.Proofs.Query.FilterKey
import SchemaLens.Proofs.Query.NarrowKinds

/-!
# Well-formed descriptors

However many query strings a descriptor has read, and whether or not they could be read to their
end, its members are well-formed: conditions name a field that could stand in a key, an order names
words and has an entry, and a projection mentions some field and none on both sides. Each part is
well-formed when it is read, and storing it keeps the whole so. The one member that changes and is
not replaced is the projection, where a field that is mentioned again may change sides.
-/

namespace SchemaLens.Query

namespace Projection

/-- Whether a field is included or excluded. -/
def Mentions (projection : Projection) (fieldName : String) : Prop :=
  fieldName ∈ projection.included ∨ fieldName ∈ projection.excluded

/-- Whether no field is both included and excluded. -/
def IsApart (projection : Projection) : Prop :=
  ∀ fieldName ∈ projection.included, fieldName ∉ projection.excluded

/-- Whether a projection mentions some field, only fields with a name, and none on both sides. -/
structure WellFormed (projection : Projection) : Prop where
  not_empty : projection.isEmpty = false
  named : ∀ fieldName, projection.Mentions fieldName → fieldName ≠ ""
  apart : projection.IsApart

instance (projection : Projection) : Decidable projection.IsApart :=
  inferInstanceAs (Decidable (∀ fieldName ∈ projection.included, fieldName ∉ projection.excluded))

theorem forall_mentions_iff {projection : Projection} {property : String → Prop} :
    (∀ fieldName, projection.Mentions fieldName → property fieldName) ↔
      ∀ fieldName ∈ projection.included ++ projection.excluded, property fieldName := by
  simp only [List.mem_append]
  rfl

instance (projection : Projection) : Decidable projection.WellFormed :=
  decidable_of_iff
    (projection.isEmpty = false ∧
      (∀ fieldName ∈ projection.included ++ projection.excluded, fieldName ≠ "") ∧
      projection.IsApart)
    ⟨fun ⟨not_empty, named, apart⟩ => ⟨not_empty, forall_mentions_iff.mpr named, apart⟩,
      fun ⟨not_empty, named, apart⟩ => ⟨not_empty, forall_mentions_iff.mp named, apart⟩⟩

variable {projection : Projection}

theorem isEmpty_eq_false_iff :
    projection.isEmpty = false ↔ ∃ fieldName, projection.Mentions fieldName := by
  rcases projection with ⟨included, excluded⟩
  rcases included with _ | ⟨first, others⟩
  · rcases excluded with _ | ⟨first, others⟩
    · simp [isEmpty, Mentions]
    · simp only [isEmpty, Mentions]
      exact ⟨fun _ => ⟨first, by simp⟩, fun _ => rfl⟩
  · simp only [isEmpty, Mentions]
    exact ⟨fun _ => ⟨first, by simp⟩, fun _ => rfl⟩

theorem mem_addName {names : List String} {name other : String} :
    other ∈ addName names name ↔ other ∈ names ∨ other = name := by
  unfold addName
  split
  · rename_i listed
    constructor
    · exact Or.inl
    · rintro (mem | rfl)
      · exact mem
      · exact listed
  · simp

theorem mentions_includeField {fieldName other : String} :
    (projection.includeField fieldName).Mentions other ↔
      projection.Mentions other ∨ other = fieldName := by
  simp only [Mentions, includeField, mem_addName, List.mem_filter, decide_eq_true_eq]
  by_cases same : other = fieldName <;> simp [same]

theorem mentions_excludeField {fieldName other : String} :
    (projection.excludeField fieldName).Mentions other ↔
      projection.Mentions other ∨ other = fieldName := by
  simp only [Mentions, excludeField, mem_addName, List.mem_filter, decide_eq_true_eq]
  by_cases same : other = fieldName <;> simp [same]

theorem IsApart.includeField (apart : projection.IsApart) (fieldName : String) :
    (projection.includeField fieldName).IsApart := by
  intro other included excluded
  simp only [Projection.includeField, List.mem_filter, decide_eq_true_eq] at excluded
  rcases mem_addName.mp included with before | same
  · exact apart other before excluded.1
  · exact excluded.2 same

theorem IsApart.excludeField (apart : projection.IsApart) (fieldName : String) :
    (projection.excludeField fieldName).IsApart := by
  intro other included excluded
  simp only [Projection.excludeField, List.mem_filter, decide_eq_true_eq] at included
  rcases mem_addName.mp excluded with before | same
  · exact apart other included.1 before
  · exact included.2 same

theorem mentions_foldl {step : Projection → String → Projection}
    (mentions_step : ∀ projection fieldName other, (step projection fieldName).Mentions other ↔
      projection.Mentions other ∨ other = fieldName)
    (projection : Projection) (names : List String) (other : String) :
    (names.foldl step projection).Mentions other ↔ projection.Mentions other ∨ other ∈ names := by
  induction names generalizing projection with
  | nil => simp
  | cons name rest ih =>
      rw [List.foldl_cons, ih, mentions_step, List.mem_cons, or_assoc]

/-- Merging loses no field that was mentioned and adds those of the later projection. -/
theorem mentions_merge {later : Projection} {fieldName : String} :
    (projection.merge later).Mentions fieldName ↔
      projection.Mentions fieldName ∨ later.Mentions fieldName := by
  unfold merge
  rw [mentions_foldl fun _ _ _ => mentions_excludeField,
    mentions_foldl fun _ _ _ => mentions_includeField, or_assoc]
  rfl

theorem isApart_foldl {step : Projection → String → Projection}
    (apart_step : ∀ projection fieldName, projection.IsApart → (step projection fieldName).IsApart)
    (apart : projection.IsApart) (names : List String) : (names.foldl step projection).IsApart := by
  induction names generalizing projection with
  | nil => exact apart
  | cons name rest ih => exact ih (apart_step projection name apart)

theorem IsApart.merge (apart : projection.IsApart) (later : Projection) :
    (projection.merge later).IsApart := by
  apply isApart_foldl fun _ fieldName before => before.excludeField fieldName
  exact isApart_foldl (fun _ fieldName before => before.includeField fieldName) apart later.included

theorem WellFormed.merge (wellFormed : projection.WellFormed) {later : Projection}
    (later_wellFormed : later.WellFormed) : (projection.merge later).WellFormed where
  not_empty := by
    rcases isEmpty_eq_false_iff.mp wellFormed.not_empty with ⟨fieldName, mentioned⟩
    exact isEmpty_eq_false_iff.mpr ⟨fieldName, mentions_merge.mpr (Or.inl mentioned)⟩
  named := by
    intro fieldName mentioned
    rcases mentions_merge.mp mentioned with before | after
    · exact wellFormed.named fieldName before
    · exact later_wellFormed.named fieldName after
  apart := wellFormed.apart.merge later

theorem wellFormed_of_included {names : List String} (some_name : names ≠ [])
    (named : ∀ name ∈ names, name ≠ "") : WellFormed { included := names } where
  not_empty := by
    rcases List.exists_mem_of_ne_nil names some_name with ⟨name, name_mem⟩
    exact isEmpty_eq_false_iff.mpr ⟨name, Or.inl name_mem⟩
  named := by
    rintro fieldName (included | excluded)
    · exact named fieldName included
    · exact absurd excluded List.not_mem_nil
  apart := fun _ _ => List.not_mem_nil

theorem wellFormed_of_excluded {names : List String} (some_name : names ≠ [])
    (named : ∀ name ∈ names, name ≠ "") : WellFormed { excluded := names } where
  not_empty := by
    rcases List.exists_mem_of_ne_nil names some_name with ⟨name, name_mem⟩
    exact isEmpty_eq_false_iff.mpr ⟨name, Or.inr name_mem⟩
  named := by
    rintro fieldName (included | excluded)
    · exact absurd included List.not_mem_nil
    · exact named fieldName excluded
  apart := fun _ included => absurd included List.not_mem_nil

/-- What a value of a projection holds is well-formed. -/
theorem wellFormed_of_parse {key value : String} {path : List String}
    (parsed : Projection.parse key path value = .ok (some projection)) :
    projection.WellFormed := by
  unfold Projection.parse at parsed
  split at parsed
  · split at parsed
    · cases parsed
    · rename_i names some_name
      cases parsed
      apply wellFormed_of_included
      · simpa using some_name
      · intro name name_mem
        rcases List.mem_map.mp name_mem with ⟨field, field_mem, rfl⟩
        simpa using Text.ne_nil_of_mem_fields field_mem
  · rename_i fieldName
    split at parsed
    · cases parsed
    · rename_i named
      have named_all : ∀ name ∈ [fieldName], name ≠ "" := by
        intro name name_mem
        rw [List.mem_singleton] at name_mem
        subst name_mem
        simpa using named
      split at parsed
      · cases parsed
        exact wellFormed_of_included (List.cons_ne_nil _ _) named_all
      · cases parsed
        exact wellFormed_of_excluded (List.cons_ne_nil _ _) named_all
      · cases parsed
  · cases parsed

end Projection

/-- Whether a condition names a field that could stand in a key. -/
structure Condition.WellFormed (condition : Condition) : Prop where
  named : condition.fieldName ≠ ""
  segment : FilterKey.IsSegment condition.fieldName.toList

instance (condition : Condition) : Decidable condition.WellFormed :=
  decidable_of_iff
    (condition.fieldName ≠ "" ∧ FilterKey.IsSegment condition.fieldName.toList)
    ⟨fun ⟨named, segment⟩ => ⟨named, segment⟩, fun ⟨named, segment⟩ => ⟨named, segment⟩⟩

/-- Whether an order has an entry and all its entries name ASCII words. -/
structure SortOrder.WellFormed (order : SortOrder) : Prop where
  not_empty : order.entries ≠ []
  named : ∀ entry ∈ order.entries, entry.fieldName ≠ ""
  words : ∀ entry ∈ order.entries, ∀ character ∈ entry.fieldName.toList,
    Text.isAsciiWord character = true

instance (order : SortOrder) : Decidable order.WellFormed :=
  decidable_of_iff
    (order.entries ≠ [] ∧ (∀ entry ∈ order.entries, entry.fieldName ≠ "") ∧
      ∀ entry ∈ order.entries, entry.fieldName.toList.all Text.isAsciiWord = true) (by
      simp only [List.all_eq_true]
      exact ⟨fun ⟨not_empty, named, words⟩ => ⟨not_empty, named, words⟩,
        fun ⟨not_empty, named, words⟩ => ⟨not_empty, named, words⟩⟩)

theorem word_of_mem_orderEntries (text : List Char) :
    ∀ entry ∈ orderEntries text, entry.fieldName ≠ "" ∧
      ∀ character ∈ entry.fieldName.toList, Text.isAsciiWord character = true := by
  fun_induction orderEntries text with
  | case1 => exact List.forall_mem_nil _
  | case2 text first others start word afterWord next direction? direction found ih =>
      rw [List.forall_mem_cons]
      refine ⟨⟨?_, ?_⟩, ih⟩
      · simp [word]
      · intro character mem
        rw [String.toList_ofList] at mem
        rcases List.mem_cons.mp mem with rfl | later
        · have stopped := List.head?_dropWhile_not (fun c => !Text.isAsciiWord c) text
          rw [start] at stopped
          simpa using stopped
        · exact List.all_eq_true.mp List.all_takeWhile character later
  | case3 text first others start afterWord next direction? missing ih => exact ih

theorem SortOrder.wellFormed_of_parse? {value : String} {order : SortOrder}
    (parsed : SortOrder.parse? value = some order) : order.WellFormed := by
  unfold SortOrder.parse? at parsed
  split at parsed
  · contradiction
  · rename_i first others entries_eq
    cases parsed
    have words := word_of_mem_orderEntries value.toList
    rw [entries_eq] at words
    exact ⟨List.cons_ne_nil _ _, fun entry mem => (words entry mem).1,
      fun entry mem => (words entry mem).2⟩

theorem Condition.wellFormed_of_parse {key value : String} {path : List String}
    {condition : Condition} (parsed : Condition.parse key path value = .ok condition)
    (segments : ∀ segment ∈ path, FilterKey.IsSegment segment.toList) : condition.WellFormed := by
  rcases Condition.parse_eq_ok_iff.mp parsed with ⟨named, -, word, rfl, -⟩
  exact ⟨named, segments condition.fieldName List.mem_cons_self⟩

/-- Whether a part is well-formed; any limit and any skip is. -/
def FilterPart.WellFormed : FilterPart → Prop
  | .fields projection => projection.WellFormed
  | .condition stated => stated.WellFormed
  | .order wanted => wanted.WellFormed
  | .limit _ => True
  | .skip _ => True

theorem FilterPart.IsReadBy.wellFormed {kind : QueryKind} {part : FilterPart}
    (read : part.IsReadBy kind) : part.WellFormed := by
  rcases read with ⟨key, filterKey, filterType, value, recognised, -, parsed⟩
  have segments := FilterKey.isSegment_of_mem_path recognised
  have part_type := FilterPart.filterType_of_parse parsed
  subst part_type
  cases part with
  | fields projection =>
      rcases map_eq_ok_iff.mp parsed with ⟨projection?, projection_parsed, stored⟩
      rcases Option.map_eq_some_iff.mp stored with ⟨own, rfl, own_eq⟩
      cases own_eq
      exact Projection.wellFormed_of_parse projection_parsed
  | condition condition =>
      rcases FilterPart.parse_condition_eq_ok_iff.mp parsed with
        ⟨own, condition_parsed, own_eq⟩
      cases own_eq
      exact Condition.wellFormed_of_parse condition_parsed segments
  | order order =>
      simp only [FilterPart.parse, FilterPart.filterType] at parsed
      split at parsed
      · rcases Option.map_eq_some_iff.mp (Except.ok.inj parsed) with ⟨own, order_parsed, own_eq⟩
        cases own_eq
        exact SortOrder.wellFormed_of_parse? order_parsed
      · contradiction
  | limit limit => exact True.intro
  | skip skip => exact True.intro

/-- Whether the members of a query are well-formed. -/
structure FindQuery.WellFormed (query : FindQuery) : Prop where
  conditions : ∀ condition ∈ query.conditions, condition.WellFormed
  order : ∀ order ∈ query.order, order.WellFormed
  projection : ∀ projection ∈ query.projection, projection.WellFormed

instance (query : FindQuery) : Decidable query.WellFormed :=
  decidable_of_iff
    ((∀ condition ∈ query.conditions, condition.WellFormed) ∧
      (∀ order ∈ query.order, order.WellFormed) ∧
      ∀ projection ∈ query.projection, projection.WellFormed)
    ⟨fun ⟨conditions, order, projection⟩ => ⟨conditions, order, projection⟩,
      fun ⟨conditions, order, projection⟩ => ⟨conditions, order, projection⟩⟩

namespace FindQuery

theorem wellFormed_blank : WellFormed {} where
  conditions := List.forall_mem_nil _
  order := by rintro order ⟨⟩
  projection := by rintro projection ⟨⟩

theorem WellFormed.apply {query : FindQuery} (wellFormed : query.WellFormed) {part : FilterPart}
    (part_wellFormed : part.WellFormed) : (query.apply part).WellFormed := by
  cases part with
  | fields projection =>
      refine ⟨wellFormed.conditions, wellFormed.order, ?_⟩
      rintro merged ⟨⟩
      unfold mergeProjection
      split
      · exact part_wellFormed
      · rename_i present present_eq
        exact (wellFormed.projection present present_eq).merge part_wellFormed
  | condition condition =>
      refine ⟨?_, wellFormed.order, wellFormed.projection⟩
      intro stored stored_mem
      rcases List.mem_append.mp stored_mem with before | last
      · exact wellFormed.conditions stored before
      · rw [List.mem_singleton] at last
        subst last
        exact part_wellFormed
  | order order =>
      refine ⟨wellFormed.conditions, ?_, wellFormed.projection⟩
      rintro stored ⟨⟩
      exact part_wellFormed
  | limit limit => exact ⟨wellFormed.conditions, wellFormed.order, wellFormed.projection⟩
  | skip skip => exact ⟨wellFormed.conditions, wellFormed.order, wellFormed.projection⟩

end FindQuery

namespace QueryKind

variable {kind : QueryKind}

theorem wellFormed_asFind_apply {descriptor : kind.Descriptor} {part : FilterPart}
    (read : part.IsReadBy kind) (wellFormed : (kind.asFind descriptor).WellFormed) :
    (kind.asFind (kind.apply descriptor part)).WellFormed := by
  have member : part.filterType ∈ kind.members := by
    rcases read with ⟨key, filterKey, filterType, value, -, taken, parsed⟩
    rw [FilterPart.filterType_of_parse parsed]
    exact mem_members_of_filterType? taken
  rw [asFind_apply descriptor member]
  exact wellFormed.apply read.wellFormed

theorem wellFormed_asFind_readAll {descriptor : kind.Descriptor}
    (start : (kind.asFind descriptor).WellFormed) (queries : List String) :
    (kind.asFind (kind.readAll descriptor queries)).WellFormed := by
  apply readAll_induction (motive := fun filled => (kind.asFind filled).WellFormed)
  · intro filled part read
    exact wellFormed_asFind_apply read
  · exact start

theorem asFind_blank (kind : QueryKind) : kind.asFind kind.blank = {} := by
  cases kind <;> rfl

/--
A descriptor that asks for nothing at first is well-formed whatever query strings it has read, those
that could not be read to their end included. The same holds of a find by an identifier.
-/
theorem wellFormed_readAll :
    (∀ (kind : QueryKind) (queries : List String),
      (kind.asFind (kind.readAll kind.blank queries)).WellFormed) ∧
    ∀ (modelId : String) (queries : List String),
      (QueryKind.findById.asFind
        (QueryKind.findById.readAll ({ modelId } : FindByIdQuery) queries)).WellFormed := by
  constructor
  · intro kind queries
    apply wellFormed_asFind_readAll
    rw [asFind_blank]
    exact FindQuery.wellFormed_blank
  · intro modelId queries
    apply wellFormed_asFind_readAll
    exact FindQuery.wellFormed_blank

end QueryKind

end SchemaLens.Query
