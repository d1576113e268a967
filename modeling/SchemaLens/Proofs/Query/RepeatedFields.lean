import Mathlib.Data.List.Nodup
import SchemaLens.Proofs.Query.EntryOrder
import SchemaLens.Proofs.Query.Invariant
import SchemaLens.Proofs.Query.LastFlag

/-!
# Fields that are included twice

Merging a projection into another one lists no field twice, but the first projection that a
descriptor reads is stored as it is. So a list that names a field twice leaves it twice if it is the
first one, and no later value takes back the second mention except by excluding the field. This is
the only way to include a field twice, and no field is ever excluded twice.
-/

namespace SchemaLens.Query

namespace Projection

/-- Whether a field is included more than once. -/
def Repeats (projection : Projection) (fieldName : String) : Prop :=
  1 < projection.included.count fieldName

instance (projection : Projection) (fieldName : String) :
    Decidable (projection.Repeats fieldName) :=
  inferInstanceAs (Decidable (1 < projection.included.count fieldName))

/-- Stores a projection as a descriptor does. -/
def store (present : Option Projection) (later : Projection) : Option Projection :=
  some (mergeProjection present later)

variable {projection : Projection}

/-! ## Names listed twice -/

theorem included_nodup_iff :
    projection.included.Nodup ↔ ∀ fieldName, ¬projection.Repeats fieldName := by
  simp only [List.nodup_iff_count_le_one, Repeats, Nat.not_lt]

theorem repeats_includeField {fieldName other : String} :
    (projection.includeField fieldName).Repeats other ↔ projection.Repeats other := by
  unfold Repeats includeField addName
  split
  · rfl
  · rename_i absent
    rw [List.count_append]
    by_cases same : other = fieldName
    · subst same
      simp [List.count_eq_zero_of_not_mem absent]
    · have differs : ¬fieldName = other := fun equal => same equal.symm
      simp [differs]

theorem repeats_excludeField {fieldName other : String} :
    (projection.excludeField fieldName).Repeats other ↔
      projection.Repeats other ∧ other ≠ fieldName := by
  unfold Repeats excludeField
  by_cases same : other = fieldName
  · subst same
    rw [List.count_eq_zero_of_not_mem (by simp)]
    simp
  · rw [List.count_filter (by simpa using same)]
    simp [same]

theorem repeats_flagField {flagged : String × Bool} {other : String} :
    (projection.flagField flagged).Repeats other ↔
      projection.Repeats other ∧ flagged ≠ (other, false) := by
  rcases flagged with ⟨fieldName, _ | _⟩
  · have same_iff : (fieldName, false) ≠ (other, false) ↔ other ≠ fieldName := by
      simp [eq_comm]
    rw [same_iff]
    exact repeats_excludeField
  · have differs : (fieldName, true) ≠ (other, false) := by simp
    rw [and_iff_left differs]
    exact repeats_includeField

theorem repeats_foldl_flagField {flags : List (String × Bool)} {fieldName : String} :
    (flags.foldl flagField projection).Repeats fieldName ↔
      projection.Repeats fieldName ∧ (fieldName, false) ∉ flags := by
  induction flags generalizing projection with
  | nil => simp
  | cons flagged rest ih =>
      rw [List.foldl_cons, ih, repeats_flagField, List.mem_cons, not_or, and_assoc, ne_comm]

/-- However many projections are merged into one, a field is included twice exactly if it was so
before and none of them excludes it. -/
theorem repeats_foldl_merge {later : List Projection} {fieldName : String} :
    (later.foldl merge projection).Repeats fieldName ↔
      projection.Repeats fieldName ∧ ∀ merged ∈ later, fieldName ∉ merged.excluded := by
  have merged_eq : later.foldl merge projection = (flagsOf later).foldl flagField projection :=
    mergeAll_eq_foldl projection later
  rw [merged_eq, repeats_foldl_flagField]
  simp [flagsOf, flags]

theorem excluded_nodup_foldl_merge (distinct : projection.excluded.Nodup)
    (later : List Projection) : (later.foldl merge projection).excluded.Nodup :=
  nodup_side_mergeAll false distinct later

/-- A value flags one field at most, so it excludes none twice. -/
theorem excluded_nodup_of_parse {key value : String} {path : List String}
    (parsed : Projection.parse key path value = .ok (some projection)) :
    projection.excluded.Nodup := by
  unfold Projection.parse at parsed
  split at parsed
  · split at parsed
    · cases parsed
    · cases parsed
      exact List.nodup_nil
  · split at parsed
    · cases parsed
    · split at parsed
      · cases parsed
        exact List.nodup_nil
      · cases parsed
        exact List.nodup_singleton _
      · cases parsed
  · cases parsed

/-! ## Lists and their names one by one -/

theorem foldl_store_some (projections : List Projection) (present : Projection) :
    projections.foldl store (some present) = some (projections.foldl merge present) := by
  induction projections generalizing present with
  | nil => rfl
  | cons next rest ih => exact ih (present.merge next)

/-- The first projection is stored as it is, and only the later ones are merged. -/
theorem exists_first_of_foldl_store {projections : List Projection}
    (stored : projections.foldl store none = some projection) :
    ∃ first later, projections = first :: later ∧ projection = later.foldl merge first := by
  cases projections with
  | nil => contradiction
  | cons first later =>
      rw [List.foldl_cons, store, mergeProjection, foldl_store_some, Option.some.injEq] at stored
      exact ⟨first, later, rfl, stored.symm⟩

theorem filterMap_ofList?_names {names : List String}
    (are_fields : ∀ name ∈ names, Text.IsField separatesFields name.toList) :
    names.filterMap ofList? = names.map fun name => { included := [name] } := by
  rw [← List.filterMap_eq_map]
  apply List.filterMap_congr
  intro name name_mem
  exact ofList?_name (are_fields name name_mem)

theorem foldl_merge_singletons (names : List String) (present : Projection) :
    (names.map fun name => ({ included := [name] } : Projection)).foldl merge present =
      names.foldl includeField present := by
  rw [List.foldl_map]
  rfl

theorem foldl_includeField_of_none_excluded (names listed : List String) :
    names.foldl includeField { included := listed } =
      { included := names.foldl addName listed } := by
  induction names generalizing listed with
  | nil => rfl
  | cons name rest ih => exact ih (addName listed name)

theorem nodup_foldl_addName {listed : List String} (distinct : listed.Nodup) (names : List String) :
    (names.foldl addName listed).Nodup := by
  induction names generalizing listed with
  | nil => exact distinct
  | cons name rest ih => exact ih (nodup_addName distinct name)

theorem foldl_addName_eq_append_iff {listed : List String} (distinct : listed.Nodup)
    (names : List String) :
    names.foldl addName listed = listed ++ names ↔ (listed ++ names).Nodup := by
  constructor
  · intro same
    rw [← same]
    exact nodup_foldl_addName distinct names
  · induction names generalizing listed with
    | nil => simp
    | cons name rest ih =>
        intro all_distinct
        rw [← List.singleton_append, ← List.append_assoc] at all_distinct ⊢
        have front_distinct : (listed ++ [name]).Nodup :=
          all_distinct.sublist (List.sublist_append_left _ _)
        have absent : name ∉ listed := by
          intro listed_already
          exact (List.nodup_append.mp front_distinct).2.2 name listed_already name
            (List.mem_singleton_self name) rfl
        rw [List.singleton_append, List.foldl_cons, addName_of_not_mem absent]
        exact ih front_distinct all_distinct

/-- A list of fields is stored as its fields one by one are exactly if there is a projection already
or the list names no field twice. -/
theorem store_list_eq_iff (present : Option Projection) (names : List String) :
    (if names = [] then present else store present { included := names }) =
        (names.map fun name => ({ included := [name] } : Projection)).foldl store present ↔
      present ≠ none ∨ names.Nodup := by
  cases present with
  | some projection =>
      rw [foldl_store_some, foldl_merge_singletons]
      cases names with
      | nil => simp
      | cons first rest =>
          simp only [reduceCtorEq, if_false, store, mergeProjection, merge, ne_eq,
            not_false_eq_true, true_or, iff_true]
          rfl
  | none =>
      cases names with
      | nil => simp
      | cons first rest =>
          have apart : ((first :: rest).map fun name => ({ included := [name] } : Projection)).foldl
              store none = some { included := rest.foldl addName [first] } := by
            rw [List.map_cons, List.foldl_cons, store, mergeProjection, foldl_store_some,
              foldl_merge_singletons, foldl_includeField_of_none_excluded]
          rw [apart]
          have distinct_iff := foldl_addName_eq_append_iff (List.nodup_singleton first) rest
          rw [List.singleton_append] at distinct_iff
          rw [← distinct_iff]
          simp [store, mergeProjection, eq_comm]

end Projection

/-- The projection that a part is. -/
def FilterPart.projection? : FilterPart → Option Projection
  | .fields projection => some projection
  | _ => none

namespace FindQuery

theorem projection_foldl_apply (query : FindQuery) (parts : List FilterPart) :
    (parts.foldl apply query).projection =
      (parts.filterMap FilterPart.projection?).foldl Projection.store query.projection := by
  induction parts generalizing query with
  | nil => rfl
  | cons part rest ih =>
      rw [List.foldl_cons, ih]
      cases part <;> rfl

theorem foldl_apply_fields (query : FindQuery) (projections : List Projection) :
    (projections.map FilterPart.fields).foldl apply query =
      { query with projection := projections.foldl Projection.store query.projection } := by
  induction projections generalizing query with
  | nil => rfl
  | cons projection rest ih =>
      rw [List.map_cons, List.foldl_cons, ih]
      rfl

end FindQuery

namespace QueryKind

variable {kind : QueryKind}

/-- The projection of a descriptor. A kind that takes no fields has none. -/
def projection? (kind : QueryKind) (descriptor : kind.Descriptor) : Option Projection :=
  (kind.asFind descriptor).projection

/-- The parts that reading a query string stores. -/
def partsRead (kind : QueryKind) (query : String) : List FilterPart :=
  Occurrence.partsBeforeFailure kind
    (Occurrence.ofPairs (regroup (FormEncoding.pairs query.toList)))

/-- The projections that reading query strings one after another stores. -/
def projectionsRead (kind : QueryKind) (queries : List String) : List Projection :=
  (queries.flatMap kind.partsRead).filterMap FilterPart.projection?

theorem readAll_eq_foldl (descriptor : kind.Descriptor) (queries : List String) :
    kind.readAll descriptor queries =
      (queries.flatMap kind.partsRead).foldl kind.apply descriptor := by
  unfold readAll
  induction queries generalizing descriptor with
  | nil => rfl
  | cons query rest ih =>
      rw [List.foldl_cons, List.flatMap_cons, List.foldl_append, ih, Values.parse,
        read_ofPairs_eq_readInTurn, readInTurn_eq_readOccurrences, readOccurrences_descriptor]
      rfl

theorem isReadBy_of_mem_partsRead {query : String} {part : FilterPart}
    (part_mem : part ∈ kind.partsRead query) : part.IsReadBy kind := by
  rcases List.mem_filterMap.mp part_mem with ⟨occurrence, taken_mem, holds⟩
  have occurrence_mem := (List.takeWhile_sublist _).subset taken_mem
  rcases List.mem_filterMap.mp occurrence_mem with ⟨pair, -, occurs⟩
  exact Occurrence.isReadBy_of_part? occurs holds

theorem excluded_nodup_of_mem_projectionsRead {queries : List String} {projection : Projection}
    (projection_mem : projection ∈ kind.projectionsRead queries) : projection.excluded.Nodup := by
  rcases List.mem_filterMap.mp projection_mem with ⟨part, part_mem, part_eq⟩
  rcases List.mem_flatMap.mp part_mem with ⟨query, -, own⟩
  rcases isReadBy_of_mem_partsRead own with ⟨key, filterKey, filterType, value, -, -, parsed⟩
  cases part with
  | fields own_projection =>
      cases part_eq
      have part_type := FilterPart.filterType_of_parse parsed
      subst part_type
      rcases map_eq_ok_iff.mp parsed with ⟨projection?, projection_parsed, stored⟩
      rcases Option.map_eq_some_iff.mp stored with ⟨same, rfl, same_eq⟩
      cases same_eq
      exact Projection.excluded_nodup_of_parse projection_parsed
  | condition condition => cases part_eq
  | order order => cases part_eq
  | limit limit => cases part_eq
  | skip skip => cases part_eq

theorem filterType_mem_members_of_mem_partsRead {query : String} {part : FilterPart}
    (part_mem : part ∈ kind.partsRead query) : part.filterType ∈ kind.members := by
  rcases List.mem_filterMap.mp part_mem with ⟨occurrence, -, holds⟩
  exact filterType_mem_members_of_part? holds

theorem projection?_readAll (descriptor : kind.Descriptor) (queries : List String) :
    kind.projection? (kind.readAll descriptor queries) =
      (kind.projectionsRead queries).foldl Projection.store (kind.projection? descriptor) := by
  unfold projection?
  rw [readAll_eq_foldl, asFind_foldl_apply, FindQuery.projection_foldl_apply]
  · rfl
  · intro part part_mem
    rcases List.mem_flatMap.mp part_mem with ⟨query, -, own⟩
    exact filterType_mem_members_of_mem_partsRead own

section TakesFields

variable (takes : kind.accepts .fields = true)

include takes

theorem foldl_apply_fields_eq_iff (descriptor : kind.Descriptor)
    (projections others : List Projection) :
    (projections.map FilterPart.fields).foldl kind.apply descriptor =
        (others.map FilterPart.fields).foldl kind.apply descriptor ↔
      projections.foldl Projection.store (kind.projection? descriptor) =
        others.foldl Projection.store (kind.projection? descriptor) := by
  have members : ∀ (projections : List Projection),
      ∀ part ∈ projections.map FilterPart.fields, part.filterType ∈ kind.members := by
    intro projections part part_mem
    rcases List.mem_map.mp part_mem with ⟨projection, -, rfl⟩
    exact (accepts_iff_mem_members kind .fields).mp takes
  have asFind_eq : ∀ (projections : List Projection),
      kind.asFind ((projections.map FilterPart.fields).foldl kind.apply descriptor) =
        { kind.asFind descriptor with
          projection := projections.foldl Projection.store (kind.projection? descriptor) } := by
    intro projections
    rw [asFind_foldl_apply (members projections), FindQuery.foldl_apply_fields]
    rfl
  constructor
  · intro same
    have asFinds_eq := congrArg kind.asFind same
    rw [asFind_eq, asFind_eq] at asFinds_eq
    exact congrArg FindQuery.projection asFinds_eq
  · intro same
    apply eq_of_asFind_eq
    · exact (sameTarget_foldl_apply descriptor _).symm.trans (sameTarget_foldl_apply descriptor _)
    · rw [asFind_eq, asFind_eq, same]

theorem readInTurn_list (descriptor : kind.Descriptor) (value : String) :
    (kind.readInTurn descriptor [("filter[fields]", value)]).EndsWith
      (((Projection.ofList? value).toList.map FilterPart.fields).foldl kind.apply descriptor) := by
  have recognised : FilterKey.parse? "filter[fields]" = some ⟨"fields", []⟩ := by decide +kernel
  have named : Named.ofName? "fields" = some FilterType.fields := by decide +kernel
  have taken : kind.filterType? "fields" = some .fields := by simp [filterType?, named, takes]
  rw [readInTurn, List.map_singleton, readEntries, readEntry]
  simp only [recognised, taken, readValues, readValue, FilterPart.parse, Projection.parse_list]
  cases Projection.ofList? value <;> exact ⟨rfl, rfl⟩

/-- Lists of fields under one key are read without an error, and each that has a field is stored. -/
theorem readInTurn_lists (descriptor : kind.Descriptor) (values : List String) :
    (kind.readInTurn descriptor (values.map fun value => ("filter[fields]", value))).EndsWith
      (((values.filterMap Projection.ofList?).map FilterPart.fields).foldl
        kind.apply descriptor) := by
  induction values generalizing descriptor with
  | nil => exact ⟨rfl, rfl⟩
  | cons value rest ih =>
      rw [List.map_cons, ← List.singleton_append, readInTurn_append]
      have value_read := readInTurn_list takes descriptor value
      cases listed : Projection.ofList? value with
      | none =>
          rw [listed] at value_read
          rw [List.filterMap_cons_none listed]
          exact value_read.andThen (ih _)
      | some projection =>
          rw [listed] at value_read
          rw [List.filterMap_cons_some listed]
          exact value_read.andThen (ih _)

theorem read_lists (descriptor : kind.Descriptor) (values : List String) :
    (kind.read descriptor
      (Values.ofPairs (values.map fun value => ("filter[fields]", value)))).EndsWith
        (((values.filterMap Projection.ofList?).map FilterPart.fields).foldl
          kind.apply descriptor) := by
  rw [read_ofPairs_eq_readInTurn, regroup_eq_self]
  · exact readInTurn_lists takes descriptor values
  · have same : ∀ key ∈ (values.map fun value => ("filter[fields]", value)).map Prod.fst,
        key = "filter[fields]" := by
      simp
    exact Uninterleaved.of_forall_eq same

end TakesFields

/--
A descriptor without a projection that reads query strings one after another excludes no field
twice, and it includes a field twice exactly if the first projection it reads does so and no later
one excludes the field. A list of fields can always be read, and fills a descriptor as its fields
one by one do exactly if there is a projection already or the list names no field twice.
-/
theorem included_twice_by_first_list (kind : QueryKind) (takes : kind.accepts .fields = true) :
    (∀ (start : kind.Descriptor) (queries : List String), kind.projection? start = none →
      let projections := kind.projectionsRead queries
      ∀ projection ∈ kind.projection? (kind.readAll start queries),
        projection.excluded.Nodup ∧
        (∀ fieldName, projection.Repeats fieldName ↔
          (∃ first ∈ projections.head?, first.Repeats fieldName) ∧
            ∀ later ∈ projections.tail, fieldName ∉ later.excluded) ∧
        (projection.included.Nodup ↔ ∀ fieldName, ¬projection.Repeats fieldName)) ∧
    ∀ (present : kind.Descriptor) (names : List String),
      (∀ name ∈ names, Text.IsField separatesFields name.toList) →
      let list := String.ofList ([','].intercalate (names.map String.toList))
      let together := kind.read present (Values.ofPairs [("filter[fields]", list)])
      let apart := kind.read present
        (Values.ofPairs (names.map fun name => ("filter[fields]", name)))
      together.failure = none ∧ apart.failure = none ∧
        (together.descriptor = apart.descriptor ↔
          kind.projection? present ≠ none ∨ names.Nodup) := by
  constructor
  · intro start queries none_yet projections projection final
    rw [projection?_readAll, none_yet, Option.mem_def] at final
    have excluded_nodup : ∀ read ∈ projections, read.excluded.Nodup :=
      fun _ => excluded_nodup_of_mem_projectionsRead
    rcases Projection.exists_first_of_foldl_store final with ⟨first, later, read_eq, rfl⟩
    have projections_eq : projections = first :: later := read_eq
    rw [projections_eq] at excluded_nodup ⊢
    refine ⟨?_, ?_, Projection.included_nodup_iff⟩
    · exact Projection.excluded_nodup_foldl_merge (excluded_nodup first List.mem_cons_self) later
    · intro fieldName
      rw [Projection.repeats_foldl_merge]
      simp
  · intro present names are_fields list together apart
    have together_read := read_lists takes present [list]
    have apart_read := read_lists takes present names
    refine ⟨together_read.1, apart_read.1, ?_⟩
    have together_projections : [list].filterMap Projection.ofList? =
        if names = [] then [] else [{ included := names }] := by
      rw [List.filterMap_cons, Projection.ofList?_intercalate are_fields]
      split <;> split at * <;> simp_all
    have descriptors_eq := foldl_apply_fields_eq_iff takes present
      ([list].filterMap Projection.ofList?) (names.filterMap Projection.ofList?)
    rw [← together_read.2, ← apart_read.2, together_projections,
      Projection.filterMap_ofList?_names are_fields] at descriptors_eq
    refine descriptors_eq.trans ?_
    rw [← Projection.store_list_eq_iff]
    split <;> rfl

/-- Three lists and a flag fill a find by identifier: `id` stays included twice, `name` was so until
its flag. The name `id` twice in one list is as two values of it only beside a projection. -/
theorem included_twice_by_first_list_findById :
    let start : FindByIdQuery := { modelId := "7" }
    let queries := ["filter[fields]=id,name,id,name&page=2",
      "filter[fields][name]=false&filter[fields]=name,id"]
    let full : FindByIdQuery :=
      { modelId := "7", projection := some { included := ["id", "id", "name"] } }
    let kind := QueryKind.findById
    let together := Values.ofPairs [("filter[fields]", "id,id")]
    let apart := Values.ofPairs [("filter[fields]", "id"), ("filter[fields]", "id")]
    (kind.readAll start queries = full ∧
      ∃ projection ∈ kind.projection? (kind.readAll start queries),
        projection.excluded.Nodup ∧ projection.Repeats "id" ∧ ¬projection.Repeats "name") ∧
    (kind.read full together).descriptor = (kind.read full apart).descriptor ∧
    (kind.read start together).descriptor ≠ (kind.read start apart).descriptor := by
  intro start queries full kind together apart
  have full_read : kind.readAll start queries = full := by decide +kernel
  have projections_eq : kind.projectionsRead queries =
      [{ included := ["id", "name", "id", "name"] }, { excluded := ["name"] },
        { included := ["name", "id"] }] := by decide +kernel
  rcases included_twice_by_first_list kind rfl with ⟨of_queries, of_lists⟩
  rcases of_queries start queries rfl { included := ["id", "id", "name"] }
    (by rw [full_read]; rfl) with ⟨excluded_nodup, repeats_iff, -⟩
  simp only [projections_eq, List.head?_cons, List.tail_cons, Option.mem_some_iff,
    exists_eq_left'] at repeats_iff
  have are_fields : ∀ name ∈ ["id", "id"], Text.IsField separatesFields name.toList := by
    decide +kernel
  refine ⟨⟨full_read, _, by rw [full_read]; rfl, excluded_nodup, ?_, ?_⟩, ?_, ?_⟩
  · exact (repeats_iff "id").mpr (by decide)
  · rw [repeats_iff]
    decide
  · exact (of_lists full ["id", "id"] are_fields).2.2.mpr (.inl (by decide))
  · intro same
    exact absurd ((of_lists start ["id", "id"] are_fields).2.2.mp same) (by decide)

/-- The first list that a find reads leaves a field included twice, which two values do not. -/
theorem find_fields_id_listed_twice :
    let listed := QueryKind.find.readAll {} ["filter[fields]=id,id"]
    let valued := QueryKind.find.readAll {} ["filter[fields]=id&filter[fields]=id"]
    listed = ({ projection := some { included := ["id", "id"] } } : FindQuery) ∧
    valued = ({ projection := some { included := ["id"] } } : FindQuery) ∧
    (∃ projection ∈ listed.projection, ¬projection.included.Nodup) ∧
    listed.projection ≠ valued.projection := by
  intro listed valued
  have listed_eq : listed = { projection := some { included := ["id", "id"] } } := by decide +kernel
  have valued_eq : valued = { projection := some { included := ["id"] } } := by decide +kernel
  rw [listed_eq, valued_eq]
  exact ⟨rfl, rfl, ⟨_, rfl, by decide⟩, by decide⟩

end QueryKind

end SchemaLens.Query
