import SchemaLens.Proofs.Query.InputOrder
import SchemaLens.Proofs.Query.Invariant

/-!
# Narrow kinds of query

Every other kind of query has some of the members of a find and takes the filters that fill them.
So it reads what it takes as a find does: reading the same values in step, the two meet the same
errors and agree on the members that they share. A key that the kind does not take ends its reading
where it stands, and until then a find has read the same.
-/

namespace SchemaLens.Query

namespace FindQuery

instance : (filterType : FilterType) → (left right : FindQuery) →
    Decidable (AgreeOn filterType left right)
  | .fields, left, right => inferInstanceAs (Decidable (left.projection = right.projection))
  | .condition, left, right => inferInstanceAs (Decidable (left.conditions = right.conditions))
  | .order, left, right => inferInstanceAs (Decidable (left.order = right.order))
  | .limit, left, right => inferInstanceAs (Decidable (left.limit = right.limit))
  | .skip, left, right => inferInstanceAs (Decidable (left.skip = right.skip))

end FindQuery

namespace QueryKind

/-- The types of filter that the descriptors of a kind have a member for. -/
def members : QueryKind → List FilterType
  | .find => [.fields, .condition, .order, .limit, .skip]
  | .findOne => [.fields, .condition, .order, .skip]
  | .findById => [.fields]
  | .count => [.condition]
  | .update => [.condition]
  | .destroy => [.condition]

/-- The find that asks for what a descriptor asks for. -/
def asFind : (kind : QueryKind) → kind.Descriptor → FindQuery
  | .find, query => query
  | .findOne, query => {
      projection := FindOneQuery.projection query
      conditions := FindOneQuery.conditions query
      order := FindOneQuery.order query
      skip := FindOneQuery.skip query }
  | .findById, query => { projection := FindByIdQuery.projection query }
  | .count, query => { conditions := CountQuery.conditions query }
  | .update, query => { conditions := UpdateQuery.conditions query }
  | .destroy, query => { conditions := DestroyQuery.conditions query }

/-- Whether a descriptor and a find have the same in every member that the descriptor has. -/
def Shares (kind : QueryKind) (descriptor : kind.Descriptor) (query : FindQuery) : Prop :=
  ∀ filterType ∈ kind.members, FindQuery.AgreeOn filterType (kind.asFind descriptor) query

instance (kind : QueryKind) (descriptor : kind.Descriptor) (query : FindQuery) :
    Decidable (kind.Shares descriptor query) :=
  inferInstanceAs (Decidable (∀ filterType ∈ kind.members, _))

/-- Whether two descriptors of a kind have the same identifier and the same values to write. -/
def SameTarget : (kind : QueryKind) → kind.Descriptor → kind.Descriptor → Prop
  | .findById, left, right => FindByIdQuery.modelId left = FindByIdQuery.modelId right
  | .update, left, right => UpdateQuery.data left = UpdateQuery.data right
  | _, _, _ => True

/-- Whether the kind takes the filter that a key addresses, if it addresses one. -/
def takesKey (kind : QueryKind) (key : String) : Bool :=
  (FilterKey.parse? key).all fun filterKey => (kind.filterType? filterKey.keyword).isSome

variable {kind : QueryKind}

theorem accepts_iff_mem_members (kind : QueryKind) (filterType : FilterType) :
    kind.accepts filterType = true ↔ filterType ∈ kind.members := by
  cases kind <;> cases filterType <;> decide

theorem mem_members_of_filterType? {keyword : String} {filterType : FilterType}
    (taken : kind.filterType? keyword = some filterType) : filterType ∈ kind.members := by
  rw [← accepts_iff_mem_members]
  exact (Option.filter_eq_some_iff.mp taken).2

theorem find_filterType?_of_filterType? {keyword : String} {filterType : FilterType}
    (taken : kind.filterType? keyword = some filterType) :
    QueryKind.find.filterType? keyword = some filterType := by
  rcases Option.filter_eq_some_iff.mp taken with ⟨named, -⟩
  exact Option.filter_eq_some_iff.mpr ⟨named, rfl⟩

/-- A part that the kind has a member for is stored as in a find. -/
theorem asFind_apply (descriptor : kind.Descriptor) {part : FilterPart}
    (member : part.filterType ∈ kind.members) :
    kind.asFind (kind.apply descriptor part) = (kind.asFind descriptor).apply part := by
  cases kind <;> cases part <;> first | rfl | simp [members, FilterPart.filterType] at member

theorem Shares.apply {descriptor : kind.Descriptor} {query : FindQuery}
    (shares : kind.Shares descriptor query) {part : FilterPart}
    (member : part.filterType ∈ kind.members) :
    kind.Shares (kind.apply descriptor part) (query.apply part) := by
  intro filterType filterType_mem
  rw [asFind_apply descriptor member]
  exact FindQuery.agreeOn_apply (shares filterType filterType_mem) part

theorem sameTarget_apply {start descriptor : kind.Descriptor}
    (same : kind.SameTarget start descriptor) (part : FilterPart) :
    kind.SameTarget start (kind.apply descriptor part) := by
  cases kind <;> cases part <;> exact same

theorem sameTarget_refl (descriptor : kind.Descriptor) : kind.SameTarget descriptor descriptor := by
  cases kind <;> simp [SameTarget]

/-! ## Two readings in step -/

/-- A reading of a kind and one of a find meet the same error, if any, and agree on the members that
they share; in the members that the kind lacks the find has kept what it started with. -/
structure Simulates (own : Outcome kind) (wide : Outcome .find) (start : FindQuery) : Prop where
  failure_eq : own.failure = wide.failure
  shares : kind.Shares own.descriptor wide.descriptor
  lacked : ∀ filterType ∉ kind.members, FindQuery.AgreeOn filterType wide.descriptor start

theorem simulates_start {descriptor : kind.Descriptor} {query : FindQuery}
    (shares : kind.Shares descriptor query) (failure : Option FilterError)
    (seen wideSeen : List ValueSeen) :
    Simulates { descriptor, failure, seen } { descriptor := query, failure, seen := wideSeen }
      query where
  failure_eq := rfl
  shares := shares
  lacked := fun filterType _ => FindQuery.agreeOn_refl filterType query

theorem Simulates.andThen {own : Outcome kind} {wide : Outcome .find} {start : FindQuery}
    {next : kind.Descriptor → Outcome kind} {wideNext : FindQuery → Outcome .find}
    (first : Simulates own wide start)
    (second : ∀ descriptor query, kind.Shares descriptor query →
      Simulates (next descriptor) (wideNext query) query) :
    Simulates (own.andThen next) (wide.andThen wideNext) start := by
  cases failed : wide.failure with
  | some error =>
      rw [Outcome.andThen_of_failure (first.failure_eq.trans failed),
        Outcome.andThen_of_failure failed]
      exact first
  | none =>
      rw [Outcome.andThen_of_no_failure (first.failure_eq.trans failed),
        Outcome.andThen_of_no_failure failed]
      have later := second own.descriptor wide.descriptor first.shares
      refine ⟨later.failure_eq, later.shares, ?_⟩
      intro filterType not_member
      exact (later.lacked filterType not_member).trans (first.lacked filterType not_member)

theorem simulates_readValue {descriptor : kind.Descriptor} {query : FindQuery}
    (shares : kind.Shares descriptor query) {filterType : FilterType}
    (member : filterType ∈ kind.members) (key : String) (path : List String) (value : String) :
    Simulates (kind.readValue filterType key path descriptor value)
      (QueryKind.find.readValue filterType key path query value) query := by
  unfold readValue
  rcases parsed : FilterPart.parse filterType key path value with error | (_ | part)
  · exact simulates_start shares (some error) _ _
  · exact simulates_start shares none _ _
  · have part_type := FilterPart.filterType_of_parse parsed
    rw [← part_type] at member
    refine ⟨rfl, shares.apply member, ?_⟩
    intro lackedType not_member
    apply FindQuery.agreeOn_apply_of_ne (FindQuery.agreeOn_refl lackedType query)
    rintro rfl
    exact not_member member

theorem simulates_readValues {descriptor : kind.Descriptor} {query : FindQuery}
    (shares : kind.Shares descriptor query) {filterType : FilterType}
    (member : filterType ∈ kind.members) (key : String) (path : List String)
    (values : List String) :
    Simulates (kind.readValues filterType key path descriptor values)
      (QueryKind.find.readValues filterType key path query values) query := by
  induction values generalizing descriptor query with
  | nil => exact simulates_start shares none [] []
  | cons value rest ih =>
      apply (simulates_readValue shares member key path value).andThen
      intro filled wideFilled filled_shares
      exact ih filled_shares

theorem simulates_readEntry {descriptor : kind.Descriptor} {query : FindQuery}
    (shares : kind.Shares descriptor query) {key : String} (taken : kind.takesKey key = true)
    (values : List String) :
    Simulates (kind.readEntry descriptor key values)
      (QueryKind.find.readEntry query key values) query := by
  cases recognised : FilterKey.parse? key with
  | none =>
      simp only [readEntry, recognised]
      exact simulates_start shares none [] []
  | some filterKey =>
      simp only [takesKey, recognised, Option.all_some] at taken
      rcases Option.isSome_iff_exists.mp taken with ⟨filterType, own_taken⟩
      have wide_taken := find_filterType?_of_filterType? own_taken
      simp only [readEntry, recognised, own_taken, wide_taken]
      exact simulates_readValues shares (mem_members_of_filterType? own_taken) key filterKey.path
        values

theorem simulates_readEntries {descriptor : kind.Descriptor} {query : FindQuery}
    (shares : kind.Shares descriptor query) {entries : List (String × List String)}
    (taken : ∀ entry ∈ entries, kind.takesKey entry.1 = true) :
    Simulates (kind.readEntries descriptor entries) (QueryKind.find.readEntries query entries)
      query := by
  induction entries generalizing descriptor query with
  | nil => exact simulates_start shares none [] []
  | cons entry rest ih =>
      rw [List.forall_mem_cons] at taken
      apply (simulates_readEntry shares taken.1 entry.2).andThen
      intro filled wideFilled filled_shares
      exact ih filled_shares taken.2

/-! ## A key that the kind does not take -/

theorem exists_parse?_of_not_takesKey {key : String} (refused : kind.takesKey key = false) :
    ∃ filterKey, FilterKey.parse? key = some filterKey ∧
      kind.filterType? filterKey.keyword = none := by
  unfold takesKey at refused
  cases recognised : FilterKey.parse? key with
  | none => simp [recognised] at refused
  | some filterKey =>
      refine ⟨filterKey, rfl, ?_⟩
      simpa [recognised] using refused

theorem readEntries_of_refused (descriptor : kind.Descriptor) {key : String}
    {filterKey : FilterKey} (recognised : FilterKey.parse? key = some filterKey)
    (refused : kind.filterType? filterKey.keyword = none) (values : List String)
    (later : List (String × List String)) :
    kind.readEntries descriptor ((key, values) :: later) =
      { descriptor, failure := some (.unknownFilter filterKey.keyword kind) } := by
  simp only [readEntries, readEntry, recognised, refused]
  rfl

/-- The first key that the kind does not take ends a reading that no error has ended before. -/
theorem readEntries_failure_of_refused (descriptor : kind.Descriptor)
    (earlier : List (String × List String)) {key : String} {filterKey : FilterKey}
    (recognised : FilterKey.parse? key = some filterKey)
    (refused : kind.filterType? filterKey.keyword = none) (values : List String)
    (later : List (String × List String)) :
    let outcome := kind.readEntries descriptor (earlier ++ (key, values) :: later)
    let before := kind.readEntries descriptor earlier
    outcome.failure = some (before.failure.getD (.unknownFilter filterKey.keyword kind)) ∧
      outcome.descriptor = before.descriptor := by
  intro outcome before
  have outcome_eq : outcome = before.andThen fun filled =>
      { descriptor := filled, failure := some (.unknownFilter filterKey.keyword kind) } := by
    simp only [outcome, before, readEntries_append,
      readEntries_of_refused _ recognised refused values later]
  rw [outcome_eq]
  cases failed : before.failure with
  | some error =>
      rw [Outcome.andThen_of_failure failed]
      exact ⟨failed, rfl⟩
  | none =>
      rw [Outcome.andThen_of_no_failure failed]
      exact ⟨rfl, rfl⟩

theorem exists_first_refused {entries : List (String × List String)}
    (not_all_taken : ¬∀ entry ∈ entries, kind.takesKey entry.1 = true) :
    ∃ key keyValues later,
      entries = (entries.takeWhile fun entry => kind.takesKey entry.1) ++
        (key, keyValues) :: later ∧
      kind.takesKey key = false ∧
      (entries.map Prod.fst).find? (!kind.takesKey ·) = some key := by
  induction entries with
  | nil => exact absurd (List.forall_mem_nil _) not_all_taken
  | cons entry rest ih =>
      rcases entry with ⟨key, keyValues⟩
      cases taken : kind.takesKey key with
      | false => exact ⟨key, keyValues, rest, by simp [taken], taken, by simp [taken]⟩
      | true =>
          have rest_not_all : ¬∀ entry ∈ rest, kind.takesKey entry.1 = true := by
            intro rest_taken
            exact not_all_taken (List.forall_mem_cons.mpr ⟨taken, rest_taken⟩)
          rcases ih rest_not_all with ⟨refusedKey, refusedValues, later, split, refused, first⟩
          refine ⟨refusedKey, refusedValues, later, ?_, refused, ?_⟩
          · rw [List.takeWhile_cons, taken, if_pos rfl, List.cons_append, ← split]
          · simpa [taken] using first

end QueryKind

namespace Values

/-- The values of the keys before the first that the kind does not take. -/
def beforeRefused (values : Values) (kind : QueryKind) : Values where
  entries := values.entries.takeWhile fun entry => kind.takesKey entry.1
  distinct := values.distinct.sublist ((List.takeWhile_sublist _).map Prod.fst)

end Values

namespace QueryKind

/--
A kind of query reads keys that it takes as a find does that starts with the same in the members
they share: both meet the same error or none, the shared members stay the same, and the find keeps
the others. If there is a key that the kind does not take, its reading fails: with the error that a
find meets in the keys before the first such key, or else because of that key, and the shared
members are those of that find. In no case does a reading change the identifier or the values to
write.
-/
theorem read_simulates_find (kind : QueryKind) (descriptor : kind.Descriptor) (query : FindQuery)
    (values : Values) (shares : kind.Shares descriptor query) :
    let outcome := kind.read descriptor values
    ((∀ key ∈ values.keys, kind.takesKey key = true) →
      let wide := QueryKind.find.read query values
      outcome.failure = wide.failure ∧ kind.Shares outcome.descriptor wide.descriptor ∧
        ∀ filterType ∉ kind.members, FindQuery.AgreeOn filterType wide.descriptor query) ∧
    ((¬∀ key ∈ values.keys, kind.takesKey key = true) →
      let wide := QueryKind.find.read query (values.beforeRefused kind)
      ∃ key filterKey, values.keys.find? (!kind.takesKey ·) = some key ∧
        FilterKey.parse? key = some filterKey ∧
        outcome.failure = some (wide.failure.getD (.unknownFilter filterKey.keyword kind)) ∧
        kind.Shares outcome.descriptor wide.descriptor) ∧
    kind.SameTarget descriptor outcome.descriptor := by
  intro outcome
  refine ⟨?_, ?_, ?_⟩
  · intro taken wide
    have entries_taken : ∀ entry ∈ values.entries, kind.takesKey entry.1 = true :=
      fun entry entry_mem => taken entry.1 (List.mem_map_of_mem entry_mem)
    have simulates := simulates_readEntries shares entries_taken
    exact ⟨simulates.failure_eq, simulates.shares, simulates.lacked⟩
  · intro not_all_taken wide
    have not_all_entries : ¬∀ entry ∈ values.entries, kind.takesKey entry.1 = true := by
      intro entries_taken
      apply not_all_taken
      intro key key_mem
      rcases List.mem_map.mp key_mem with ⟨entry, entry_mem, rfl⟩
      exact entries_taken entry entry_mem
    rcases exists_first_refused not_all_entries with
      ⟨key, keyValues, later, split, refused, first⟩
    rcases exists_parse?_of_not_takesKey refused with ⟨filterKey, recognised, untaken⟩
    have before_taken : ∀ entry ∈ (values.beforeRefused kind).entries,
        kind.takesKey entry.1 = true := List.all_eq_true.mp List.all_takeWhile
    have simulates := simulates_readEntries shares before_taken
    have ended := readEntries_failure_of_refused descriptor (values.beforeRefused kind).entries
      recognised untaken keyValues later
    have outcome_eq : outcome = kind.readEntries descriptor
        ((values.beforeRefused kind).entries ++ (key, keyValues) :: later) :=
      congrArg (kind.readEntries descriptor) split
    rw [outcome_eq, ended.1, ended.2, simulates.failure_eq]
    exact ⟨key, filterKey, first, recognised, rfl, simulates.shares⟩
  · apply read_induction (motive := kind.SameTarget descriptor)
    · intro filled part _ same
      exact sameTarget_apply same part
    · exact sameTarget_refl descriptor

/-- A find for one row reads an order and then a skip that is no number, and fails as a find does; a
limit it does not take, and keeps the condition that stands before it. -/
theorem read_simulates_find_findOne :
    let start : FindOneQuery := { skip := some ⟨3⟩ }
    let query : FindQuery := { skip := some ⟨3⟩, limit := some ⟨9⟩ }
    let taken := Values.ofPairs
      [("filter[order]", "name desc"), ("page", "2"), ("filter[skip]", "x")]
    let refused := Values.ofPairs
      [("filter[where][age][gte]", "18"), ("filter[Limit]", "5"), ("filter[skip]", "x")]
    QueryKind.findOne.Shares start query ∧
    ((QueryKind.findOne.read start taken).failure = (QueryKind.find.read query taken).failure ∧
      QueryKind.findOne.Shares (QueryKind.findOne.read start taken).descriptor
        (QueryKind.find.read query taken).descriptor ∧
      FindQuery.AgreeOn .limit (QueryKind.find.read query taken).descriptor query) ∧
    (QueryKind.findOne.read start refused).failure = some (.unknownFilter "limit" .findOne) ∧
    QueryKind.findOne.Shares (QueryKind.findOne.read start refused).descriptor
      { query with conditions := [⟨"age", .gte, "18"⟩] } := by
  intro start query taken refused
  have shares : QueryKind.findOne.Shares start query := by decide
  refine ⟨shares, ?_, ?_⟩
  · rcases (read_simulates_find .findOne start query taken shares).1 (by decide +kernel) with
      ⟨failure_eq, shared, lacked⟩
    exact ⟨failure_eq, shared, lacked .limit (by decide)⟩
  · rcases (read_simulates_find .findOne start query refused shares).2.1 (by decide +kernel) with
      ⟨key, filterKey, first, recognised, failure_eq, shared⟩
    have key_eq : key = "filter[Limit]" := Option.some.inj (first.symm.trans (by decide +kernel))
    subst key_eq
    have filterKey_eq : filterKey = ⟨"limit", []⟩ :=
      Option.some.inj (recognised.symm.trans (by decide +kernel))
    subst filterKey_eq
    have wide_eq : QueryKind.find.read query (refused.beforeRefused .findOne) = {
        descriptor := { query with conditions := [⟨"age", .gte, "18"⟩] }
        failure := none
        seen := [⟨.find, "filter[where][age][gte]", "18"⟩] } := by decide +kernel
    rw [wide_eq] at failure_eq shared
    exact ⟨failure_eq, shared⟩

end QueryKind

end SchemaLens.Query
