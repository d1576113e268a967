import SchemaLens.Proofs.Query.Count
import SchemaLens.Proofs.Query.InputOrder
import SchemaLens.Proofs.Query.OrderEntries
import SchemaLens.Proofs.Query.WellFormed
import SchemaLens.Proofs.Text.Fields

/-!
# Queries written as parameters

Every part of a query can be written as a parameter from which that part is read again: a field with
a flag, a condition with its path, an order as words with their directions, a count in decimal
digits. The readers look at no more of a value than its own part, so each of them is shown to invert
its writer by itself.
-/

namespace SchemaLens.Query

theorem Operator.ofWord?_name (operator : Operator) :
    Operator.ofWord? (Named.name operator) = some operator := by
  cases operator <;> decide +kernel

/-! ## Counts -/

theorem readCount_repr (filterType : FilterType) (count : UInt64) :
    readCount filterType count.toNat.repr = .ok count := by
  rw [readCount_eq_ok_iff, Nat.toList_repr]
  exact {
    not_empty := Nat.toDigits_ne_nil
    digits := fun _ mem => Nat.isDigit_of_mem_toDigits (by decide) (by decide) mem
    number_eq := Nat.ofDigitChars_toDigits (by decide) (by decide) }

/-! ## Orders -/

/-- An entry of an order as a word and its direction. -/
def OrderEntry.render (entry : OrderEntry) : List Char :=
  entry.fieldName.toList ++ ' ' :: (Named.name entry.direction).toList

/-- An order as its entries, with commas between them. -/
def SortOrder.render (order : SortOrder) : String :=
  String.ofList ([','].intercalate (order.entries.map OrderEntry.render))

/-- An entry at the start of a text is read, up to where its direction ends. -/
theorem orderEntries_render_append {entry : OrderEntry} (named : entry.fieldName ≠ "")
    (word : ∀ character ∈ entry.fieldName.toList, Text.isAsciiWord character = true)
    {rest : List Char} (ended : ∀ character ∈ rest.head?, Text.isAsciiWord character = false) :
    orderEntries (entry.render ++ rest) = entry :: orderEntries rest := by
  rcases entry with ⟨fieldName, direction⟩
  cases fieldName_eq : fieldName.toList with
  | nil => exact absurd (String.toList_eq_nil_iff.mp fieldName_eq) named
  | cons first others =>
      simp only [fieldName_eq] at word
      have render_eq : OrderEntry.render ⟨fieldName, direction⟩ ++ rest =
          first :: (others ++ ([' '] ++ ((Named.name direction).toList ++ rest))) := by
        simp [OrderEntry.render, fieldName_eq]
      rw [render_eq, orderEntries_word_direction_append word (List.cons_ne_nil _ _)
        (List.forall_mem_singleton.mpr rfl) (SortDirection.ofWord?_name direction) ended,
        ← fieldName_eq, String.ofList_toList]

theorem orderEntries_intercalate {entries : List OrderEntry}
    (named : ∀ entry ∈ entries, entry.fieldName ≠ "")
    (words : ∀ entry ∈ entries, ∀ character ∈ entry.fieldName.toList,
      Text.isAsciiWord character = true) :
    orderEntries ([','].intercalate (entries.map OrderEntry.render)) = entries := by
  have each : ∀ entry ∈ entries, orderEntries entry.render = [entry] := by
    intro entry entry_mem
    rw [← List.append_nil entry.render, orderEntries_render_append (named entry entry_mem)
      (words entry entry_mem) (by rintro character ⟨⟩), orderEntries_nil]
  rw [orderEntries_intercalate_commas, List.flatMap_map, List.flatMap_congr each,
    List.flatMap_singleton']

/-- An order that names words is read back from its text. -/
theorem SortOrder.parse?_render {order : SortOrder} (wellFormed : order.WellFormed) :
    SortOrder.parse? order.render = some order := by
  rcases order with ⟨entries⟩
  unfold SortOrder.parse?
  rw [SortOrder.render, String.toList_ofList,
    orderEntries_intercalate wellFormed.named wellFormed.words]
  cases entries with
  | nil => exact absurd rfl wellFormed.not_empty
  | cons first others => rfl

/-! ## Keys -/

theorem isAsciiWord_of_mem_operator {operator : Operator} :
    ∀ character ∈ (Named.name operator).toList, Text.isAsciiWord character = true := by
  rw [← List.all_eq_true]
  cases operator <;> decide +kernel

/-- The key of a filter with a path. -/
def FilterType.key (filterType : FilterType) (path : List String) : String :=
  FilterKey.render { keyword := Named.name filterType, path }

namespace FilterType

variable {filterType : FilterType} {path : List String}

theorem isKeyword_name : FilterKey.IsKeyword (Named.name filterType).toList where
  word := by
    rw [← List.all_eq_true]
    cases filterType <;> decide +kernel
  lower := by cases filterType <;> decide +kernel

theorem parse?_key (segments : ∀ segment ∈ path, FilterKey.IsSegment segment.toList) :
    FilterKey.parse? (filterType.key path) = some { keyword := Named.name filterType, path } :=
  FilterKey.parse?_render isKeyword_name segments

theorem path_eq_of_key_eq {other : List String}
    (segments : ∀ segment ∈ path, FilterKey.IsSegment segment.toList)
    (other_segments : ∀ segment ∈ other, FilterKey.IsSegment segment.toList)
    (same : filterType.key path = filterType.key other) : path = other := by
  have parsed : FilterKey.parse? (filterType.key path) =
      some { keyword := Named.name filterType, path } := parse?_key segments
  rw [same, parse?_key other_segments] at parsed
  exact (congrArg FilterKey.path (Option.some.inj parsed)).symm

theorem addresses_key (segments : ∀ segment ∈ path, FilterKey.IsSegment segment.toList)
    (other : FilterType) :
    FilterKey.addresses other (filterType.key path) = decide (filterType = other) := by
  simp [FilterKey.addresses, parse?_key segments, Named.ofName?_name]

end FilterType

namespace Projection

/-! ## Lists of fields -/

/-- The projection that a list of fields stands for; `none` if it has no field. -/
def ofList? (value : String) : Option Projection :=
  match Text.fields separatesFields value.toList with
  | [] => none
  | names => some { included := names.map String.ofList }

theorem parse_list (key value : String) : Projection.parse key [] value = .ok (ofList? value) := by
  unfold Projection.parse ofList?
  cases Text.fields separatesFields value.toList <;> rfl

theorem ofList?_intercalate {names : List String}
    (are_fields : ∀ name ∈ names, Text.IsField separatesFields name.toList) :
    ofList? (String.ofList ([','].intercalate (names.map String.toList))) =
      if names = [] then none else some { included := names } := by
  have read_back : Text.fields separatesFields ([','].intercalate (names.map String.toList)) =
      names.map String.toList := by
    apply Text.fields_intercalate (by decide)
    intro text text_mem
    rcases List.mem_map.mp text_mem with ⟨name, name_mem, rfl⟩
    exact are_fields name name_mem
  rw [ofList?, String.toList_ofList, read_back]
  cases names <;> simp [Function.comp_def]

theorem ofList?_name {name : String} (isField : Text.IsField separatesFields name.toList) :
    ofList? name = some { included := [name] } := by
  rw [ofList?, Text.fields_eq_singleton isField]
  simp

/-! ## Flags -/

/-- A projection with one more field mentioned, included if the flag is true. -/
def flagField (projection : Projection) (flagged : String × Bool) : Projection :=
  if flagged.2 then projection.includeField flagged.1 else projection.excludeField flagged.1

/-- The fields that a projection mentions with their flags, the included ones first. -/
def flags (projection : Projection) : List (String × Bool) :=
  projection.included.map (·, true) ++ projection.excluded.map (·, false)

/-- The projection that the flag of one field stands for. -/
def ofFlag (flagged : String × Bool) : Projection :=
  flagField {} flagged

/-- The pair that flags a field. -/
def flagPair (flagged : String × Bool) : String × String :=
  (FilterType.fields.key [flagged.1], toString flagged.2)

/-- Whether a projection is well-formed, mentions no field twice and only fields that can stand in
a key. -/
structure Canonical (projection : Projection) : Prop extends projection.WellFormed where
  segments : ∀ fieldName, projection.Mentions fieldName → FilterKey.IsSegment fieldName.toList
  included_nodup : projection.included.Nodup
  excluded_nodup : projection.excluded.Nodup

instance (projection : Projection) : Decidable projection.Canonical :=
  decidable_of_iff
    (projection.WellFormed ∧
      (∀ fieldName ∈ projection.included ++ projection.excluded,
        FilterKey.IsSegment fieldName.toList) ∧
      projection.included.Nodup ∧ projection.excluded.Nodup)
    ⟨fun ⟨wellFormed, segments, included, excluded⟩ =>
        ⟨wellFormed, forall_mentions_iff.mpr segments, included, excluded⟩,
      fun ⟨wellFormed, segments, included, excluded⟩ =>
        ⟨wellFormed, forall_mentions_iff.mp segments, included, excluded⟩⟩

variable {projection : Projection}

theorem parse_toString {fieldName : String} (named : fieldName ≠ "") (key : String)
    (flag : Bool) :
    Projection.parse key [fieldName] (toString flag) =
      .ok (some (ofFlag (fieldName, flag))) := by
  have not_empty : fieldName.isEmpty = false := by simpa using named
  have flag_read : flagValue? (toString flag) = some flag := by
    cases flag <;> decide +kernel
  simp only [Projection.parse, not_empty, Bool.false_eq_true, if_false, flag_read]
  cases flag <;> rfl

theorem merge_eq_foldl (projection later : Projection) :
    projection.merge later = later.flags.foldl flagField projection := by
  rw [flags, List.foldl_append, List.foldl_map, List.foldl_map]
  rfl

theorem map_fst_flags :
    projection.flags.map Prod.fst = projection.included ++ projection.excluded := by
  simp [flags, Function.comp_def]

theorem mentions_iff {fieldName : String} :
    projection.Mentions fieldName ↔ fieldName ∈ projection.flags.map Prod.fst := by
  rw [map_fst_flags, List.mem_append]
  rfl

theorem addName_of_not_mem {names : List String} {name : String} (absent : name ∉ names) :
    addName names name = names ++ [name] := by
  rw [addName, if_neg absent]

theorem filter_ne_of_not_mem {names : List String} {name : String} (absent : name ∉ names) :
    names.filter (· ≠ name) = names := by
  rw [List.filter_eq_self]
  intro other other_mem
  rw [decide_eq_true_eq]
  rintro rfl
  exact absent other_mem

theorem flagField_of_not_mentions {flagged : String × Bool}
    (fresh : ¬projection.Mentions flagged.1) :
    projection.flagField flagged =
      if flagged.2 then { projection with included := projection.included ++ [flagged.1] }
      else { projection with excluded := projection.excluded ++ [flagged.1] } := by
  rcases not_or.mp fresh with ⟨not_included, not_excluded⟩
  unfold flagField
  split
  · rw [includeField, addName_of_not_mem not_included, filter_ne_of_not_mem not_excluded]
  · rw [excludeField, addName_of_not_mem not_excluded, filter_ne_of_not_mem not_included]

theorem mentions_flagField {flagged : String × Bool} {other : String} :
    (projection.flagField flagged).Mentions other ↔
      projection.Mentions other ∨ other = flagged.1 := by
  unfold flagField
  split
  · exact mentions_includeField
  · exact mentions_excludeField

/-- Flags of different fields, none of which is mentioned yet, add up. -/
theorem foldl_flagField {flags : List (String × Bool)} (distinct : (flags.map Prod.fst).Nodup)
    (fresh : ∀ flagged ∈ flags, ¬projection.Mentions flagged.1) :
    flags.foldl flagField projection = {
      included := projection.included ++ (flags.filter (·.2)).map Prod.fst
      excluded := projection.excluded ++ (flags.filter (!·.2)).map Prod.fst } := by
  induction flags generalizing projection with
  | nil => simp
  | cons flagged rest ih =>
      rw [List.forall_mem_cons] at fresh
      rw [List.map_cons, List.nodup_cons] at distinct
      have still_fresh : ∀ later ∈ rest, ¬(projection.flagField flagged).Mentions later.1 := by
        intro later later_mem mentioned
        rcases mentions_flagField.mp mentioned with before | same
        · exact fresh.2 later later_mem before
        · exact distinct.1 (List.mem_map.mpr ⟨later, later_mem, same⟩)
      rw [List.foldl_cons, ih distinct.2 still_fresh, flagField_of_not_mentions fresh.1]
      rcases flagged with ⟨fieldName, _ | _⟩ <;> simp

namespace Canonical

theorem nodup_map_fst_flags (canonical : projection.Canonical) :
    (projection.flags.map Prod.fst).Nodup := by
  rw [map_fst_flags, List.nodup_append]
  refine ⟨canonical.included_nodup, canonical.excluded_nodup, ?_⟩
  rintro fieldName included other excluded rfl
  exact canonical.apart fieldName included excluded

/-- A canonical projection is what its own flags make. -/
theorem empty_merge (canonical : projection.Canonical) :
    ({} : Projection).merge projection = projection := by
  rw [merge_eq_foldl, foldl_flagField canonical.nodup_map_fst_flags]
  · simp [flags, List.filter_map, Function.comp_def]
  · simp [Mentions]

theorem mergeProjection_eq {present : Option Projection} (canonical : projection.Canonical) :
    mergeProjection present projection = (present.getD {}).merge projection := by
  cases present with
  | none => exact canonical.empty_merge.symm
  | some projection => rfl

end Canonical

theorem mergeProjection_ofFlag (present : Option Projection) (flagged : String × Bool) :
    mergeProjection present (ofFlag flagged) = (present.getD {}).flagField flagged := by
  rcases flagged with ⟨fieldName, _ | _⟩ <;> cases present <;> rfl

end Projection

/-! ## Parts -/

theorem Condition.isSegment_of_mem_path {condition : Condition}
    (wellFormed : condition.WellFormed) :
    ∀ segment ∈ [condition.fieldName, Named.name condition.operator],
      FilterKey.IsSegment segment.toList := by
  rw [List.forall_mem_cons, List.forall_mem_singleton]
  exact ⟨wellFormed.segment, FilterKey.isSegment_of_isAsciiWord isAsciiWord_of_mem_operator⟩

namespace FilterPart

/-- The pairs that say what a part says: one for each field that a projection mentions, and one for
any other part. -/
def pairs : FilterPart → List (String × String)
  | .fields projection => projection.flags.map Projection.flagPair
  | .condition stated =>
    [(FilterType.condition.key [stated.fieldName, Named.name stated.operator], stated.value)]
  | .order wanted => [(FilterType.order.key [], wanted.render)]
  | .limit wanted => [(FilterType.limit.key [], wanted.count.toNat.repr)]
  | .skip wanted => [(FilterType.skip.key [], wanted.count.toNat.repr)]

/-- Whether a part is well-formed and a projection that it is mentions no field twice. -/
def Canonical : FilterPart → Prop
  | .fields projection => projection.Canonical
  | part => part.WellFormed

end FilterPart

/-- Whether a reading has come to its end with a descriptor. -/
def Outcome.EndsWith {kind : QueryKind} (outcome : Outcome kind) (descriptor : kind.Descriptor) :
    Prop :=
  outcome.failure = none ∧ outcome.descriptor = descriptor

theorem Outcome.EndsWith.andThen {kind : QueryKind} {outcome : Outcome kind}
    {next : kind.Descriptor → Outcome kind} {filled final : kind.Descriptor}
    (first : outcome.EndsWith filled) (second : (next filled).EndsWith final) :
    (outcome.andThen next).EndsWith final := by
  rcases first with ⟨passed, rfl⟩
  rw [andThen_of_no_failure passed]
  exact second

namespace FindQuery

theorem readInTurn_key {filterType : FilterType} {path : List String} {value : String}
    {part : FilterPart} (segments : ∀ segment ∈ path, FilterKey.IsSegment segment.toList)
    (parsed : FilterPart.parse filterType (filterType.key path) path value = .ok (some part))
    (query : FindQuery) :
    (QueryKind.find.readInTurn query [(filterType.key path, value)]).EndsWith
      (query.apply part) := by
  have taken : QueryKind.find.filterType? (Named.name filterType) = some filterType := by
    simp [QueryKind.filterType?, Named.ofName?_name, QueryKind.accepts]
  rw [QueryKind.readInTurn, List.map_singleton, QueryKind.readEntries, QueryKind.readEntry]
  simp only [FilterType.parse?_key segments, taken, QueryKind.readValues, QueryKind.readValue,
    parsed]
  exact ⟨rfl, rfl⟩

theorem readInTurn_flagPair {fieldName : String} (named : fieldName ≠ "")
    (segment : FilterKey.IsSegment fieldName.toList) (flag : Bool) (query : FindQuery) :
    (QueryKind.find.readInTurn query [Projection.flagPair (fieldName, flag)]).EndsWith
      (query.apply (.fields (Projection.ofFlag (fieldName, flag)))) := by
  apply readInTurn_key
  · simpa using segment
  · rw [FilterPart.parse, Projection.parse_toString named]
    rfl

theorem foldl_apply_ofFlag (query : FindQuery) (present : Projection)
    (flags : List (String × Bool)) :
    flags.foldl (fun filled flagged => filled.apply (.fields (Projection.ofFlag flagged)))
        { query with projection := some present } =
      { query with projection := some (flags.foldl Projection.flagField present) } := by
  induction flags generalizing present with
  | nil => rfl
  | cons flagged rest ih =>
      rw [List.foldl_cons, List.foldl_cons, ← ih, apply, Projection.mergeProjection_ofFlag]
      rfl

/-- Storing the flags of a canonical projection one by one is storing the projection. -/
theorem foldl_apply_flags {projection : Projection} (canonical : projection.Canonical)
    (query : FindQuery) :
    projection.flags.foldl (fun filled flagged => filled.apply (.fields (.ofFlag flagged))) query =
      query.apply (.fields projection) := by
  rw [apply, canonical.mergeProjection_eq, Projection.merge_eq_foldl]
  cases flags_eq : projection.flags with
  | nil =>
      rcases Projection.isEmpty_eq_false_iff.mp canonical.not_empty with ⟨fieldName, mentioned⟩
      rw [Projection.mentions_iff, flags_eq] at mentioned
      exact absurd mentioned List.not_mem_nil
  | cons flagged rest =>
      -- From the first flag on there is a projection for the others to be merged into.
      rw [List.foldl_cons, List.foldl_cons, ← foldl_apply_ofFlag, apply,
        Projection.mergeProjection_ofFlag]

theorem readInTurn_flags {flags : List (String × Bool)}
    (named : ∀ flagged ∈ flags, flagged.1 ≠ "")
    (segments : ∀ flagged ∈ flags, FilterKey.IsSegment flagged.1.toList) (query : FindQuery) :
    (QueryKind.find.readInTurn query (flags.map Projection.flagPair)).EndsWith
      (flags.foldl (fun filled flagged => filled.apply (.fields (.ofFlag flagged))) query) := by
  induction flags generalizing query with
  | nil => exact ⟨rfl, rfl⟩
  | cons flagged rest ih =>
      rw [List.forall_mem_cons] at named segments
      rw [List.map_cons, ← List.singleton_append, QueryKind.readInTurn_append]
      exact (readInTurn_flagPair named.1 segments.1 flagged.2 query).andThen
        (ih named.2 segments.2 _)

/-- Reading the pairs of a canonical part stores the part, whatever has been stored before. -/
theorem readInTurn_pairs {part : FilterPart} (canonical : part.Canonical) (query : FindQuery) :
    (QueryKind.find.readInTurn query part.pairs).EndsWith (query.apply part) := by
  cases part with
  | fields projection =>
      have projection_canonical : projection.Canonical := canonical
      rw [← foldl_apply_flags projection_canonical]
      apply readInTurn_flags
      · intro flagged flagged_mem
        exact projection_canonical.named flagged.1
          (Projection.mentions_iff.mpr (List.mem_map_of_mem flagged_mem))
      · intro flagged flagged_mem
        exact projection_canonical.segments flagged.1
          (Projection.mentions_iff.mpr (List.mem_map_of_mem flagged_mem))
  | condition condition =>
      have wellFormed : condition.WellFormed := canonical
      apply readInTurn_key (Condition.isSegment_of_mem_path wellFormed)
      rw [FilterPart.parse_condition_eq_ok_iff]
      refine ⟨condition, ?_, rfl⟩
      rw [Condition.parse_eq_ok_iff]
      exact ⟨wellFormed.named, rfl, Named.name condition.operator, rfl,
        Operator.ofWord?_name condition.operator⟩
  | order order =>
      apply readInTurn_key (List.forall_mem_nil _)
      rw [FilterPart.parse, List.isEmpty_nil, if_pos rfl, SortOrder.parse?_render canonical]
      rfl
  | limit limit =>
      apply readInTurn_key (List.forall_mem_nil _)
      rw [FilterPart.parse, List.isEmpty_nil, if_pos rfl, Limit.parse, readCount_repr]
      rfl
  | skip skip =>
      apply readInTurn_key (List.forall_mem_nil _)
      rw [FilterPart.parse, List.isEmpty_nil, if_pos rfl, Skip.parse, readCount_repr]
      rfl

/-- The pairs of canonical parts one after another store the parts in order. -/
theorem readInTurn_flatMap_pairs {parts : List FilterPart}
    (canonical : ∀ part ∈ parts, part.Canonical) (query : FindQuery) :
    (QueryKind.find.readInTurn query (parts.flatMap FilterPart.pairs)).EndsWith
      (parts.foldl apply query) := by
  induction parts generalizing query with
  | nil => exact ⟨rfl, rfl⟩
  | cons part rest ih =>
      rw [List.forall_mem_cons] at canonical
      rw [List.flatMap_cons, QueryKind.readInTurn_append]
      exact (readInTurn_pairs canonical.1 query).andThen (ih canonical.2 _)

end FindQuery

end SchemaLens.Query
