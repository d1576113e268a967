import Mathlib.Data.List.Nodup
import SchemaLens.Proofs.Query.FormEncoding
import SchemaLens.Proofs.Query.Rendering

/-!
# Queries read back from their text

The parts of a query, each written as pairs, make up a query string from which a find is read back
as it was. Two things that a reading does could stand in the way: it brings the pairs of a key
together, and it lets a field that is mentioned again change sides. So conditions on one field by
one operator have to stand next to each other, and a projection has to mention each field once.
-/

namespace SchemaLens.Query

/-! ## The keys of parts -/

namespace FilterPart

theorem exists_key_eq_of_mem_pairs {part : FilterPart} (canonical : part.Canonical)
    {pair : String × String} (pair_mem : pair ∈ part.pairs) :
    ∃ path, (∀ segment ∈ path, FilterKey.IsSegment segment.toList) ∧
      pair.1 = part.filterType.key path := by
  cases part with
  | fields projection =>
      have projection_canonical : projection.Canonical := canonical
      rcases List.mem_map.mp pair_mem with ⟨flagged, flagged_mem, rfl⟩
      refine ⟨[flagged.1], ?_, rfl⟩
      rw [List.forall_mem_singleton]
      exact projection_canonical.segments flagged.1
        (Projection.mentions_iff.mpr (List.mem_map_of_mem flagged_mem))
  | condition condition =>
      rw [List.mem_singleton.mp pair_mem]
      exact ⟨_, Condition.isSegment_of_mem_path canonical, rfl⟩
  | order order =>
      rw [List.mem_singleton.mp pair_mem]
      exact ⟨[], List.forall_mem_nil _, rfl⟩
  | limit limit =>
      rw [List.mem_singleton.mp pair_mem]
      exact ⟨[], List.forall_mem_nil _, rfl⟩
  | skip skip =>
      rw [List.mem_singleton.mp pair_mem]
      exact ⟨[], List.forall_mem_nil _, rfl⟩

/-- The keys of the pairs that say what parts say. -/
def keys (parts : List FilterPart) : List String :=
  (parts.flatMap pairs).map Prod.fst

theorem keys_append (parts later : List FilterPart) :
    keys (parts ++ later) = keys parts ++ keys later := by
  simp [keys]

theorem exists_addresses_of_mem_keys {parts : List FilterPart}
    (canonical : ∀ part ∈ parts, part.Canonical) {key : String} (key_mem : key ∈ keys parts) :
    ∃ part ∈ parts, ∀ filterType,
      FilterKey.addresses filterType key = decide (part.filterType = filterType) := by
  rcases List.mem_map.mp key_mem with ⟨pair, pair_mem, rfl⟩
  rcases List.mem_flatMap.mp pair_mem with ⟨part, part_mem, own⟩
  rcases exists_key_eq_of_mem_pairs (canonical part part_mem) own with ⟨path, segments, key_eq⟩
  refine ⟨part, part_mem, ?_⟩
  intro filterType
  rw [key_eq, FilterType.addresses_key segments]

theorem nodup_keys_singleton {part : FilterPart} (canonical : part.Canonical) :
    (keys [part]).Nodup := by
  cases part with
  | fields projection =>
      have projection_canonical : projection.Canonical := canonical
      have keys_eq : keys [.fields projection] = (projection.flags.map Prod.fst).map
          fun fieldName => FilterType.fields.key [fieldName] := by
        simp only [keys, pairs, List.flatMap_singleton, List.map_map]
        rfl
      rw [keys_eq]
      apply List.Nodup.map_on _ projection_canonical.nodup_map_fst_flags
      intro fieldName mentioned other other_mentioned same
      rw [← Projection.mentions_iff] at mentioned other_mentioned
      have paths_eq : [fieldName] = [other] := by
        apply FilterType.path_eq_of_key_eq _ _ same
        · rw [List.forall_mem_singleton]
          exact projection_canonical.segments fieldName mentioned
        · rw [List.forall_mem_singleton]
          exact projection_canonical.segments other other_mentioned
      exact List.singleton_inj.mp paths_eq
  | condition condition => exact List.nodup_singleton _
  | order order => exact List.nodup_singleton _
  | limit limit => exact List.nodup_singleton _
  | skip skip => exact List.nodup_singleton _

theorem uninterleaved_keys_toList {part? : Option FilterPart}
    (canonical : ∀ part ∈ part?.toList, part.Canonical) : Uninterleaved (keys part?.toList) := by
  apply Uninterleaved.of_nodup
  cases part? with
  | none => exact List.nodup_nil
  | some part => exact nodup_keys_singleton (canonical part (List.mem_singleton_self part))

end FilterPart

namespace Condition

/-- What a condition compares, and how. -/
def subject (condition : Condition) : String × Operator :=
  (condition.fieldName, condition.operator)

theorem uninterleaved_keys {conditions : List Condition}
    (wellFormed : ∀ condition ∈ conditions, condition.WellFormed)
    (grouped : ∀ first second,
      [first, second, first].Sublist (conditions.map subject) → second = first) :
    Uninterleaved (FilterPart.keys (conditions.map .condition)) := by
  have keys_eq : FilterPart.keys (conditions.map .condition) = conditions.map fun condition =>
      FilterType.condition.key [condition.fieldName, Named.name condition.operator] := by
    simp [FilterPart.keys, FilterPart.pairs, List.flatMap_map, ← List.map_eq_flatMap]
  rw [keys_eq]
  refine uninterleaved_map ?_ grouped
  intro condition condition_mem other other_mem
  constructor
  · intro same
    have paths_eq := FilterType.path_eq_of_key_eq
      (isSegment_of_mem_path (wellFormed condition condition_mem))
      (isSegment_of_mem_path (wellFormed other other_mem)) same
    simp only [List.cons.injEq, and_true] at paths_eq
    have operators_eq := congrArg Operator.ofWord? paths_eq.2
    rw [Operator.ofWord?_name, Operator.ofWord?_name, Option.some.injEq] at operators_eq
    exact Prod.ext paths_eq.1 operators_eq
  · intro same
    rcases Prod.mk.inj same with ⟨fieldName_eq, operator_eq⟩
    rw [fieldName_eq, operator_eq]

end Condition

/-! ## Queries -/

namespace FindQuery

/-- The parts of a query that have a type. -/
def partsOf (query : FindQuery) : FilterType → List FilterPart
  | .fields => (query.projection.map .fields).toList
  | .condition => query.conditions.map .condition
  | .order => (query.order.map .order).toList
  | .limit => (query.limit.map .limit).toList
  | .skip => (query.skip.map .skip).toList

/-- The parts of a query, type by type. -/
def parts (query : FindQuery) : List FilterPart :=
  (Named.members : List FilterType).flatMap query.partsOf

/-- The query string that says what a query says. -/
def render (query : FindQuery) : String :=
  FormEncoding.escapePairs (query.parts.flatMap FilterPart.pairs)

/-- Whether a query is well-formed, its projection mentions each field once, and its conditions on
one field by one operator stand next to each other. -/
structure Canonical (query : FindQuery) : Prop extends query.WellFormed where
  mentions_once : ∀ projection ∈ query.projection, projection.Canonical
  grouped : ∀ first second,
    [first, second, first].Sublist (query.conditions.map Condition.subject) → second = first

instance (query : FindQuery) : Decidable query.Canonical :=
  decidable_of_iff
    (query.WellFormed ∧ (∀ projection ∈ query.projection, projection.Canonical) ∧
      ∀ first ∈ query.conditions.map Condition.subject,
        ∀ second ∈ query.conditions.map Condition.subject,
        [first, second, first].Sublist (query.conditions.map Condition.subject) →
          second = first) (by
      constructor
      · rintro ⟨wellFormed, mentions_once, bounded⟩
        refine ⟨wellFormed, mentions_once, ?_⟩
        intro first second recurs
        have members := recurs.subset
        exact bounded first (members (by simp)) second (members (by simp)) recurs
      · rintro ⟨wellFormed, mentions_once, grouped⟩
        exact ⟨wellFormed, mentions_once, fun first _ second _ => grouped first second⟩)

variable {query : FindQuery}

theorem filterType_of_mem_partsOf {filterType : FilterType} {part : FilterPart}
    (part_mem : part ∈ query.partsOf filterType) : part.filterType = filterType := by
  cases filterType <;>
    simp only [partsOf, List.mem_map, Option.mem_toList, Option.map_eq_some_iff] at part_mem <;>
    rcases part_mem with ⟨_, -, rfl⟩ <;> rfl

theorem foldl_apply_condition (query : FindQuery) (conditions : List Condition) :
    (conditions.map FilterPart.condition).foldl apply query =
      { query with conditions := query.conditions ++ conditions } := by
  induction conditions generalizing query with
  | nil => simp
  | cons condition rest ih => simp [ih, apply]

/-- A query is what its parts make. -/
theorem foldl_apply_parts (query : FindQuery) : query.parts.foldl apply {} = query := by
  rcases query with ⟨projection, conditions, order, limit, skip⟩
  simp only [parts, partsOf, Named.members, List.flatMap_cons, List.flatMap_nil, List.append_nil,
    List.foldl_append, foldl_apply_condition]
  cases projection <;> cases order <;> cases limit <;> cases skip <;> rfl

namespace Canonical

theorem forall_mem_partsOf (canonical : query.Canonical) (filterType : FilterType) :
    ∀ part ∈ query.partsOf filterType, part.Canonical := by
  intro part part_mem
  cases filterType <;>
    simp only [partsOf, List.mem_map, Option.mem_toList, Option.map_eq_some_iff] at part_mem
  case fields =>
    rcases part_mem with ⟨projection, projection_eq, rfl⟩
    exact canonical.mentions_once projection projection_eq
  case condition =>
    rcases part_mem with ⟨condition, condition_mem, rfl⟩
    exact canonical.conditions condition condition_mem
  case order =>
    rcases part_mem with ⟨order, order_eq, rfl⟩
    exact canonical.order order order_eq
  case limit =>
    rcases part_mem with ⟨limit, -, rfl⟩
    exact True.intro
  case skip =>
    rcases part_mem with ⟨skip, -, rfl⟩
    exact True.intro

theorem forall_mem_flatMap_partsOf (canonical : query.Canonical) (filterTypes : List FilterType) :
    ∀ part ∈ filterTypes.flatMap query.partsOf, part.Canonical := by
  intro part part_mem
  rcases List.mem_flatMap.mp part_mem with ⟨filterType, -, own⟩
  exact canonical.forall_mem_partsOf filterType part own

theorem forall_mem_parts (canonical : query.Canonical) : ∀ part ∈ query.parts, part.Canonical :=
  canonical.forall_mem_flatMap_partsOf Named.members

theorem uninterleaved_keys_partsOf (canonical : query.Canonical) (filterType : FilterType) :
    Uninterleaved (FilterPart.keys (query.partsOf filterType)) := by
  have parts_canonical := canonical.forall_mem_partsOf filterType
  cases filterType with
  | fields => exact FilterPart.uninterleaved_keys_toList parts_canonical
  | condition => exact Condition.uninterleaved_keys canonical.conditions canonical.grouped
  | order => exact FilterPart.uninterleaved_keys_toList parts_canonical
  | limit => exact FilterPart.uninterleaved_keys_toList parts_canonical
  | skip => exact FilterPart.uninterleaved_keys_toList parts_canonical

/-- Parts of different types have different keys, so they can be written type by type. -/
theorem uninterleaved_keys_flatMap_partsOf (canonical : query.Canonical)
    {filterTypes : List FilterType} (distinct : filterTypes.Nodup) :
    Uninterleaved (FilterPart.keys (filterTypes.flatMap query.partsOf)) := by
  induction filterTypes with
  | nil => exact Uninterleaved.of_nodup List.nodup_nil
  | cons filterType rest ih =>
      rw [List.nodup_cons] at distinct
      rw [List.flatMap_cons, FilterPart.keys_append]
      apply (canonical.uninterleaved_keys_partsOf filterType).append (ih distinct.2)
      intro key own_key later_key
      -- A key says which type of filter it addresses, and the two would have to agree on it.
      rcases FilterPart.exists_addresses_of_mem_keys (canonical.forall_mem_partsOf filterType)
        own_key with ⟨own, own_mem, own_addresses⟩
      rcases FilterPart.exists_addresses_of_mem_keys (canonical.forall_mem_flatMap_partsOf rest)
        later_key with ⟨later, later_mem, later_addresses⟩
      rcases List.mem_flatMap.mp later_mem with ⟨other, other_mem, later_partsOf⟩
      have agree := (own_addresses filterType).symm.trans (later_addresses filterType)
      rw [filterType_of_mem_partsOf own_mem, filterType_of_mem_partsOf later_partsOf,
        decide_eq_decide] at agree
      exact distinct.1 (agree.mp rfl ▸ other_mem)

end Canonical

/--
A find that asks for nothing at first is read without an error from the text of a canonical query,
and is that query then.
-/
theorem read_render (query : FindQuery) (canonical : query.Canonical) :
    let outcome := QueryKind.find.read {} (Values.parse query.render)
    outcome.failure = none ∧ outcome.descriptor = query := by
  intro outcome
  have uninterleaved : Uninterleaved (FilterPart.keys query.parts) :=
    canonical.uninterleaved_keys_flatMap_partsOf (by decide)
  have outcome_eq : outcome =
      QueryKind.find.readInTurn {} (query.parts.flatMap FilterPart.pairs) := by
    calc outcome
      _ = QueryKind.find.read {} (Values.ofPairs (query.parts.flatMap FilterPart.pairs)) := by
        rw [← Values.parse_escapePairs]
        rfl
      _ = QueryKind.find.readInTurn {} (regroup (query.parts.flatMap FilterPart.pairs)) :=
        QueryKind.read_ofPairs_eq_readInTurn .find {} _
      _ = QueryKind.find.readInTurn {} (query.parts.flatMap FilterPart.pairs) := by
        rw [regroup_eq_self uninterleaved]
  have stored := readInTurn_flatMap_pairs canonical.forall_mem_parts {}
  rw [foldl_apply_parts] at stored
  rw [outcome_eq]
  exact stored

/-- A query that uses all types of filters. Two of its conditions compare one field in the same way,
a field it orders by is called like a direction, and its limit is the greatest there is. -/
theorem read_render_full :
    let query : FindQuery := {
      projection := some { included := ["id", "größe & form"], excluded := ["note"] }
      conditions := [⟨"größe", .gte, " 1+1=2 "⟩, ⟨"größe", .gte, "√9"⟩, ⟨"größe", .lt, ""⟩,
        ⟨"name", .like, "%[a]%"⟩]
      order := some { entries := [⟨"asc", .descending⟩, ⟨"id_2", .ascending⟩] }
      limit := some ⟨18446744073709551615⟩
      skip := some ⟨0⟩ }
    query.Canonical ∧
      (QueryKind.find.read {} (Values.parse query.render)).failure = none ∧
      (QueryKind.find.read {} (Values.parse query.render)).descriptor = query := by
  intro query
  have canonical : query.Canonical := by decide +kernel
  exact ⟨canonical, read_render query canonical⟩

example :
    let query : FindQuery := {
      projection := some { included := ["id"], excluded := ["note"] }
      conditions := [⟨"age", .gte, "18"⟩]
      order := some { entries := [⟨"name", .ascending⟩, ⟨"id", .descending⟩] }
      limit := some ⟨5⟩ }
    query.parts.flatMap FilterPart.pairs =
      [("filter[fields][id]", "true"), ("filter[fields][note]", "false"),
        ("filter[where][age][gte]", "18"), ("filter[order]", "name asc,id desc"),
        ("filter[limit]", "5")] := by
  decide +kernel

end FindQuery

end SchemaLens.Query
