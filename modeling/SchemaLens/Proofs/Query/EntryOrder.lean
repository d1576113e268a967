import SchemaLens.Proofs.Query.NarrowKinds

/-!
# The order of filters of different types

Each type of filter fills a member of its own, and what a value holds depends on its key and the
kind of query alone. So of the order in which keys come only that among keys of one type counts:
as long as it is kept, the keys may be put in any order, and whether they can be read as well as
the descriptor they fill stays the same. Which error ends a reading that fails does depend on the
order, and so does what was stored before it.
-/

namespace SchemaLens.Query

namespace Values

/-- The pairs that make up query values, key by key. -/
def pairs (values : Values) : List (String × String) :=
  values.entries.flatMap fun entry => entry.2.map fun value => (entry.1, value)

/-- Query values have the same entries, and those of each type of filter in the same order. -/
structure Reorders (left right : Values) : Prop where
  perm : left.entries.Perm right.entries
  same_order : ∀ filterType,
    left.entries.filter (fun entry => FilterKey.addresses filterType entry.1) =
      right.entries.filter fun entry => FilterKey.addresses filterType entry.1

variable {left right : Values}

theorem filter_addresses_pairs (filterType : FilterType) (values : Values) :
    values.pairs.filter (fun pair => FilterKey.addresses filterType pair.1) =
      (values.entries.filter fun entry => FilterKey.addresses filterType entry.1).flatMap
        fun entry => entry.2.map fun value => (entry.1, value) := by
  unfold pairs
  induction values.entries with
  | nil => rfl
  | cons entry rest ih =>
      rw [List.flatMap_cons, List.filter_append, ih, List.filter_map]
      cases addressed : FilterKey.addresses filterType entry.1 <;>
        simp [addressed, Function.comp_def]

namespace Reorders

theorem pairs_perm (reorders : left.Reorders right) : left.pairs.Perm right.pairs :=
  reorders.perm.flatMap_right _

theorem keys_perm (reorders : left.Reorders right) : left.keys.Perm right.keys :=
  reorders.perm.map _

theorem filter_addresses_pairs_eq (reorders : left.Reorders right) (filterType : FilterType) :
    left.pairs.filter (fun pair => FilterKey.addresses filterType pair.1) =
      right.pairs.filter fun pair => FilterKey.addresses filterType pair.1 := by
  simp only [filter_addresses_pairs, reorders.same_order]

end Reorders

end Values

namespace FindQuery

theorem eq_of_agreeOn {left right : FindQuery}
    (agree : ∀ filterType, AgreeOn filterType left right) : left = right := by
  have projection_eq : left.projection = right.projection := agree .fields
  have conditions_eq : left.conditions = right.conditions := agree .condition
  have order_eq : left.order = right.order := agree .order
  have limit_eq : left.limit = right.limit := agree .limit
  have skip_eq : left.skip = right.skip := agree .skip
  cases left
  cases right
  simp_all

end FindQuery

namespace QueryKind

variable {kind : QueryKind}

/-! ## Descriptors told by their members -/

theorem SameTarget.symm {left right : kind.Descriptor} (same : kind.SameTarget left right) :
    kind.SameTarget right left := by
  cases kind <;> first | exact Eq.symm same | exact True.intro

theorem SameTarget.trans {left middle right : kind.Descriptor}
    (first : kind.SameTarget left middle) (second : kind.SameTarget middle right) :
    kind.SameTarget left right := by
  cases kind <;> first | exact Eq.trans first second | exact True.intro

theorem eq_of_asFind_eq {left right : kind.Descriptor} (same : kind.SameTarget left right)
    (asFind_eq : kind.asFind left = kind.asFind right) : left = right := by
  cases kind <;> cases left <;> cases right <;> simp_all [asFind, SameTarget]

theorem sameTarget_foldl_apply (descriptor : kind.Descriptor) (parts : List FilterPart) :
    kind.SameTarget descriptor (parts.foldl kind.apply descriptor) := by
  induction parts generalizing descriptor with
  | nil => exact sameTarget_refl descriptor
  | cons part rest ih =>
      exact (sameTarget_apply (sameTarget_refl descriptor) part).trans (ih _)

theorem asFind_foldl_apply {parts : List FilterPart}
    (members : ∀ part ∈ parts, part.filterType ∈ kind.members) (descriptor : kind.Descriptor) :
    kind.asFind (parts.foldl kind.apply descriptor) =
      parts.foldl FindQuery.apply (kind.asFind descriptor) := by
  induction parts generalizing descriptor with
  | nil => rfl
  | cons part rest ih =>
      rw [List.forall_mem_cons] at members
      rw [List.foldl_cons, List.foldl_cons, ih members.2, asFind_apply descriptor members.1]

/-- Storing parts in another order leaves the same descriptor if the order of parts of one type
stays the same. -/
theorem foldl_apply_eq_of_filter_eq {parts others : List FilterPart}
    (members : ∀ part ∈ parts, part.filterType ∈ kind.members)
    (other_members : ∀ part ∈ others, part.filterType ∈ kind.members)
    (same : ∀ filterType, parts.filter (·.filterType = filterType) =
      others.filter (·.filterType = filterType)) (descriptor : kind.Descriptor) :
    parts.foldl kind.apply descriptor = others.foldl kind.apply descriptor := by
  apply eq_of_asFind_eq
  · exact (sameTarget_foldl_apply descriptor parts).symm.trans
      (sameTarget_foldl_apply descriptor others)
  · rw [asFind_foldl_apply members, asFind_foldl_apply other_members]
    apply FindQuery.eq_of_agreeOn
    intro filterType
    exact FindQuery.agreeOn_foldl_of_filter_eq (kind.asFind descriptor) (same filterType)

theorem filterType_mem_members_of_part? {occurrence : Occurrence} {part : FilterPart}
    (holds : occurrence.part? kind = some part) : part.filterType ∈ kind.members := by
  rcases Occurrence.exists_parse_of_part? holds with ⟨filterType, taken, parsed⟩
  rw [FilterPart.filterType_of_parse parsed]
  exact mem_members_of_filterType? taken

/-- Pairs that can be read fill a descriptor alike if those of each type are the same in the same
order. -/
theorem readInTurn_descriptor_eq_of_filter_addresses_eq {start : kind.Descriptor}
    {left right : List (String × String)}
    (left_passed : (kind.readInTurn start left).failure = none)
    (right_passed : (kind.readInTurn start right).failure = none)
    (same : ∀ filterType, left.filter (fun pair => FilterKey.addresses filterType pair.1) =
      right.filter fun pair => FilterKey.addresses filterType pair.1) :
    (kind.readInTurn start left).descriptor = (kind.readInTurn start right).descriptor := by
  have members : ∀ (pairs : List (String × String)),
      ∀ part ∈ (Occurrence.ofPairs pairs).filterMap (·.part? kind),
        part.filterType ∈ kind.members := by
    intro pairs part part_mem
    rcases List.mem_filterMap.mp part_mem with ⟨occurrence, -, holds⟩
    exact filterType_mem_members_of_part? holds
  rw [readInTurn_descriptor left_passed, readInTurn_descriptor right_passed]
  apply foldl_apply_eq_of_filter_eq (members left) (members right)
  intro filterType
  rw [Occurrence.parts_filter_filterType, Occurrence.parts_filter_filterType, same]

/-! ## Reading any query values -/

theorem readEntry_eq_readInTurn_of_takesKey {key : String} (taken : kind.takesKey key = true)
    (descriptor : kind.Descriptor) (values : List String) :
    kind.readEntry descriptor key values =
      kind.readInTurn descriptor (values.map fun value => (key, value)) := by
  cases values with
  | cons first rest => exact readEntry_eq_readInTurn descriptor key (List.cons_ne_nil first rest)
  | nil =>
      -- A key without values is read without an error only because the kind takes it.
      unfold readEntry
      cases recognised : FilterKey.parse? key with
      | none => rfl
      | some filterKey =>
          simp only [takesKey, recognised, Option.all_some] at taken
          rcases Option.isSome_iff_exists.mp taken with ⟨filterType, own_taken⟩
          simp only [own_taken]
          rfl

theorem read_eq_readInTurn_of_takesKey {values : Values}
    (taken : ∀ key ∈ values.keys, kind.takesKey key = true) (descriptor : kind.Descriptor) :
    kind.read descriptor values = kind.readInTurn descriptor values.pairs := by
  apply readEntries_eq_readInTurn
  intro entry entry_mem filled
  exact readEntry_eq_readInTurn_of_takesKey (taken entry.1 (List.mem_map_of_mem entry_mem)) filled
    entry.2

theorem takesKey_of_read {descriptor : kind.Descriptor} {values : Values}
    (succeeded : (kind.read descriptor values).failure = none) :
    ∀ key ∈ values.keys, kind.takesKey key = true := by
  intro key key_mem
  rcases List.mem_map.mp key_mem with ⟨entry, entry_mem, rfl⟩
  by_contra untaken
  have not_all : ¬∀ entry ∈ values.entries, kind.takesKey entry.1 = true := by
    intro all_taken
    exact untaken (all_taken entry entry_mem)
  rcases exists_first_refused not_all with ⟨refusedKey, keyValues, later, split, refused, -⟩
  rcases exists_parse?_of_not_takesKey refused with ⟨filterKey, recognised, own_untaken⟩
  have ended := readEntries_failure_of_refused descriptor (values.beforeRefused kind).entries
    recognised own_untaken keyValues later
  have outcome_eq : kind.read descriptor values = kind.readEntries descriptor
      ((values.beforeRefused kind).entries ++ (refusedKey, keyValues) :: later) :=
    congrArg (kind.readEntries descriptor) split
  rw [outcome_eq, ended.1] at succeeded
  contradiction

/-- Query values can be read exactly if the kind takes all keys and no pair fails. The descriptor
has no part in it. -/
theorem read_failure_eq_none_iff (descriptor : kind.Descriptor) (values : Values) :
    (kind.read descriptor values).failure = none ↔
      (∀ key ∈ values.keys, kind.takesKey key = true) ∧
        ∀ occurrence ∈ Occurrence.ofPairs values.pairs, ¬occurrence.Fails kind := by
  constructor
  · intro succeeded
    have taken := takesKey_of_read succeeded
    rw [read_eq_readInTurn_of_takesKey taken, readInTurn_failure_eq_none_iff] at succeeded
    exact ⟨taken, succeeded⟩
  · rintro ⟨taken, passed⟩
    rw [read_eq_readInTurn_of_takesKey taken, readInTurn_failure_eq_none_iff]
    exact passed

theorem read_failure_eq_none_iff_of_reorders {left right : Values}
    (reorders : left.Reorders right) (start other : kind.Descriptor) :
    (kind.read start left).failure = none ↔ (kind.read other right).failure = none := by
  rw [read_failure_eq_none_iff, read_failure_eq_none_iff]
  have occurrences_perm := Occurrence.ofPairs_perm reorders.pairs_perm
  apply and_congr
  · exact forall_congr' fun key => imp_congr_left reorders.keys_perm.mem_iff
  · exact forall_congr' fun occurrence => imp_congr_left occurrences_perm.mem_iff

/--
Entries of different types can be put in any order. Whether they can be read does not depend on
their order or on the descriptor they are read into, and if they can be, they fill it in the same
way.
-/
theorem read_reordered (kind : QueryKind) {left right : Values} (reorders : left.Reorders right) :
    (∀ start, (kind.read start left).failure = none ↔ (kind.read start right).failure = none) ∧
    (∀ start other,
      (kind.read start left).failure = none ↔ (kind.read other left).failure = none) ∧
    ∀ start, (kind.read start left).failure = none →
      (kind.read start left).descriptor = (kind.read start right).descriptor := by
  refine ⟨?_, ?_, ?_⟩
  · intro start
    exact read_failure_eq_none_iff_of_reorders reorders start start
  · intro start other
    rw [read_failure_eq_none_iff, read_failure_eq_none_iff]
  · intro start succeeded
    have other_succeeded :=
      (read_failure_eq_none_iff_of_reorders reorders start start).mp succeeded
    have left_eq := read_eq_readInTurn_of_takesKey (takesKey_of_read succeeded) start
    have right_eq := read_eq_readInTurn_of_takesKey (takesKey_of_read other_succeeded) start
    rw [left_eq] at succeeded
    rw [right_eq] at other_succeeded
    rw [left_eq, right_eq]
    exact readInTurn_descriptor_eq_of_filter_addresses_eq succeeded other_succeeded
      reorders.filter_addresses_pairs_eq

/-- Two limits and two flags of a field keep their order among themselves, and everything else is
put in another one: a condition, an order without entries and a page number. -/
theorem read_reordered_limits_and_flags :
    let left := Values.ofPairs [("filter[limit]", "5"), ("filter[fields][id]", "true"),
      ("page", "2"), ("filter[LIMIT]", "7"), ("filter[order]", "name"),
      ("filter[fields][ id ]", "false"), ("filter[where][age][gte]", "18")]
    let right := Values.ofPairs [("filter[where][age][gte]", "18"), ("filter[fields][id]", "true"),
      ("filter[fields][ id ]", "false"), ("filter[limit]", "5"), ("filter[order]", "name"),
      ("filter[LIMIT]", "7"), ("page", "2")]
    let start : FindQuery := { order := some { entries := [⟨"id", .descending⟩] } }
    left.Reorders right ∧ (QueryKind.find.read start left).failure = none ∧
    (QueryKind.find.read start right).failure = none ∧
    (QueryKind.find.read start left).descriptor = (QueryKind.find.read start right).descriptor ∧
    (QueryKind.find.read start left).descriptor = ({ start with
      projection := some { excluded := ["id"] }
      conditions := [⟨"age", .gte, "18"⟩]
      limit := some ⟨7⟩ } : FindQuery) ∧
    (QueryKind.findOne.read {} left).failure ≠ none ∧
    (QueryKind.findOne.read {} right).failure ≠ none := by
  intro left right start
  have reorders : left.Reorders right := by
    refine ⟨by decide +kernel, ?_⟩
    intro filterType
    cases filterType <;> decide +kernel
  have succeeded : (QueryKind.find.read start left).failure = none := by decide +kernel
  have refused : (QueryKind.findOne.read {} left).failure ≠ none := by decide +kernel
  refine ⟨reorders, succeeded, ((read_reordered .find reorders).1 start).mp succeeded,
    (read_reordered .find reorders).2.2 start succeeded, by decide +kernel, refused, ?_⟩
  intro passed
  exact refused (((read_reordered .findOne reorders).1 {}).mpr passed)

end QueryKind

end SchemaLens.Query
