import SchemaLens.Proofs.Query.LastFlag

/-!
# Flags in the order of the query string

Flags of one field leave every other field as it is. So for what becomes of a field it is enough to
look at the keys under which it is flagged: if these are not interleaved with each other, collected
pairs leave the field as the query string does, which is as the last value that flags it says. The
other keys of projections may stand in between in any order.
-/

namespace SchemaLens.Query

namespace Projection

variable {projection later : Projection} {fieldName : String} {flag : Bool}

theorem mem_flags_iff :
    (fieldName, flag) ∈ projection.flags ↔ fieldName ∈ projection.side flag := by
  cases flag <;> simp [flags, side]

theorem mem_side_merge (apart : later.IsApart) :
    fieldName ∈ (projection.merge later).side flag ↔
      fieldName ∈ later.side flag ∨
        fieldName ∈ projection.side flag ∧ fieldName ∉ later.side !flag := by
  rw [merge_eq_foldl, mem_side_foldl_iff]
  · simp only [mem_flags_iff]
  · simp only [mem_flags_iff]
    cases flag with
    | true => exact apart fieldName
    | false => exact fun excluded included => apart fieldName included excluded

end Projection

/-! ## Parts in turn -/

/-- The flag that a part gives a field, if it gives it one. -/
def FilterPart.flag? (part : FilterPart) (fieldName : String) : Option Bool :=
  match part with
  | .fields projection =>
    if fieldName ∈ projection.included then some true
    else if fieldName ∈ projection.excluded then some false
    else none
  | _ => none

theorem FilterPart.flag?_fields_eq_none_iff {projection : Projection} {fieldName : String} :
    (FilterPart.fields projection).flag? fieldName = none ↔
      ∀ flag, fieldName ∉ projection.side flag := by
  by_cases included : fieldName ∈ projection.included
  · simp [flag?, Projection.side, included]
  · by_cases excluded : fieldName ∈ projection.excluded <;>
      simp [flag?, Projection.side, included, excluded]

theorem FilterPart.flag?_fields_eq_some_iff {projection : Projection} (apart : projection.IsApart)
    {fieldName : String} {flag : Bool} :
    (FilterPart.fields projection).flag? fieldName = some flag ↔
      fieldName ∈ projection.side flag := by
  cases flag with
  | true => simp [flag?, Projection.side]
  | false =>
      simp only [flag?, Projection.side]
      split
      · rename_i included
        simp [apart fieldName included]
      · simp

namespace FindQuery

/-- Whether a query lists a field on a side. -/
def Lists (query : FindQuery) (fieldName : String) (flag : Bool) : Prop :=
  ∃ projection ∈ query.projection, fieldName ∈ projection.side flag

variable {query : FindQuery} {fieldName : String} {flag : Bool}

theorem lists_apply_fields_iff {later : Projection} (apart : later.IsApart) :
    (query.apply (.fields later)).Lists fieldName flag ↔
      fieldName ∈ later.side flag ∨
        query.Lists fieldName flag ∧ fieldName ∉ later.side !flag := by
  cases present : query.projection with
  | none => simp [Lists, apply, mergeProjection, present]
  | some projection =>
      simp [Lists, apply, mergeProjection, present, Projection.mem_side_merge apart]

theorem lists_apply_iff {part : FilterPart} (wellFormed : part.WellFormed) :
    (query.apply part).Lists fieldName flag ↔
      part.flag? fieldName = some flag ∨
        query.Lists fieldName flag ∧ part.flag? fieldName = none := by
  cases part with
  | fields later =>
      have apart : later.IsApart := Projection.WellFormed.apart wellFormed
      rw [lists_apply_fields_iff apart, FilterPart.flag?_fields_eq_some_iff apart,
        FilterPart.flag?_fields_eq_none_iff, Bool.forall_bool' flag]
      tauto
  | condition condition => simp [Lists, apply, FilterPart.flag?]
  | order order => simp [Lists, apply, FilterPart.flag?]
  | limit limit => simp [Lists, apply, FilterPart.flag?]
  | skip skip => simp [Lists, apply, FilterPart.flag?]

/-- After parts were stored a field is listed as the last of its flags says, or as before if it has
none. -/
theorem lists_foldl_iff {parts : List FilterPart} (wellFormed : ∀ part ∈ parts, part.WellFormed) :
    (parts.foldl apply query).Lists fieldName flag ↔
      (parts.filterMap (·.flag? fieldName)).getLast? = some flag ∨
        query.Lists fieldName flag ∧ parts.filterMap (·.flag? fieldName) = [] := by
  induction parts using List.reverseRecOn with
  | nil => simp
  | append_singleton parts part ih =>
      rw [List.forall_mem_append, List.forall_mem_singleton] at wellFormed
      rw [List.foldl_append, List.foldl_cons, List.foldl_nil, lists_apply_iff wellFormed.2,
        ih wellFormed.1, List.filterMap_append]
      cases flagged : part.flag? fieldName <;> simp [flagged]

end FindQuery

/-! ## Pairs in turn -/

/-- The flag that a pair gives a field of a find, if it gives it one. -/
def Occurrence.flag? (fieldName : String) (pair : String × String) : Option Bool :=
  ((ofPair? pair).bind (·.part? .find)).bind (·.flag? fieldName)

/-- The flags that pairs give a field, in order. -/
def Occurrence.flags (fieldName : String) (pairs : List (String × String)) : List Bool :=
  pairs.filterMap (flag? fieldName)

/-- Whether a field is given a flag by some pair with a key. -/
def Occurrence.flagsUnder (fieldName : String) (pairs : List (String × String)) (key : String) :
    Bool :=
  pairs.any fun pair => pair.1 == key && (flag? fieldName pair).isSome

namespace Occurrence

variable {fieldName : String} {pairs : List (String × String)}

theorem filterMap_flag?_parts :
    ((ofPairs pairs).filterMap (·.part? .find)).filterMap (·.flag? fieldName) =
      flags fieldName pairs := by
  simp only [ofPairs, flags, List.filterMap_filterMap]
  apply List.filterMap_congr
  intro pair _
  rw [flag?, Option.bind_assoc]

theorem flags_filter_flagsUnder {others : List (String × String)}
    (among : ∀ pair ∈ others, pair ∈ pairs) :
    flags fieldName (others.filter fun pair => flagsUnder fieldName pairs pair.1) =
      flags fieldName others := by
  rw [flags, List.filterMap_filter]
  apply List.filterMap_congr
  intro pair pair_mem
  cases flagged : flag? fieldName pair with
  | none => simp
  | some flag =>
      have under : flagsUnder fieldName pairs pair.1 = true :=
        List.any_eq_true.mpr ⟨pair, among pair pair_mem, by simp [flagged]⟩
      simp [under]

/-- A field whose keys are not interleaved is given the same flags by regrouped pairs. -/
theorem flags_regroup
    (uninterleaved : Uninterleaved ((pairs.map Prod.fst).filter (flagsUnder fieldName pairs))) :
    flags fieldName (regroup pairs) = flags fieldName pairs := by
  have regrouped_mem : ∀ pair ∈ regroup pairs, pair ∈ pairs :=
    fun _ => (regroup_perm pairs).mem_iff.mp
  rw [← flags_filter_flagsUnder regrouped_mem, filter_regroup_eq_self uninterleaved,
    flags_filter_flagsUnder fun _ => id]

end Occurrence

namespace QueryKind

/-- A find lists a field as the last of the flags that pairs give it says, or as before if they give
it none. -/
theorem lists_readInTurn_iff {query : FindQuery} {pairs : List (String × String)}
    (succeeded : (QueryKind.find.readInTurn query pairs).failure = none) (fieldName : String)
    (flag : Bool) :
    FindQuery.Lists (QueryKind.find.readInTurn query pairs).descriptor fieldName flag ↔
      (Occurrence.flags fieldName pairs).getLast? = some flag ∨
        query.Lists fieldName flag ∧ Occurrence.flags fieldName pairs = [] := by
  have wellFormed : ∀ part ∈ (Occurrence.ofPairs pairs).filterMap (·.part? .find),
      part.WellFormed := by
    intro part part_mem
    rcases List.mem_filterMap.mp part_mem with ⟨occurrence, occurrence_mem, holds⟩
    rcases List.mem_filterMap.mp occurrence_mem with ⟨pair, -, occurs⟩
    exact (Occurrence.isReadBy_of_part? occurs holds).wellFormed
  rw [readInTurn_descriptor succeeded, ← Occurrence.filterMap_flag?_parts]
  exact FindQuery.lists_foldl_iff wellFormed

/--
A find reads collected pairs one at a time in regrouped order. It can be read exactly if it could be
read in the order of the query string. If no filter key comes back after another one, the two
readings are the same, errors included; if it is read without an error, every member whose own keys
do not do so is the one that the query string leaves, every field whose own keys do not do so is
left as the last value in the query string that flags it says, and the conditions are the same in
any case but for their order.
-/
theorem find_read_ofPairs (query : FindQuery) (pairs : List (String × String)) :
    let outcome := QueryKind.find.read query (Values.ofPairs pairs)
    let inTurn := QueryKind.find.readInTurn query pairs
    outcome = QueryKind.find.readInTurn query (regroup pairs) ∧
    (outcome.failure = none ↔ inTurn.failure = none) ∧
    (Uninterleaved ((pairs.map Prod.fst).filter FilterKey.isRecognised) → outcome = inTurn) ∧
    (inTurn.failure = none →
      (∀ filterType,
        Uninterleaved ((pairs.map Prod.fst).filter (FilterKey.addresses filterType)) →
        FindQuery.AgreeOn filterType outcome.descriptor inTurn.descriptor) ∧
      (QueryKind.find.conditions outcome.descriptor).Perm
        (QueryKind.find.conditions inTurn.descriptor) ∧
      ∀ fieldName,
        Uninterleaved ((pairs.map Prod.fst).filter (Occurrence.flagsUnder fieldName pairs)) →
        ∀ flag, (FindQuery.Lists outcome.descriptor fieldName flag ↔
            FindQuery.Lists inTurn.descriptor fieldName flag) ∧
          (FindQuery.Lists outcome.descriptor fieldName flag ↔
            (Occurrence.flags fieldName pairs).getLast? = some flag ∨
              query.Lists fieldName flag ∧ Occurrence.flags fieldName pairs = [])) := by
  intro outcome inTurn
  have outcome_eq : outcome = QueryKind.find.readInTurn query (regroup pairs) :=
    read_ofPairs_eq_readInTurn .find query pairs
  rw [outcome_eq]
  refine ⟨rfl, readInTurn_regroup_failure_eq_none_iff .find query pairs, ?_, ?_⟩
  · intro uninterleaved
    exact readInTurn_regroup_of_uninterleaved .find query uninterleaved
  · intro succeeded
    have regrouped_succeeded :=
      (readInTurn_regroup_failure_eq_none_iff .find query pairs).mpr succeeded
    refine ⟨?_, conditions_readInTurn_regroup_perm query succeeded, ?_⟩
    · intro filterType uninterleaved
      exact agreeOn_readInTurn_regroup query succeeded uninterleaved
    · intro fieldName uninterleaved flag
      have listed := lists_readInTurn_iff regrouped_succeeded fieldName flag
      rw [Occurrence.flags_regroup uninterleaved] at listed
      exact ⟨listed.trans (lists_readInTurn_iff succeeded fieldName flag).symm, listed⟩

/-- A limit that is spelled in two ways, the first of which comes back: the last value in the query
string is seven, the one that is kept is six. -/
theorem find_read_limit_interleaved :
    let pairs := [("filter[limit]", "5"), ("filter[LIMIT]", "6"), ("filter[limit]", "7")]
    FindQuery.limit (QueryKind.find.read ({} : FindQuery) (Values.ofPairs pairs)).descriptor =
      some ⟨6⟩ ∧
    FindQuery.limit (QueryKind.find.readInTurn ({} : FindQuery) pairs).descriptor = some ⟨7⟩ ∧
    QueryKind.find.read ({} : FindQuery) (Values.ofPairs pairs) ≠
      QueryKind.find.readInTurn ({} : FindQuery) pairs := by
  intro pairs
  have kept : FindQuery.limit
      (QueryKind.find.read ({} : FindQuery) (Values.ofPairs pairs)).descriptor = some ⟨6⟩ := by
    decide +kernel
  have last : FindQuery.limit (QueryKind.find.readInTurn ({} : FindQuery) pairs).descriptor =
      some ⟨7⟩ := by
    decide +kernel
  refine ⟨kept, last, ?_⟩
  intro equal
  rw [equal, last] at kept
  exact absurd kept (by decide)

/-- A page number between two limits changes nothing; conditions on one field keep their order also
around a limit that is given twice, and a field is left excluded by its last flag although another
one is flagged in between. -/
theorem find_read_conditions_around_limit :
    let limited := [("filter[limit]", "5"), ("page", "2"), ("filter[limit]", "7")]
    let pairs := ("filter[where][age][gte]", "18") :: limited ++
      [("filter[where][age][gte]", "21")]
    let flagged := [("filter[fields][id]", "true"), ("filter[fields][name]", "true"),
      ("filter[fields][id]", "false")]
    QueryKind.find.read ({} : FindQuery) (Values.ofPairs limited) =
      QueryKind.find.readInTurn ({} : FindQuery) limited ∧
    ¬Uninterleaved ((pairs.map Prod.fst).filter FilterKey.isRecognised) ∧
    FindQuery.AgreeOn .condition
      (QueryKind.find.read ({} : FindQuery) (Values.ofPairs pairs)).descriptor
      (QueryKind.find.readInTurn ({} : FindQuery) pairs).descriptor ∧
    ¬Uninterleaved ((flagged.map Prod.fst).filter (FilterKey.addresses .fields)) ∧
    FindQuery.Lists (QueryKind.find.read ({} : FindQuery) (Values.ofPairs flagged)).descriptor
      "id" false := by
  intro limited pairs flagged
  refine ⟨?_, by decide +kernel, ?_, by decide +kernel, ?_⟩
  · exact (find_read_ofPairs {} limited).2.2.1 (by decide +kernel)
  · exact ((find_read_ofPairs {} pairs).2.2.2 (by decide +kernel)).1 .condition (by decide +kernel)
  · have last : (Occurrence.flags "id" flagged).getLast? = some false := by decide +kernel
    exact (((find_read_ofPairs {} flagged).2.2.2 (by decide +kernel)).2.2 "id" (by decide +kernel)
      false).2.mpr (.inl last)

end QueryKind

end SchemaLens.Query
