import SchemaLens.Proofs.Query.Conditions

/-!
# The order of the query string

Collected pairs are read key by key, a key at the place where it first came, and not in the order
of the query string. The two orders differ only where a key comes back after another one. Filters
are stored in members of their own, so for a query that is read without an error it is enough to
look at the keys of one type of filter: if these are not interleaved, their member is what reading
the query string from left to right would have left.
-/

namespace SchemaLens.Query

namespace FilterKey

/-- Whether a key addresses a filter of a type. -/
def addresses (filterType : FilterType) (key : String) : Bool :=
  (parse? key).any fun filterKey => Named.ofName? filterKey.keyword = some filterType

end FilterKey

namespace Occurrence

variable {kind : QueryKind}

/-- An occurrence that holds a part addresses filters of the type of the part. -/
theorem addresses_of_part? {pair : String × String} {occurrence : Occurrence} {part : FilterPart}
    (occurs : ofPair? pair = some occurrence) (holds : occurrence.part? kind = some part)
    (filterType : FilterType) :
    FilterKey.addresses filterType pair.1 = decide (part.filterType = filterType) := by
  rcases Option.map_eq_some_iff.mp occurs with ⟨filterKey, recognised, rfl⟩
  rcases exists_parse_of_part? holds with ⟨own, taken, parsed⟩
  have named : Named.ofName? filterKey.keyword = some own := (Option.filter_eq_some_iff.mp taken).1
  rw [FilterPart.filterType_of_parse parsed]
  simp [FilterKey.addresses, recognised, named]

/-- The parts of one type come from the keys that address filters of that type. -/
theorem parts_filter_filterType (filterType : FilterType) (pairs : List (String × String)) :
    ((ofPairs pairs).filterMap (·.part? kind)).filter (·.filterType = filterType) =
      (ofPairs (pairs.filter fun pair => FilterKey.addresses filterType pair.1)).filterMap
        (·.part? kind) := by
  simp only [ofPairs, List.filterMap_filterMap, List.filter_filterMap, List.filterMap_filter]
  apply List.filterMap_congr
  intro pair _
  cases occurs : ofPair? pair with
  | none => simp
  | some occurrence =>
      cases holds : occurrence.part? kind with
      | none => split <;> simp [holds]
      | some part =>
          rw [addresses_of_part? occurs holds]
          by_cases same : part.filterType = filterType <;> simp [holds, same]

end Occurrence

namespace QueryKind

variable {kind : QueryKind}

/-- Regrouping decides neither whether pairs can be read nor what they hold. -/
theorem readInTurn_regroup_failure_eq_none_iff (kind : QueryKind) (descriptor : kind.Descriptor)
    (pairs : List (String × String)) :
    (kind.readInTurn descriptor (regroup pairs)).failure = none ↔
      (kind.readInTurn descriptor pairs).failure = none := by
  simp only [readInTurn_failure_eq_none_iff]
  have permuted := Occurrence.ofPairs_perm (regroup_perm pairs)
  exact forall_congr' fun occurrence => imp_congr_left permuted.mem_iff

/-- Pairs can be read in any order of their keys if no filter key comes back after another one. -/
theorem readInTurn_regroup_of_uninterleaved (kind : QueryKind) (descriptor : kind.Descriptor)
    {pairs : List (String × String)}
    (uninterleaved : Uninterleaved ((pairs.map Prod.fst).filter FilterKey.isRecognised)) :
    kind.readInTurn descriptor (regroup pairs) = kind.readInTurn descriptor pairs := by
  rw [readInTurn_eq_readOccurrences, readInTurn_eq_readOccurrences,
    ← Occurrence.ofPairs_filter_isRecognised (regroup pairs),
    filter_regroup_eq_self uninterleaved, Occurrence.ofPairs_filter_isRecognised]

end QueryKind

namespace FindQuery

/-- Whether two queries have the same member for a type of filter. -/
def AgreeOn (filterType : FilterType) (left right : FindQuery) : Prop :=
  match filterType with
  | .fields => left.projection = right.projection
  | .condition => left.conditions = right.conditions
  | .order => left.order = right.order
  | .limit => left.limit = right.limit
  | .skip => left.skip = right.skip

variable {filterType : FilterType} {left right : FindQuery}

theorem agreeOn_apply (agree : AgreeOn filterType left right) (part : FilterPart) :
    AgreeOn filterType (left.apply part) (right.apply part) := by
  cases part <;> cases filterType <;> simp_all [AgreeOn, apply]

theorem agreeOn_apply_of_ne (agree : AgreeOn filterType left right) {part : FilterPart}
    (differs : part.filterType ≠ filterType) : AgreeOn filterType (left.apply part) right := by
  cases part <;> cases filterType <;> simp_all [AgreeOn, apply, FilterPart.filterType]

/-- What a member holds after parts were stored depends on the parts of its type only. -/
theorem agreeOn_foldl_filter (agree : AgreeOn filterType left right) (parts : List FilterPart) :
    AgreeOn filterType (parts.foldl apply left)
      ((parts.filter (·.filterType = filterType)).foldl apply right) := by
  induction parts generalizing left right with
  | nil => exact agree
  | cons part rest ih =>
      by_cases same : part.filterType = filterType
      · simp only [List.filter_cons, same, decide_true, if_true, List.foldl_cons]
        exact ih (agreeOn_apply agree part)
      · simp only [List.filter_cons, same, decide_false, Bool.false_eq_true, if_false,
          List.foldl_cons]
        exact ih (agreeOn_apply_of_ne agree same)

theorem AgreeOn.symm (agree : AgreeOn filterType left right) : AgreeOn filterType right left := by
  cases filterType <;> exact Eq.symm agree

theorem AgreeOn.trans {last : FindQuery} (first : AgreeOn filterType left right)
    (second : AgreeOn filterType right last) : AgreeOn filterType left last := by
  cases filterType <;> exact Eq.trans first second

theorem agreeOn_refl (filterType : FilterType) (query : FindQuery) :
    AgreeOn filterType query query := by
  cases filterType <;> rfl

theorem agreeOn_foldl_of_filter_eq (query : FindQuery) {parts others : List FilterPart}
    (same : parts.filter (·.filterType = filterType) = others.filter (·.filterType = filterType)) :
    AgreeOn filterType (parts.foldl apply query) (others.foldl apply query) := by
  have reduced := agreeOn_foldl_filter (agreeOn_refl filterType query) parts
  rw [same] at reduced
  exact reduced.trans (agreeOn_foldl_filter (agreeOn_refl filterType query) others).symm

end FindQuery

namespace QueryKind

/-- Of a find that is read without an error, the member for a type of filter is the one that the
query string leaves, if the keys of that type are not interleaved. -/
theorem agreeOn_readInTurn_regroup (query : FindQuery) {pairs : List (String × String)}
    {filterType : FilterType}
    (succeeded : (QueryKind.find.readInTurn query pairs).failure = none)
    (uninterleaved :
      Uninterleaved ((pairs.map Prod.fst).filter (FilterKey.addresses filterType))) :
    FindQuery.AgreeOn filterType (QueryKind.find.readInTurn query (regroup pairs)).descriptor
      (QueryKind.find.readInTurn query pairs).descriptor := by
  have regrouped_succeeded :=
    (readInTurn_regroup_failure_eq_none_iff .find query pairs).mpr succeeded
  rw [readInTurn_descriptor succeeded, readInTurn_descriptor regrouped_succeeded]
  apply FindQuery.agreeOn_foldl_of_filter_eq
  rw [Occurrence.parts_filter_filterType, Occurrence.parts_filter_filterType,
    filter_regroup_eq_self uninterleaved]

/-- Regrouping never loses a condition of a find or adds one. -/
theorem conditions_readInTurn_regroup_perm (query : FindQuery) {pairs : List (String × String)}
    (succeeded : (QueryKind.find.readInTurn query pairs).failure = none) :
    (QueryKind.find.conditions (QueryKind.find.readInTurn query (regroup pairs)).descriptor).Perm
      (QueryKind.find.conditions (QueryKind.find.readInTurn query pairs).descriptor) := by
  have regrouped_succeeded :=
    (readInTurn_regroup_failure_eq_none_iff .find query pairs).mpr succeeded
  rw [readInTurn_descriptor succeeded, readInTurn_descriptor regrouped_succeeded,
    conditions_foldl_apply rfl, conditions_foldl_apply rfl]
  have permuted := Occurrence.ofPairs_perm (regroup_perm pairs)
  exact ((permuted.filterMap _).filterMap _).append_left _

end QueryKind

end SchemaLens.Query
