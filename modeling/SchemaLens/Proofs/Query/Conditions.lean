import Mathlib.Data.List.Forall2
import SchemaLens.Proofs.Query.Filter
import SchemaLens.Proofs.Query.Reading

/-!
# Conditions are neither lost nor doubled

Conditions add up: storing a part never changes the conditions that a query has. A count, an update
and a removal take conditions only, so every pair whose key addresses a filter either makes the
reading fail or adds the condition that it states. A condition that was dropped without a word would
let an update or a removal reach every row.
-/

namespace SchemaLens.Query

/-- The condition that a part is. -/
def FilterPart.condition? : FilterPart → Option Condition
  | .condition stated => some stated
  | _ => none

/-- Whether a pair states a condition: its key names the field and the operator, and its value is
the value. -/
def Condition.StatedBy (condition : Condition) (pair : String × String) : Prop :=
  ∃ filterKey word, FilterKey.parse? pair.1 = some filterKey ∧ filterKey.keyword = "where" ∧
    filterKey.path = [condition.fieldName, word] ∧
    Operator.ofWord? word = some condition.operator ∧ condition.value = pair.2

namespace QueryKind

/-- The conditions of a descriptor. A request for the row with an identifier has none. -/
def conditions : (kind : QueryKind) → kind.Descriptor → List Condition
  | .find, query => FindQuery.conditions query
  | .findOne, query => FindOneQuery.conditions query
  | .findById, _ => []
  | .count, query => CountQuery.conditions query
  | .update, query => UpdateQuery.conditions query
  | .destroy, query => DestroyQuery.conditions query

variable {kind : QueryKind}

theorem conditions_apply (takes : kind.accepts .condition = true) (descriptor : kind.Descriptor)
    (part : FilterPart) :
    kind.conditions (kind.apply descriptor part) =
      kind.conditions descriptor ++ part.condition?.toList := by
  cases kind with
  | find =>
      cases part <;> simp [conditions, apply, FindQuery.apply, FilterPart.condition?]
  | findOne =>
      cases part <;> simp [conditions, apply, FindOneQuery.apply, FilterPart.condition?]
  | findById => contradiction
  | count =>
      cases part <;> simp [conditions, apply, CountQuery.apply, FilterPart.condition?]
  | update =>
      cases part <;> simp [conditions, apply, UpdateQuery.apply, FilterPart.condition?]
  | destroy =>
      cases part <;> simp [conditions, apply, DestroyQuery.apply, FilterPart.condition?]

theorem conditions_foldl_apply (takes : kind.accepts .condition = true)
    (descriptor : kind.Descriptor) (parts : List FilterPart) :
    kind.conditions (parts.foldl kind.apply descriptor) =
      kind.conditions descriptor ++ parts.filterMap FilterPart.condition? := by
  induction parts generalizing descriptor with
  | nil => simp
  | cons part rest ih =>
      rw [List.foldl_cons, ih, conditions_apply takes, List.append_assoc, List.filterMap_cons]
      cases part.condition? <;> rfl

/-- No reading, whether it succeeds or not, touches the conditions that were there. -/
theorem conditions_prefix_readInTurn (takes : kind.accepts .condition = true)
    (descriptor : kind.Descriptor) (pairs : List (String × String)) :
    kind.conditions descriptor <+:
      kind.conditions (kind.readInTurn descriptor pairs).descriptor := by
  rw [readInTurn_eq_readOccurrences, readOccurrences_descriptor, conditions_foldl_apply takes]
  exact List.prefix_append _ _

/-! ## Kinds that take conditions only -/

theorem accepts_iff_of_conditionsOnly (conditionsOnly : kind ∈ [.count, .update, .destroy])
    (filterType : FilterType) : kind.accepts filterType = true ↔ filterType = .condition := by
  simp only [List.mem_cons, List.not_mem_nil, or_false] at conditionsOnly
  rcases conditionsOnly with rfl | rfl | rfl <;> simp [accepts]

/-- An occurrence that can be read adds the condition that its pair states. -/
theorem exists_condition_of_not_fails (conditionsOnly : kind ∈ [.count, .update, .destroy])
    {pair : String × String} {occurrence : Occurrence}
    (occurs : Occurrence.ofPair? pair = some occurrence) (passed : ¬occurrence.Fails kind) :
    ∃ condition, occurrence.part? kind = some (.condition condition) ∧
      condition.StatedBy pair := by
  rcases Option.map_eq_some_iff.mp occurs with ⟨filterKey, recognised, rfl⟩
  have taken := Occurrence.isTaken_of_not_fails passed
  rcases Option.isSome_iff_exists.mp taken with ⟨filterType, named⟩
  rcases Option.filter_eq_some_iff.mp named with ⟨ofName, accepted⟩
  rw [accepts_iff_of_conditionsOnly conditionsOnly] at accepted
  subst filterType
  cases parsed : FilterPart.parse .condition pair.1 filterKey.path pair.2 with
  | error error =>
      refine absurd ⟨error, ?_⟩ passed
      simp only [Occurrence.result, named, parsed]
  | ok part? =>
      rcases FilterPart.parse_condition_eq_ok_iff.mp parsed with ⟨condition, read, rfl⟩
      rcases Condition.parse_eq_ok_iff.mp read with ⟨-, value_eq, word, path_eq, operator_eq⟩
      refine ⟨condition, ?_, filterKey, word, recognised, ?_, path_eq, operator_eq, value_eq⟩
      · simp only [Occurrence.part?, Occurrence.result, named, parsed]
      · exact (Named.name_of_ofName? ofName).symm

/-- The conditions that readable pairs add are those that they state, one for each pair whose key
addresses a filter. -/
theorem forall₂_statedBy (conditionsOnly : kind ∈ [.count, .update, .destroy])
    {pairs : List (String × String)}
    (passed : ∀ occurrence ∈ Occurrence.ofPairs pairs, ¬occurrence.Fails kind) :
    List.Forall₂ Condition.StatedBy
      (((Occurrence.ofPairs pairs).filterMap (·.part? kind)).filterMap FilterPart.condition?)
      (pairs.filter fun pair => FilterKey.isRecognised pair.1) := by
  induction pairs with
  | nil => exact List.Forall₂.nil
  | cons pair rest ih =>
      cases occurs : Occurrence.ofPair? pair with
      | none =>
          have unrecognised : FilterKey.isRecognised pair.1 = false := by
            simpa [Occurrence.ofPair?, FilterKey.isRecognised] using occurs
          rw [Occurrence.ofPairs, List.filterMap_cons_none occurs] at passed ⊢
          rw [List.filter_cons_of_neg (by simp [unrecognised])]
          exact ih passed
      | some occurrence =>
          have recognised : FilterKey.isRecognised pair.1 = true := by
            rcases Option.map_eq_some_iff.mp occurs with ⟨filterKey, parsed, -⟩
            simp [FilterKey.isRecognised, parsed]
          rw [Occurrence.ofPairs, List.filterMap_cons_some occurs] at passed ⊢
          rcases exists_condition_of_not_fails conditionsOnly occurs
            (passed occurrence List.mem_cons_self) with ⟨condition, holds, stated⟩
          have stored : FilterPart.condition? (.condition condition) = some condition := rfl
          rw [List.filterMap_cons_some holds, List.filterMap_cons_some stored,
            List.filter_cons_of_pos (by simpa using recognised)]
          exact List.Forall₂.cons stated (ih fun later later_mem =>
            passed later (List.mem_cons_of_mem _ later_mem))

/--
A count, an update or a removal that is read without an error has the conditions it started with,
followed by one condition for each pair whose key addresses a filter: the one that the pair states.
So if it has no new condition, there was no such pair. Even an error leaves the conditions that were
there at the front, as they were.
-/
theorem conditions_read_ofPairs (kind : QueryKind)
    (conditionsOnly : kind ∈ [.count, .update, .destroy]) (descriptor : kind.Descriptor)
    (pairs : List (String × String)) :
    let outcome := kind.read descriptor (Values.ofPairs pairs)
    let recognised := pairs.filter fun pair => FilterKey.isRecognised pair.1
    (outcome.failure = none →
      ∃ added, kind.conditions outcome.descriptor = kind.conditions descriptor ++ added ∧
        List.Forall₂ Condition.StatedBy added (regroup recognised) ∧
        (regroup recognised).Perm recognised) ∧
    (outcome.failure = none →
      kind.conditions outcome.descriptor = kind.conditions descriptor →
      ∀ pair ∈ pairs, FilterKey.parse? pair.1 = none) ∧
    kind.conditions descriptor <+: kind.conditions outcome.descriptor := by
  intro outcome recognised
  have takes : kind.accepts .condition = true :=
    (accepts_iff_of_conditionsOnly conditionsOnly .condition).mpr rfl
  have outcome_eq : outcome = kind.readInTurn descriptor (regroup pairs) :=
    read_ofPairs_eq_readInTurn kind descriptor pairs
  have one_each : outcome.failure = none →
      ∃ added, kind.conditions outcome.descriptor = kind.conditions descriptor ++ added ∧
        List.Forall₂ Condition.StatedBy added (regroup recognised) ∧
        (regroup recognised).Perm recognised := by
    intro succeeded
    rw [outcome_eq] at succeeded
    rw [outcome_eq, readInTurn_descriptor succeeded, conditions_foldl_apply takes]
    refine ⟨_, rfl, ?_, regroup_perm recognised⟩
    rw [← filter_regroup]
    exact forall₂_statedBy conditionsOnly ((readInTurn_failure_eq_none_iff _ _).mp succeeded)
  refine ⟨one_each, ?_, ?_⟩
  · intro succeeded unchanged pair pair_mem
    rcases one_each succeeded with ⟨added, conditions_eq, stated, permuted⟩
    rw [unchanged] at conditions_eq
    have none_added : added = [] := List.self_eq_append_right.mp conditions_eq
    rw [none_added, List.forall₂_nil_left_iff] at stated
    have none_recognised : recognised = [] := by
      rw [stated] at permuted
      exact permuted.symm.eq_nil
    have unrecognised := List.filter_eq_nil_iff.mp none_recognised pair pair_mem
    simpa [FilterKey.isRecognised] using unrecognised
  · rw [outcome_eq]
    exact conditions_prefix_readInTurn takes descriptor (regroup pairs)

/-- A removal that has a condition is given three more by two keys that take turns, and no more by a
page number. -/
theorem conditions_read_ofPairs_destroy :
    let start : DestroyQuery := { conditions := [⟨"id", .gt, "0"⟩] }
    let pairs := [("filter[where][age][gte]", "18"), ("page", "2"),
      ("FILTER[ where ][name][ EQ ]", " x "), ("filter[where][age][gte]", "21")]
    let outcome := QueryKind.destroy.read start (Values.ofPairs pairs)
    outcome.failure = none ∧
    (∃ added, QueryKind.destroy.conditions outcome.descriptor = ⟨"id", .gt, "0"⟩ :: added ∧
      List.Forall₂ Condition.StatedBy added
        [("filter[where][age][gte]", "18"), ("filter[where][age][gte]", "21"),
          ("FILTER[ where ][name][ EQ ]", " x ")]) ∧
    ∀ pair ∈ [("page", "2")], FilterKey.parse? pair.1 = none := by
  intro start pairs outcome
  have succeeded : outcome.failure = none := by decide +kernel
  rcases (conditions_read_ofPairs .destroy (by decide) start pairs).1 succeeded with
    ⟨added, conditions_eq, stated, -⟩
  have regrouped : regroup (pairs.filter fun pair => FilterKey.isRecognised pair.1) =
      [("filter[where][age][gte]", "18"), ("filter[where][age][gte]", "21"),
        ("FILTER[ where ][name][ EQ ]", " x ")] := by decide +kernel
  rw [regrouped] at stated
  refine ⟨succeeded, ⟨added, conditions_eq, stated⟩, ?_⟩
  exact (conditions_read_ofPairs .destroy (by decide) start [("page", "2")]).2.1
    (by decide +kernel) (by decide +kernel)

end QueryKind

end SchemaLens.Query
