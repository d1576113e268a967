import SchemaLens.Proofs.Query.Reading

/-!
# Parameters that address no filter

A query string carries parameters of others as well: a page number, a token, a key that is spelled
almost like a filter. They take part in the collecting of pairs, where a key that is in the way of
others could move them, and they are passed over only when the collected values are read. Whatever
they are and wherever they stand, a reading is the one of the filter parameters alone.
-/

namespace SchemaLens.Query

/-- Two lists of pairs have the same filter parameters in the same order. Either of them may have
any other pairs besides, anywhere among these. -/
inductive SameFilters : List (String × String) → List (String × String) → Prop where
  | nil : SameFilters [] []
  | shared (pair : String × String) {left right : List (String × String)}
      (rest : SameFilters left right) : SameFilters (pair :: left) (pair :: right)
  | onLeft {pair : String × String} (unrelated : FilterKey.parse? pair.1 = none)
      {left right : List (String × String)} (rest : SameFilters left right) :
      SameFilters (pair :: left) right
  | onRight {pair : String × String} (unrelated : FilterKey.parse? pair.1 = none)
      {left right : List (String × String)} (rest : SameFilters left right) :
      SameFilters left (pair :: right)

theorem FilterKey.isRecognised_eq_false_iff {key : String} :
    FilterKey.isRecognised key = false ↔ FilterKey.parse? key = none := by
  simp [FilterKey.isRecognised]

theorem SameFilters.filter_isRecognised_eq {left right : List (String × String)}
    (same : SameFilters left right) :
    left.filter (fun pair => FilterKey.isRecognised pair.1) =
      right.filter fun pair => FilterKey.isRecognised pair.1 := by
  induction same with
  | nil => rfl
  | shared pair rest ih => rw [List.filter_cons, List.filter_cons, ih]
  | onLeft unrelated rest ih =>
      rw [List.filter_cons_of_neg (by simp [FilterKey.isRecognised_eq_false_iff.mpr unrelated]), ih]
  | onRight unrelated rest ih =>
      rw [List.filter_cons_of_neg (by simp [FilterKey.isRecognised_eq_false_iff.mpr unrelated]), ih]

namespace QueryKind

/-- Only the filter parameters among collected pairs are read. -/
theorem read_ofPairs_eq_read_filter (kind : QueryKind) (descriptor : kind.Descriptor)
    (pairs : List (String × String)) :
    kind.read descriptor (Values.ofPairs pairs) =
      kind.read descriptor
        (Values.ofPairs (pairs.filter fun pair => FilterKey.isRecognised pair.1)) := by
  simp only [read_ofPairs_eq_readInTurn, readInTurn_eq_readOccurrences]
  rw [← filter_regroup, Occurrence.ofPairs_filter_isRecognised]

/--
Pairs that address no filter can be taken away from a query or put into it anywhere: the descriptor,
the error and the values that were about to be read stay the same.
-/
theorem read_ofPairs_of_sameFilters (kind : QueryKind) (descriptor : kind.Descriptor)
    {left right : List (String × String)} (same : SameFilters left right) :
    kind.read descriptor (Values.ofPairs left) = kind.read descriptor (Values.ofPairs right) := by
  rw [read_ofPairs_eq_read_filter, same.filter_isRecognised_eq, ← read_ofPairs_eq_read_filter]

/-- Page numbers and a misspelled limit around two conditions on one field, of which the second has
an operator that is not known. -/
theorem read_ofPairs_of_sameFilters_unknownOperator :
    let conditions := [("filter[where][age][gte]", "18"), ("filter[where][age][approx]", "21"),
      ("filter[where][age][gte]", "30")]
    let crowded := [("page", "1"), ("filter[where][age][gte]", "18"), ("filters[limit]", "5"),
      ("filter[where][age][approx]", "21"), ("page", "2"), ("filter[where][age][gte]", "30"),
      ("", "")]
    SameFilters crowded conditions ∧
    QueryKind.count.read {} (Values.ofPairs crowded) =
      QueryKind.count.read {} (Values.ofPairs conditions) ∧
    QueryKind.count.read {} (Values.ofPairs crowded) = {
      descriptor := ({ conditions := [⟨"age", .gte, "18"⟩, ⟨"age", .gte, "30"⟩] } : CountQuery)
      failure := some (.unknownOperator "approx")
      seen := [⟨.count, "filter[where][age][gte]", "18"⟩,
        ⟨.count, "filter[where][age][gte]", "30"⟩,
        ⟨.count, "filter[where][age][approx]", "21"⟩] } := by
  intro conditions crowded
  have same : SameFilters crowded conditions :=
    .onLeft (by decide +kernel) (.shared _ (.onLeft (by decide +kernel) (.shared _
      (.onLeft (by decide +kernel) (.shared _ (.onLeft (by decide +kernel) .nil))))))
  refine ⟨same, read_ofPairs_of_sameFilters .count {} same, ?_⟩
  rw [read_ofPairs_of_sameFilters .count {} same]
  decide +kernel

end QueryKind

end SchemaLens.Query
