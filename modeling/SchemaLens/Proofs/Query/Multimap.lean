import Mathlib.Data.Finset.Card
import SchemaLens.Proofs.Query.EntryOrder
import SchemaLens.Proofs.Query.Values

/-!
# Query values as an ordered multimap

Adding a value to a key leaves the place of the key and puts a new key behind the others. So the
keys stand in the order in which they first come, each once, and hold what was added to them and
nothing else. Values that are added to different keys one right after the other can be added the
other way round: nobody who looks up a key can tell. Only where both keys are new does it show in
the order of the keys.
-/

namespace SchemaLens

universe u

variable {Value : Type u}

/-! ## Order of the keys -/

/-- A new key comes after all others, so keys stand in the order in which they first come. -/
theorem pairwise_idxOf_eraseDups (keys : List String) :
    keys.eraseDups.Pairwise fun first second => keys.idxOf first < keys.idxOf second := by
  induction keys using List.reverseRecOn with
  | nil => exact List.Pairwise.nil
  | append_singleton keys key ih =>
      have ordered : keys.eraseDups.Pairwise fun first second =>
          (keys ++ [key]).idxOf first < (keys ++ [key]).idxOf second := by
        refine ih.imp_of_mem fun first_mem second_mem less => ?_
        rw [List.mem_eraseDups] at first_mem second_mem
        rwa [List.idxOf_append_of_mem first_mem, List.idxOf_append_of_mem second_mem]
      rw [eraseDups_concat]
      split_ifs with earlier
      · exact ordered
      · refine List.pairwise_append.mpr ⟨ordered, List.pairwise_singleton _ _, ?_⟩
        intro first first_mem last last_mem
        rw [List.mem_eraseDups] at first_mem
        rw [List.mem_singleton.mp last_mem, List.idxOf_append_of_mem first_mem,
          List.idxOf_append_of_notMem earlier]
        exact Nat.lt_add_right _ (List.idxOf_lt_length_iff.mpr first_mem)

/-! ## Two keys exchanged -/

theorem eraseDups_cons_cons {first second : String} (different : first ≠ second)
    (rest : List String) :
    (first :: second :: rest).eraseDups =
      first :: second :: (rest.filter fun key => key != first && key != second).eraseDups := by
  have kept : (!second == first) = true := by simp [different.symm]
  simp only [List.eraseDups_cons, List.filter_cons, kept, if_true, List.filter_filter]
  congr 3
  apply List.filter_congr
  intro key _
  exact Bool.and_comm _ _

theorem eraseDups_exchange_iff {first second : String} (different : first ≠ second)
    (before after : List String) :
    (before ++ second :: first :: after).eraseDups =
        (before ++ first :: second :: after).eraseDups ↔
      first ∈ before ∨ second ∈ before := by
  have same_rest : (after.filter fun key => key != second && key != first) =
      after.filter fun key => key != first && key != second :=
    List.filter_congr fun key _ => Bool.and_comm _ _
  rw [eraseDups_append_filter, eraseDups_append_filter, List.append_cancel_left_eq,
    eraseDups_cons_cons different, eraseDups_cons_cons different.symm, same_rest]
  by_cases first_mem : first ∈ before
  · simp [List.filter_cons, first_mem]
  · by_cases second_mem : second ∈ before
    · simp [List.filter_cons, second_mem]
    · simp [first_mem, second_mem, different.symm]

theorem valuesOf_exchange {first second : String × Value} (different : first.1 ≠ second.1)
    (key : String) (before after : List (String × Value)) :
    valuesOf key (before ++ second :: first :: after) =
      valuesOf key (before ++ first :: second :: after) := by
  rw [valuesOf_append, valuesOf_append]
  congr 1
  by_cases own : first.1 = key
  · have other : second.1 ≠ key := fun same => different (own.trans same.symm)
    simp [valuesOf, own, other]
  · simp [valuesOf, List.filter_cons, own]

namespace Query.Values

/-! ## Multimaps -/

/-- Whether query values hold pairs as an ordered multimap does. -/
structure IsMultimapOf (values : Values) (pairs : List (String × String)) : Prop where
  mem_keys_iff : ∀ key, key ∈ values.keys ↔ key ∈ pairs.map Prod.fst
  /-- Keys stand in the order in which they first come, so none of them stands twice. -/
  keys_in_order : values.keys.Pairwise fun first second =>
    (pairs.map Prod.fst).idxOf first < (pairs.map Prod.fst).idxOf second
  /-- A key has the values that come with it, in their order, and there is at least one. -/
  values_eq : ∀ key held, (key, held) ∈ values.entries → held = valuesOf key pairs ∧ held ≠ []
  get?_eq_some_iff : ∀ key held, values.get? key = some held ↔ (key, held) ∈ values.entries
  get?_eq_none_iff : ∀ key, values.get? key = none ↔ key ∉ pairs.map Prod.fst
  size_eq : values.size = (pairs.map Prod.fst).toFinset.card
  /-- Every pair is held as often as it comes. -/
  pairs_perm : values.pairs.Perm pairs

theorem isMultimapOf_ofPairs (pairs : List (String × String)) :
    (ofPairs pairs).IsMultimapOf pairs where
  mem_keys_iff key := mem_keys_ofPairs
  keys_in_order := by
    rw [keys_ofPairs]
    exact pairwise_idxOf_eraseDups _
  values_eq := by
    intro key held entry_mem
    refine ⟨?_, ne_nil_of_mem_entries_ofPairs entry_mem⟩
    rw [entries_ofPairs] at entry_mem
    rcases List.mem_map.mp entry_mem with ⟨present, -, entry_eq⟩
    rcases Prod.mk.inj entry_eq with ⟨rfl, held_eq⟩
    exact held_eq.symm
  get?_eq_some_iff key held := OrderedMap.get?_eq_some_iff
  get?_eq_none_iff key := by rw [OrderedMap.get?_eq_none_iff, mem_keys_ofPairs]
  size_eq := by
    have keys_eq : (pairs.map Prod.fst).toFinset = (ofPairs pairs).keys.toFinset := by
      ext key
      rw [List.mem_toFinset, List.mem_toFinset, mem_keys_ofPairs]
    have distinct : (ofPairs pairs).keys.Nodup := (ofPairs pairs).distinct
    rw [keys_eq, List.toFinset_card_of_nodup distinct, OrderedMap.keys, List.length_map]
    rfl
  pairs_perm := by
    rw [Values.pairs, flatMap_entries_ofPairs]
    exact regroup_perm pairs

theorem IsMultimapOf.entries_eq {values : Values} {pairs : List (String × String)}
    (multimap : values.IsMultimapOf pairs) :
    values.entries = values.keys.map fun key => (key, valuesOf key pairs) := by
  have held_eq : ∀ entry ∈ values.entries, id entry = (entry.1, valuesOf entry.1 pairs) := by
    intro entry entry_mem
    rw [← (multimap.values_eq entry.1 entry.2 entry_mem).1, id]
  calc values.entries
    _ = values.entries.map id := (List.map_id _).symm
    _ = values.entries.map fun entry => (entry.1, valuesOf entry.1 pairs) :=
      List.map_congr_left held_eq
    _ = values.keys.map fun key => (key, valuesOf key pairs) := by
      rw [OrderedMap.keys, List.map_map]
      rfl

/-- What a multimap of some pairs holds and finds leaves only one way to hold it. -/
theorem IsMultimapOf.eq_ofPairs {values : Values} {pairs : List (String × String)}
    (multimap : values.IsMultimapOf pairs) : values = ofPairs pairs := by
  have collected := isMultimapOf_ofPairs pairs
  have same_keys : values.keys.Perm (ofPairs pairs).keys := by
    refine (List.perm_ext_iff_of_nodup values.distinct (ofPairs pairs).distinct).mpr fun key => ?_
    exact (multimap.mem_keys_iff key).trans (collected.mem_keys_iff key).symm
  have keys_eq : values.keys = (ofPairs pairs).keys := by
    refine List.Perm.eq_of_pairwise ?_ multimap.keys_in_order collected.keys_in_order same_keys
    intro first second _ _ first_less second_less
    exact absurd second_less first_less.asymm
  apply OrderedMap.eq_of_entries_eq
  rw [multimap.entries_eq, collected.entries_eq, keys_eq]

/-- Adding a value to a multimap adds the pair to those that it holds. -/
theorem IsMultimapOf.append {values : Values} {pairs : List (String × String)}
    (multimap : values.IsMultimapOf pairs) (key value : String) :
    (values.append key value).IsMultimapOf (pairs ++ [(key, value)]) := by
  rw [multimap.eq_ofPairs, ← ofPairs_concat]
  exact isMultimapOf_ofPairs _

variable {first second : String × String}

theorem get?_ofPairs_exchange (different : first.1 ≠ second.1)
    (before after : List (String × String)) (key : String) :
    (ofPairs (before ++ second :: first :: after)).get? key =
      (ofPairs (before ++ first :: second :: after)).get? key := by
  have exchanged : (before ++ second :: first :: after).Perm (before ++ first :: second :: after) :=
    (List.Perm.swap first second after).append_left before
  rw [get?_ofPairs, get?_ofPairs, valuesOf_exchange different]
  simp only [(exchanged.map Prod.fst).mem_iff]

theorem entries_ofPairs_exchange_iff (different : first.1 ≠ second.1)
    (before after : List (String × String)) :
    (ofPairs (before ++ second :: first :: after)).entries =
        (ofPairs (before ++ first :: second :: after)).entries ↔
      first.1 ∈ before.map Prod.fst ∨ second.1 ∈ before.map Prod.fst := by
  rw [← eraseDups_exchange_iff different _ (after.map Prod.fst)]
  constructor
  · intro same_entries
    have same_keys : (ofPairs (before ++ second :: first :: after)).keys =
        (ofPairs (before ++ first :: second :: after)).keys :=
      congrArg (List.map Prod.fst) same_entries
    simpa only [keys_ofPairs, List.map_append, List.map_cons] using same_keys
  · intro same_keys
    simp only [entries_ofPairs, valuesOf_exchange different, List.map_append, List.map_cons,
      same_keys]

/--
Collected pairs make an ordered multimap of them. Two pairs of different keys that come one after
the other can be exchanged without changing what is found under any key, and the entries stay as
they are exactly if one of the two keys came before.
-/
theorem multimap_ofPairs (pairs : List (String × String)) :
    (ofPairs pairs).IsMultimapOf pairs ∧
      ∀ before first second after, pairs = before ++ first :: second :: after →
        first.1 ≠ second.1 →
          (∀ key, (ofPairs (before ++ second :: first :: after)).get? key =
            (ofPairs pairs).get? key) ∧
          ((ofPairs (before ++ second :: first :: after)).entries = (ofPairs pairs).entries ↔
            first.1 ∈ before.map Prod.fst ∨ second.1 ∈ before.map Prod.fst) := by
  refine ⟨isMultimapOf_ofPairs pairs, ?_⟩
  rintro before first second after rfl different
  exact ⟨get?_ofPairs_exchange different before after,
    entries_ofPairs_exchange_iff different before after⟩

/-- A value for a key that came before is exchanged with a new key unnoticed. The two keys at the
start change places. -/
theorem multimap_ofPairs_exchanged :
    let pairs := [("b", "1"), ("a", "2"), ("b", "3"), ("c", "4"), ("a", "")]
    (ofPairs pairs).keys = ["b", "a", "c"] ∧ (ofPairs pairs).get? "a" = some ["2", ""] ∧
      (ofPairs pairs).size = 3 ∧ (ofPairs pairs).pairs.Perm pairs ∧
      (ofPairs [("b", "1"), ("a", "2"), ("c", "4"), ("b", "3"), ("a", "")]).entries =
        (ofPairs pairs).entries ∧
      (ofPairs [("a", "2"), ("b", "1"), ("b", "3"), ("c", "4"), ("a", "")]).entries ≠
        (ofPairs pairs).entries := by
  intro pairs
  have multimap := multimap_ofPairs pairs
  refine ⟨by decide +kernel, ?_, multimap.1.size_eq.trans (by decide +kernel),
    multimap.1.pairs_perm, ?_, ?_⟩
  · exact (multimap.1.get?_eq_some_iff "a" ["2", ""]).mpr (by decide +kernel)
  · exact (multimap.2 [("b", "1"), ("a", "2")] ("b", "3") ("c", "4") [("a", "")] rfl
      (by decide)).2.mpr (by decide)
  · exact mt (multimap.2 [] ("b", "1") ("a", "2") [("b", "3"), ("c", "4"), ("a", "")] rfl
      (by decide)).2.mp (by decide)

end Query.Values

end SchemaLens
