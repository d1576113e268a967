import Mathlib.Data.List.Induction
import Mathlib.Tactic.SplitIfs
import SchemaLens.Proofs.Data.OrderedMap
import SchemaLens.Proofs.Data.Regrouping
import SchemaLens.Query.Values

/-!
# Collected values

Pairs collected into query values are the pairs regrouped by key: each key stands once, where it
first came, with all its values in order.
-/

namespace SchemaLens

universe u

variable {Value : Type u}

theorem eraseDups_concat (keys : List String) (key : String) :
    (keys ++ [key]).eraseDups =
      if key ∈ keys then keys.eraseDups else keys.eraseDups ++ [key] := by
  by_cases present : key ∈ keys
  · simp [List.eraseDups_append, List.removeAll, present]
  · simp [List.eraseDups_append, List.removeAll, present, List.eraseDups_cons]

/-- Of the keys that come later, those stay that are not there already. -/
theorem eraseDups_append_filter (keys later : List String) :
    (keys ++ later).eraseDups =
      keys.eraseDups ++ later.eraseDups.filter fun key => key ∉ keys := by
  induction later using List.reverseRecOn with
  | nil => simp
  | append_singleton later key ih =>
      rw [← List.append_assoc, eraseDups_concat, eraseDups_concat, ih]
      by_cases earlier : key ∈ keys
      · by_cases again : key ∈ later <;> simp [earlier, again]
      · by_cases again : key ∈ later <;> simp [earlier, again]

theorem valuesOf_concat (key last : String) (value : Value) (pairs : List (String × Value)) :
    valuesOf key (pairs ++ [(last, value)]) =
      if key = last then valuesOf key pairs ++ [value] else valuesOf key pairs := by
  by_cases same : key = last
  · simp [valuesOf, same]
  · have differs : ¬last = key := fun equal => same equal.symm
    simp [valuesOf, same, differs]

theorem valuesOf_append (key : String) (pairs later : List (String × Value)) :
    valuesOf key (pairs ++ later) = valuesOf key pairs ++ valuesOf key later := by
  rw [valuesOf, List.filter_append, List.map_append]
  rfl

theorem valuesOf_eq_nil {key : String} {pairs : List (String × Value)}
    (absent : key ∉ pairs.map Prod.fst) : valuesOf key pairs = [] := by
  have none_mem : ∀ pair ∈ pairs, ¬pair.1 = key := by
    intro pair pair_mem equal
    exact absent (List.mem_map.mpr ⟨pair, pair_mem, equal⟩)
  simpa [valuesOf] using none_mem

theorem valuesOf_ne_nil {key : String} {pairs : List (String × Value)}
    (present : key ∈ pairs.map Prod.fst) : valuesOf key pairs ≠ [] := by
  rcases List.mem_map.mp present with ⟨pair, pair_mem, rfl⟩
  intro empty
  simp only [valuesOf, List.map_eq_nil_iff, List.filter_eq_nil_iff] at empty
  exact empty pair pair_mem (by simp)

theorem regroup_eq_flatMap (pairs : List (String × Value)) :
    regroup pairs = (pairs.map Prod.fst).eraseDups.flatMap fun key =>
      (valuesOf key pairs).map fun value => (key, value) := by
  apply List.flatMap_congr
  intro key _
  have own_key : ∀ pair ∈ pairs.filter (·.1 == key), (key, pair.2) = pair := by
    intro pair pair_mem
    have same : pair.1 = key := by simpa using (List.mem_filter.mp pair_mem).2
    rw [← same]
  calc pairs.filter (·.1 == key)
    _ = (pairs.filter (·.1 == key)).map id := (List.map_id _).symm
    _ = (pairs.filter (·.1 == key)).map fun pair => (key, pair.2) :=
      List.map_congr_left fun pair pair_mem => (own_key pair pair_mem).symm
    _ = (valuesOf key pairs).map fun value => (key, value) := by
      rw [valuesOf, List.map_map]
      rfl

namespace Query.Values

theorem ofPairs_concat (pairs : List (String × String)) (key value : String) :
    ofPairs (pairs ++ [(key, value)]) = (ofPairs pairs).append key value := by
  rw [ofPairs, List.foldl_append]
  rfl

/-- Each key stands once in collected values, where it first came, with all its values. -/
theorem entries_ofPairs (pairs : List (String × String)) :
    (ofPairs pairs).entries =
      (pairs.map Prod.fst).eraseDups.map fun key => (key, valuesOf key pairs) := by
  induction pairs using List.reverseRecOn with
  | nil => rfl
  | append_singleton pairs pair ih =>
      rcases pair with ⟨key, value⟩
      have distinct : (pairs.map Prod.fst).eraseDups.Nodup := by
        have entries_distinct := (ofPairs pairs).distinct
        rw [ih, List.map_map] at entries_distinct
        simpa [Function.comp_def] using entries_distinct
      have step : (ofPairs (pairs ++ [(key, value)])).entries =
          OrderedMap.alterEntries key (withValue value) (ofPairs pairs).entries := by
        rw [ofPairs_concat]
        rfl
      rw [step, ih, OrderedMap.alterEntries_map distinct, List.map_append, List.map_singleton,
        eraseDups_concat]
      simp only [List.mem_eraseDups, withValue, Option.getD_some, Option.getD_none,
        List.nil_append, valuesOf_concat]
      by_cases present : key ∈ pairs.map Prod.fst
      · simp only [present, if_true]
      · have earlier : ∀ other ∈ (pairs.map Prod.fst).eraseDups, ¬other = key := by
          intro other other_mem equal
          rw [List.mem_eraseDups] at other_mem
          exact present (equal ▸ other_mem)
        simp only [present, if_false, List.map_append, List.map_singleton, if_true,
          valuesOf_eq_nil present, List.nil_append]
        congr 1
        apply List.map_congr_left
        intro other other_mem
        rw [if_neg (earlier other other_mem)]

theorem keys_ofPairs (pairs : List (String × String)) :
    (ofPairs pairs).keys = (pairs.map Prod.fst).eraseDups := by
  rw [OrderedMap.keys, entries_ofPairs, List.map_map]
  exact List.map_id _

theorem mem_keys_ofPairs {pairs : List (String × String)} {key : String} :
    key ∈ (ofPairs pairs).keys ↔ key ∈ pairs.map Prod.fst := by
  rw [keys_ofPairs, List.mem_eraseDups]

theorem get?_ofPairs (pairs : List (String × String)) (key : String) :
    (ofPairs pairs).get? key =
      if key ∈ pairs.map Prod.fst then some (valuesOf key pairs) else none := by
  split_ifs with present
  · rw [OrderedMap.get?_eq_some_iff, entries_ofPairs]
    exact List.mem_map_of_mem (List.mem_eraseDups.mpr present)
  · rwa [OrderedMap.get?_eq_none_iff, mem_keys_ofPairs]

theorem getD_get?_ofPairs (pairs : List (String × String)) (key : String) :
    ((ofPairs pairs).get? key).getD [] = valuesOf key pairs := by
  rw [get?_ofPairs]
  split_ifs with present
  · rfl
  · exact (valuesOf_eq_nil present).symm

theorem ne_nil_of_mem_entries_ofPairs {pairs : List (String × String)} {key : String}
    {values : List String} (entry_mem : (key, values) ∈ (ofPairs pairs).entries) :
    values ≠ [] := by
  rw [entries_ofPairs] at entry_mem
  rcases List.mem_map.mp entry_mem with ⟨present, present_mem, equal⟩
  rw [List.mem_eraseDups] at present_mem
  rcases Prod.mk.inj equal with ⟨rfl, rfl⟩
  exact valuesOf_ne_nil present_mem

/-- The values of collected pairs, one after another, are the pairs regrouped by key. -/
theorem flatMap_entries_ofPairs (pairs : List (String × String)) :
    ((ofPairs pairs).entries.flatMap fun entry =>
      entry.2.map fun value => (entry.1, value)) = regroup pairs := by
  rw [entries_ofPairs, List.flatMap_map, regroup_eq_flatMap]

end Query.Values

end SchemaLens
