import SchemaLens.Data.OrderedMap

/-!
# Entries of ordered maps

A key stands once in an ordered map, so its value is the one of the only entry it has, and a map is
known by its entries.
-/

namespace SchemaLens

universe u

variable {Value : Type u}

namespace OrderedMap

/-- Changing the value of a key among entries that a function of the key gives. -/
theorem alterEntries_map {keys : List String} (distinct : keys.Nodup) (key : String)
    (change : Option Value → Value) (valueOf : String → Value) :
    alterEntries key change (keys.map fun present => (present, valueOf present)) =
      if key ∈ keys then
        keys.map fun present =>
          (present, if present = key then change (some (valueOf present)) else valueOf present)
      else keys.map (fun present => (present, valueOf present)) ++ [(key, change none)] := by
  induction keys with
  | nil => rfl
  | cons first rest ih =>
      rw [List.nodup_cons] at distinct
      by_cases same : first = key
      · subst first
        have others : ∀ present ∈ rest, ¬present = key := by
          intro present present_mem equal
          exact distinct.1 (equal ▸ present_mem)
        simp +contextual [alterEntries, others]
      · have differs : ¬key = first := fun equal => same equal.symm
        simp only [List.map_cons, alterEntries, same, if_false, ih distinct.2, List.mem_cons,
          differs, false_or]
        split <;> simp

theorem eq_of_entries_eq {map other : OrderedMap Value} (same : map.entries = other.entries) :
    map = other := by
  cases map
  cases other
  rwa [mk.injEq]

theorem get?_eq_none_iff {map : OrderedMap Value} {key : String} :
    map.get? key = none ↔ key ∉ map.keys := by
  rw [get?, List.lookup_eq_none_iff, keys, List.mem_map, not_exists]
  simp only [bne_iff_ne, not_and, ne_comm]

theorem get?_eq_some_iff {map : OrderedMap Value} {key : String} {value : Value} :
    map.get? key = some value ↔ (key, value) ∈ map.entries := by
  rw [get?, List.lookup_eq_some_iff]
  constructor
  · rintro ⟨before, after, split, -⟩
    rw [split]
    exact List.mem_append_right before List.mem_cons_self
  · intro entry_mem
    rcases List.append_of_mem entry_mem with ⟨before, after, split⟩
    refine ⟨before, after, split, ?_⟩
    have distinct := map.distinct
    rw [split, List.map_append, List.map_cons, List.nodup_append] at distinct
    intro earlier earlier_mem
    rw [bne_iff_ne, ne_comm]
    exact distinct.2.2 earlier.1 (List.mem_map_of_mem earlier_mem) key List.mem_cons_self

end OrderedMap

end SchemaLens
