/-!
# Ordered maps

A map from text keys that keeps the order in which its keys first came. A key stands once, by
the type; changing the value of a key leaves its place, and a new key goes to the end.
-/

namespace SchemaLens

universe u

/-- Keys with one value each, in the order in which the keys first came. -/
structure OrderedMap (Value : Type u) where
  /-- The keys with their values. -/
  entries : List (String × Value)
  /-- No key stands twice. -/
  distinct : (entries.map Prod.fst).Nodup
deriving DecidableEq

namespace OrderedMap

variable {Value : Type u}

/-- The map without keys. -/
def empty : OrderedMap Value where
  entries := []
  distinct := List.nodup_nil

instance : Inhabited (OrderedMap Value) := ⟨empty⟩

/-- The keys, in the order in which they first came. -/
def keys (map : OrderedMap Value) : List String :=
  map.entries.map Prod.fst

/-- The number of keys. -/
def size (map : OrderedMap Value) : Nat :=
  map.entries.length

/-- Whether there is no key. -/
def isEmpty (map : OrderedMap Value) : Bool :=
  map.entries.isEmpty

/-- The value of a key. -/
def get? (map : OrderedMap Value) (key : String) : Option Value :=
  map.entries.lookup key

/-- Gives a key the value that `change` makes of the present one. -/
def alterEntries (key : String) (change : Option Value → Value) :
    List (String × Value) → List (String × Value)
  | [] => [(key, change none)]
  | (present, value) :: rest =>
    if present = key then (present, change (some value)) :: rest
    else (present, value) :: alterEntries key change rest

theorem map_fst_alterEntries (key : String) (change : Option Value → Value)
    (entries : List (String × Value)) :
    (alterEntries key change entries).map Prod.fst =
      if key ∈ entries.map Prod.fst then entries.map Prod.fst
      else entries.map Prod.fst ++ [key] := by
  induction entries with
  | nil => simp [alterEntries]
  | cons entry rest ih =>
    obtain ⟨present, value⟩ := entry
    by_cases same : present = key
    · simp [alterEntries, same]
    · have differs : ¬key = present := fun equal => same equal.symm
      simp only [alterEntries, same, if_false, List.map_cons, ih, List.mem_cons, differs, false_or]
      by_cases later : key ∈ rest.map Prod.fst <;> simp [later]

/-- Gives a key the value that `change` makes of the present one, at its place or at the end. -/
def alter (map : OrderedMap Value) (key : String) (change : Option Value → Value) :
    OrderedMap Value where
  entries := alterEntries key change map.entries
  distinct := by
    rw [map_fst_alterEntries]
    split
    · exact map.distinct
    · rename_i absent
      refine List.nodup_append.mpr ⟨map.distinct, by simp, ?_⟩
      intro present present_mem added added_mem equal
      simp only [List.mem_singleton] at added_mem
      exact absent (added_mem ▸ equal ▸ present_mem)

/-- Gives a key a value, at its place or at the end. -/
def insert (map : OrderedMap Value) (key : String) (value : Value) : OrderedMap Value :=
  map.alter key fun _ => value

/-- The map of a list of entries; of several entries with one key the last has its value. -/
def ofList (entries : List (String × Value)) : OrderedMap Value :=
  entries.foldl (fun map entry => map.insert entry.1 entry.2) empty

end OrderedMap

end SchemaLens
