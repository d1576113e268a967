import Mathlib.Data.List.Basic
import SchemaLens.Data.OrderedMap

/-!
# Pairs regrouped by key

A list of pairs of a key and a value is regrouped when the pairs of each key are brought together
at the place where the key first comes. Regrouping moves pairs past pairs of other keys only: it is
a permutation, it commutes with the choice of keys, and it changes nothing if no key comes back
after another one.

The map that results from adding the pairs one by one holds the same regrouping, one entry a key.
-/

namespace SchemaLens

universe u

variable {Value : Type u}

/-- The pairs key by key: keys in the order in which they first come, the pairs of a key in
theirs. -/
def regroup (pairs : List (String × Value)) : List (String × Value) :=
  (pairs.map Prod.fst).eraseDups.flatMap fun key => pairs.filter (·.1 == key)

/-- The values that stand beside a key, in their order. -/
def valuesOf (key : String) (pairs : List (String × Value)) : List Value :=
  (pairs.filter (·.1 == key)).map Prod.snd

/-- No key comes back after another one. -/
def Uninterleaved (keys : List String) : Prop :=
  ∀ first second, [first, second, first].Sublist keys → second = first

instance (keys : List String) : Decidable (Uninterleaved keys) :=
  decidable_of_iff
    (∀ first ∈ keys, ∀ second ∈ keys, [first, second, first].Sublist keys → second = first) (by
      constructor
      · intro bounded first second recurs
        have members := recurs.subset
        exact bounded first (members (by simp)) second (members (by simp)) recurs
      · intro uninterleaved first _ second _ recurs
        exact uninterleaved first second recurs)

theorem Uninterleaved.of_sublist {keys fewer : List String} (uninterleaved : Uninterleaved keys)
    (sublist : fewer.Sublist keys) : Uninterleaved fewer := by
  intro first second recurs
  exact uninterleaved first second (recurs.trans sublist)

theorem Uninterleaved.of_nodup {keys : List String} (nodup : keys.Nodup) : Uninterleaved keys := by
  intro first second recurs
  have distinct := nodup.sublist recurs
  simp at distinct

theorem Uninterleaved.of_forall_eq {keys : List String} {key : String}
    (same : ∀ other ∈ keys, other = key) : Uninterleaved keys := by
  intro first second recurs
  have first_eq := same first (recurs.subset List.mem_cons_self)
  have second_eq := same second (recurs.subset (List.mem_cons_of_mem _ List.mem_cons_self))
  exact second_eq.trans first_eq.symm

/-- Keys that have no member in common can follow one another. -/
theorem Uninterleaved.append {keys later : List String} (keys_uninterleaved : Uninterleaved keys)
    (later_uninterleaved : Uninterleaved later) (apart : keys.Disjoint later) :
    Uninterleaved (keys ++ later) := by
  intro first second recurs
  rcases List.sublist_append_iff.mp recurs with ⟨front, back, split, front_sublist, back_sublist⟩
  by_cases front_empty : front = []
  · rw [front_empty, List.nil_append] at split
    exact later_uninterleaved first second (split ▸ back_sublist)
  by_cases back_empty : back = []
  · rw [back_empty, List.append_nil] at split
    exact keys_uninterleaved first second (split ▸ front_sublist)
  have first_mem : first ∈ front := by
    have heads := congrArg List.head? split
    rw [List.head?_append_of_ne_nil _ front_empty] at heads
    exact List.mem_of_mem_head? heads.symm
  have last_mem : first ∈ back := by
    have lasts := congrArg List.getLast? split
    rw [List.getLast?_append_of_ne_nil _ back_empty] at lasts
    exact List.mem_of_getLast? lasts.symm
  exact absurd (back_sublist.subset last_mem) (apart (front_sublist.subset first_mem))

/-- Keys are not interleaved if what they are the keys of is not. -/
theorem uninterleaved_map {Source : Type} {Target : Type} {items : List Source}
    {key : Source → String} {target : Source → Target}
    (same_iff : ∀ item ∈ items, ∀ other ∈ items, key item = key other ↔ target item = target other)
    (grouped : ∀ first second, [first, second, first].Sublist (items.map target) → second = first) :
    Uninterleaved (items.map key) := by
  intro first second recurs
  rcases List.sublist_map_iff.mp recurs with ⟨chosen, chosen_sublist, chosen_keys⟩
  rcases chosen with _ | ⟨item, _ | ⟨other, _ | ⟨last, _ | ⟨more, rest⟩⟩⟩⟩ <;>
    simp only [List.map_cons, List.map_nil, List.cons.injEq, reduceCtorEq, and_false,
      and_true] at chosen_keys
  rcases chosen_keys with ⟨rfl, rfl, same⟩
  have members := chosen_sublist.subset
  rw [same_iff item (members (by simp)) last (members (by simp))] at same
  rw [same_iff other (members (by simp)) item (members (by simp))]
  have targets_recur := chosen_sublist.map target
  simp only [List.map_cons, List.map_nil, ← same] at targets_recur
  exact grouped (target item) (target other) targets_recur

@[simp]
theorem regroup_nil : regroup ([] : List (String × Value)) = [] := rfl

theorem regroup_cons (key : String) (value : Value) (rest : List (String × Value)) :
    regroup ((key, value) :: rest) =
      (key, value) :: rest.filter (·.1 == key) ++ regroup (rest.filter (·.1 != key)) := by
  have others_keys : (rest.map Prod.fst).filter (fun other => !other == key) =
      (rest.filter (·.1 != key)).map Prod.fst := by
    rw [List.filter_map]
    rfl
  simp only [regroup, List.map_cons, List.eraseDups_cons, List.flatMap_cons, others_keys,
    List.filter_cons, beq_self_eq_true, if_true]
  congr 1
  apply List.flatMap_congr
  intro other other_mem
  have differs : ¬other = key := by
    rw [List.mem_eraseDups] at other_mem
    rcases List.mem_map.mp other_mem with ⟨pair, pair_mem, rfl⟩
    simpa using (List.mem_filter.mp pair_mem).2
  have key_differs : (key == other) = false := by
    simpa using fun equal : key = other => differs equal.symm
  rw [key_differs, List.filter_filter]
  simp only [Bool.false_eq_true, if_false]
  apply List.filter_congr
  intro pair _
  by_cases same : pair.1 = other
  · simp [same, differs]
  · simp [same]

/-- A property of the empty list that passes from the pairs of other keys to a list holds of every
list. -/
theorem regroup_induction {motive : List (String × Value) → Prop} (nil : motive [])
    (cons : ∀ key value rest, motive (rest.filter (·.1 != key)) → motive ((key, value) :: rest)) :
    ∀ pairs, motive pairs
  | [] => nil
  | (key, value) :: rest =>
      cons key value rest (regroup_induction nil cons (rest.filter (·.1 != key)))
termination_by pairs => pairs.length
decreasing_by
  have shorter := List.length_filter_le (fun pair => pair.1 != key) rest
  simp only [List.length_cons]
  omega

/-- Regrouping neither loses nor doubles a pair. -/
theorem regroup_perm (pairs : List (String × Value)) : (regroup pairs).Perm pairs := by
  induction pairs using regroup_induction with
  | nil => exact List.Perm.refl []
  | cons key value rest ih =>
      rw [regroup_cons]
      have regrouped : (rest.filter (·.1 == key) ++ regroup (rest.filter (·.1 != key))).Perm
          (rest.filter (·.1 == key) ++ rest.filter (·.1 != key)) := ih.append_left _
      exact (regrouped.trans (List.filter_append_perm _ rest)).cons _

/-- Keys can be chosen before the pairs are regrouped or after. -/
theorem filter_regroup (keep : String → Bool) (pairs : List (String × Value)) :
    (regroup pairs).filter (fun pair => keep pair.1) =
      regroup (pairs.filter fun pair => keep pair.1) := by
  induction pairs using regroup_induction with
  | nil => rfl
  | cons key value rest ih =>
      rw [regroup_cons, List.filter_append, ih, List.filter_filter]
      by_cases kept : keep key = true
      · have front : (rest.filter (·.1 == key)).filter (fun pair => keep pair.1) =
            (rest.filter fun pair => keep pair.1).filter (·.1 == key) := by
          rw [List.filter_filter, List.filter_filter]
          simp only [Bool.and_comm]
        simp only [List.filter_cons, kept, if_true, front, regroup_cons, List.filter_filter,
          Bool.and_comm]
      · have front : ((key, value) :: rest.filter (·.1 == key)).filter
            (fun pair => keep pair.1) = [] := by
          rw [List.filter_eq_nil_iff]
          intro pair pair_mem
          have same : pair.1 = key := by
            rcases List.mem_cons.mp pair_mem with rfl | later
            · rfl
            · simpa using (List.mem_filter.mp later).2
          rwa [same]
        have others : rest.filter (fun pair => keep pair.1 && pair.1 != key) =
            rest.filter fun pair => keep pair.1 := by
          apply List.filter_congr
          intro pair _
          by_cases same : pair.1 = key
          · simp [same, kept]
          · simp [same]
        rw [front, List.nil_append, others, List.filter_cons]
        simp [kept]

theorem filter_append_filter_of_uninterleaved {key : String} {rest : List (String × Value)}
    (uninterleaved : Uninterleaved (key :: rest.map Prod.fst)) :
    rest.filter (·.1 == key) ++ rest.filter (·.1 != key) = rest := by
  induction rest with
  | nil => rfl
  | cons pair rest ih =>
      by_cases same : pair.1 = key
      · have shorter : Uninterleaved (key :: rest.map Prod.fst) := by
          apply uninterleaved.of_sublist
          simp
        simp [same, ih shorter]
      · have ended : ∀ later ∈ pair :: rest, ¬later.1 = key := by
          intro later later_mem equal
          rcases List.mem_cons.mp later_mem with rfl | later_mem
          · exact same equal
          · apply same
            apply uninterleaved key pair.1
            have recurs : key ∈ rest.map Prod.fst :=
              List.mem_map.mpr ⟨later, later_mem, equal⟩
            simpa using recurs
        rw [List.filter_eq_nil_iff.mpr (by simpa using ended),
          List.filter_eq_self.mpr (by simpa using ended), List.nil_append]

/-- Pairs whose keys are not interleaved are regrouped already. -/
theorem regroup_eq_self {pairs : List (String × Value)}
    (uninterleaved : Uninterleaved (pairs.map Prod.fst)) : regroup pairs = pairs := by
  induction pairs using regroup_induction with
  | nil => rfl
  | cons key value rest ih =>
      have fewer : ((rest.filter (·.1 != key)).map Prod.fst).Sublist
          (((key, value) :: rest).map Prod.fst) :=
        (List.filter_sublist.map Prod.fst).trans (List.sublist_cons_self _ _)
      rw [regroup_cons, ih (uninterleaved.of_sublist fewer), List.cons_append,
        filter_append_filter_of_uninterleaved uninterleaved]

/-- Keys that are not interleaved among the chosen ones keep the order of their pairs. -/
theorem filter_regroup_eq_self {keep : String → Bool} {pairs : List (String × Value)}
    (uninterleaved : Uninterleaved ((pairs.map Prod.fst).filter keep)) :
    (regroup pairs).filter (fun pair => keep pair.1) =
      pairs.filter fun pair => keep pair.1 := by
  rw [List.filter_map] at uninterleaved
  rw [filter_regroup]
  exact regroup_eq_self uninterleaved

end SchemaLens
