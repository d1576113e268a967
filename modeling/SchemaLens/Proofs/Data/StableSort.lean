/-!
# Stable sorting

What a stable sort does to a list, and that the merge sort of the library does it for every
comparison that is transitive.
-/

namespace SchemaLens

variable {Entry : Type}

/-- The entries of a list put in order, those that compare equal in the order they were given. -/
structure IsStableSort (compare : Entry → Entry → Ordering) (given sorted : List Entry) : Prop where
  perm : sorted.Perm given
  ordered : sorted.Pairwise fun left right => (compare left right).isLE
  stable : ∀ pivot, sorted.filter (fun entry => compare pivot entry == .eq) =
    given.filter fun entry => compare pivot entry == .eq

theorem isLE_total (compare : Entry → Entry → Ordering) [Std.OrientedCmp compare]
    (left right : Entry) :
    ((compare left right).isLE || (compare right left).isLE) = true := by
  have swapped : compare left right = (compare right left).swap := Std.OrientedCmp.eq_swap
  rw [swapped]
  cases compare right left <;> rfl

theorem pairwise_filter_eq {compare : Entry → Entry → Ordering} [Std.TransCmp compare]
    (pivot : Entry) (given : List Entry) :
    (given.filter fun entry => compare pivot entry == .eq).Pairwise
      fun left right => (compare left right).isLE := by
  rw [List.pairwise_filter]
  refine List.pairwise_of_forall ?_
  intro left right left_eq right_eq
  have equal : compare left right = .eq :=
    Std.TransCmp.eq_trans (Std.OrientedCmp.eq_symm (eq_of_beq left_eq)) (eq_of_beq right_eq)
  rw [equal]
  rfl

theorem isStableSort_mergeSort (compare : Entry → Entry → Ordering) [Std.TransCmp compare]
    (given : List Entry) :
    IsStableSort compare given
      (given.mergeSort fun left right => (compare left right).isLE) where
  perm := List.mergeSort_perm given _
  ordered :=
    List.pairwise_mergeSort (fun _ _ _ => Std.TransCmp.isLE_trans) (isLE_total compare) given
  stable := by
    intro pivot
    -- The entries that compare equal are in order already, so the sort keeps them as they stand.
    have kept := List.sublist_mergeSort (fun _ _ _ => Std.TransCmp.isLE_trans)
      (isLE_total compare) (pairwise_filter_eq pivot given) List.filter_sublist
    have kept_filtered := kept.filter fun entry => compare pivot entry == .eq
    simp only [List.filter_filter, Bool.and_self] at kept_filtered
    refine (kept_filtered.eq_of_length ?_).symm
    exact ((List.mergeSort_perm given _).filter _).length_eq.symm

/-- Two orders of the same entries show the same, where entries of one key show the same. -/
theorem map_eq_map_of_ordered {Key View : Type} {compare : Key → Key → Ordering}
    [Std.OrientedCmp compare] [Std.LawfulEqCmp compare] {key : Entry → Key} {view : Entry → View}
    {first second : List Entry} (permuted : first.Perm second)
    (first_ordered : first.Pairwise fun left right => (compare (key left) (key right)).isLE)
    (second_ordered : second.Pairwise fun left right => (compare (key left) (key right)).isLE)
    (alike : ∀ left ∈ first, ∀ right ∈ first, key left = key right → view left = view right) :
    first.map view = second.map view := by
  let keyed := fun entry => (key entry, view entry)
  have first_keyed : (first.map keyed).Pairwise fun left right => (compare left.1 right.1).isLE :=
    List.pairwise_map.mpr first_ordered
  have second_keyed : (second.map keyed).Pairwise fun left right => (compare left.1 right.1).isLE :=
    List.pairwise_map.mpr second_ordered
  -- With its key beside it a view is determined, so the order by key is antisymmetric.
  have keyed_eq : first.map keyed = second.map keyed := by
    refine List.Perm.eq_of_pairwise ?_ first_keyed second_keyed (permuted.map keyed)
    intro one other one_mem other_mem one_le other_le
    rcases List.mem_map.mp one_mem with ⟨left, left_mem, rfl⟩
    rcases List.mem_map.mp other_mem with ⟨right, right_mem, rfl⟩
    have same_key : key left = key right :=
      Std.LawfulEqCmp.eq_of_compare (Std.OrientedCmp.isLE_antisymm one_le other_le)
    have same_view : view left = view right :=
      alike left left_mem right (permuted.mem_iff.mpr right_mem) same_key
    exact Prod.ext same_key same_view
  have views_eq := congrArg (List.map Prod.snd) keyed_eq
  rw [List.map_map, List.map_map] at views_eq
  exact views_eq

end SchemaLens
