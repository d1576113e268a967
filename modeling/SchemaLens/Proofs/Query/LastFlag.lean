import Mathlib.Data.List.Nodup
import SchemaLens.Proofs.Query.Rendering

/-!
# The last flag of a field

Projections that are merged one after another flag fields in turn: first those that a projection
includes, then those that it excludes. Each flag puts its field on one side and takes it from the
other, so the last one tells where the field is left. On a side the fields stand in the order in
which they came to stay there, those first that have been there from the start.
-/

namespace SchemaLens.Query

namespace Projection

/-- The included fields or the excluded ones. -/
def side (projection : Projection) : Bool → List String
  | true => projection.included
  | false => projection.excluded

/-- Merges projections into one in turn. -/
def mergeAll (projection : Projection) (later : List Projection) : Projection :=
  later.foldl merge projection

/-- Whether a flag is the last one of a field. -/
def LastFlag (flags : List (String × Bool)) (fieldName : String) (flag : Bool) : Prop :=
  ∃ before after, flags = before ++ (fieldName, flag) :: after ∧
    ∀ later ∈ after, later.1 ≠ fieldName

/-- Whether a field comes to stay on a side at a position: it is flagged for this side there, never
for the other side after it, and if it was flagged for this side before, then for the other side in
between. -/
def EntersAt (flags : List (String × Bool)) (flag : Bool) (fieldName : String) (position : Nat) :
    Prop :=
  ∃ before after, flags = before ++ (fieldName, flag) :: after ∧ before.length = position ∧
    (fieldName, !flag) ∉ after ∧
    ∀ earlier between, before = earlier ++ (fieldName, flag) :: between →
      (fieldName, !flag) ∈ between

/-- Whether a side has the fields that have stayed there from the start, as they stood, and then
those that came to stay, in the order of the positions where they did. -/
def IsOrderedByEntry (flags : List (String × Bool)) (flag : Bool) (start final : List String) :
    Prop :=
  ∃ entries : List (Nat × String),
    final = start.filter (fun fieldName => (fieldName, !flag) ∉ flags) ++ entries.map Prod.snd ∧
      (entries.map Prod.fst).Pairwise (· < ·) ∧
      ∀ entry ∈ entries, EntersAt flags flag entry.2 entry.1 ∧
        (entry.2 ∈ start → (entry.2, !flag) ∈ flags)

variable {projection : Projection} {fieldName : String} {flag : Bool}

/-! ## One flag -/

theorem nodup_addName {names : List String} (distinct : names.Nodup) (name : String) :
    (addName names name).Nodup := by
  unfold addName
  split
  · exact distinct
  · rename_i absent
    apply List.nodup_append.mpr
    refine ⟨distinct, List.nodup_singleton name, ?_⟩
    rintro other other_mem added added_mem rfl
    exact absent (List.mem_singleton.mp added_mem ▸ other_mem)

theorem side_flagField_self :
    (projection.flagField (fieldName, flag)).side flag =
      addName (projection.side flag) fieldName := by
  cases flag <;> rfl

theorem side_flagField_other :
    (projection.flagField (fieldName, !flag)).side flag =
      (projection.side flag).filter (· ≠ fieldName) := by
  cases flag <;> rfl

theorem mem_side_flagField {flagged : String × Bool} :
    fieldName ∈ (projection.flagField flagged).side flag ↔
      flagged = (fieldName, flag) ∨
        fieldName ∈ projection.side flag ∧ flagged ≠ (fieldName, !flag) := by
  rcases flagged with ⟨other, otherFlag⟩
  rcases Bool.eq_or_eq_not otherFlag flag with rfl | rfl
  · rw [side_flagField_self, mem_addName]
    simp [or_comm, eq_comm]
  · rw [side_flagField_other, List.mem_filter]
    simp [@eq_comm _ fieldName other]

/-! ## Flags in turn -/

variable {flags : List (String × Bool)}

/-- Flags that put a field on a side and never on the other one leave it there. Without such a flag
it stays where it was unless it is taken away. -/
theorem mem_side_foldl_iff (one_way : (fieldName, flag) ∈ flags → (fieldName, !flag) ∉ flags) :
    fieldName ∈ (flags.foldl flagField projection).side flag ↔
      (fieldName, flag) ∈ flags ∨
        fieldName ∈ projection.side flag ∧ (fieldName, !flag) ∉ flags := by
  induction flags generalizing projection with
  | nil => simp
  | cons flagged rest ih =>
      have rest_one_way : (fieldName, flag) ∈ rest → (fieldName, !flag) ∉ rest := by
        intro later taken
        exact one_way (List.mem_cons_of_mem _ later) (List.mem_cons_of_mem _ taken)
      have first_one_way : flagged = (fieldName, flag) → (fieldName, !flag) ∉ rest := by
        rintro rfl taken
        exact one_way List.mem_cons_self (List.mem_cons_of_mem _ taken)
      rw [List.foldl_cons, ih rest_one_way, mem_side_flagField]
      simp only [List.mem_cons, @eq_comm _ _ flagged]
      grind

theorem mem_side_foldl (not_taken : (fieldName, !flag) ∉ flags)
    (present : fieldName ∈ projection.side flag) :
    fieldName ∈ (flags.foldl flagField projection).side flag :=
  (mem_side_foldl_iff fun _ => not_taken).mpr (.inr ⟨present, not_taken⟩)

theorem not_mem_side_foldl (not_flagged : (fieldName, flag) ∉ flags)
    (absent : fieldName ∉ projection.side flag) :
    fieldName ∉ (flags.foldl flagField projection).side flag := by
  rw [mem_side_foldl_iff fun flagged => absurd flagged not_flagged]
  rintro (flagged | ⟨present, -⟩)
  · exact not_flagged flagged
  · exact absent present

/-- The last flag of a field leaves it on its own side only, whatever side it was on before. -/
theorem mem_side_foldl_of_lastFlag (last : LastFlag flags fieldName flag) :
    fieldName ∈ (flags.foldl flagField projection).side flag ∧
      fieldName ∉ (flags.foldl flagField projection).side !flag := by
  rcases last with ⟨before, after, rfl, not_later⟩
  have not_flagged (other : Bool) : (fieldName, other) ∉ after := fun mem =>
    not_later _ mem rfl
  rw [List.foldl_append, List.foldl_cons]
  constructor
  · exact mem_side_foldl (not_flagged _) (mem_side_flagField.mpr (.inl rfl))
  · apply not_mem_side_foldl (not_flagged _)
    rw [mem_side_flagField]
    simp

theorem mem_side_foldl_of_not_flagged (not_flagged : ∀ other, (fieldName, other) ∉ flags) :
    fieldName ∈ (flags.foldl flagField projection).side flag ↔
      fieldName ∈ projection.side flag := by
  rw [mem_side_foldl_iff fun _ => not_flagged _]
  simp [not_flagged]

theorem nodup_side_foldl (distinct : (projection.side flag).Nodup) :
    ((flags.foldl flagField projection).side flag).Nodup := by
  induction flags generalizing projection with
  | nil => exact distinct
  | cons flagged rest ih =>
      apply ih
      rcases flagged with ⟨other, otherFlag⟩
      rcases Bool.eq_or_eq_not otherFlag flag with rfl | rfl
      · rw [side_flagField_self]
        exact nodup_addName distinct other
      · rw [side_flagField_other]
        exact distinct.filter _

/-! ## Order -/

theorem EntersAt.concat {position : Nat} (enters : EntersAt flags flag fieldName position)
    {flagged : String × Bool} (not_taken : flagged ≠ (fieldName, !flag)) :
    EntersAt (flags ++ [flagged]) flag fieldName position := by
  rcases enters with ⟨before, after, rfl, length_eq, not_later, first⟩
  refine ⟨before, after ++ [flagged], by simp, length_eq, ?_, first⟩
  rw [List.mem_append, List.mem_singleton]
  exact not_or.mpr ⟨not_later, fun same => not_taken same.symm⟩

theorem EntersAt.position_lt {position : Nat} (enters : EntersAt flags flag fieldName position) :
    position < flags.length := by
  rcases enters with ⟨before, after, rfl, rfl, -, -⟩
  simp

/-- A field that is flagged for a side where it is not comes to stay there for now. -/
theorem entersAt_length (absent : fieldName ∉ (flags.foldl flagField projection).side flag) :
    EntersAt (flags ++ [(fieldName, flag)]) flag fieldName flags.length := by
  refine ⟨flags, [], rfl, rfl, List.not_mem_nil, ?_⟩
  rintro earlier between rfl
  by_contra not_taken
  rw [List.foldl_append, List.foldl_cons] at absent
  exact absent (mem_side_foldl not_taken (mem_side_flagField.mpr (.inl rfl)))

theorem IsOrderedByEntry.concat_self {start final : List String}
    (ordered : IsOrderedByEntry flags flag start final)
    (enters : fieldName ∉ final →
      EntersAt (flags ++ [(fieldName, flag)]) flag fieldName flags.length) :
    IsOrderedByEntry (flags ++ [(fieldName, flag)]) flag start (addName final fieldName) := by
  rcases ordered with ⟨entries, rfl, ascending, entered⟩
  have taken_iff (other : String) :
      (other, !flag) ∈ flags ++ [(fieldName, flag)] ↔ (other, !flag) ∈ flags := by
    simp
  have still_entered : ∀ entry ∈ entries,
      EntersAt (flags ++ [(fieldName, flag)]) flag entry.2 entry.1 ∧
        (entry.2 ∈ start → (entry.2, !flag) ∈ flags ++ [(fieldName, flag)]) := by
    intro entry mem
    rw [taken_iff]
    exact ⟨(entered entry mem).1.concat (by simp), (entered entry mem).2⟩
  by_cases present : fieldName ∈
      start.filter (fun fieldName => (fieldName, !flag) ∉ flags) ++ entries.map Prod.snd
  · rw [addName, if_pos present]
    exact ⟨entries, by simp only [taken_iff], ascending, still_entered⟩
  · rw [addName_of_not_mem present]
    refine ⟨entries ++ [(flags.length, fieldName)], by simp [taken_iff], ?_, ?_⟩
    · rw [List.map_append, List.pairwise_append]
      refine ⟨ascending, List.pairwise_singleton _ _, ?_⟩
      intro position position_mem last last_mem
      rcases List.mem_map.mp position_mem with ⟨entry, mem, rfl⟩
      rw [List.mem_singleton.mp last_mem]
      exact (entered entry mem).1.position_lt
    · rw [List.forall_mem_append, List.forall_mem_singleton]
      refine ⟨still_entered, enters present, ?_⟩
      intro started
      rw [taken_iff]
      by_contra not_taken
      exact present (List.mem_append_left _ (List.mem_filter.mpr
        ⟨started, decide_eq_true not_taken⟩))

theorem IsOrderedByEntry.concat_other {start final : List String}
    (ordered : IsOrderedByEntry flags flag start final) (fieldName : String) :
    IsOrderedByEntry (flags ++ [(fieldName, !flag)]) flag start
      (final.filter (· ≠ fieldName)) := by
  rcases ordered with ⟨entries, rfl, ascending, entered⟩
  refine ⟨entries.filter (·.2 ≠ fieldName), ?_, ?_, ?_⟩
  · rw [List.filter_append, List.filter_filter, List.filter_map]
    congr 1
    apply List.filter_congr
    intro other _
    simp [not_or, and_comm]
  · exact ascending.sublist (List.filter_sublist.map Prod.fst)
  · intro entry mem
    rcases List.mem_filter.mp mem with ⟨was_mem, differs⟩
    rw [decide_eq_true_eq] at differs
    refine ⟨(entered entry was_mem).1.concat ?_, ?_⟩
    · simpa [eq_comm] using differs
    · exact fun started => List.mem_append_left _ ((entered entry was_mem).2 started)

theorem isOrderedByEntry_foldl (projection : Projection) (flags : List (String × Bool))
    (flag : Bool) :
    IsOrderedByEntry flags flag (projection.side flag)
      ((flags.foldl flagField projection).side flag) := by
  induction flags using List.reverseRecOn with
  | nil => exact ⟨[], by simp, .nil, List.forall_mem_nil _⟩
  | append_singleton flags flagged ih =>
      rcases flagged with ⟨fieldName, otherFlag⟩
      rw [List.foldl_append, List.foldl_cons, List.foldl_nil]
      rcases Bool.eq_or_eq_not otherFlag flag with rfl | rfl
      · rw [side_flagField_self]
        exact ih.concat_self entersAt_length
      · rw [side_flagField_other]
        exact ih.concat_other fieldName

/-! ## Projections in turn -/

/-- The flags of projections one after another. -/
def flagsOf (projections : List Projection) : List (String × Bool) :=
  projections.flatMap Projection.flags

theorem mergeAll_eq_foldl (projection : Projection) (later : List Projection) :
    projection.mergeAll later = (flagsOf later).foldl flagField projection := by
  rw [mergeAll, flagsOf, List.foldl_flatMap]
  congr 1
  funext present next
  exact merge_eq_foldl present next

theorem IsApart.mergeAll (apart : projection.IsApart) (later : List Projection) :
    (projection.mergeAll later).IsApart := by
  unfold Projection.mergeAll
  induction later generalizing projection with
  | nil => exact apart
  | cons next rest ih => exact ih (apart.merge next)

theorem nodup_side_mergeAll (flag : Bool) (distinct : (projection.side flag).Nodup)
    (later : List Projection) : ((projection.mergeAll later).side flag).Nodup := by
  rw [mergeAll_eq_foldl]
  exact nodup_side_foldl distinct

theorem not_mem_flagsOf {projections : List Projection}
    (not_mentioned : ∀ projection ∈ projections, ¬projection.Mentions fieldName) (flag : Bool) :
    (fieldName, flag) ∉ flagsOf projections := by
  intro mem
  rcases List.mem_flatMap.mp mem with ⟨projection, projection_mem, flagged⟩
  exact not_mentioned projection projection_mem (mentions_iff.mpr (List.mem_map_of_mem flagged))

/--
However many projections are merged into one, a field that they mention is left on the side of its
last flag and on no other, and a field that they do not mention is left as it was. If no field was
listed twice or on both sides before, none is after it. Each side is in the order in which its
fields came to stay, those from the start first.
-/
theorem mergeAll_last_flag_wins (projection : Projection) (later : List Projection) :
    (∀ fieldName flag, LastFlag (flagsOf later) fieldName flag →
      fieldName ∈ (projection.mergeAll later).side flag ∧
        fieldName ∉ (projection.mergeAll later).side !flag) ∧
    (∀ fieldName, (∀ merged ∈ later, ¬merged.Mentions fieldName) →
      ∀ flag, fieldName ∈ (projection.mergeAll later).side flag ↔
        fieldName ∈ projection.side flag) ∧
    (projection.included.Nodup → projection.excluded.Nodup → projection.IsApart →
      (projection.mergeAll later).included.Nodup ∧ (projection.mergeAll later).excluded.Nodup ∧
        (projection.mergeAll later).IsApart) ∧
    ∀ flag, IsOrderedByEntry (flagsOf later) flag (projection.side flag)
      ((projection.mergeAll later).side flag) := by
  refine ⟨?_, ?_, ?_, ?_⟩
  · intro fieldName flag last
    rw [mergeAll_eq_foldl]
    exact mem_side_foldl_of_lastFlag last
  · intro fieldName not_mentioned flag
    rw [mergeAll_eq_foldl]
    exact mem_side_foldl_of_not_flagged (not_mem_flagsOf not_mentioned)
  · intro included_distinct excluded_distinct apart
    exact ⟨nodup_side_mergeAll true included_distinct later,
      nodup_side_mergeAll false excluded_distinct later, apart.mergeAll later⟩
  · intro flag
    rw [mergeAll_eq_foldl]
    exact isOrderedByEntry_foldl projection (flagsOf later) flag

/-- Three projections move `mail` and `name` back and forth before both are left included. -/
theorem mergeAll_last_flag_wins_mail :
    let start : Projection := ⟨["name", "id"], ["mail"]⟩
    let later : List Projection :=
      [⟨["mail", "age"], ["name"]⟩, ⟨["id", "name"], ["mail", "age"]⟩, ⟨["mail"], []⟩]
    start.mergeAll later = ⟨["id", "name", "mail"], ["age"]⟩ ∧
      LastFlag (flagsOf later) "mail" true ∧
      ("mail" ∈ (start.mergeAll later).side true ∧
        "mail" ∉ (start.mergeAll later).side false) ∧
      (¬∃ merged ∈ later, merged.Mentions "role") ∧
      ("role" ∈ (start.mergeAll later).side true ↔ "role" ∈ start.side true) ∧
      ((start.mergeAll later).included.Nodup ∧ (start.mergeAll later).excluded.Nodup ∧
        (start.mergeAll later).IsApart) ∧
      IsOrderedByEntry (flagsOf later) true ["name", "id"] ["id", "name", "mail"] := by
  intro start later
  have merged : start.mergeAll later = ⟨["id", "name", "mail"], ["age"]⟩ := by decide
  have last : LastFlag (flagsOf later) "mail" true := by
    refine ⟨(flagsOf later).dropLast, [], by decide, ?_⟩
    simp
  have unmentioned : ¬∃ merged ∈ later, merged.Mentions "role" := by
    unfold Mentions
    decide
  rcases mergeAll_last_flag_wins start later with ⟨wins, keeps, stays, ordered⟩
  refine ⟨merged, last, wins _ _ last, unmentioned, ?_, ?_, ?_⟩
  · exact keeps "role" (fun part mem mentions => unmentioned ⟨part, mem, mentions⟩) true
  · exact stays (by decide) (by decide) (by decide)
  · have included_ordered := ordered true
    rwa [merged] at included_ordered

end Projection

end SchemaLens.Query
