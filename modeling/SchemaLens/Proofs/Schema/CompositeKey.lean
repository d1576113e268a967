import SchemaLens.Proofs.Schema.RowOrder

/-!
# Constraints over several columns

The rows of one constraint make one key. Its column pairs stand in the order in which rows are put,
and there the name of the column referred to comes before its position. So the pairs ascend by that
name; they stand in the order of the constraint exactly if the names ascend with the positions.
-/

namespace SchemaLens.Schema.ForeignKey

/-- Rows of one constraint, each for a column at a position of its own. -/
structure IsComposite (rows : List ForeignKeyRow) : Prop where
  nonempty : rows ≠ []
  fkConstraintName_eq : ∀ row ∈ rows, ∀ other ∈ rows, row.fkConstraintName = other.fkConstraintName
  uqConstraintName_eq : ∀ row ∈ rows, ∀ other ∈ rows, row.uqConstraintName = other.uqConstraintName
  referenced_eq : ∀ row ∈ rows, ∀ other ∈ rows, row.referenced = other.referenced
  position_eq : ∀ row ∈ rows, row.fkOrdinalPosition = row.uqOrdinalPosition
  positions_distinct : (rows.map (·.fkOrdinalPosition)).Nodup

/-- Rows in the order of the constraint. -/
def byPosition (rows : List ForeignKeyRow) : List ForeignKeyRow :=
  rows.mergeSort fun left right => left.fkOrdinalPosition ≤ right.fkOrdinalPosition

theorem byPosition_perm (rows : List ForeignKeyRow) : (byPosition rows).Perm rows :=
  List.mergeSort_perm rows _

theorem ordered_byPosition (rows : List ForeignKeyRow) :
    (byPosition rows).Pairwise fun left right =>
      left.fkOrdinalPosition ≤ right.fkOrdinalPosition := by
  have ordered : (byPosition rows).Pairwise fun left right =>
      decide (left.fkOrdinalPosition ≤ right.fkOrdinalPosition) = true := by
    refine List.pairwise_mergeSort ?_ ?_ rows
    · intro first second third first_le second_le
      rw [decide_eq_true_eq] at first_le second_le ⊢
      exact Int32.le_trans first_le second_le
    · intro first second
      rw [Bool.or_eq_true, decide_eq_true_eq, decide_eq_true_eq]
      exact Int32.le_total _ _
  exact ordered.imp of_decide_eq_true

variable {rows : List ForeignKeyRow}

namespace IsComposite

variable {row other : ForeignKeyRow}

/-- Within a constraint the column referred to decides, and then the position. -/
theorem isLE_order_iff (composite : IsComposite rows) (row_mem : row ∈ rows)
    (other_mem : other ∈ rows) :
    (row.order.compare other.order).isLE ↔
      row.uqColumnName < other.uqColumnName ∨ row.uqColumnName = other.uqColumnName ∧
        row.fkOrdinalPosition ≤ other.fkOrdinalPosition := by
  have referenced_eq := composite.referenced_eq row row_mem other other_mem
  have constraint_eq := composite.uqConstraintName_eq row row_mem other other_mem
  simp only [ForeignKeyOrder.compare, ForeignKeyRow.order, referenced_eq, constraint_eq,
    Std.ReflCmp.compare_self, Ordering.eq_then, Ordering.isLE_then_iff_or, Text.compare_eq_lt_iff,
    Text.utf8Bytes_lt_utf8Bytes_iff, Std.compare_eq_iff_eq, Std.isLE_compare,
    ← Int32.le_iff_toInt_le, composite.position_eq row row_mem,
    composite.position_eq other other_mem]

theorem eq_of_fkOrdinalPosition_eq (composite : IsComposite rows) (row_mem : row ∈ rows)
    (other_mem : other ∈ rows) (same : row.fkOrdinalPosition = other.fkOrdinalPosition) :
    row = other :=
  List.inj_on_of_nodup_map composite.positions_distinct row_mem other_mem same

theorem eq_of_order_eq (composite : IsComposite rows) (row_mem : row ∈ rows)
    (other_mem : other ∈ rows) (same : row.order = other.order) : row = other := by
  refine composite.eq_of_fkOrdinalPosition_eq row_mem other_mem ?_
  rw [composite.position_eq row row_mem, composite.position_eq other other_mem]
  exact congrArg ForeignKeyOrder.ordinalPosition same

theorem tiesAgree (composite : IsComposite rows) : TiesAgree rows :=
  tiesAgree_of_order_injective fun _ row_mem _ other_mem same =>
    composite.eq_of_order_eq row_mem other_mem same

theorem ascending_inOrder (composite : IsComposite rows) :
    (inOrder rows).Pairwise fun left right =>
      left.uqColumnName < right.uqColumnName ∨ left.uqColumnName = right.uqColumnName ∧
        left.fkOrdinalPosition < right.fkOrdinalPosition := by
  have sorted := isStableSort_inOrder rows
  have distinct : (inOrder rows).Pairwise fun left right =>
      left.fkOrdinalPosition ≠ right.fkOrdinalPosition :=
    List.pairwise_map.mp ((sorted.perm.map _).nodup_iff.mpr composite.positions_distinct)
  -- no position comes twice, so rows with one column referred to ascend strictly
  refine (sorted.ordered.and distinct).imp_of_mem ?_
  rintro left right left_mem right_mem ⟨le, ne⟩
  rcases (composite.isLE_order_iff (sorted.perm.mem_iff.mp left_mem)
    (sorted.perm.mem_iff.mp right_mem)).mp le with name_lt | ⟨name_eq, position_le⟩
  · exact Or.inl name_lt
  · exact Or.inr ⟨name_eq, Int32.lt_of_le_of_ne position_le ne⟩

theorem ordered_byPosition_of_ascending (composite : IsComposite rows)
    (names_ascend : ((byPosition rows).map (·.uqColumnName)).Pairwise (· ≤ ·)) :
    (byPosition rows).Pairwise fun left right => (left.order.compare right.order).isLE := by
  refine ((List.pairwise_map.mp names_ascend).and (ordered_byPosition rows)).imp_of_mem ?_
  rintro left right left_mem right_mem ⟨name_le, position_le⟩
  rw [composite.isLE_order_iff ((byPosition_perm rows).mem_iff.mp left_mem)
    ((byPosition_perm rows).mem_iff.mp right_mem)]
  by_cases name_lt : left.uqColumnName < right.uqColumnName
  · exact Or.inl name_lt
  · exact Or.inr ⟨String.le_antisymm name_le (String.not_lt.mp name_lt), position_le⟩

theorem columnPairs_inOrder_eq_iff (composite : IsComposite rows) :
    (inOrder rows).map ForeignKeyRow.columnPair =
        (byPosition rows).map ForeignKeyRow.columnPair ↔
      ((byPosition rows).map (·.uqColumnName)).Pairwise (· ≤ ·) := by
  have sorted := isStableSort_inOrder rows
  constructor
  · intro pairs_eq
    have names_eq := congrArg (List.map Prod.snd) pairs_eq
    rw [List.map_map, List.map_map] at names_eq
    have sorted_names : ((inOrder rows).map (·.uqColumnName)).Pairwise (· ≤ ·) := by
      rw [List.pairwise_map]
      refine composite.ascending_inOrder.imp ?_
      rintro left right (name_lt | ⟨name_eq, _⟩)
      · exact String.not_lt.mp (String.lt_asymm name_lt)
      · exact name_eq ▸ String.le_refl left.uqColumnName
    exact (congrArg (List.Pairwise (· ≤ ·)) names_eq).mp sorted_names
  · intro names_ascend
    refine map_eq_map_of_ordered (sorted.perm.trans (byPosition_perm rows).symm) sorted.ordered
      (composite.ordered_byPosition_of_ascending names_ascend) ?_
    intro left left_mem right right_mem same
    rw [composite.eq_of_order_eq (sorted.perm.mem_iff.mp left_mem)
      (sorted.perm.mem_iff.mp right_mem) same]

end IsComposite

theorem exists_collect_eq_singleton (opened : ForeignKey)
    (same : ∀ row ∈ rows, row.referenced = opened.referenced) :
    ∃ key, collect opened rows = [key] := by
  induction rows generalizing opened with
  | nil => exact ⟨opened, rfl⟩
  | cons row rest ih =>
      have references : opened.references row.referenced = true :=
        references_iff.mpr (same row List.mem_cons_self).symm
      rw [collect, if_pos references]
      exact ih (opened.extend row) fun later later_mem =>
        same later (List.mem_cons_of_mem _ later_mem)

theorem exists_group_eq_singleton (nonempty : rows ≠ [])
    (same : ∀ row ∈ rows, ∀ other ∈ rows, row.referenced = other.referenced) :
    ∃ key, group rows = [key] := by
  have sorted := isStableSort_inOrder rows
  rcases rows_eq : inOrder rows with _ | ⟨first, later⟩
  · rw [rows_eq] at sorted
    exact absurd sorted.perm.symm.eq_nil nonempty
  · rw [group, rows_eq]
    have in_order_mem : ∀ row ∈ first :: later, row ∈ rows := fun row row_mem =>
      sorted.perm.mem_iff.mp (rows_eq ▸ row_mem)
    exact exists_collect_eq_singleton (ofRow first) fun row row_mem =>
      same row (in_order_mem row (List.mem_cons_of_mem _ row_mem)) first
        (in_order_mem first List.mem_cons_self)

/--
The rows of one constraint make one key, in whatever order they come. Its column pairs ascend by the
column referred to, and where that is the same by position. They stand in the order of the
constraint exactly if the columns referred to ascend with the positions.
-/
theorem group_composite (composite : IsComposite rows) :
    ∃ key, (∀ others, others.Perm rows → group others = [key]) ∧
      (∀ row ∈ rows, key.keyName = row.fkConstraintName ∧ key.referenced = row.referenced) ∧
      (∃ arranged : List ForeignKeyRow, arranged.Perm rows ∧
        (arranged.Pairwise fun left right =>
          left.uqColumnName < right.uqColumnName ∨ left.uqColumnName = right.uqColumnName ∧
            left.fkOrdinalPosition < right.fkOrdinalPosition) ∧
        key.columnPairs = arranged.map ForeignKeyRow.columnPair) ∧
      (key.columnPairs = (byPosition rows).map ForeignKeyRow.columnPair ↔
        ((byPosition rows).map (·.uqColumnName)).Pairwise (· ≤ ·)) := by
  rcases exists_group_eq_singleton composite.nonempty composite.referenced_eq with ⟨key, group_eq⟩
  have key_mem : key ∈ group rows := group_eq ▸ List.mem_cons_self
  have all_own : ∀ row ∈ rows, row.referenced = key.referenced := by
    intro row row_mem
    rcases exists_key_of_mem row_mem with ⟨other, other_mem, referenced_eq⟩
    rw [group_eq, List.mem_singleton] at other_mem
    rw [← referenced_eq, other_mem]
  have rows_eq : rowsOf key.referenced rows = inOrder rows :=
    filter_referenced_eq_self fun row row_mem =>
      all_own row ((isStableSort_inOrder rows).perm.mem_iff.mp row_mem)
  have pairs_eq : key.columnPairs = (inOrder rows).map ForeignKeyRow.columnPair := by
    rw [(isMadeOf_rowsOf key_mem).columnPairs_eq, rows_eq]
  refine ⟨key, ?_, ?_, ?_, ?_⟩
  · intro others permuted
    rw [group_eq_of_perm composite.tiesAgree permuted, group_eq]
  · intro row row_mem
    rcases exists_head?_rowsOf key_mem with ⟨first, is_first⟩
    have first_mem := (mem_rowsOf.mp (List.mem_of_head? is_first)).1
    rw [keyName_eq_of_head? key_mem is_first, all_own row row_mem]
    exact ⟨composite.fkConstraintName_eq first first_mem row row_mem, rfl⟩
  · exact ⟨inOrder rows, (isStableSort_inOrder rows).perm, composite.ascending_inOrder, pairs_eq⟩
  · rw [pairs_eq]
    exact composite.columnPairs_inOrder_eq_iff

/-- A row of a table of orders: a column of the reference to a region. -/
def regionRow (fkColumn uqColumn : String) (position : Int32) : ForeignKeyRow where
  fkTableCatalog := "shop"
  fkTableSchema := "public"
  fkTableName := "orders"
  fkConstraintName := "orders_region_fk"
  fkColumnName := fkColumn
  fkOrdinalPosition := position
  uqTableCatalog := "shop"
  uqTableSchema := "public"
  uqTableName := "region"
  uqConstraintName := "region_pkey"
  uqColumnName := uqColumn
  uqOrdinalPosition := position
  updateRule := "NO ACTION"
  deleteRule := "CASCADE"
  matchOption := "NONE"

/-- The tenant of a region stands before its code in the constraint and after it in the key. -/
theorem group_region_by_tenant_and_code :
    let rows := [regionRow "tenant" "tenant_id" 1, regionRow "region_code" "code" 2]
    IsComposite rows ∧
    (byPosition rows).map ForeignKeyRow.columnPair =
      [("tenant", "tenant_id"), ("region_code", "code")] ∧
    (group rows).map columnPairs = [[("region_code", "code"), ("tenant", "tenant_id")]] ∧
    ¬∃ key, group rows = [key] ∧
      key.columnPairs = (byPosition rows).map ForeignKeyRow.columnPair := by
  intro rows
  let sorted := [regionRow "region_code" "code" 2, regionRow "tenant" "tenant_id" 1]
  have composite : IsComposite rows := by
    constructor <;> decide +kernel
  have by_position : byPosition rows = rows := List.mergeSort_of_pairwise (by decide +kernel)
  have in_order : inOrder sorted = sorted := List.mergeSort_of_pairwise (by decide +kernel)
  have group_eq : group rows = ofOrderedRows sorted := by
    rw [← group_eq_of_perm composite.tiesAgree (List.Perm.swap _ _ _ : sorted.Perm rows), group,
      in_order]
  refine ⟨composite, ?_, ?_, ?_⟩
  · rw [by_position]
    decide +kernel
  · rw [group_eq]
    decide +kernel
  · rw [group_eq, by_position]
    rintro ⟨key, key_eq, pairs_eq⟩
    have pairs : (ofOrderedRows sorted).map columnPairs = [rows.map ForeignKeyRow.columnPair] := by
      rw [key_eq, List.map_singleton, pairs_eq]
    exact absurd pairs (by decide +kernel)

theorem group_composite_region_by_code_and_tenant :
    let rows := [regionRow "region_code" "code" 1, regionRow "tenant" "tenant_id" 2]
    IsComposite rows ∧
    ∃ key, group rows.reverse = [key] ∧ key.keyName = "orders_region_fk" ∧
      key.columnPairs = [("region_code", "code"), ("tenant", "tenant_id")] := by
  intro rows
  have composite : IsComposite rows := by
    constructor <;> decide +kernel
  have by_position : byPosition rows = rows := List.mergeSort_of_pairwise (by decide +kernel)
  rcases group_composite composite with ⟨key, group_eq, named, _, pairs_iff⟩
  rw [by_position] at pairs_iff
  exact ⟨composite, key, group_eq _ (List.reverse_perm rows), (named _ List.mem_cons_self).1,
    pairs_iff.mpr (by decide +kernel)⟩

end SchemaLens.Schema.ForeignKey
