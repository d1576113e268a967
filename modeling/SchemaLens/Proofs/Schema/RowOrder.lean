import SchemaLens.Proofs.Schema.Constraint

/-!
# Rows that come in another order

Rows are put in order before keys are made of them, so the order in which they come is felt only
where two rows have one place: then the one that came first stays first. The place of a row says
nothing of the referring side. So the tables, their order and the columns referred to are always the
same, but the referring columns of rows of one place change with the order in which the rows come,
and with them the name and the rules of the key if it is such a row that opens it.
-/

namespace SchemaLens.Schema

namespace ForeignKeyOrder

theorem compare_eq_eq_iff {left right : ForeignKeyOrder} :
    compare left right = .eq ↔ left = right := by
  rcases left with ⟨⟨leftDatabase, leftSchema, leftTable⟩, leftConstraint, leftColumn, leftPosition⟩
  rcases right with
    ⟨⟨rightDatabase, rightSchema, rightTable⟩, rightConstraint, rightColumn, rightPosition⟩
  simp [compare, Ordering.then_eq_eq, Int32.toInt_inj, and_assoc]

instance : Std.LawfulEqCmp compare where
  eq_of_compare := compare_eq_eq_iff.mp

end ForeignKeyOrder

namespace ForeignKey

variable {rows others : List ForeignKeyRow}

theorem perm_rowsOf (permuted : others.Perm rows) (name : TableName) :
    (rowsOf name others).Perm (rowsOf name rows) :=
  (rowsOf_perm_filter name others).trans <|
    (permuted.filter _).trans (rowsOf_perm_filter name rows).symm

/-- What rows of one place have in common stands in the same order, in whichever the rows come. -/
theorem map_rowsOf_eq_of_perm {View : Type} {view : ForeignKeyRow → View} {name : TableName}
    (permuted : others.Perm rows)
    (alike : ∀ row ∈ rows, ∀ other ∈ rows, row.order = other.order → view row = view other) :
    (rowsOf name others).map view = (rowsOf name rows).map view := by
  refine map_eq_map_of_ordered (perm_rowsOf permuted name) (ordered_rowsOf name others)
    (ordered_rowsOf name rows) ?_
  intro row row_own other other_own same
  exact alike row (permuted.mem_iff.mp (mem_rowsOf.mp row_own).1) other
    (permuted.mem_iff.mp (mem_rowsOf.mp other_own).1) same

theorem map_referenced_group_eq_of_perm (permuted : others.Perm rows) :
    (group others).map referenced = (group rows).map referenced := by
  have same_tables : ((group others).map referenced).Perm ((group rows).map referenced) := by
    rw [List.perm_ext_iff_of_nodup (nodup_map_referenced_group others)
      (nodup_map_referenced_group rows)]
    intro name
    rw [mem_map_referenced_group, mem_map_referenced_group]
    exact (permuted.map _).mem_iff
  have ascending : ∀ given : List ForeignKeyRow, ((group given).map referenced).Pairwise
      fun left right => TableName.compare left right = .lt := fun given =>
    List.pairwise_map.mpr (pairwise_group given)
  refine List.Perm.eq_of_pairwise ?_ (ascending others) (ascending rows) same_tables
  intro left right _ _ left_lt right_lt
  exact absurd left_lt (Std.OrientedCmp.not_lt_of_lt right_lt)

theorem IsMadeOf.fkColumns_eq {key : ForeignKey} (made : key.IsMadeOf rows) :
    key.fkColumns = rows.map (·.fkColumnName) := by
  have columns_eq := congrArg (List.map Prod.fst) made.columnPairs_eq
  rw [columnPairs, List.map_fst_zip (Nat.le_of_eq made.length_eq), List.map_map] at columns_eq
  exact columns_eq

theorem IsMadeOf.ukColumns_eq {key : ForeignKey} (made : key.IsMadeOf rows) :
    key.ukColumns = rows.map (·.uqColumnName) := by
  have columns_eq := congrArg (List.map Prod.snd) made.columnPairs_eq
  rw [columnPairs, List.map_snd_zip (Nat.le_of_eq made.length_eq.symm), List.map_map] at columns_eq
  exact columns_eq

def withColumns (key : ForeignKey) (rows : List ForeignKeyRow) : ForeignKey :=
  { key with
    fkColumns := rows.map (·.fkColumnName)
    ukColumns := rows.map (·.uqColumnName) }

/-- A key is the one that the first row of its table opens, with the columns of all of them. -/
theorem eq_withColumns_of_head? {key : ForeignKey} {first : ForeignKeyRow}
    (key_mem : key ∈ group rows) (is_first : (rowsOf key.referenced rows).head? = some first) :
    key = (ofRow first).withColumns (rowsOf key.referenced rows) := by
  have made := isMadeOf_rowsOf key_mem
  have referenced_eq := (mem_rowsOf.mp (List.mem_of_head? is_first)).2
  have fk_eq := made.fkColumns_eq
  have uk_eq := made.ukColumns_eq
  rcases made.of_first with ⟨opener, later, rows_eq, name_eq, update_eq, delete_eq, match_eq⟩
  rw [rows_eq, List.head?_cons, Option.some_inj] at is_first
  subst is_first
  simp only [referenced, ForeignKeyRow.referenced, TableName.mk.injEq] at referenced_eq
  simp only [withColumns, ofRow, normalMatchOption, ← fk_eq, ← uk_eq, referenced_eq, ← name_eq,
    ← update_eq, ← delete_eq, ← match_eq]

/-- No row that refers to the same table stands before the row. -/
def IsFirst (row : ForeignKeyRow) (rows : List ForeignKeyRow) : Prop :=
  ∀ other ∈ rows, other.referenced = row.referenced → (row.order.compare other.order).isLE

theorem IsFirst.of_perm {row : ForeignKeyRow} (is_first : IsFirst row rows)
    (permuted : others.Perm rows) : IsFirst row others := fun other other_mem =>
  is_first other (permuted.mem_iff.mp other_mem)

theorem IsFirst.order_eq {row other : ForeignKeyRow} (is_first : IsFirst row rows)
    (other_is_first : IsFirst other rows) (row_mem : row ∈ rows) (other_mem : other ∈ rows)
    (same : row.referenced = other.referenced) : row.order = other.order :=
  ForeignKeyOrder.compare_eq_eq_iff.mp <| Std.OrientedCmp.isLE_antisymm
    (is_first other other_mem same.symm) (other_is_first row row_mem same)

theorem isFirst_of_head? {name : TableName} {first : ForeignKeyRow}
    (is_first : (rowsOf name rows).head? = some first) : IsFirst first rows := by
  have ordered := ordered_rowsOf name rows
  have own := mem_rowsOf.mp (List.mem_of_head? is_first)
  intro other other_mem same
  have other_own : other ∈ rowsOf name rows := mem_rowsOf.mpr ⟨other_mem, same.trans own.2⟩
  rcases List.head?_eq_some_iff.mp is_first with ⟨later, rows_eq⟩
  rw [rows_eq] at ordered other_own
  rcases List.mem_cons.mp other_own with rfl | other_later
  · rw [ForeignKeyOrder.compare_eq_eq_iff.mpr rfl]
    rfl
  · exact (List.pairwise_cons.mp ordered).1 other other_later

/-- Rows of one place have the same referring column, and where such rows stand first for their
table they open the same key. -/
def TiesAgree (rows : List ForeignKeyRow) : Prop :=
  ∀ row ∈ rows, ∀ other ∈ rows, row.order = other.order →
    row.fkColumnName = other.fkColumnName ∧ (IsFirst row rows → ofRow row = ofRow other)

theorem tiesAgree_of_order_injective
    (injective : ∀ row ∈ rows, ∀ other ∈ rows, row.order = other.order → row = other) :
    TiesAgree rows := by
  intro row row_mem other other_mem same
  obtain rfl := injective row row_mem other other_mem same
  exact ⟨rfl, fun _ => rfl⟩

theorem eq_of_map_referenced_eq {left right : List ForeignKey}
    (referenced_eq : left.map referenced = right.map referenced)
    (same : ∀ key ∈ left, ∀ other ∈ right, key.referenced = other.referenced → key = other) :
    left = right := by
  induction left generalizing right with
  | nil => exact (List.map_eq_nil_iff.mp referenced_eq.symm).symm
  | cons key rest ih =>
      rcases right with _ | ⟨other, others⟩
      · exact absurd referenced_eq (List.cons_ne_nil _ _)
      · rw [List.map_cons, List.map_cons, List.cons.injEq] at referenced_eq
        rw [same key List.mem_cons_self other List.mem_cons_self referenced_eq.1]
        rw [ih referenced_eq.2 fun key key_mem other other_mem =>
          same key (List.mem_cons_of_mem _ key_mem) other (List.mem_cons_of_mem _ other_mem)]

theorem map_uqColumnName_rowsOf_eq_of_perm (permuted : others.Perm rows) (name : TableName) :
    (rowsOf name others).map (·.uqColumnName) = (rowsOf name rows).map (·.uqColumnName) :=
  map_rowsOf_eq_of_perm permuted fun _ _ _ _ same => congrArg ForeignKeyOrder.columnName same

theorem group_eq_of_perm (agree : TiesAgree rows) (permuted : others.Perm rows) :
    group others = group rows := by
  refine eq_of_map_referenced_eq (map_referenced_group_eq_of_perm permuted) ?_
  intro key key_mem other other_mem same
  rcases exists_head?_rowsOf key_mem with ⟨first, is_head⟩
  rcases exists_head?_rowsOf other_mem with ⟨otherFirst, other_is_head⟩
  have own := mem_rowsOf.mp (List.mem_of_head? is_head)
  have other_own := mem_rowsOf.mp (List.mem_of_head? other_is_head)
  have first_mem : first ∈ rows := permuted.mem_iff.mp own.1
  -- the first rows of the table in the two orders need not be one row, but they have one place
  have is_first : IsFirst first rows := (isFirst_of_head? is_head).of_perm permuted.symm
  have order_eq : first.order = otherFirst.order :=
    is_first.order_eq (isFirst_of_head? other_is_head) first_mem other_own.1
      (own.2.trans (same.trans other_own.2.symm))
  have opened_eq := (agree first first_mem otherFirst other_own.1 order_eq).2 is_first
  have columns_eq : (ofRow otherFirst).withColumns (rowsOf key.referenced others) =
      (ofRow otherFirst).withColumns (rowsOf key.referenced rows) := by
    rw [withColumns, withColumns, map_uqColumnName_rowsOf_eq_of_perm permuted,
      map_rowsOf_eq_of_perm permuted fun row row_mem other other_mem same =>
        (agree row row_mem other other_mem same).1]
  calc
    key = (ofRow first).withColumns (rowsOf key.referenced others) :=
      eq_withColumns_of_head? key_mem is_head
    _ = (ofRow otherFirst).withColumns (rowsOf other.referenced rows) := by
      rw [opened_eq, columns_eq, same]
    _ = other := (eq_withColumns_of_head? other_mem other_is_head).symm

/-- Rows of one place stand as they came. -/
theorem find?_order_rowsOf (pivot : ForeignKeyRow) (rows : List ForeignKeyRow) :
    (rowsOf pivot.referenced rows).find? (fun row => row.order = pivot.order) =
      rows.find? fun row => row.order = pivot.order := by
  have tie : ∀ row : ForeignKeyRow,
      (pivot.order.compare row.order == .eq) = decide (row.order = pivot.order) := by
    intro row
    rw [Bool.eq_iff_iff, beq_iff_eq, decide_eq_true_eq, ForeignKeyOrder.compare_eq_eq_iff, eq_comm]
  have stable := (isStableSort_inOrder rows).stable pivot
  simp only [tie] at stable
  have own_filter : (rowsOf pivot.referenced rows).filter (fun row => row.order = pivot.order) =
      (inOrder rows).filter fun row => row.order = pivot.order := by
    rw [rowsOf, List.filter_filter]
    refine List.filter_congr ?_
    intro row _
    by_cases same : row.order = pivot.order
    · have referenced_eq : row.referenced = pivot.referenced :=
        congrArg ForeignKeyOrder.referenced same
      simp [same, referenced_eq]
    · simp [same]
  rw [← List.head?_filter, own_filter, stable, List.head?_filter]

theorem find?_order_front (front : ForeignKeyRow) (rest : List ForeignKeyRow) :
    (rowsOf front.referenced (front :: rest)).find? (fun row => row.order = front.order) =
      some front := by
  rw [find?_order_rowsOf]
  exact List.find?_cons_of_pos (decide_eq_true rfl)

/-- If the rows are grouped in the same way with one of them in front, its column is the first that
its key has for its place. -/
theorem find?_order_of_front {key : ForeignKey} {front : ForeignKeyRow} {rest : List ForeignKeyRow}
    (permuted : (front :: rest).Perm rows) (key_mem : key ∈ group (front :: rest))
    (referenced_eq : key.referenced = front.referenced) :
    (key.fkColumns.zip ((rowsOf front.referenced rows).map (·.order))).find?
      (fun column => column.2 = front.order) = some (front.fkColumnName, front.order) := by
  have columns_eq := (isMadeOf_rowsOf key_mem).fkColumns_eq
  have orders_eq : (rowsOf front.referenced (front :: rest)).map (·.order) =
      (rowsOf front.referenced rows).map (·.order) :=
    map_rowsOf_eq_of_perm permuted fun _ _ _ _ same => same
  rw [columns_eq, referenced_eq, ← orders_eq, List.zip_map', List.find?_map]
  exact congrArg (Option.map _) (find?_order_front front rest)

theorem head?_rowsOf_of_front {front : ForeignKeyRow} {rest : List ForeignKeyRow}
    (is_first : IsFirst front (front :: rest)) :
    (rowsOf front.referenced (front :: rest)).head? = some front := by
  have front_own : front ∈ rowsOf front.referenced (front :: rest) :=
    mem_rowsOf.mpr ⟨List.mem_cons_self, rfl⟩
  have found := find?_order_front front rest
  rcases rows_eq : rowsOf front.referenced (front :: rest) with _ | ⟨head, later⟩
  · rw [rows_eq] at front_own
    exact absurd front_own List.not_mem_nil
  · have is_head : (rowsOf front.referenced (front :: rest)).head? = some head := by
      rw [rows_eq, List.head?_cons]
    have head_own := mem_rowsOf.mp (List.mem_of_head? is_head)
    have order_eq : head.order = front.order :=
      (isFirst_of_head? is_head).order_eq is_first head_own.1 List.mem_cons_self head_own.2
    have head_found : (head :: later).find? (fun row => row.order = front.order) = some head :=
      List.find?_cons_of_pos (decide_eq_true order_eq)
    rw [rows_eq, head_found] at found
    exact found

theorem ofRow_eq_withColumns_of_front {key : ForeignKey} {front : ForeignKeyRow}
    {rest : List ForeignKeyRow} (is_first : IsFirst front (front :: rest))
    (key_mem : key ∈ group (front :: rest)) (referenced_eq : key.referenced = front.referenced) :
    ofRow front = key.withColumns [front] := by
  have is_head := head?_rowsOf_of_front is_first
  rw [← referenced_eq] at is_head
  rw [eq_withColumns_of_head? key_mem is_head]
  rfl

theorem tiesAgree_of_group_eq (same : ∀ others, others.Perm rows → group others = group rows) :
    TiesAgree rows := by
  -- each of two rows of one place can come before all others, and the key stays what it was
  have front_perm : ∀ front ∈ rows, (front :: rows.erase front).Perm rows :=
    fun front front_mem => (List.perm_cons_erase front_mem).symm
  intro row row_mem other other_mem order_eq
  have referenced_eq : row.referenced = other.referenced :=
    congrArg ForeignKeyOrder.referenced order_eq
  rcases exists_key_of_mem row_mem with ⟨key, key_mem, key_referenced⟩
  have row_key : key ∈ group (row :: rows.erase row) := by
    rw [same _ (front_perm row row_mem)]
    exact key_mem
  have other_key : key ∈ group (other :: rows.erase other) := by
    rw [same _ (front_perm other other_mem)]
    exact key_mem
  have column_eq : row.fkColumnName = other.fkColumnName := by
    have row_found := find?_order_of_front (front_perm row row_mem) row_key key_referenced
    have other_found := find?_order_of_front (front_perm other other_mem) other_key
      (key_referenced.trans referenced_eq)
    rw [← referenced_eq, ← order_eq, row_found] at other_found
    exact congrArg Prod.fst (Option.some_inj.mp other_found)
  refine ⟨column_eq, ?_⟩
  intro is_first
  have other_is_first : IsFirst other rows := by
    intro third third_mem third_referenced
    rw [← order_eq]
    exact is_first third third_mem (third_referenced.trans referenced_eq.symm)
  have row_opened := ofRow_eq_withColumns_of_front (is_first.of_perm (front_perm row row_mem))
    row_key key_referenced
  have other_opened := ofRow_eq_withColumns_of_front
    (other_is_first.of_perm (front_perm other other_mem)) other_key
    (key_referenced.trans referenced_eq)
  have uqColumnName_eq : row.uqColumnName = other.uqColumnName :=
    congrArg ForeignKeyOrder.columnName order_eq
  simp only [row_opened, other_opened, withColumns, List.map_singleton, column_eq, uqColumnName_eq]

/--
Whatever order the rows come in, the tables referred to and their order are the same, and the key of
a table has the same columns referred to, in the same order, and the same column pairs but for their
order. The keys are the same in every order exactly if the rows of one place agree.
-/
theorem group_permuted (rows : List ForeignKeyRow) :
    (∀ others, others.Perm rows →
      (group others).map referenced = (group rows).map referenced ∧
      ∀ key ∈ group others, ∀ other ∈ group rows, key.referenced = other.referenced →
        key.ukColumns = other.ukColumns ∧ key.columnPairs.Perm other.columnPairs) ∧
    ((∀ others, others.Perm rows → group others = group rows) ↔ TiesAgree rows) := by
  refine ⟨?_, tiesAgree_of_group_eq, fun agree others permuted => group_eq_of_perm agree permuted⟩
  intro others permuted
  refine ⟨map_referenced_group_eq_of_perm permuted, ?_⟩
  intro key key_mem other other_mem same
  have made := isMadeOf_rowsOf key_mem
  have other_made := isMadeOf_rowsOf other_mem
  rw [same] at made
  constructor
  · rw [made.ukColumns_eq, other_made.ukColumns_eq]
    exact map_uqColumnName_rowsOf_eq_of_perm permuted other.referenced
  · rw [made.columnPairs_eq, other_made.columnPairs_eq]
    exact (perm_rowsOf permuted other.referenced).map _

/-- The customer who pays and the one who receives are referred to by rows of one place. The row
that comes first gives the key its name and its first column. -/
theorem group_billing_and_shipping_swapped :
    let billing := customerRow "orders_billing_fk" "billing_id"
    let shipping := customerRow "orders_shipping_fk" "shipping_id"
    [shipping, billing].Perm [billing, shipping] ∧
    (group [billing, shipping]).map (fun key => (key.keyName, key.fkColumns)) =
      [("orders_billing_fk", ["billing_id", "shipping_id"])] ∧
    (group [shipping, billing]).map (fun key => (key.keyName, key.fkColumns)) =
      [("orders_shipping_fk", ["shipping_id", "billing_id"])] ∧
    group [shipping, billing] ≠ group [billing, shipping] := by
  intro billing shipping
  have one_in_order : inOrder [billing, shipping] = [billing, shipping] :=
    List.mergeSort_of_pairwise (by decide +kernel)
  have other_in_order : inOrder [shipping, billing] = [shipping, billing] :=
    List.mergeSort_of_pairwise (by decide +kernel)
  rw [group, group, one_in_order, other_in_order]
  refine ⟨List.Perm.swap _ _ _, ?_⟩
  decide +kernel

theorem group_permuted_ordersRows :
    let billing := customerRow "orders_billing_fk" "billing_id"
    let shipping := customerRow "orders_shipping_fk" "shipping_id"
    (TiesAgree ordersRows ∧ group ordersRows.reverse = group ordersRows) ∧
    ∃ key ∈ group [shipping, billing], ∃ other ∈ group [billing, shipping],
      key.referenced = other.referenced ∧ key.columnPairs.Perm other.columnPairs := by
  intro billing shipping
  constructor
  · have agree : TiesAgree ordersRows := tiesAgree_of_order_injective (by decide +kernel)
    exact ⟨agree, (group_permuted ordersRows).2.mpr agree _ (List.reverse_perm ordersRows)⟩
  · have swapped : [shipping, billing].Perm [billing, shipping] := List.Perm.swap _ _ _
    rcases exists_key_of_mem (List.mem_cons_self : shipping ∈ [shipping, billing]) with
      ⟨key, key_mem, key_referenced⟩
    rcases exists_key_of_mem (List.mem_cons_self : billing ∈ [billing, shipping]) with
      ⟨other, other_mem, other_referenced⟩
    have same : key.referenced = other.referenced := key_referenced.trans other_referenced.symm
    have unordered := ((group_permuted [billing, shipping]).1 _ swapped).2
    exact ⟨key, key_mem, other, other_mem, same, (unordered key key_mem other other_mem same).2⟩

end ForeignKey

end SchemaLens.Schema
