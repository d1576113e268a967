import SchemaLens.Proofs.Data.StableSort
import SchemaLens.Proofs.Text.ByteOrder
import SchemaLens.Schema.ForeignKey

/-!
# The foreign keys of a table, one for each table referred to

The rows are read once, and each is compared with the key that is open and with no other. That one
key is made for each table rests on the order the rows are put in: the referenced table is compared
first, so the rows that refer to one table stand side by side, and the tables ascend.

The invariant of the pass is `ForeignKey.Gathers`: the open key holds what the rows since it was
opened say of it. Where a row opens the next key, all rows from there on refer to greater tables.
-/

namespace SchemaLens.Schema

namespace TableName

/-- Compares two tables by catalog, schema and name. -/
def compare (left right : TableName) : Ordering :=
  (Ord.compare left.database right.database).then <|
    (Ord.compare left.schema right.schema).then <|
      Ord.compare left.table right.table

/-- The bytes of the catalog, the schema and the name. Lists compare by their first difference,
so the catalog decides first, byte by byte. -/
def bytes (name : TableName) : List (List UInt8) :=
  [Text.utf8Bytes name.database, Text.utf8Bytes name.schema, Text.utf8Bytes name.table]

instance : Std.TransCmp compare :=
  inferInstanceAs <| Std.TransCmp <| compareLex (compareOn database) <|
    compareLex (compareOn schema) (compareOn table)

theorem compare_eq_eq_iff {left right : TableName} : compare left right = .eq ↔ left = right := by
  rcases left with ⟨leftDatabase, leftSchema, leftTable⟩
  rcases right with ⟨rightDatabase, rightSchema, rightTable⟩
  simp [compare, Ordering.then_eq_eq]

theorem bytes_lt_of_compare {left right : TableName} (lt : compare left right = .lt) :
    left.bytes < right.bytes := by
  simp only [compare, Ordering.then_eq_lt, Text.compare_eq_lt_iff, Std.compare_eq_iff_eq] at lt
  simp only [bytes, List.cons_lt_cons_iff]
  rcases lt with database_lt | ⟨database_eq, schema_lt | ⟨schema_eq, table_lt⟩⟩
  · exact Or.inl database_lt
  · exact Or.inr ⟨congrArg Text.utf8Bytes database_eq, Or.inl schema_lt⟩
  · exact Or.inr ⟨congrArg Text.utf8Bytes database_eq,
      Or.inr ⟨congrArg Text.utf8Bytes schema_eq, Or.inl table_lt⟩⟩

end TableName

namespace ForeignKeyOrder

instance : Std.TransCmp compare :=
  inferInstanceAs <| Std.TransCmp <|
    compareLex (compareOn fun order => order.referenced.database) <|
      compareLex (compareOn fun order => order.referenced.schema) <|
        compareLex (compareOn fun order => order.referenced.table) <|
          compareLex (compareOn constraintName) <|
            compareLex (compareOn columnName) (compareOn fun order => order.ordinalPosition.toInt)

/-- The referenced table is what is compared first. -/
theorem isLE_referenced_of_isLE {left right : ForeignKeyOrder}
    (le : (compare left right).isLE) :
    (TableName.compare left.referenced right.referenced).isLE := by
  simp only [compare, ← Ordering.then_assoc] at le
  simp only [TableName.compare, ← Ordering.then_assoc]
  exact Ordering.isLE_left_of_isLE_then
    (Ordering.isLE_left_of_isLE_then (Ordering.isLE_left_of_isLE_then le))

end ForeignKeyOrder

namespace TableName

/-- No table stands before a smaller one. -/
def Ascending (names : List TableName) : Prop :=
  names.Pairwise fun left right => (compare left right).isLE

theorem Ascending.compare_eq_lt {name next : TableName} {rest : List TableName}
    (ascending : Ascending (name :: next :: rest)) (ne : name ≠ next) :
    ∀ later ∈ next :: rest, compare name later = .lt := by
  have name_le := (List.pairwise_cons.mp ascending).1
  have next_le := (List.pairwise_cons.mp (List.pairwise_cons.mp ascending).2).1
  have name_lt_next : compare name next = .lt := by
    refine Ordering.isLE_iff_eq_lt_or_eq_eq.mp (name_le next List.mem_cons_self) |>.resolve_right ?_
    exact fun equal => ne (compare_eq_eq_iff.mp equal)
  intro later later_mem
  rcases List.mem_cons.mp later_mem with rfl | later_mem_rest
  · exact name_lt_next
  · exact Std.TransCmp.lt_of_lt_of_isLE name_lt_next (next_le later later_mem_rest)

theorem ne_of_compare_eq_lt {left right : TableName} (lt : compare left right = .lt) :
    left ≠ right := by
  rintro rfl
  rw [compare_eq_eq_iff.mpr rfl] at lt
  contradiction

end TableName

/-- The referring column of a row with the column it refers to. -/
def ForeignKeyRow.columnPair (row : ForeignKeyRow) : String × String :=
  (row.fkColumnName, row.uqColumnName)

namespace ForeignKey

/-- The table the key refers to. -/
def referenced (key : ForeignKey) : TableName where
  database := key.databaseName
  schema := key.schemaName
  table := key.tableName

@[simp]
theorem referenced_ofRow (row : ForeignKeyRow) : (ofRow row).referenced = row.referenced := rfl

@[simp]
theorem referenced_extend (key : ForeignKey) (row : ForeignKeyRow) :
    (key.extend row).referenced = key.referenced := rfl

theorem references_iff {key : ForeignKey} {name : TableName} :
    key.references name = true ↔ key.referenced = name := by
  rcases name with ⟨database, schema, table⟩
  simp [references, referenced, and_assoc]

/-- The key has the column pairs of the rows, each once and in their order, and what else it says
is what the first row says. -/
structure IsMadeOf (key : ForeignKey) (rows : List ForeignKeyRow) : Prop where
  columns_ne_nil : key.fkColumns ≠ []
  length_eq : key.fkColumns.length = key.ukColumns.length
  columnPairs_eq : key.columnPairs = rows.map ForeignKeyRow.columnPair
  of_first : ∃ first others, rows = first :: others ∧
    key.keyName = first.fkConstraintName ∧ key.updateRule = first.updateRule ∧
      key.deleteRule = first.deleteRule ∧
        key.matchOption = if first.matchOption = "NONE" then "SIMPLE" else first.matchOption

theorem isMadeOf_ofRow (row : ForeignKeyRow) : (ofRow row).IsMadeOf [row] where
  columns_ne_nil := List.cons_ne_nil _ _
  length_eq := rfl
  columnPairs_eq := rfl
  of_first := ⟨row, [], rfl, rfl, rfl, rfl, rfl⟩

theorem IsMadeOf.extend {key : ForeignKey} {rows : List ForeignKeyRow} (made : key.IsMadeOf rows)
    (row : ForeignKeyRow) : (key.extend row).IsMadeOf (rows ++ [row]) where
  columns_ne_nil := List.append_ne_nil_of_right_ne_nil _ (List.cons_ne_nil _ _)
  length_eq := by
    simp only [ForeignKey.extend, List.length_append, made.length_eq, List.length_singleton]
  columnPairs_eq := by
    have pairs_eq := made.columnPairs_eq
    simp only [columnPairs] at pairs_eq
    simp only [columnPairs, ForeignKey.extend, List.zip_append made.length_eq, pairs_eq,
      List.map_append]
    rfl
  of_first := by
    rcases made.of_first with ⟨first, others, rfl, said⟩
    exact ⟨first, others ++ [row], rfl, said⟩

/-- The keys refer to the tables that the open key and the rows refer to, and to no other. -/
theorem mem_map_referenced_collect (opened : ForeignKey) (rows : List ForeignKeyRow)
    (name : TableName) :
    name ∈ (collect opened rows).map referenced ↔
      name ∈ opened.referenced :: rows.map ForeignKeyRow.referenced := by
  induction rows generalizing opened with
  | nil => rfl
  | cons row rest ih =>
      rw [collect]
      split_ifs with references
      · have same := references_iff.mp references
        rw [ih, referenced_extend, List.map_cons, ← same]
        simp only [List.mem_cons, or_self_left]
      · rw [List.map_cons, List.mem_cons, ih, referenced_ofRow, List.map_cons]
        exact List.mem_cons.symm

/-- The pass makes keys whose tables ascend strictly, if those of the rows ascend. -/
theorem pairwise_collect (opened : ForeignKey) (rows : List ForeignKeyRow)
    (ascending : TableName.Ascending (opened.referenced :: rows.map ForeignKeyRow.referenced)) :
    (collect opened rows).Pairwise fun left right =>
      TableName.compare left.referenced right.referenced = .lt := by
  induction rows generalizing opened with
  | nil => exact List.pairwise_singleton _ _
  | cons row rest ih =>
      rw [collect]
      split_ifs with references
      · exact ih (opened.extend row)
          (ascending.sublist (List.Sublist.cons_cons _ (List.sublist_cons_self _ _)))
      · rw [List.pairwise_cons]
        refine ⟨?_, ih (ofRow row) (List.pairwise_cons.mp ascending).2⟩
        intro key key_mem
        exact ascending.compare_eq_lt (mt references_iff.mpr references) key.referenced
          ((mem_map_referenced_collect (ofRow row) rest _).mp (List.mem_map_of_mem key_mem))

theorem filter_referenced_eq_self {name : TableName} {rows : List ForeignKeyRow}
    (all_referenced : ∀ row ∈ rows, row.referenced = name) :
    rows.filter (fun row => row.referenced = name) = rows :=
  List.filter_eq_self.mpr fun row row_mem => decide_eq_true (all_referenced row row_mem)

theorem filter_referenced_eq_nil {name : TableName} {rows : List ForeignKeyRow}
    (none_referenced : ∀ row ∈ rows, row.referenced ≠ name) :
    rows.filter (fun row => row.referenced = name) = [] := by
  simpa only [List.filter_eq_nil_iff, decide_eq_true_eq] using none_referenced

/-- Each key that the pass makes is made of the rows that refer to its table. -/
theorem isMadeOf_filter_of_mem_collect (own rows : List ForeignKeyRow) (opened : ForeignKey)
    (made : opened.IsMadeOf own) (own_referenced : ∀ row ∈ own, row.referenced = opened.referenced)
    (ascending : TableName.Ascending (opened.referenced :: rows.map ForeignKeyRow.referenced)) :
    ∀ key ∈ collect opened rows,
      key.IsMadeOf ((own ++ rows).filter fun row => row.referenced = key.referenced) := by
  induction rows generalizing own opened with
  | nil =>
      intro key key_mem
      rw [collect, List.mem_singleton] at key_mem
      rw [key_mem, List.append_nil, filter_referenced_eq_self own_referenced]
      exact made
  | cons row rest ih =>
      rw [collect]
      split_ifs with references
      · -- The row goes into the open key, and is one of its own rows from here on.
        have extended_referenced : ∀ earlier ∈ own ++ [row],
            earlier.referenced = (opened.extend row).referenced := by
          intro earlier earlier_mem
          rcases List.mem_append.mp earlier_mem with own_mem | row_mem
          · exact own_referenced earlier own_mem
          · rw [List.mem_singleton.mp row_mem]
            exact (references_iff.mp references).symm
        rw [List.append_cons]
        exact ih (own ++ [row]) (opened.extend row) (made.extend row) extended_referenced
          (ascending.sublist (List.Sublist.cons_cons _ (List.sublist_cons_self _ _)))
      · -- All rows from here on refer to greater tables than the open key does.
        have later_lt := ascending.compare_eq_lt (mt references_iff.mpr references)
        intro key key_mem
        rw [List.filter_append]
        rcases List.mem_cons.mp key_mem with rfl | key_mem
        · have later_ne : ∀ later ∈ row :: rest, later.referenced ≠ key.referenced := by
            intro later later_mem
            have key_lt := later_lt later.referenced (List.mem_map_of_mem later_mem)
            exact (TableName.ne_of_compare_eq_lt key_lt).symm
          rw [filter_referenced_eq_self own_referenced, filter_referenced_eq_nil later_ne,
            List.append_nil]
          exact made
        · have own_ne : ∀ earlier ∈ own, earlier.referenced ≠ key.referenced := by
            intro earlier earlier_mem
            have opened_lt := later_lt key.referenced
              ((mem_map_referenced_collect (ofRow row) rest _).mp (List.mem_map_of_mem key_mem))
            rw [own_referenced earlier earlier_mem]
            exact TableName.ne_of_compare_eq_lt opened_lt
          rw [filter_referenced_eq_nil own_ne, List.nil_append]
          exact ih [row] (ofRow row) (isMadeOf_ofRow row) (List.forall_mem_singleton.mpr rfl)
            (List.pairwise_cons.mp ascending).2 key key_mem

end ForeignKey

instance : Std.TransCmp fun left right : ForeignKeyRow => left.order.compare right.order where
  eq_swap := Std.OrientedCmp.eq_swap
  isLE_trans := Std.TransCmp.isLE_trans

namespace ForeignKey

theorem isStableSort_inOrder (rows : List ForeignKeyRow) :
    IsStableSort (fun left right => left.order.compare right.order) rows (inOrder rows) :=
  isStableSort_mergeSort _ rows

theorem ascending_inOrder (rows : List ForeignKeyRow) :
    TableName.Ascending ((inOrder rows).map ForeignKeyRow.referenced) :=
  List.pairwise_map.mpr <|
    (isStableSort_inOrder rows).ordered.imp fun le => ForeignKeyOrder.isLE_referenced_of_isLE le

theorem mem_map_referenced_ofOrderedRows (rows : List ForeignKeyRow) (name : TableName) :
    name ∈ (ofOrderedRows rows).map referenced ↔ name ∈ rows.map ForeignKeyRow.referenced := by
  cases rows with
  | nil => rfl
  | cons first rest => exact mem_map_referenced_collect (ofRow first) rest name

theorem pairwise_ofOrderedRows {rows : List ForeignKeyRow}
    (ascending : TableName.Ascending (rows.map ForeignKeyRow.referenced)) :
    (ofOrderedRows rows).Pairwise fun left right =>
      TableName.compare left.referenced right.referenced = .lt := by
  cases rows with
  | nil => exact List.Pairwise.nil
  | cons first rest => exact pairwise_collect (ofRow first) rest ascending

theorem isMadeOf_filter_of_mem_ofOrderedRows {rows : List ForeignKeyRow}
    (ascending : TableName.Ascending (rows.map ForeignKeyRow.referenced)) :
    ∀ key ∈ ofOrderedRows rows,
      key.IsMadeOf (rows.filter fun row => row.referenced = key.referenced) := by
  cases rows with
  | nil => exact List.forall_mem_nil _
  | cons first rest =>
      exact isMadeOf_filter_of_mem_collect [first] rest (ofRow first) (isMadeOf_ofRow first)
        (List.forall_mem_singleton.mpr rfl) ascending

/-- One key is made for each table referred to, the keys ascend by the bytes of their tables, and
each is made of the rows of its table in the order of a stable sort; rows in order already stay as
they are. -/
theorem group_one_key_per_table (rows : List ForeignKeyRow) :
    (group rows).Pairwise (fun left right => left.referenced.bytes < right.referenced.bytes) ∧
      (∀ name, name ∈ (group rows).map referenced ↔ name ∈ rows.map ForeignKeyRow.referenced) ∧
      IsStableSort (fun left right => left.order.compare right.order) rows (inOrder rows) ∧
      (∀ key ∈ group rows,
        key.IsMadeOf ((inOrder rows).filter fun row => row.referenced = key.referenced)) ∧
      (rows.Pairwise (fun left right => (left.order.compare right.order).isLE) →
        ∀ key ∈ group rows, key.columnPairs =
          (rows.filter fun row => row.referenced = key.referenced).map
            ForeignKeyRow.columnPair) := by
  have made := isMadeOf_filter_of_mem_ofOrderedRows (ascending_inOrder rows)
  refine ⟨?_, ?_, isStableSort_inOrder rows, made, ?_⟩
  · exact (pairwise_ofOrderedRows (ascending_inOrder rows)).imp fun lt =>
      TableName.bytes_lt_of_compare lt
  · intro name
    rw [group, mem_map_referenced_ofOrderedRows]
    exact ((isStableSort_inOrder rows).perm.map _).mem_iff
  · intro ordered key key_mem
    have in_order : inOrder rows = rows := List.mergeSort_of_pairwise ordered
    have pairs_eq := (made key key_mem).columnPairs_eq
    rwa [in_order] at pairs_eq

/-- Three rows in order, two of which refer to one table. -/
def ordersRows : List ForeignKeyRow :=
  let row (table fkColumn uqColumn : String) (position : Int32) : ForeignKeyRow :=
    { fkTableCatalog := "shop", fkTableSchema := "public", fkTableName := "orders"
      fkConstraintName := "orders_" ++ table ++ "_fk", fkColumnName := fkColumn
      fkOrdinalPosition := position
      uqTableCatalog := "shop", uqTableSchema := "public", uqTableName := table
      uqConstraintName := table ++ "_pkey", uqColumnName := uqColumn
      uqOrdinalPosition := position
      updateRule := "NO ACTION", deleteRule := "CASCADE", matchOption := "NONE" }
  [row "region" "region_code" "code" 1, row "region" "tenant" "tenant_id" 2,
    row "warehouse" "site_id" "site_id" 1]

theorem group_one_key_per_table_ordersRows :
    ordersRows.Pairwise (fun left right => (left.order.compare right.order).isLE) ∧
      (∀ key ∈ group ordersRows, key.columnPairs =
        (ordersRows.filter fun row => row.referenced = key.referenced).map
          ForeignKeyRow.columnPair) ∧
      (group ordersRows).map columnPairs =
        [[("region_code", "code"), ("tenant", "tenant_id")], [("site_id", "site_id")]] := by
  have ordered : ordersRows.Pairwise fun left right =>
      (left.order.compare right.order).isLE := by
    decide +kernel
  refine ⟨ordered, (group_one_key_per_table ordersRows).2.2.2.2 ordered, ?_⟩
  have in_order : inOrder ordersRows = ordersRows := List.mergeSort_of_pairwise ordered
  rw [group, in_order]
  decide +kernel

end ForeignKey

end SchemaLens.Schema
