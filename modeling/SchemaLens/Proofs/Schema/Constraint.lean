import Mathlib.Data.List.Nodup
import SchemaLens.Proofs.Schema.ForeignKey

/-!
# The constraints behind a foreign key

Rows are gathered by the table they refer to and by nothing else. So a key stands for a table: the
rows of all constraints that refer to the table go into one key, and the first of these rows in
order gives the key its name. A key is one constraint exactly if no other constraint refers to its
table, and a constraint leaves its name to no key if another one stands before it for every table.
-/

namespace SchemaLens.Schema.ForeignKey

/-- The rows that refer to a table, in order. -/
def rowsOf (name : TableName) (rows : List ForeignKeyRow) : List ForeignKeyRow :=
  (inOrder rows).filter fun row => row.referenced = name

variable {rows : List ForeignKeyRow}

theorem mem_rowsOf {name : TableName} {row : ForeignKeyRow} :
    row ∈ rowsOf name rows ↔ row ∈ rows ∧ row.referenced = name := by
  rw [rowsOf, List.mem_filter, decide_eq_true_eq, (isStableSort_inOrder rows).perm.mem_iff]

theorem rowsOf_perm_filter (name : TableName) (rows : List ForeignKeyRow) :
    (rowsOf name rows).Perm (rows.filter fun row => row.referenced = name) :=
  (isStableSort_inOrder rows).perm.filter _

theorem ordered_rowsOf (name : TableName) (rows : List ForeignKeyRow) :
    (rowsOf name rows).Pairwise fun left right => (left.order.compare right.order).isLE :=
  (isStableSort_inOrder rows).ordered.filter _

theorem isMadeOf_rowsOf {key : ForeignKey} (key_mem : key ∈ group rows) :
    key.IsMadeOf (rowsOf key.referenced rows) :=
  isMadeOf_filter_of_mem_ofOrderedRows (ascending_inOrder rows) key key_mem

theorem mem_map_referenced_group {name : TableName} :
    name ∈ (group rows).map referenced ↔ name ∈ rows.map ForeignKeyRow.referenced := by
  rw [group, mem_map_referenced_ofOrderedRows]
  exact ((isStableSort_inOrder rows).perm.map _).mem_iff

theorem exists_key_of_mem {row : ForeignKeyRow} (row_mem : row ∈ rows) :
    ∃ key ∈ group rows, key.referenced = row.referenced :=
  List.mem_map.mp (mem_map_referenced_group.mpr (List.mem_map_of_mem row_mem))

theorem pairwise_group (rows : List ForeignKeyRow) :
    (group rows).Pairwise fun left right =>
      TableName.compare left.referenced right.referenced = .lt :=
  pairwise_ofOrderedRows (ascending_inOrder rows)

theorem nodup_map_referenced_group (rows : List ForeignKeyRow) :
    ((group rows).map referenced).Nodup :=
  List.pairwise_map.mpr ((pairwise_group rows).imp TableName.ne_of_compare_eq_lt)

theorem exists_head?_rowsOf {key : ForeignKey} (key_mem : key ∈ group rows) :
    ∃ first, (rowsOf key.referenced rows).head? = some first := by
  rcases (isMadeOf_rowsOf key_mem).of_first with ⟨first, others, rows_eq, _⟩
  exact ⟨first, by rw [rows_eq, List.head?_cons]⟩

theorem keyName_eq_of_head? {key : ForeignKey} {first : ForeignKeyRow}
    (key_mem : key ∈ group rows) (is_first : (rowsOf key.referenced rows).head? = some first) :
    key.keyName = first.fkConstraintName := by
  rcases (isMadeOf_rowsOf key_mem).of_first with ⟨opener, others, rows_eq, keyName_eq, _⟩
  rw [rows_eq, List.head?_cons, Option.some_inj] at is_first
  rw [keyName_eq, is_first]

theorem exists_key_keyName_iff (rows : List ForeignKeyRow) (name : String) :
    (∃ key ∈ group rows, key.keyName = name) ↔
      ∃ first ∈ rows, (rowsOf first.referenced rows).head? = some first ∧
        first.fkConstraintName = name := by
  constructor
  · rintro ⟨key, key_mem, rfl⟩
    rcases exists_head?_rowsOf key_mem with ⟨first, is_first⟩
    have own := mem_rowsOf.mp (List.mem_of_head? is_first)
    refine ⟨first, own.1, ?_, (keyName_eq_of_head? key_mem is_first).symm⟩
    rw [own.2]
    exact is_first
  · rintro ⟨first, first_mem, is_first, rfl⟩
    rcases exists_key_of_mem first_mem with ⟨key, key_mem, referenced_eq⟩
    rw [← referenced_eq] at is_first
    exact ⟨key, key_mem, keyName_eq_of_head? key_mem is_first⟩

/-- All rows that refer to a table are of one constraint. -/
def HasOneConstraint (name : TableName) (rows : List ForeignKeyRow) : Prop :=
  ∀ row ∈ rowsOf name rows, ∀ other ∈ rowsOf name rows,
    row.fkConstraintName = other.fkConstraintName

theorem hasOneConstraint_iff {key : ForeignKey} (key_mem : key ∈ group rows) :
    HasOneConstraint key.referenced rows ↔
      ∀ row ∈ rowsOf key.referenced rows, row.fkConstraintName = key.keyName := by
  constructor
  · intro one row row_own
    rcases exists_head?_rowsOf key_mem with ⟨first, is_first⟩
    rw [keyName_eq_of_head? key_mem is_first]
    exact one row row_own first (List.mem_of_head? is_first)
  · intro named row row_mem other other_mem
    rw [named row row_mem, named other other_mem]

/-- A row of a table of orders: a column that refers to a customer. -/
def customerRow (constraintName columnName : String) : ForeignKeyRow where
  fkTableCatalog := "shop"
  fkTableSchema := "public"
  fkTableName := "orders"
  fkConstraintName := constraintName
  fkColumnName := columnName
  fkOrdinalPosition := 1
  uqTableCatalog := "shop"
  uqTableSchema := "public"
  uqTableName := "customer"
  uqConstraintName := "customer_pkey"
  uqColumnName := "id"
  uqOrdinalPosition := 1
  updateRule := "NO ACTION"
  deleteRule := "CASCADE"
  matchOption := "NONE"

/-- An order refers to the customer who pays and to the one who receives: both go into one key, and
the name of the second constraint is gone. -/
theorem group_merges_billing_and_shipping :
    let rows := [customerRow "orders_billing_fk" "billing_id",
      customerRow "orders_shipping_fk" "shipping_id"]
    (group rows).map (fun key => (key.keyName, key.columnPairs)) =
      [("orders_billing_fk", [("billing_id", "id"), ("shipping_id", "id")])] ∧
    ¬(∀ key ∈ group rows, ∀ pair ∈ key.columnPairs,
      ∃ row ∈ rows, row.columnPair = pair ∧ row.fkConstraintName = key.keyName) ∧
    ¬(∀ row ∈ rows, ∃ key ∈ group rows, key.keyName = row.fkConstraintName) := by
  intro rows
  have in_order : inOrder rows = rows := List.mergeSort_of_pairwise (by decide +kernel)
  have group_eq : group rows = ofOrderedRows rows := by rw [group, in_order]
  rw [group_eq]
  decide +kernel

/--
Two rows share a key exactly if they refer to one table, so rows of different constraints do so too.
A key has the column pairs of all rows of its table and the name of the first of them in order; it
is a single constraint exactly if these rows are. The names of the keys are those of the first rows
of the tables; if each table is referred to by one constraint, every key is one constraint and no
constraint is without a key.
-/
theorem group_collects_constraints_by_table (rows : List ForeignKeyRow) :
    (∀ row ∈ rows, ∀ other ∈ rows,
      (∃ key ∈ group rows, row ∈ rowsOf key.referenced rows ∧ other ∈ rowsOf key.referenced rows) ↔
        row.referenced = other.referenced) ∧
    ((group rows).map referenced).Nodup ∧
    (∀ key ∈ group rows,
      key.columnPairs.Perm ((rows.filter fun row => row.referenced = key.referenced).map
        ForeignKeyRow.columnPair) ∧
      (∃ first, (rowsOf key.referenced rows).head? = some first ∧
        first.fkConstraintName = key.keyName) ∧
      (HasOneConstraint key.referenced rows ↔
        ∀ row ∈ rowsOf key.referenced rows, row.fkConstraintName = key.keyName)) ∧
    (∀ name, (∃ key ∈ group rows, key.keyName = name) ↔
      ∃ first ∈ rows, (rowsOf first.referenced rows).head? = some first ∧
        first.fkConstraintName = name) ∧
    ((∀ row ∈ rows, HasOneConstraint row.referenced rows) →
      (∀ key ∈ group rows, ∀ row ∈ rowsOf key.referenced rows,
        row.fkConstraintName = key.keyName) ∧
      ∀ row ∈ rows, ∃ key ∈ group rows, key.keyName = row.fkConstraintName) := by
  refine ⟨?_, nodup_map_referenced_group rows, ?_, exists_key_keyName_iff rows, ?_⟩
  · intro row row_mem other other_mem
    constructor
    · rintro ⟨key, _, row_own, other_own⟩
      exact (mem_rowsOf.mp row_own).2.trans (mem_rowsOf.mp other_own).2.symm
    · intro same
      rcases exists_key_of_mem row_mem with ⟨key, key_mem, referenced_eq⟩
      exact ⟨key, key_mem, mem_rowsOf.mpr ⟨row_mem, referenced_eq.symm⟩,
        mem_rowsOf.mpr ⟨other_mem, same.symm.trans referenced_eq.symm⟩⟩
  · intro key key_mem
    refine ⟨?_, ?_, hasOneConstraint_iff key_mem⟩
    · rw [(isMadeOf_rowsOf key_mem).columnPairs_eq]
      exact (rowsOf_perm_filter key.referenced rows).map _
    · rcases exists_head?_rowsOf key_mem with ⟨first, is_first⟩
      exact ⟨first, is_first, (keyName_eq_of_head? key_mem is_first).symm⟩
  · intro one
    have named : ∀ key ∈ group rows, ∀ row ∈ rowsOf key.referenced rows,
        row.fkConstraintName = key.keyName := by
      intro key key_mem row row_own
      rcases mem_rowsOf.mp row_own with ⟨row_mem, row_referenced⟩
      have table_one := one row row_mem
      rw [row_referenced] at table_one
      exact (hasOneConstraint_iff key_mem).mp table_one row row_own
    refine ⟨named, ?_⟩
    intro row row_mem
    rcases exists_key_of_mem row_mem with ⟨key, key_mem, referenced_eq⟩
    have row_own := mem_rowsOf.mpr ⟨row_mem, referenced_eq.symm⟩
    exact ⟨key, key_mem, (named key key_mem row row_own).symm⟩

theorem group_collects_constraints_by_table_customer :
    let billing := customerRow "orders_billing_fk" "billing_id"
    let shipping := customerRow "orders_shipping_fk" "shipping_id"
    let rows := [billing, shipping]
    (∃ key ∈ group rows, billing ∈ rowsOf key.referenced rows ∧
      shipping ∈ rowsOf key.referenced rows ∧
      key.columnPairs.Perm [("billing_id", "id"), ("shipping_id", "id")]) ∧
    (∀ row ∈ [billing], HasOneConstraint row.referenced [billing]) ∧
    ∃ key ∈ group [billing], key.keyName = "orders_billing_fk" := by
  intro billing shipping rows
  have one : ∀ row ∈ [billing], HasOneConstraint row.referenced [billing] := by
    intro row _ left left_own right right_own
    rw [List.mem_singleton.mp (mem_rowsOf.mp left_own).1,
      List.mem_singleton.mp (mem_rowsOf.mp right_own).1]
  refine ⟨?_, one, ?_⟩
  · rcases group_collects_constraints_by_table rows with ⟨share, _, collected, _⟩
    have shared := (share billing (by decide) shipping (by decide)).mpr rfl
    rcases shared with ⟨key, key_mem, billing_own, shipping_own⟩
    have pairs_perm := (collected key key_mem).1
    rw [← (mem_rowsOf.mp billing_own).2] at pairs_perm
    exact ⟨key, key_mem, billing_own, shipping_own, pairs_perm⟩
  · rcases group_collects_constraints_by_table [billing] with ⟨_, _, _, _, all_named⟩
    exact (all_named one).2 billing (by decide)

end SchemaLens.Schema.ForeignKey
