import SchemaLens.Proofs.Naming.FieldType
import SchemaLens.Proofs.Schema.Answered

/-!
# The views of a table agree

A table shows its columns several times over: those to write, those of the primary key, a flag, and
a counted key by its name. All of them are derived from one list of columns, and so they agree
however defaults, nullability and constraints are mixed. Several columns of a table may be taken for
counted keys; the counted key of the table is then the last of them, and its name leads back to that
column if no two columns share a name.
-/

namespace SchemaLens

namespace Schema

variable {Failure : Type}

/-- A column says what its row says, and which constraints the column is used in. -/
structure Column.IsMadeFrom (column : Column) (row : ColumnRow) (keyUsage : List KeyUsageRow) :
    Prop where
  eq_ofRow : column = Column.ofRow row keyUsage
  isPrimaryKeyColumn_iff : column.isPrimaryKeyColumn = true ↔
    ∃ usage ∈ keyUsage, usage.constraintType = "PRIMARY KEY"
  isAutoIncrementColumn_iff : column.isAutoIncrementColumn = true ↔
    row.columnDefault.isSome = true ∧
      (∃ usage ∈ keyUsage, usage.constraintType = "PRIMARY KEY") ∧ row.isNullable ≠ some "YES"

/-- What a column says of a counted key agrees with what else it says. -/
structure Column.IsCoherent (column : Column) : Prop where
  isPrimaryKeyColumn_of_counted :
    column.isAutoIncrementColumn = true → column.isPrimaryKeyColumn = true
  counted_of_autoIncrementType :
    column.autoIncrementType ≠ none → column.isAutoIncrementColumn = true
  fieldType_eq : ∀ type, column.autoIncrementType = some type → type.fieldType = column.fieldType

namespace Column

theorem isMadeFrom_ofRow (row : ColumnRow) (keyUsage : List KeyUsageRow) :
    (ofRow row keyUsage).IsMadeFrom row keyUsage where
  eq_ofRow := rfl
  isPrimaryKeyColumn_iff := by simp [ofRow, KeyUsageRow.isPrimaryKey]
  isAutoIncrementColumn_iff := by simp [ofRow, KeyUsageRow.isPrimaryKey, and_assoc]

theorem isCoherent_ofRow (row : ColumnRow) (keyUsage : List KeyUsageRow) :
    (ofRow row keyUsage).IsCoherent where
  isPrimaryKeyColumn_of_counted := by
    simp only [ofRow, Bool.and_eq_true]
    intro counted
    exact counted.1.2
  counted_of_autoIncrementType := by
    simp only [ofRow]
    intro typed
    by_contra uncounted
    exact typed (if_neg uncounted)
  fieldType_eq := by
    intro type typed
    simp only [ofRow, Option.ite_none_right_eq_some] at typed ⊢
    exact Naming.AutoIncrementType.fieldType_of_ofDataType? typed.2

end Column

namespace Table

/-- The column is taken for a counted key, and no later column is. -/
def IsLastCounted (table : Table) (column : Column) : Prop :=
  ∃ before after, table.columns = before ++ column :: after ∧
    column.isAutoIncrementColumn = true ∧
    ∀ later ∈ after, later.isAutoIncrementColumn = false

/-- All that a table shows of its columns is what the columns themselves say. -/
structure ViewsAgree (table : Table) : Prop where
  insertColumns_eq : table.insertColumns = table.columns.filter (!·.isAutoIncrementColumn)
  updateColumns_eq : table.updateColumns = table.columns.filter (!·.isAutoIncrementColumn)
  primaryKeyColumns_eq : table.primaryKeyColumns = table.columns.filter (·.isPrimaryKeyColumn)
  mem_primaryKeyColumns : ∀ column ∈ table.columns, column ∉ table.insertColumns →
    column ∈ table.primaryKeyColumns
  hasPrimaryKeys_iff : table.hasPrimaryKeys = true ↔ table.primaryKeyColumns ≠ []
  columns_coherent : ∀ column ∈ table.columns, column.IsCoherent
  autoIncrement_isSome_iff : table.autoIncrement.isSome = true ↔
    ∃ column ∈ table.columns, column.isAutoIncrementColumn = true
  autoIncrement_last : ∀ key, table.autoIncrement = some key →
    ∃ counted, table.IsLastCounted counted ∧
      key.columnName = counted.columnName ∧ key.fieldName = counted.fieldName ∧
      (key.fieldType.isSome = true ↔ counted.autoIncrementType.isSome = true) ∧
      ((table.columns.map Column.columnName).Nodup → table.autoIncrementColumn? = some counted)

theorem column?_eq_some_of_mem {table : Table}
    (distinct : (table.columns.map Column.columnName).Nodup) {column : Column}
    (column_mem : column ∈ table.columns) : table.column? column.columnName = some column := by
  unfold column?
  generalize table.columns = columns at distinct column_mem
  induction columns with
  | nil => exact absurd column_mem List.not_mem_nil
  | cons first rest ih =>
      rw [List.map_cons, List.nodup_cons] at distinct
      rcases List.mem_cons.mp column_mem with rfl | column_mem
      · simp
      · have differs : ¬first.columnName = column.columnName := by
          intro same
          apply distinct.1
          rw [same]
          exact List.mem_map_of_mem column_mem
        rw [List.find?_cons_of_neg (by simpa using differs)]
        exact ih distinct.2 column_mem

theorem IsLastCounted.mem {table : Table} {column : Column}
    (last : table.IsLastCounted column) : column ∈ table.columns := by
  rcases last with ⟨before, after, columns_eq, -, -⟩
  rw [columns_eq]
  simp

section OfRow

variable {row : TableRow} {columns : List Column} {foreignKeys : List ForeignKey}

/-- The counted key of a table is that of the last column that is taken for one. -/
theorem exists_isLastCounted_of_autoIncrement {key : AutoIncrementKey}
    (named : (ofRow row columns foreignKeys).autoIncrement = some key) :
    ∃ counted, (ofRow row columns foreignKeys).IsLastCounted counted ∧
      key = counted.autoIncrementKey := by
  rcases Option.map_eq_some_iff.mp named with ⟨counted, last, rfl⟩
  rcases List.getLast?_eq_some_iff.mp last with ⟨earlier, counted_eq⟩
  rcases List.filter_eq_append_iff.mp counted_eq with ⟨before, rest, columns_eq, -, rest_eq⟩
  rcases List.filter_eq_cons_iff.mp rest_eq with ⟨between, after, rfl, -, flagged, after_eq⟩
  refine ⟨counted, ⟨before ++ between, after, ?_, flagged, ?_⟩, rfl⟩
  · simpa [ofRow] using columns_eq
  · simpa using after_eq

theorem autoIncrement_ofRow_isSome_iff :
    (ofRow row columns foreignKeys).autoIncrement.isSome = true ↔
      ∃ column ∈ columns, column.isAutoIncrementColumn = true := by
  simp [ofRow]

theorem viewsAgree_ofRow (coherent : ∀ column ∈ columns, column.IsCoherent) :
    (ofRow row columns foreignKeys).ViewsAgree where
  insertColumns_eq := rfl
  updateColumns_eq := rfl
  primaryKeyColumns_eq := rfl
  mem_primaryKeyColumns := by
    intro column column_mem not_written
    have counted : column.isAutoIncrementColumn = true := by
      by_contra uncounted
      apply not_written
      exact List.mem_filter.mpr ⟨column_mem, by simpa using uncounted⟩
    exact List.mem_filter.mpr
      ⟨column_mem, (coherent column column_mem).isPrimaryKeyColumn_of_counted counted⟩
  hasPrimaryKeys_iff := by simp [ofRow]
  columns_coherent := coherent
  autoIncrement_isSome_iff := autoIncrement_ofRow_isSome_iff
  autoIncrement_last := by
    intro key named
    rcases exists_isLastCounted_of_autoIncrement named with ⟨counted, last, rfl⟩
    refine ⟨counted, last, rfl, rfl, ?_, ?_⟩
    · simp [Column.autoIncrementKey]
    · intro distinct
      simp only [autoIncrementColumn?, named, Option.bind_some]
      exact column?_eq_some_of_mem distinct last.mem

end OfRow

end Table

open Reflecting (ColumnAnswered TableAnswered)

theorem forall_isCoherent_of_forall₂_columnAnswered {catalog : Catalog Failure}
    {database schema table : String} {numbered : List (ColumnRow × Nat)} {columns : List Column}
    (answered : List.Forall₂ (ColumnAnswered catalog database schema table) numbered columns) :
    ∀ column ∈ columns, column.IsCoherent := by
  intro column column_mem
  rcases Reflecting.exists_eq_ofRow_of_forall₂_columnAnswered answered column column_mem with
    ⟨row, keyUsage, rfl⟩
  exact Column.isCoherent_ofRow row keyUsage

/--
Each table of a reflection that succeeds is made of the answers to calls that were made one after
another: its columns stand for the rows of the answer to the first of them, one each and in order,
and for the constraints that each of them was answered to be used in. All views of the columns agree
with them.
-/
theorem reflect_viewsAgree {catalog : Catalog Failure} {database schema : String}
    {tables : List Table} (reflected : (reflect catalog database schema).1 = .ok tables) :
    ∀ table ∈ tables,
      (∃ earlier later columnRows,
        (reflect catalog database schema).2.calls =
          earlier ++ [.columns database schema table.tableName,
            .foreignKeyPairs database schema table.tableName] ++
            columnRows.map (fun row : ColumnRow =>
              .columnKeyUsage database schema table.tableName row.columnName) ++ later ∧
        catalog.answer earlier.length (.columns database schema table.tableName) =
          .ok columnRows ∧
        List.Forall₂ (fun (numbered : ColumnRow × Nat) column =>
          ∃ keyUsage, catalog.answer numbered.2
              (.columnKeyUsage database schema table.tableName numbered.1.columnName) =
                .ok keyUsage ∧
            column.IsMadeFrom numbered.1 keyUsage)
          (columnRows.zipIdx (earlier.length + 2)) table.columns) ∧
      table.ViewsAgree := by
  intro table table_mem
  rcases exists_tableAnswered_of_mem reflected table_mem with
    ⟨row, earlier, own, later, columnRows, calls_eq, answered⟩
  have name_eq : table.tableName = row.tableName := congrArg Table.tableName answered.eq_ofRow
  constructor
  · refine ⟨earlier, later, columnRows, ?_, ?_, ?_⟩
    · rw [calls_eq, answered.calls_eq, name_eq]
      simp [Reflecting.keyUsageCall]
    · rw [name_eq]
      exact answered.columnRows_answered
    · rw [name_eq]
      apply answered.columns_answered.imp
      rintro numbered column ⟨keyUsage, usage_answered, rfl⟩
      exact ⟨keyUsage, usage_answered, Column.isMadeFrom_ofRow numbered.1 keyUsage⟩
  · rw [answered.eq_ofRow]
    exact Table.viewsAgree_ofRow
      (forall_isCoherent_of_forall₂_columnAnswered answered.columns_answered)

/-- The rows of a schema with a table of invoice lines. Two columns with a default make up its
primary key, and the type of the second has no counted form. -/
def invoiceRows : (call : CatalogCall) → List call.Row
  | .baseTables database schema =>
    [{ tableCatalog := database, tableSchema := schema, tableName := "invoice_line"
       tableType := "BASE TABLE" }]
  | .columns database schema table =>
    [("invoice_id", some "nextval('invoice')", "NO", "bigint"),
      ("line_id", some "gen_random_uuid()", "NO", "uuid"), ("note", none, "YES", "text")].map
      fun (name, columnDefault, isNullable, dataType) =>
        { tableCatalog := database, tableSchema := schema, tableName := table, columnName := name
          ordinalPosition := none, columnDefault, isNullable := some isNullable, dataType
          characterMaximumLength := none }
  | .foreignKeyPairs .. => []
  | .columnKeyUsage database schema table column =>
    if column = "note" then []
    else
      [{ constraintCatalog := database, constraintSchema := schema
         constraintName := "invoice_line_pkey", tableName := table, columnName := column
         constraintType := "PRIMARY KEY", ordinalPosition := 1
         positionInUniqueConstraint := none }]

/-- Of two columns that are taken for counted keys the last one is the counted key of its table,
even though its type has no counted form. -/
theorem reflect_viewsAgree_invoiceRows :
    let catalog : Catalog String := .ofAnswers fun call => .ok (invoiceRows call)
    ∃ table invoiceId lineId note, (reflect catalog "shop" "public").1 = .ok [table] ∧
      table.columns = [invoiceId, lineId, note] ∧ table.insertColumns = [note] ∧
      table.primaryKeyColumns = [invoiceId, lineId] ∧
      table.autoIncrement = some ⟨"line_id", "LineId", none⟩ ∧
      table.autoIncrementColumn? = some lineId ∧ table.ViewsAgree := by
  intro catalog
  let table := Reflecting.tableOf invoiceRows "shop" "public" {
    tableCatalog := "shop", tableSchema := "public", tableName := "invoice_line"
    tableType := "BASE TABLE" }
  have answers : catalog.Answers 0 (Reflecting.schemaPlan invoiceRows "shop" "public") :=
    fun _ call _ => ⟨invoiceRows call, rfl⟩
  rcases (Reflecting.carriesOut_tables (Catalog.answersBy_ofAnswers invoiceRows) "shop"
    "public").completes {} answers with ⟨events, run_eq⟩
  have reflected : (reflect catalog "shop" "public").1 = .ok [table] := congrArg Prod.fst run_eq
  have agree := (reflect_viewsAgree reflected table List.mem_cons_self).2
  refine ⟨table, table.columns[0], table.columns[1], table.columns[2], reflected, rfl,
    by decide +kernel, by decide +kernel, by decide +kernel, by decide +kernel, agree⟩

end Schema

end SchemaLens
