import Mathlib.Data.List.Find
import SchemaLens.Proofs.Naming.CapitalCase
import SchemaLens.Proofs.Query.NamedField
import SchemaLens.Proofs.Schema.Answered

/-!
# Reflected fields in filters

The names that a reflection makes for the columns of a table are the names that filters use. What
is left of a column name in either of its forms can be written in each kind of filter that names
fields, and in whatever case it comes back it leads to a column: to the first one whose name has
the same letters and digits.
-/

namespace SchemaLens.Schema

open Naming (lettersAndDigits)
open Query (FindQuery Operator QueryKind SortDirection Values)

variable {Failure : Type}

/-- A column has the names that its name in the database makes. -/
structure Column.IsNamed (column : Column) : Prop where
  fieldName_eq : column.fieldName = Naming.capitalCase column.columnName
  fieldNameLowerCase_eq : column.fieldNameLowerCase = lettersAndDigits column.columnName

namespace Column

theorem isNamed_ofRow (row : ColumnRow) (keyUsage : List KeyUsageRow) :
    (ofRow row keyUsage).IsNamed where
  fieldName_eq := rfl
  fieldNameLowerCase_eq := Naming.lowerCase_capitalCase row.columnName

/-- The names of a column that filters may use. -/
def filterNames (column : Column) : List String :=
  [column.fieldName, column.fieldNameLowerCase]

namespace IsNamed

variable {column : Column} (isNamed : column.IsNamed) {name : String}

include isNamed

theorem lowerCase_fieldName : Text.lowerCase column.fieldName = column.fieldNameLowerCase := by
  rw [isNamed.fieldName_eq, isNamed.fieldNameLowerCase_eq, Naming.lowerCase_capitalCase]

theorem isAsciiWord_of_mem_fieldName :
    ∀ character ∈ column.fieldName.toList, Text.isAsciiWord character = true := by
  rw [isNamed.fieldName_eq]
  exact Naming.isAsciiWord_of_mem_capitalCase

theorem asciiLower_of_mem_filterNames (name_mem : name ∈ column.filterNames) :
    Text.asciiLower name.toList = Text.asciiLower column.fieldName.toList := by
  rw [filterNames, List.mem_cons, List.mem_singleton] at name_mem
  rcases name_mem with rfl | rfl
  · rfl
  · rw [← isNamed.lowerCase_fieldName,
      Text.lowerCase_of_isAsciiWord isNamed.isAsciiWord_of_mem_fieldName, String.toList_ofList,
      Text.asciiLower_asciiLower]

theorem isAsciiWord_of_mem_filterNames (name_mem : name ∈ column.filterNames) :
    ∀ character ∈ name.toList, Text.isAsciiWord character = true := by
  rw [← Text.forall_isAsciiWord_asciiLower, isNamed.asciiLower_of_mem_filterNames name_mem,
    Text.forall_isAsciiWord_asciiLower]
  exact isNamed.isAsciiWord_of_mem_fieldName

theorem ne_empty_of_mem_filterNames (named : column.fieldName ≠ "")
    (name_mem : name ∈ column.filterNames) : name ≠ "" := by
  rintro rfl
  have lowered := congrArg List.length (isNamed.asciiLower_of_mem_filterNames name_mem)
  rw [Text.length_asciiLower, Text.length_asciiLower] at lowered
  apply named
  rw [← String.toList_eq_nil_iff]
  exact List.length_eq_zero_iff.mp lowered.symm

end IsNamed

end Column

theorem isNamed_of_mem_columns {catalog : Catalog Failure} {database schema : String}
    {tables : List Table} (reflected : (reflect catalog database schema).1 = .ok tables)
    {table : Table} (table_mem : table ∈ tables) :
    ∀ column ∈ table.columns, column.IsNamed := by
  intro column column_mem
  rcases exists_tableAnswered_of_mem reflected table_mem with ⟨row, _, _, _, _, -, answered⟩
  rcases Reflecting.exists_eq_ofRow_of_forall₂_columnAnswered answered.columns_answered column
    column_mem with ⟨columnRow, keyUsage, rfl⟩
  exact Column.isNamed_ofRow columnRow keyUsage

/-- A field is looked up by the letters and digits of the names in the database. -/
theorem Table.columnByField?_eq_find? {table : Table}
    (named : ∀ column ∈ table.columns, column.IsNamed) (fieldName : String) :
    table.columnByField? fieldName = table.columns.find? fun column =>
      lettersAndDigits column.columnName == Text.lowerCase fieldName := by
  apply List.find?_congr
  intro column column_mem
  rw [(named column column_mem).fieldNameLowerCase_eq]

/--
A column of a reflection that has a field name can be addressed by it, in capital or lower case. A
condition, an order and a list of fields that use the name, in any order and whatever the case of
operator and direction, are read as a query about exactly this name. Looking the name up in any case
of its letters finds a column: the first whose name in the database has its letters and digits.
-/
theorem reflect_fields_addressable {catalog : Catalog Failure} {database schema : String}
    {tables : List Table} (reflected : (reflect catalog database schema).1 = .ok tables) :
    ∀ table ∈ tables, ∀ column ∈ table.columns, column.fieldName ≠ "" →
      ∀ name ∈ column.filterNames,
        (∀ (operator : Operator) (direction : SortDirection) (operatorWord directionWord : String)
            (value : String) (pairs : List (String × String)),
          Text.asciiLower operatorWord.toList = (Named.name operator).toList →
          Text.asciiLower directionWord.toList = (Named.name direction).toList →
          pairs.Perm (FindQuery.aboutFieldPairs name operatorWord value directionWord) →
          let outcome := QueryKind.find.read {} (Values.ofPairs pairs)
          outcome.failure = none ∧
            outcome.descriptor = FindQuery.aboutField name operator value direction) ∧
        ∀ spelled : String, Text.asciiLower spelled.toList = Text.asciiLower name.toList →
          ∃ found, table.columnByField? spelled = some found ∧
            table.columns.find? (fun other =>
              lettersAndDigits other.columnName == column.fieldNameLowerCase) = some found := by
  intro table table_mem column column_mem named name name_mem
  have all_named := isNamed_of_mem_columns reflected table_mem
  have isNamed := all_named column column_mem
  constructor
  · intro operator direction operatorWord directionWord value pairs operator_spelled
      direction_spelled permuted
    exact FindQuery.read_aboutFieldPairs (isNamed.ne_empty_of_mem_filterNames named name_mem)
      (isNamed.isAsciiWord_of_mem_filterNames name_mem) operator_spelled direction_spelled value
      permuted
  · intro spelled same
    -- The lookup lowers by the full mapping, which on ASCII names is the ASCII one.
    have lowered : Text.lowerCase spelled = column.fieldNameLowerCase := by
      rw [← isNamed.lowerCase_fieldName]
      apply Text.lowerCase_eq_of_asciiLower_eq isNamed.isAsciiWord_of_mem_fieldName
      rw [same, isNamed.asciiLower_of_mem_filterNames name_mem]
    rw [Table.columnByField?_eq_find? all_named, lowered]
    have is_found : (table.columns.find? fun other =>
        lettersAndDigits other.columnName == column.fieldNameLowerCase).isSome = true := by
      rw [List.find?_isSome]
      exact ⟨column, column_mem, by simp [isNamed.fieldNameLowerCase_eq]⟩
    rcases Option.isSome_iff_exists.mp is_found with ⟨found, found_eq⟩
    exact ⟨found, found_eq, found_eq⟩

/-- The rows of a schema with one table. Two of its columns have the letters of a direction, the
third has letters outside ASCII. -/
def lookalikeRows : (call : CatalogCall) → List call.Row
  | .baseTables database schema =>
    [{ tableCatalog := database, tableSchema := schema, tableName := "shoe"
       tableType := "BASE TABLE" }]
  | .columns database schema table =>
    ["as_c", "ASC", "größe_2"].map fun columnName =>
      { tableCatalog := database, tableSchema := schema, tableName := table, columnName
        ordinalPosition := none, columnDefault := none, isNullable := some "YES"
        dataType := "text", characterMaximumLength := none }
  | .foreignKeyPairs .. => []
  | .columnKeyUsage .. => []

/-- A column that is named like a direction is ordered by as any other. Its name leads to the first
column with the same letters, which is another one. -/
theorem reflect_fields_addressable_lookalikeRows :
    let catalog : Catalog String := .ofAnswers fun call => .ok (lookalikeRows call)
    let outcome := QueryKind.find.read {} (Values.ofPairs
      [("filter[order]", "Asc DESC"), ("filter[fields]", "Asc"),
        ("filter[where][Asc][GtE]", " 7 ")])
    ∃ table asC asc size, (reflect catalog "shop" "public").1 = .ok [table] ∧
      table.columns = [asC, asc, size] ∧
      table.columns.map Column.filterNames = [["AsC", "asc"], ["Asc", "asc"], ["GrE2", "gre2"]] ∧
      (outcome.failure = none ∧
        outcome.descriptor = FindQuery.aboutField "Asc" .gte " 7 " .descending) ∧
      table.columnByField? "aSC" = some asC ∧ table.columnByField? "GRE2" = some size := by
  intro catalog outcome
  let table := Reflecting.tableOf lookalikeRows "shop" "public" {
    tableCatalog := "shop", tableSchema := "public", tableName := "shoe"
    tableType := "BASE TABLE" }
  have reflected : (reflect catalog "shop" "public").1 = .ok [table] :=
    reflect_ofAnswers lookalikeRows "shop" "public"
  have addressable := reflect_fields_addressable reflected table List.mem_cons_self
  have of_asc := addressable table.columns[1] (List.getElem_mem _) (by decide +kernel) "Asc"
    (by decide +kernel)
  have of_size := addressable table.columns[2] (List.getElem_mem _) (by decide +kernel) "GrE2"
    (by decide +kernel)
  rcases of_asc.2 "aSC" (by decide +kernel) with ⟨found, asc_found, first_asc⟩
  rcases of_size.2 "GRE2" (by decide +kernel) with ⟨other, size_found, first_size⟩
  refine ⟨table, table.columns[0], table.columns[1], table.columns[2], reflected, rfl,
    by decide +kernel, ?_, ?_, ?_⟩
  · exact of_asc.1 .gte .descending "GtE" "DESC" " 7 " _ (by decide +kernel) (by decide +kernel)
      (by decide +kernel)
  · rw [asc_found, ← first_asc]
    decide +kernel
  · rw [size_found, ← first_size]
    decide +kernel

end SchemaLens.Schema
