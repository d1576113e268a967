import SchemaLens.Naming.Plural
import SchemaLens.Schema.Column
import SchemaLens.Schema.ForeignKey

/-!
# Tables

A table of the metamodel: its names, its columns, the columns to write, the primary key and the
counted key, all derived from the catalog rows.
-/

namespace SchemaLens.Schema

open Naming (FieldType capitalCase pluralize)

/-- The counted key of a table. -/
structure AutoIncrementKey where
  columnName : String
  fieldName : String
  /-- The generic type, if the database type has a counted form. -/
  fieldType : Option FieldType
deriving DecidableEq, Repr

/-- A table of the metamodel. -/
structure Table where
  databaseName : String
  schemaName : String
  tableName : String
  /-- The name of the model, in capital case. -/
  modelName : String
  modelNameLowerCase : String
  modelNameLowerCasePlural : String
  /-- The columns in the order of the catalog. -/
  columns : List Column
  foreignKeys : List ForeignKey
  /-- The columns to give values when a row is added. -/
  insertColumns : List Column
  /-- The columns to give values when a row is changed. -/
  updateColumns : List Column
  /-- The columns of the primary key. -/
  primaryKeyColumns : List Column
  hasPrimaryKeys : Bool
  autoIncrement : Option AutoIncrementKey
deriving DecidableEq, Repr

namespace Column

/-- The counted key that a column makes. -/
def autoIncrementKey (column : Column) : AutoIncrementKey where
  columnName := column.columnName
  fieldName := column.fieldName
  fieldType := column.autoIncrementType.map Naming.AutoIncrementType.fieldType

end Column

namespace Table

/-- The table of a row with its columns and foreign keys. If several columns are taken for
counted keys, the last of them is the counted key of the table. -/
def ofRow (row : TableRow) (columns : List Column) (foreignKeys : List ForeignKey) : Table :=
  let modelName := capitalCase row.tableName
  let modelNameLowerCase := Text.lowerCase modelName
  let writable := columns.filter (!·.isAutoIncrementColumn)
  let primaryKeyColumns := columns.filter (·.isPrimaryKeyColumn)
  let counted := columns.filter (·.isAutoIncrementColumn)
  {
    databaseName := row.tableCatalog
    schemaName := row.tableSchema
    tableName := row.tableName
    modelName
    modelNameLowerCase
    modelNameLowerCasePlural := pluralize modelNameLowerCase
    columns
    foreignKeys
    insertColumns := writable
    updateColumns := writable
    primaryKeyColumns
    hasPrimaryKeys := !primaryKeyColumns.isEmpty
    autoIncrement := counted.getLast?.map Column.autoIncrementKey
  }

/-- The first column with a name in the database. -/
def column? (table : Table) (columnName : String) : Option Column :=
  table.columns.find? (·.columnName == columnName)

/-- The first column with a name in the model, in any case. -/
def columnByField? (table : Table) (fieldName : String) : Option Column :=
  table.columns.find? (·.fieldNameLowerCase == Text.lowerCase fieldName)

/-- The column of the counted key. -/
def autoIncrementColumn? (table : Table) : Option Column :=
  table.autoIncrement.bind fun key => table.column? key.columnName

/-- The schema and the name of a table, joined by a dot. -/
def qualifiedName (table : Table) : String :=
  table.schemaName ++ "." ++ table.tableName

end Table

end SchemaLens.Schema
