/-!
# Catalog rows

The rows that a database catalog answers with: tables, columns, the use of columns in
constraints, and the column pairs of foreign keys.
-/

namespace SchemaLens.Schema

/-- A table of the catalog. -/
structure TableRow where
  tableCatalog : String
  tableSchema : String
  tableName : String
  tableType : String
deriving DecidableEq, Repr

/-- A column of a table. -/
structure ColumnRow where
  tableCatalog : String
  tableSchema : String
  tableName : String
  columnName : String
  ordinalPosition : Option Int32
  columnDefault : Option String
  /-- `YES` if the column takes null. -/
  isNullable : Option String
  dataType : String
  characterMaximumLength : Option Int32
deriving DecidableEq, Repr

/-- The use of a column in a constraint. -/
structure KeyUsageRow where
  constraintCatalog : String
  constraintSchema : String
  constraintName : String
  tableName : String
  columnName : String
  /-- `PRIMARY KEY`, `UNIQUE`, `FOREIGN KEY` or another type of constraint. -/
  constraintType : String
  ordinalPosition : Int32
  positionInUniqueConstraint : Option Int32
deriving DecidableEq, Repr

namespace KeyUsageRow

/-- Whether the constraint is a primary key. -/
def isPrimaryKey (row : KeyUsageRow) : Bool :=
  row.constraintType == "PRIMARY KEY"

/-- Whether the constraint makes values unique. -/
def isUnique (row : KeyUsageRow) : Bool :=
  row.constraintType == "UNIQUE"

end KeyUsageRow

/-- What identifies a table. -/
structure TableName where
  /-- The catalog that holds the schema. -/
  database : String
  /-- The schema that holds the table. -/
  schema : String
  /-- The name of the table within its schema. -/
  table : String
deriving DecidableEq, Repr

/-- A column of a foreign key beside the column it refers to. -/
structure ForeignKeyRow where
  fkTableCatalog : String
  fkTableSchema : String
  fkTableName : String
  fkConstraintName : String
  fkColumnName : String
  fkOrdinalPosition : Int32
  uqTableCatalog : String
  uqTableSchema : String
  uqTableName : String
  uqConstraintName : String
  uqColumnName : String
  uqOrdinalPosition : Int32
  updateRule : String
  deleteRule : String
  matchOption : String
deriving DecidableEq, Repr

/-- The table that a foreign key row refers to. -/
def ForeignKeyRow.referenced (row : ForeignKeyRow) : TableName where
  database := row.uqTableCatalog
  schema := row.uqTableSchema
  table := row.uqTableName

end SchemaLens.Schema
