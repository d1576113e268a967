import SchemaLens.Naming.CapitalCase
import SchemaLens.Naming.FieldType
import SchemaLens.Schema.Row
import SchemaLens.Text.LowerCase

/-!
# Columns

A column of a model, made from its catalog row and the constraints it is used in. A column with
a default that belongs to the primary key and does not take null is taken for a key that the
database counts up; the catalog is not asked.
-/

namespace SchemaLens.Schema

open Naming (AutoIncrementType FieldType capitalCase)

/-- A column of a model. -/
structure Column where
  /-- The name in the database. -/
  columnName : String
  /-- The name in the model, in capital case. -/
  fieldName : String
  /-- The name in the model in lower case, as filters use it. -/
  fieldNameLowerCase : String
  fieldType : FieldType
  /-- The type in the database. -/
  dataType : String
  /-- The greatest number of characters, where the type has one. -/
  dataTypeSize : Option Int64
  isNullable : Bool
  hasDefault : Bool
  isPrimaryKeyColumn : Bool
  isUnique : Bool
  /-- Whether the column is taken for a counted key. -/
  isAutoIncrementColumn : Bool
  autoIncrementType : Option AutoIncrementType
deriving DecidableEq, Repr

/-- The column of a row that is used in the given constraints. -/
def Column.ofRow (row : ColumnRow) (keyUsage : List KeyUsageRow) : Column :=
  let fieldName := capitalCase row.columnName
  let isNullable := row.isNullable == some "YES"
  let hasDefault := row.columnDefault.isSome
  let isPrimaryKeyColumn := keyUsage.any KeyUsageRow.isPrimaryKey
  let isAutoIncrementColumn := hasDefault && isPrimaryKeyColumn && !isNullable
  {
    columnName := row.columnName
    fieldName
    fieldNameLowerCase := Text.lowerCase fieldName
    fieldType := FieldType.ofDataType row.dataType
    dataType := row.dataType
    dataTypeSize := row.characterMaximumLength.map Int32.toInt64
    isNullable
    hasDefault
    isPrimaryKeyColumn
    isUnique := keyUsage.any KeyUsageRow.isUnique
    isAutoIncrementColumn
    autoIncrementType :=
      if isAutoIncrementColumn then AutoIncrementType.ofDataType? row.dataType else none
  }

end SchemaLens.Schema
