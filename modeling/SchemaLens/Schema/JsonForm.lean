import SchemaLens.Json.Record
import SchemaLens.Schema.Table

/-!
# JSON forms of the metamodel

Catalog rows and the types of the metamodel are records with one member for each of their
fields.
-/

namespace SchemaLens.Schema

instance : JsonRecord TableRow where
  make := TableRow.mk
  fields :=
    .required "table_catalog" TableRow.tableCatalog <|
    .required "table_schema" TableRow.tableSchema <|
    .required "table_name" TableRow.tableName <|
    .required "table_type" TableRow.tableType .done

instance : JsonRecord ColumnRow where
  make := ColumnRow.mk
  fields :=
    .required "table_catalog" ColumnRow.tableCatalog <|
    .required "table_schema" ColumnRow.tableSchema <|
    .required "table_name" ColumnRow.tableName <|
    .required "column_name" ColumnRow.columnName <|
    .optional "ordinal_position" ColumnRow.ordinalPosition <|
    .optional "column_default" ColumnRow.columnDefault <|
    .optional "is_nullable" ColumnRow.isNullable <|
    .required "data_type" ColumnRow.dataType <|
    .optional "character_maximum_length" ColumnRow.characterMaximumLength .done

instance : JsonRecord KeyUsageRow where
  make := KeyUsageRow.mk
  fields :=
    .required "constraint_catalog" KeyUsageRow.constraintCatalog <|
    .required "constraint_schema" KeyUsageRow.constraintSchema <|
    .required "constraint_name" KeyUsageRow.constraintName <|
    .required "table_name" KeyUsageRow.tableName <|
    .required "column_name" KeyUsageRow.columnName <|
    .required "constraint_type" KeyUsageRow.constraintType <|
    .required "ordinal_position" KeyUsageRow.ordinalPosition <|
    .optional "position_in_unique_constraint" KeyUsageRow.positionInUniqueConstraint .done

instance : JsonRecord ForeignKeyRow where
  make := ForeignKeyRow.mk
  fields :=
    .required "fk_table_catalog" ForeignKeyRow.fkTableCatalog <|
    .required "fk_table_schema" ForeignKeyRow.fkTableSchema <|
    .required "fk_table_name" ForeignKeyRow.fkTableName <|
    .required "fk_constraint_name" ForeignKeyRow.fkConstraintName <|
    .required "fk_column_name" ForeignKeyRow.fkColumnName <|
    .required "fk_ordinal_position" ForeignKeyRow.fkOrdinalPosition <|
    .required "uq_table_catalog" ForeignKeyRow.uqTableCatalog <|
    .required "uq_table_schema" ForeignKeyRow.uqTableSchema <|
    .required "uq_table_name" ForeignKeyRow.uqTableName <|
    .required "uq_constraint_name" ForeignKeyRow.uqConstraintName <|
    .required "uq_column_name" ForeignKeyRow.uqColumnName <|
    .required "uq_ordinal_position" ForeignKeyRow.uqOrdinalPosition <|
    .required "update_rule" ForeignKeyRow.updateRule <|
    .required "delete_rule" ForeignKeyRow.deleteRule <|
    .required "match_option" ForeignKeyRow.matchOption .done

instance : JsonRecord Column where
  make := Column.mk
  fields :=
    .required "column_name" Column.columnName <|
    .required "field_name" Column.fieldName <|
    .required "field_name_lower_case" Column.fieldNameLowerCase <|
    .required "field_type" Column.fieldType <|
    .required "data_type" Column.dataType <|
    .optional "data_type_size" Column.dataTypeSize <|
    .required "is_nullable" Column.isNullable <|
    .required "has_default" Column.hasDefault <|
    .required "is_primary_key_column" Column.isPrimaryKeyColumn <|
    .required "is_unique" Column.isUnique <|
    .required "is_auto_increment_column" Column.isAutoIncrementColumn <|
    .optional "auto_increment_type" Column.autoIncrementType .done

instance : JsonRecord ForeignKey where
  make := ForeignKey.mk
  fields :=
    .required "database_name" ForeignKey.databaseName <|
    .required "schema_name" ForeignKey.schemaName <|
    .required "table_name" ForeignKey.tableName <|
    .required "key_name" ForeignKey.keyName <|
    .required "fk_columns" ForeignKey.fkColumns <|
    .required "uk_columns" ForeignKey.ukColumns <|
    .required "update_rule" ForeignKey.updateRule <|
    .required "delete_rule" ForeignKey.deleteRule <|
    .required "match_option" ForeignKey.matchOption .done

instance : JsonRecord AutoIncrementKey where
  make := AutoIncrementKey.mk
  fields :=
    .required "column_name" AutoIncrementKey.columnName <|
    .required "field_name" AutoIncrementKey.fieldName <|
    .optional "field_type" AutoIncrementKey.fieldType .done

instance : JsonRecord Table where
  make := Table.mk
  fields :=
    .required "database_name" Table.databaseName <|
    .required "schema_name" Table.schemaName <|
    .required "table_name" Table.tableName <|
    .required "model_name" Table.modelName <|
    .required "model_name_lower_case" Table.modelNameLowerCase <|
    .required "model_name_lower_case_plural" Table.modelNameLowerCasePlural <|
    .required "columns" Table.columns <|
    .required "foreign_keys" Table.foreignKeys <|
    .required "insert_columns" Table.insertColumns <|
    .required "update_columns" Table.updateColumns <|
    .required "primary_key_columns" Table.primaryKeyColumns <|
    .required "has_primary_keys" Table.hasPrimaryKeys <|
    .optional "auto_increment" Table.autoIncrement .done

end SchemaLens.Schema
