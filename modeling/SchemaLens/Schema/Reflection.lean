import SchemaLens.Data.Log
import SchemaLens.Schema.Catalog
import SchemaLens.Schema.Table

/-!
# Reflection

The tables of a schema, read from a catalog: first the base tables, then for each table its
columns, its foreign keys and the key usage of each column. Calls are made one after another and
the first failure ends the reflection without a result.

A reflection keeps a journal of the calls it made and of what it reported.
-/

namespace SchemaLens.Schema

/-- What a reflection reports while it runs. -/
inductive ReflectionEvent where
  /-- The base tables of a schema are known. -/
  | tablesListed (count : Nat) (database schema : String)
  /-- A column is taken for a counted key. -/
  | countedKeyInferred (table column : String) (type : Option Naming.AutoIncrementType)
  /-- A table is complete. -/
  | tableReflected (qualifiedName : String) (columns foreignKeys primaryKeyColumns : Nat)
deriving DecidableEq, Repr

/-- How an event stands in the log. -/
def ReflectionEvent.logRecord : ReflectionEvent → LogRecord
  | .tablesListed count database schema =>
    { level := .debug
      text := "reflecting " ++ toString count ++ " tables in " ++ database ++ "." ++ schema }
  | .countedKeyInferred table column type =>
    { level := .trace
      text := table ++ "." ++ column ++ " inferred as auto-increment (" ++
        (type.map Named.name).getD "untyped" ++ ")" }
  | .tableReflected qualifiedName columns foreignKeys primaryKeyColumns =>
    { level := .debug
      text := "reflected " ++ qualifiedName ++ ": " ++ toString columns ++ " columns, " ++
        toString foreignKeys ++ " foreign keys, " ++ toString primaryKeyColumns ++
        " primary key columns" }

/-- The calls a reflection made and the events it reported, each in order. -/
structure Journal where
  calls : List CatalogCall := []
  events : List ReflectionEvent := []
deriving DecidableEq, Repr

/-- A computation that asks a catalog, keeps a journal and may end in a failure. -/
abbrev Reflecting (Failure : Type) := ExceptT Failure (StateM Journal)

namespace Reflecting

variable {Failure : Type}

/-- Makes a call. It is in the journal even if it fails. -/
def ask (catalog : Catalog Failure) (call : CatalogCall) : Reflecting Failure (List call.Row) := do
  let count := (← get).calls.length
  modify fun journal => { journal with calls := journal.calls ++ [call] }
  match catalog.answer count call with
  | .ok rows => return rows
  | .error failure => throw failure

/-- Reports events. -/
def report (events : List ReflectionEvent) : Reflecting Failure Unit :=
  modify fun journal => { journal with events := journal.events ++ events }

/-- Reads the key usage of a column and makes the column. -/
def column (catalog : Catalog Failure) (database schema table : String) (row : ColumnRow) :
    Reflecting Failure Column := do
  let keyUsage ← ask catalog (.columnKeyUsage database schema table row.columnName)
  return Column.ofRow row keyUsage

/-- What is reported of a complete table: its columns taken for counted keys, then its size. -/
def tableEvents (table : Table) : List ReflectionEvent :=
  let counted := table.columns.filter (·.isAutoIncrementColumn)
  counted.map (fun column =>
    .countedKeyInferred table.tableName column.columnName column.autoIncrementType) ++
  [.tableReflected table.qualifiedName table.columns.length table.foreignKeys.length
    table.primaryKeyColumns.length]

/-- Reads the parts of a table and makes the table. -/
def table (catalog : Catalog Failure) (database schema : String) (row : TableRow) :
    Reflecting Failure Table := do
  let columnRows ← ask catalog (.columns database schema row.tableName)
  let foreignKeyRows ← ask catalog (.foreignKeyPairs database schema row.tableName)
  let columns ← columnRows.mapM (column catalog database schema row.tableName)
  let reflected := Table.ofRow row columns (ForeignKey.group foreignKeyRows)
  report (tableEvents reflected)
  return reflected

/-- Reads the tables of a schema. -/
def tables (catalog : Catalog Failure) (database schema : String) :
    Reflecting Failure (List Table) := do
  let rows ← ask catalog (.baseTables database schema)
  report [.tablesListed rows.length database schema]
  rows.mapM (table catalog database schema)

end Reflecting

/-- The tables of a schema or the failure that ended their reflection, with the journal. -/
def reflect {Failure : Type} (catalog : Catalog Failure) (database schema : String) :
    Except Failure (List Table) × Journal :=
  (Reflecting.tables catalog database schema).run.run {}

end SchemaLens.Schema
