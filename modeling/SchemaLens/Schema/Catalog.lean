import SchemaLens.Schema.Row

/-!
# Catalogs

A catalog answers four kinds of calls with rows, or fails. Calls are numbered from zero in the
order they are made, and an answer may depend on the number: a catalog may fail at any point.
-/

namespace SchemaLens.Schema

/-- A question to a catalog. -/
inductive CatalogCall where
  /-- The base tables of a schema. -/
  | baseTables (database schema : String)
  /-- The columns of a table. -/
  | columns (database schema table : String)
  /-- The column pairs of the foreign keys of a table. -/
  | foreignKeyPairs (database schema table : String)
  /-- The constraints that a column is used in. -/
  | columnKeyUsage (database schema table column : String)
deriving DecidableEq, Repr

namespace CatalogCall

/-- The name of the operation that a call asks for. -/
def operation : CatalogCall → String
  | .baseTables .. => "list_base_tables"
  | .columns .. => "list_columns"
  | .foreignKeyPairs .. => "list_foreign_key_pairs"
  | .columnKeyUsage .. => "list_column_key_usage"

/-- What a call is given, the database and the schema first. -/
def arguments : CatalogCall → List String
  | .baseTables database schema => [database, schema]
  | .columns database schema table => [database, schema, table]
  | .foreignKeyPairs database schema table => [database, schema, table]
  | .columnKeyUsage database schema table column => [database, schema, table, column]

/-- The type of the rows that answer a call. -/
abbrev Row : CatalogCall → Type
  | .baseTables .. => TableRow
  | .columns .. => ColumnRow
  | .foreignKeyPairs .. => ForeignKeyRow
  | .columnKeyUsage .. => KeyUsageRow

end CatalogCall

/-- A catalog: its answer to each call, given how many calls came before. -/
structure Catalog (Failure : Type) where
  /-- The rows that answer a call, or the failure. -/
  answer : Nat → (call : CatalogCall) → Except Failure (List call.Row)

namespace Catalog

variable {Failure : Type}

/-- A catalog whose answers depend on the call alone. -/
def ofAnswers (answers : (call : CatalogCall) → Except Failure (List call.Row)) :
    Catalog Failure where
  answer _ call := answers call

/-- A catalog that fails at the call with a number and answers every other call as before. -/
def failingAt (catalog : Catalog Failure) (number : Nat) (failure : CatalogCall → Failure) :
    Catalog Failure where
  answer count call :=
    if count = number then .error (failure call) else catalog.answer count call

end Catalog

end SchemaLens.Schema
