import SchemaLens.Schema.Row

/-!
# Foreign keys

The foreign keys of a table, made from the rows of their column pairs. The rows are put in order
first, so the rows that refer to one table stand side by side. They are then read once: a row goes
into the key that is open if that key refers to its table, and opens the next key if not.
-/

namespace SchemaLens.Schema

/-- What foreign key rows are ordered by: the referenced table, the constraint, the column, the
position. -/
structure ForeignKeyOrder where
  referenced : TableName
  constraintName : String
  columnName : String
  ordinalPosition : Int32
deriving DecidableEq, Repr

namespace ForeignKeyOrder

/-- Compares two places in the order, the first difference deciding. -/
def compare (left right : ForeignKeyOrder) : Ordering :=
  (Ord.compare left.referenced.database right.referenced.database).then <|
    (Ord.compare left.referenced.schema right.referenced.schema).then <|
      (Ord.compare left.referenced.table right.referenced.table).then <|
        (Ord.compare left.constraintName right.constraintName).then <|
          (Ord.compare left.columnName right.columnName).then <|
            Ord.compare left.ordinalPosition.toInt right.ordinalPosition.toInt

end ForeignKeyOrder

/-- The place of a row in the order. -/
def ForeignKeyRow.order (row : ForeignKeyRow) : ForeignKeyOrder where
  referenced := row.referenced
  constraintName := row.uqConstraintName
  columnName := row.uqColumnName
  ordinalPosition := row.uqOrdinalPosition

/-- A reference to another table over one or more columns. -/
structure ForeignKey where
  /-- The catalog of the referenced table. -/
  databaseName : String
  /-- The schema of the referenced table. -/
  schemaName : String
  /-- The referenced table. -/
  tableName : String
  /-- The name of the constraint. -/
  keyName : String
  /-- The referring columns. -/
  fkColumns : List String
  /-- The columns referred to, each at the place of the one that refers to it. -/
  ukColumns : List String
  updateRule : String
  deleteRule : String
  matchOption : String
deriving DecidableEq, Repr

namespace ForeignKey

/-- Whether the key refers to a table. -/
def references (key : ForeignKey) (name : TableName) : Bool :=
  key.databaseName == name.database && key.schemaName == name.schema &&
    key.tableName == name.table

/-- Each referring column with the column it refers to. -/
def columnPairs (key : ForeignKey) : List (String × String) :=
  key.fkColumns.zip key.ukColumns

/-- The match option of a key; a key without one matches simply. -/
def normalMatchOption (matchOption : String) : String :=
  if matchOption = "NONE" then "SIMPLE" else matchOption

/-- The key that a row opens. -/
def ofRow (row : ForeignKeyRow) : ForeignKey where
  databaseName := row.uqTableCatalog
  schemaName := row.uqTableSchema
  tableName := row.uqTableName
  keyName := row.fkConstraintName
  fkColumns := [row.fkColumnName]
  ukColumns := [row.uqColumnName]
  updateRule := row.updateRule
  deleteRule := row.deleteRule
  matchOption := normalMatchOption row.matchOption

/-- The key with the column pair of one more row at its end. -/
def extend (key : ForeignKey) (row : ForeignKeyRow) : ForeignKey :=
  { key with
    fkColumns := key.fkColumns ++ [row.fkColumnName]
    ukColumns := key.ukColumns ++ [row.uqColumnName] }

/-- The open key and the keys after it, as the rows that are left make them. -/
def collect (opened : ForeignKey) : List ForeignKeyRow → List ForeignKey
  | [] => [opened]
  | row :: rest =>
    if opened.references row.referenced then collect (opened.extend row) rest
    else opened :: collect (ofRow row) rest

/-- The keys of rows in order: one for each stretch of rows that refer to one table. -/
def ofOrderedRows : List ForeignKeyRow → List ForeignKey
  | [] => []
  | first :: rest => collect (ofRow first) rest

/-- Rows in order; rows of equal place keep the order they came in. -/
def inOrder (rows : List ForeignKeyRow) : List ForeignKeyRow :=
  rows.mergeSort fun left right => (left.order.compare right.order).isLE

/-- The keys of rows in any order. -/
def group (rows : List ForeignKeyRow) : List ForeignKey :=
  ofOrderedRows (inOrder rows)

end ForeignKey

end SchemaLens.Schema
