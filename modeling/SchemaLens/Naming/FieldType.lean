import SchemaLens.Data.Named
import SchemaLens.Text.Ascii
import SchemaLens.Text.WhiteSpace

/-!
# Field types

The small set of generic types that database types are mapped onto. Only the base name of a
database type counts: `character varying(255)` is read as `character`.
-/

namespace SchemaLens.Naming

/-- The generic type of a field. -/
inductive FieldType where
  | int64
  | int
  | string
  | dateTime
  | float64
  | bool
deriving DecidableEq, Repr

instance : Named FieldType where
  members := [.int64, .int, .string, .dateTime, .float64, .bool]
  name
    | .int64 => "int64"
    | .int => "int"
    | .string => "string"
    | .dateTime => "datetime"
    | .float64 => "float64"
    | .bool => "bool"

/-- The base name of a database type: up to white space or an opening bracket, in lower case. -/
def baseTypeName (dataType : String) : String :=
  let base := (Text.trim dataType.toList).takeWhile fun character =>
    !(Text.isWhiteSpace character || character == '(')
  String.ofList (Text.asciiLower base)

/-- The generic type of a database type; a type without an entry of its own is text. -/
def FieldType.ofDataType (dataType : String) : FieldType :=
  match baseTypeName dataType with
  | "bigint" => .int64
  | "int" | "integer" | "smallint" => .int
  | "timestamp" => .dateTime
  | "numeric" => .float64
  | "boolean" => .bool
  | _ => .string

/-- The storage of a key that the database counts up. -/
inductive AutoIncrementType where
  | serial
  | bigSerial
deriving DecidableEq, Repr

instance : Named AutoIncrementType where
  members := [.serial, .bigSerial]
  name
    | .serial => "serial"
    | .bigSerial => "bigserial"

namespace AutoIncrementType

/-- The storage of a counted key of a database type; only two types have one. -/
def ofDataType? (dataType : String) : Option AutoIncrementType :=
  match dataType with
  | "integer" => some .serial
  | "bigint" => some .bigSerial
  | _ => none

/-- The generic type that a counted key is shown with. -/
def fieldType : AutoIncrementType → FieldType
  | .serial => .int
  | .bigSerial => .int64

end AutoIncrementType

end SchemaLens.Naming
