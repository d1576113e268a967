import SchemaLens.Settings.Basic
import SchemaLens.Toml.Document

/-!
# Settings documents

Settings as a TOML document: a table of connections and a table of defaults for reflection. Keys
without a meaning are passed over. A record may also be written as an array of its members in
their order, and a date stands for a record without members.
-/

namespace SchemaLens.Settings

/-- The members of a record that have a meaning, given their names in order. -/
def record? (names : List String) : Toml.Value → Option Toml.Members
  | .table _ members =>
    let (known, unknown) := members.partition (names.contains ·.1)
    if Toml.membersRepresentable unknown then some known else none
  | .dateTime _ => some []
  | .array elements | .tables elements => some (names.zip elements)
  | _ => none

/-- The text of a value. -/
def text? : Toml.Value → Option String
  | .string text => some (String.ofList text)
  | _ => none

/-- The text of a member that may be absent. -/
def optionalText? (members : Toml.Members) (name : String) : Option (Option String) :=
  match members.lookup name with
  | none => some none
  | some value => (text? value).map some

/-- The connection that a value describes. -/
def Connection.ofToml? (value : Toml.Value) : Option Connection := do
  let members ← record? ["connection_string", "database", "schema"] value
  return {
    connectionString := ← text? (← members.lookup "connection_string")
    database := ← optionalText? members "database"
    schema := ← optionalText? members "schema"
  }

/-- The connections that a table describes. -/
def connections? : Toml.Value → Option (OrderedMap Connection)
  | .table _ members => do
    let entries ← members.mapM fun (name, value) => (Connection.ofToml? value).map (name, ·)
    return .ofList entries
  | _ => none

/-- The schema to fall back on, if a record of defaults names one. -/
def defaultSchema? (value : Toml.Value) : Option (Option String) := do
  optionalText? (← record? ["default_schema"] value) "default_schema"

/-- The settings that a document describes. -/
def ofToml? (document : Toml.Members) : Option Settings := do
  let members ← record? ["connections", "reflection"] (.table .header document)
  let connections ←
    match members.lookup "connections" with
    | none => some .empty
    | some value => connections? value
  let defaultSchema ←
    match members.lookup "reflection" with
    | none => some none
    | some value => defaultSchema? value
  return { connections, defaultSchema := defaultSchema.getD "public" }

/-- Reads settings from the text of a document, given what is said of a text that is none. -/
def parse (text : String) (complaint? : Option String) : Except SettingsError Settings :=
  match (Toml.document? text).bind ofToml? with
  | some settings => .ok settings
  | none => .error (@SettingsError.malformed complaint?)

end SchemaLens.Settings
