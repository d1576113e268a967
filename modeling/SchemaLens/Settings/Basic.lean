import SchemaLens.Data.OrderedMap
import SchemaLens.Settings.Template

/-!
# Settings

Named database connections and the schema to fall back on.
-/

namespace SchemaLens.Settings

/-- How to reach a database. -/
structure Connection where
  /-- The connection string, a template. -/
  connectionString : String
  /-- The catalog to reflect. -/
  database : Option String := none
  /-- The schema to reflect. -/
  schema : Option String := none
deriving DecidableEq, Repr

/-- The connection string with its references replaced. -/
def Connection.resolved (connection : Connection) (valueOf? : String → Option String) :
    Except SettingsError String :=
  expandTemplate valueOf? connection.connectionString

end SchemaLens.Settings

namespace SchemaLens

open Settings (Connection SettingsError)

/-- Connections by name, and what they have in common. -/
structure Settings where
  /-- The connections, in the order of their document. -/
  connections : OrderedMap Connection := .empty
  /-- The schema of connections that name none. -/
  defaultSchema : String := "public"
deriving DecidableEq

namespace Settings

/-- The entry with the least name. -/
def leastByName : List (String × Connection) → Option (String × Connection)
  | [] => none
  | entry :: rest =>
    match leastByName rest with
    | none => some entry
    | some least => some (if least.1 < entry.1 then least else entry)

/-- The connection of a name. -/
def connection (settings : Settings) (name : String) : Except SettingsError Connection :=
  match settings.connections.get? name with
  | some found => .ok found
  | none => .error (.connectionNotFound name)

/-- The connection to use if none is named: the one called `default`, else the first by name. -/
def defaultConnection? (settings : Settings) : Option (String × Connection) :=
  match settings.connections.get? "default" with
  | some found => some ("default", found)
  | none => leastByName settings.connections.entries

/-- The schema to reflect over a connection. -/
def schemaFor (settings : Settings) (connection : Connection) : String :=
  connection.schema.getD settings.defaultSchema

/-- The variables that the connection strings refer to. -/
def references (settings : Settings) : List String :=
  settings.connections.entries.flatMap fun (_, connection) =>
    templateReferences connection.connectionString

end Settings

end SchemaLens
