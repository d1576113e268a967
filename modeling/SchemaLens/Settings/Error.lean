import SchemaLens.Text.Quoted

/-!
# Settings errors

Why settings could not be loaded or used, and the message that says so. The cause of an unreadable
or a malformed file is told by the component that turned it down, and stands at the end of the
message if it is known.
-/

namespace SchemaLens.Settings

/-- Why settings could not be loaded or used. Causes are implicit, as most matches do not look at
them. -/
inductive SettingsError where
  /-- There is no file at the path. -/
  | fileNotFound (path : String)
  /-- The file cannot be read as text. -/
  | unreadable {cause : Option String}
  /-- The text is no settings document. -/
  | malformed {cause : Option String}
  /-- A referenced variable is not set. -/
  | missingVariable (name : String)
  /-- No connection has the name. -/
  | connectionNotFound (name : String)
  /-- A reference in the text has an empty name. -/
  | emptyReference (text : String)
  /-- A connection string was given without a database. -/
  | databaseRequired
  /-- There is no connection to choose from. -/
  | noConnections
  /-- The connection names no database, and none was given. -/
  | noDatabase (connection : String)
deriving DecidableEq, Repr

/-- A message that ends with its cause, if that is known. -/
def withCause (message : String) : Option String → String
  | some cause => message ++ ": " ++ cause
  | none => message

/-- What is wrong, in words. -/
def SettingsError.message : SettingsError → String
  | .fileNotFound path => "Config file not found: " ++ path
  | @unreadable cause => withCause "Failed to read config file" cause
  | @malformed cause => withCause "Failed to parse config file" cause
  | .missingVariable name => "Missing environment variable: " ++ name
  | .connectionNotFound name => "Connection not found: " ++ name
  | .emptyReference text =>
    "Invalid configuration: empty variable reference in " ++ Text.quoted text
  | .databaseRequired => "Invalid configuration: --database is required with --url"
  | .noConnections => "Invalid configuration: no connections configured"
  | .noDatabase connection =>
    "Invalid configuration: connection " ++ connection ++ " has no database"

end SchemaLens.Settings
