import SchemaLens.Settings.Basic

/-!
# Reflection targets

Which schema of which database to reflect, and how to reach it. Options come first, then the
chosen connection, then the default schema. A connection string given as an option is used as it
is, and then only the default schema is taken from the settings, if no schema is given.
-/

namespace SchemaLens.Settings

/-- What the caller says about the target. -/
structure TargetOptions where
  /-- The name of a connection. -/
  connection : Option String := none
  /-- A connection string to use in place of a connection. -/
  url : Option String := none
  database : Option String := none
  schema : Option String := none
deriving DecidableEq, Repr

/-- A schema to reflect. -/
structure Target where
  connectionString : String
  database : String
  schema : String
deriving DecidableEq, Repr

/-- A value that has to be there. -/
def orError {Value : Type} (error : SettingsError) : Option Value → Except SettingsError Value
  | some value => .ok value
  | none => .error error

namespace Target

/-- The target of a connection string given as an option. -/
def ofUrl (loaded : Except SettingsError Settings) (options : TargetOptions) (url : String) :
    Except SettingsError Target := do
  let database ← orError .databaseRequired options.database
  let schema ←
    match options.schema with
    | some schema => pure schema
    | none => loaded.map Settings.defaultSchema
  return { connectionString := url, database, schema }

/-- The connection to use, with its name. -/
def chosenConnection (settings : Settings) (name? : Option String) :
    Except SettingsError (String × Connection) :=
  match name? with
  | some name => (settings.connection name).map (name, ·)
  | none => orError .noConnections settings.defaultConnection?

/-- The target of a connection in the settings. -/
def ofConnection (valueOf? : String → Option String) (loaded : Except SettingsError Settings)
    (options : TargetOptions) : Except SettingsError Target := do
  let settings ← loaded
  let (name, connection) ← chosenConnection settings options.connection
  let database ← orError (.noDatabase name) (options.database <|> connection.database)
  let connectionString ← connection.resolved valueOf?
  return {
    connectionString
    database
    schema := options.schema.getD (settings.schemaFor connection)
  }

/-- The target that options and settings make, given how the loading of the settings ended. -/
def resolve (valueOf? : String → Option String) (loaded : Except SettingsError Settings)
    (options : TargetOptions) : Except SettingsError Target :=
  match options.url with
  | some url => ofUrl loaded options url
  | none => ofConnection valueOf? loaded options

end Target

end SchemaLens.Settings
