import SchemaLens.CommandLine.Message
import SchemaLens.Json.Printer
import SchemaLens.Query.FormEncoding
import SchemaLens.Query.JsonForm
import SchemaLens.Query.Outcome
import SchemaLens.Schema.JsonForm
import SchemaLens.Schema.Reflection
import SchemaLens.Settings.Search

/-!
# Running a command

What the program prints and how it ends, from its arguments, what it finds around itself and the
catalogs it can reach. Results go to the standard output as JSON; errors are one line on the
standard error. A message whose cause some other component would tell, and does not, is left open,
without the end of the line.
-/

namespace SchemaLens.CommandLine

open Query (FilterError QueryKind Values)
open Schema (Catalog Table)
open Settings (SettingsError Surroundings Target TargetOptions)

/-- Why a catalog did not answer. -/
inductive CatalogError where
  /-- There is no connection to the database. -/
  | unreachable (cause : Option String := none)
  /-- A query failed or gave rows of an unexpected shape. -/
  | unanswered (query : String) (cause : Option String := none)
deriving DecidableEq, Repr

/-- What is wrong with a catalog, in words. -/
def CatalogError.message : CatalogError → String
  | .unreachable cause => Settings.withCause "failed to connect to catalog database" cause
  | .unanswered query cause => Settings.withCause ("catalog query " ++ query ++ " failed") cause

/-- Why a request was not met. -/
inductive Failure where
  | settings (error : SettingsError)
  | catalog (error : CatalogError)
  | filter (error : FilterError)
deriving DecidableEq, Repr

namespace Failure

/-- What went wrong, in words. -/
def message : Failure → String
  | .settings error => "Configuration error: " ++ error.message
  | .catalog error => "Reflection error: " ++ error.message
  | .filter error => "Filter error: " ++ error.message

/-- Whether the cause is some other component's to tell, and it does not. -/
def isOpen : Failure → Bool
  | .settings (@SettingsError.unreadable none) | .settings (@SettingsError.malformed none)
  | .catalog (.unreachable none) | .catalog (.unanswered _ none) => true
  | _ => false

end Failure

/-- How the program ends. -/
structure Ending where
  /-- Zero for success, one for a failure, two for wrong arguments. -/
  status : UInt8 := 0
  /-- What goes to the standard output. -/
  output : String := ""
  /-- What goes to the standard error. -/
  errorOutput : String := ""
deriving DecidableEq, Repr

/-- Everything outside the program that it depends on. -/
structure World where
  /-- Environment and files. -/
  surroundings : Surroundings
  /-- The catalog behind a connection string. -/
  catalog : String → Catalog CatalogError

/-- The settings of a named file, or those found by searching. -/
def loadSettings (surroundings : Surroundings) (config : Option String) :
    Except SettingsError Settings :=
  match config with
  | some path => Settings.ofFile surroundings path
  | none => Settings.load surroundings

/-- The tables of the target that the options make. -/
def reflectTarget (world : World) (config : Option String) (options : TargetOptions) :
    Except Failure (List Table) := do
  let loaded := loadSettings world.surroundings config
  let target ← (Target.resolve world.surroundings.valueOf? loaded options).mapError .settings
  let (tables, _) := Schema.reflect (world.catalog target.connectionString) target.database
    target.schema
  tables.mapError .catalog

/-- The descriptor of a kind that a query string fills. -/
def readQuery (kind : QueryKind) (query : String) : Except Failure kind.Descriptor :=
  let outcome := kind.read kind.blank (Values.parse query)
  match outcome.failure with
  | none => .ok outcome.descriptor
  | some error => .error (.filter error)

/-- Meets a request with a JSON value. -/
def Request.meet (world : World) (request : Request) : Except Failure Json :=
  match request.command with
  | .reflect options => (reflectTarget world request.config options).map toJson
  | .parseFilter kind query => (readQuery kind query).map toJson

namespace Ending

/-- The end after a request that was met or not. -/
def ofResult : Except Failure Json → Ending
  | .ok value => { output := value.pretty ++ "\n" }
  | .error failure =>
    { status := 1
      errorOutput := if failure.isOpen then failure.message else failure.message ++ "\n" }

/-- The end after arguments that make no request. -/
def ofInterruption : Interruption → Ending
  | .version => { output := versionLine ++ "\n" }
  | .help level => { output := unlines (helpLines level) }
  | .usage error => { status := 2, errorOutput := "error: " ++ error.message ++ "\n" }

end Ending

/-- Runs the program with its arguments. -/
def run (world : World) (arguments : List String) : Ending :=
  match Request.ofArguments arguments with
  | .ok request => Ending.ofResult (request.meet world)
  | .error interruption => Ending.ofInterruption interruption

end SchemaLens.CommandLine
