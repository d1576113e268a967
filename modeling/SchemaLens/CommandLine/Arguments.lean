import SchemaLens.Data.Named
import SchemaLens.Query.Kind
import SchemaLens.Settings.Target

/-!
# Command line arguments

The arguments of the program as a request: options before the command, the command, and the
options and operands of the command. Arguments are read from left to right, and the first that is
wrong, or that asks for help or the version, ends the reading.

An option takes its value from the same argument, after an equals sign or right behind its letter,
or from the next one, which then must not look like an option. After `--` there are only operands.
-/

namespace SchemaLens.CommandLine

open Query (QueryKind)
open Settings (TargetOptions)

/-- The name of an option with a value. -/
inductive OptionName where
  | config
  | connection
  | url
  | database
  | schema
  | kind
deriving DecidableEq, Repr

instance : Named OptionName where
  members := [.config, .connection, .url, .database, .schema, .kind]
  name
    | .config => "config"
    | .connection => "connection"
    | .url => "url"
    | .database => "database"
    | .schema => "schema"
    | .kind => "kind"

/-- The letter of an option. -/
def OptionName.letter? : OptionName → Option Char
  | .config | .url => none
  | .connection => some 'c'
  | .database => some 'd'
  | .schema => some 's'
  | .kind => some 'k'

/-- Where options and operands stand: before the command, or after one. -/
inductive Level where
  | program
  | reflect
  | parseFilter
deriving DecidableEq, Repr

namespace Level

/-- The options of a level. -/
def options : Level → List OptionName
  | .program => [.config]
  | .reflect => [.connection, .config, .url, .database, .schema]
  | .parseFilter => [.config, .kind]

/-- The number of operands of a level. -/
def operands : Level → Nat
  | .program => 0
  | .reflect => 0
  | .parseFilter => 1

/-- The option of a level with a long name. -/
def option? (level : Level) (name : List Char) : Option OptionName :=
  (Named.ofName? (String.ofList name)).filter level.options.contains

/-- The option of a level with a letter. -/
def optionOfLetter? (level : Level) (letter : Char) : Option OptionName :=
  level.options.find? (·.letter? == some letter)

end Level

/-- Why arguments make no request. -/
inductive UsageError where
  | missingCommand
  | unknownCommand (name : String)
  | unknownOption (argument : String)
  | missingValue (name : OptionName)
  | invalidValue (name : OptionName) (value : String)
  | repeatedOption (name : OptionName)
  | conflictingOptions (first second : OptionName)
  | missingOperand
  | surplusOperand (argument : String)
deriving DecidableEq, Repr

/-- What ends the reading of arguments early. -/
inductive Interruption where
  | usage (error : UsageError)
  | help (level : Level)
  | version
deriving DecidableEq, Repr

/-- What an argument is. -/
inductive Argument where
  /-- The end of the options. -/
  | separator
  /-- An option, with its value if the argument holds it. -/
  | option (name : OptionName) (value : Option String)
  | help
  | version
  | unknown
  | operand
deriving DecidableEq, Repr

namespace Argument

/-- Reads an argument that starts with two hyphens, given what follows them. -/
def ofLong (level : Level) (text : List Char) : Argument :=
  let name := text.takeWhile (· ≠ '=')
  let value :=
    match text.dropWhile (· ≠ '=') with
    | [] => none
    | _ :: value => some (String.ofList value)
  if name = ['h', 'e', 'l', 'p'] ∧ value = none then .help
  else if level = .program ∧ name = ['v', 'e', 'r', 's', 'i', 'o', 'n'] ∧ value = none then
    .version
  else
    match level.option? name with
    | some found => .option found value
    | none => .unknown

/-- Reads an argument that starts with one hyphen, given the letter and what follows it. -/
def ofShort (level : Level) (letter : Char) (text : List Char) : Argument :=
  if letter = 'h' then .help
  else if level = .program ∧ letter = 'V' then .version
  else
    match level.optionOfLetter? letter with
    | some found =>
      match text with
      | [] => .option found none
      | '=' :: value => .option found (some (String.ofList value))
      | value => .option found (some (String.ofList value))
    | none => .unknown

/-- Reads an argument at a level. A single hyphen is an operand. -/
def classify (level : Level) (argument : String) : Argument :=
  match argument.toList with
  | ['-', '-'] => .separator
  | '-' :: '-' :: text => ofLong level text
  | '-' :: letter :: text => ofShort level letter text
  | _ => .operand

end Argument

/-- The options and operands read so far. -/
structure Collected where
  options : List (OptionName × String) := []
  operands : List String := []
deriving DecidableEq, Repr

/-- The kinds of query that a command can fill. -/
def kindOfName? : String → Option QueryKind
  | "find" => some .find
  | "find-by-id" => some .findById
  | "find-one" => some .findOne
  | "count" => some .count
  | _ => none

/-- Whether an option takes a value: a path is not empty, and a kind has one of four names. -/
def OptionName.admits : OptionName → String → Bool
  | .config, value => !value.isEmpty
  | .kind, value => (kindOfName? value).isSome
  | _, _ => true

namespace Collected

/-- Adds an option. -/
def addOption (collected : Collected) (name : OptionName) (value : String) :
    Except Interruption Collected :=
  if !name.admits value then .error (.usage (.invalidValue name value))
  else if (collected.options.lookup name).isSome then .error (.usage (.repeatedOption name))
  else .ok { collected with options := collected.options ++ [(name, value)] }

/-- Whether a level has room for another operand. -/
def hasRoom (level : Level) (collected : Collected) : Bool :=
  collected.operands.length < level.operands

/-- Adds an operand, if the level has room for it. -/
def addOperand (level : Level) (collected : Collected) (operand : String) :
    Except Interruption Collected :=
  if collected.hasRoom level then
    .ok { collected with operands := collected.operands ++ [operand] }
  else .error (.usage (.surplusOperand operand))

/-- Reads the options and operands of a level, up to the first operand without room. That operand
and the arguments after it are left. -/
def read (level : Level) (collected : Collected) :
    List String → Except Interruption (Collected × List String)
  | [] => .ok (collected, [])
  | argument :: rest =>
    match Argument.classify level argument with
    | .separator => (rest.foldlM (addOperand level) collected).map (·, [])
    | .option name (some value) => do
      (← collected.addOption name value).read level rest
    | .option name none =>
      match rest with
      | [] => .error (.usage (.missingValue name))
      | value :: rest =>
        if Argument.classify level value = .operand then do
          (← collected.addOption name value).read level rest
        else .error (.usage (.missingValue name))
    | .help => .error (.help level)
    | .version => .error .version
    | .unknown => .error (.usage (.unknownOption argument))
    | .operand =>
      if collected.hasRoom level then do
        (← collected.addOperand level argument).read level rest
      else .ok (collected, argument :: rest)

/-- The value of an option. -/
def value? (collected : Collected) (name : OptionName) : Option String :=
  collected.options.lookup name

end Collected

/-- A command with what it needs to know. -/
inductive Command where
  /-- Reflects a schema. -/
  | reflect (target : TargetOptions)
  /-- Reads a query string into a descriptor of a kind. -/
  | parseFilter (kind : QueryKind) (query : String)
deriving DecidableEq, Repr

/-- What the program is asked to do. -/
structure Request where
  /-- The settings file, if one is named. -/
  config : Option String
  command : Command
deriving DecidableEq, Repr

/-- Reads the arguments of a level to their end. -/
def readAll (level : Level) (arguments : List String) : Except Interruption Collected := do
  match ← Collected.read level {} arguments with
  | (collected, []) => return collected
  | (_, operand :: _) => throw (.usage (.surplusOperand operand))

/-- Reads the arguments of the command that reflects. -/
def reflectCommand (arguments : List String) : Except Interruption (Collected × Command) := do
  let collected ← readAll .reflect arguments
  let target : TargetOptions :=
    { connection := collected.value? .connection
      url := collected.value? .url
      database := collected.value? .database
      schema := collected.value? .schema }
  if target.connection.isSome && target.url.isSome then
    throw (.usage (.conflictingOptions .connection .url))
  return (collected, .reflect target)

/-- Reads the arguments of the command that reads a query string. -/
def parseFilterCommand (arguments : List String) : Except Interruption (Collected × Command) := do
  let collected ← readAll .parseFilter arguments
  match collected.operands with
  | [] => throw (.usage .missingOperand)
  | query :: _ =>
    let kind := (collected.value? .kind).bind kindOfName?
    return (collected, .parseFilter (kind.getD .find) query)

/-- The level that a help command asks about. -/
def helpLevel : List String → Except Interruption Level
  | [] | ["help"] => .ok .program
  | ["reflect"] => .ok .reflect
  | ["parse-filter"] => .ok .parseFilter
  | topic :: _ => .error (.usage (.unknownCommand topic))

/-- Reads a command and its arguments. -/
def readCommand (name : String) (arguments : List String) :
    Except Interruption (Collected × Command) :=
  match name with
  | "reflect" => reflectCommand arguments
  | "parse-filter" => parseFilterCommand arguments
  | "help" => do throw (.help (← helpLevel arguments))
  | _ => .error (.usage (.unknownCommand name))

/-- Reads the arguments of the program. A settings file named after the command takes the place of
one named before it. -/
def Request.ofArguments (arguments : List String) : Except Interruption Request := do
  match ← Collected.read .program {} arguments with
  | (_, []) => throw (.usage .missingCommand)
  | (before, name :: rest) =>
    let (after, command) ← readCommand name rest
    return { config := after.value? .config <|> before.value? .config, command }

end SchemaLens.CommandLine
