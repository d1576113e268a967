import SchemaLens.CommandLine.Arguments

/-!
# What the program says about itself

The version, the help texts and the texts of usage errors.
-/

namespace SchemaLens.CommandLine

/-- The name and the version of the program. -/
def versionLine : String := "dbmeta 0.1.0"

/-- The help of a level, line by line. -/
def helpLines : Level → List String
  | .program =>
    ["dbmeta - reflect relational schemas and parse REST-style URL filters", "",
      "Usage: dbmeta [OPTIONS] <COMMAND>", "",
      "Commands:",
      "  reflect       Reflect the base tables of a schema and print them as JSON",
      "  parse-filter  Parse a URL query string into a query descriptor and print it as JSON",
      "  help          Print this message or the help of the given subcommand(s)", "",
      "Options:",
      "      --config <CONFIG>  Path to a dbmeta.toml config file",
      "  -h, --help             Print help",
      "  -V, --version          Print version"]
  | .reflect =>
    ["Reflect the base tables of a schema and print them as JSON", "",
      "Usage: dbmeta reflect [OPTIONS]", "",
      "Options:",
      "  -c, --connection <CONNECTION>  Named connection from the config file",
      "      --config <CONFIG>          Path to a dbmeta.toml config file",
      "      --url <URL>                PostgreSQL connection string, bypassing the config file",
      "  -d, --database <DATABASE>      Catalog (database) to reflect",
      "  -s, --schema <SCHEMA>          Schema to reflect",
      "  -h, --help                     Print help"]
  | .parseFilter =>
    ["Parse a URL query string into a query descriptor and print it as JSON", "",
      "Usage: dbmeta parse-filter [OPTIONS] <QUERY>", "",
      "Arguments:",
      "  <QUERY>  Query string, e.g. \"filter[limit]=5&filter[skip]=10\"", "",
      "Options:",
      "      --config <CONFIG>  Path to a dbmeta.toml config file",
      "  -k, --kind <KIND>      Query descriptor to populate [default: find] " ++
        "[possible values: find, find-by-id, find-one, count]",
      "  -h, --help             Print help"]

/-- Lines with their line ends. -/
def unlines (lines : List String) : String :=
  String.join (lines.map (· ++ "\n"))

/-- How an option is written. -/
def OptionName.flag (name : OptionName) : String :=
  "--" ++ Named.name name

/-- What is wrong with the arguments, in words. -/
def UsageError.message : UsageError → String
  | .missingCommand => "a command is required"
  | .unknownCommand name => "unknown command " ++ name
  | .unknownOption argument => "unexpected option " ++ argument
  | .missingValue name => "a value is required for " ++ name.flag
  | .invalidValue name value => "invalid value " ++ value ++ " for " ++ name.flag
  | .repeatedOption name => name.flag ++ " cannot be used multiple times"
  | .conflictingOptions first second => first.flag ++ " cannot be used with " ++ second.flag
  | .missingOperand => "a query is required"
  | .surplusOperand argument => "unexpected argument " ++ argument

end SchemaLens.CommandLine
