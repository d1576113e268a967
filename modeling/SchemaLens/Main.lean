import SchemaLens.CommandLine.Run

/-!
# The program

Collects what the program depends on, runs it and prints the result. Only the files and variables
that settings can depend on are read. No database client is built in, so every catalog is out of
reach.
-/

namespace SchemaLens.CommandLine

open Settings (FileEntry Surroundings)

/-- The environment variables of the given names that are set. -/
def readVariables (names : List String) : IO (List (String × List UInt8)) :=
  names.filterMapM fun name => do
    return (← IO.getEnv name).map fun value => (name, value.toUTF8.toList)

/-- What stands at a path. -/
def readEntry (path : String) : IO FileEntry := do
  try
    return .file (← IO.FS.readBinFile path).toList
  catch
    | .noFileOrDirectory .. => return .missing
    | error => return .unreadable (toString error)

/-- The surroundings that consist of the given variables and files. -/
def surroundingsOf (known : List (String × List UInt8))
    (files : List (String × FileEntry)) : Surroundings where
  bytes? name := known.lookup name
  entry path := (files.lookup path).getD .missing

/-- The settings file that the arguments name. -/
def namedFile? (arguments : List String) : Option String :=
  match Request.ofArguments arguments with
  | .ok request => request.config
  | .error _ => none

/-- Reads the surroundings that a run with the arguments depends on. -/
def readSurroundings (arguments : List String) : IO Surroundings := do
  let known ← readVariables [Settings.fileVariable, "XDG_CONFIG_HOME", "HOME"]
  let searching := surroundingsOf known []
  let paths :=
    (namedFile? arguments).toList ++ (searching.valueOf? Settings.fileVariable).toList ++
      [Settings.localFile] ++ searching.userFile?.toList
  let files ← paths.mapM fun path => return (path, ← readEntry path)
  match loadSettings (surroundingsOf known files) (namedFile? arguments) with
  | .ok settings => return surroundingsOf (known ++ (← readVariables settings.references)) files
  | .error _ => return surroundingsOf known files

end SchemaLens.CommandLine

/-- Runs the program and ends with its status. -/
def main (arguments : List String) : IO UInt32 := do
  let surroundings ← SchemaLens.CommandLine.readSurroundings arguments
  let catalog := fun _ => SchemaLens.Schema.Catalog.ofAnswers fun _ => .error .unreachable
  let ending := SchemaLens.CommandLine.run { surroundings, catalog } arguments
  (← IO.getStdout).putStr ending.output
  (← IO.getStderr).putStr ending.errorOutput
  return ending.status.toUInt32
