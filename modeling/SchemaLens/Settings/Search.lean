import SchemaLens.Settings.Document
import SchemaLens.Text.Utf8

/-!
# Finding settings

Where settings are looked for: the file that a variable names, a file in the working directory,
a file in the configuration directory of the user. The first that applies decides, even if it
cannot be read; if none does, the settings are the default ones.
-/

namespace SchemaLens.Settings

/-- What stands at a path. -/
inductive FileEntry where
  | missing
  /-- A directory, or a file that is out of reach for a cause that the system tells. -/
  | unreadable (cause : Option String := none)
  | file (content : List UInt8)
deriving DecidableEq, Repr

/-- Whether something stands at a path. -/
def FileEntry.isPresent (entry : FileEntry) : Bool :=
  entry ≠ .missing

/-- What a program finds around itself when it starts. -/
structure Surroundings where
  /-- The environment variables that are set. -/
  bytes? : String → Option (List UInt8)
  /-- What stands at a path. -/
  entry : String → FileEntry
  /-- What is said of a content that is no text or no settings document. -/
  complaint? : List UInt8 → Option String := fun _ => none

/-- The text of bytes that are UTF-8. -/
def textOfBytes? (bytes : List UInt8) : Option String :=
  (Text.Utf8.decode? bytes).map String.ofList

/-- Two parts of a path with a slash between them. -/
def joinPath (directory name : String) : String :=
  if directory.isEmpty || directory.toList.getLast? == some '/' then directory ++ name
  else directory ++ "/" ++ name

namespace Surroundings

/-- The text of an environment variable. One that is no text counts as not set. -/
def valueOf? (surroundings : Surroundings) (name : String) : Option String :=
  (surroundings.bytes? name).bind textOfBytes?

/-- The directory for the settings of programs: an absolute path in one variable, else a
directory below the home directory. A path that is no text leads nowhere. -/
def configDirectory? (surroundings : Surroundings) : Option String :=
  match surroundings.bytes? "XDG_CONFIG_HOME" with
  | some (0x2F :: rest) => textOfBytes? (0x2F :: rest)
  | _ =>
    match surroundings.bytes? "HOME" with
    | none | some [] => none
    | some home => (textOfBytes? home).map (joinPath · ".config")

/-- The settings file in the configuration directory. -/
def userFile? (surroundings : Surroundings) : Option String :=
  surroundings.configDirectory?.map fun directory =>
    joinPath (joinPath directory "dbmeta") "config.toml"

end Surroundings

/-- The settings file in the working directory. -/
def localFile : String := "dbmeta.toml"

/-- The variable that names the settings file. -/
def fileVariable : String := "DBMETA_CONFIG"

/-- Reads settings from a file. -/
def ofFile (surroundings : Surroundings) (path : String) : Except SettingsError Settings :=
  match surroundings.entry path with
  | .missing => .error (.fileNotFound path)
  | .unreadable cause => .error (@SettingsError.unreadable cause)
  | .file content =>
    match textOfBytes? content with
    | none => .error (@SettingsError.unreadable (surroundings.complaint? content))
    | some text => parse text (surroundings.complaint? content)

/-- The file that settings are loaded from, if there is one. -/
def file? (surroundings : Surroundings) : Option String :=
  match surroundings.valueOf? fileVariable with
  | some path => some path
  | none =>
    if (surroundings.entry localFile).isPresent then some localFile
    else surroundings.userFile?.filter fun path => (surroundings.entry path).isPresent

/-- Loads settings from where they are looked for. -/
def load (surroundings : Surroundings) : Except SettingsError Settings :=
  match file? surroundings with
  | some path => ofFile surroundings path
  | none => .ok {}

end SchemaLens.Settings
