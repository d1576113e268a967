import SchemaLens.Settings.Error
import SchemaLens.Text.Word

/-!
# Templates

Texts that refer to environment variables. A reference is a dollar sign with a name in braces, or
with the longest run of alphanumeric characters and underscores after it; a dollar sign with
neither stands for itself. A reference in braces that is never closed reaches to the end of the
text.

A text is first cut into pieces and the pieces are then expanded from left to right. The value of
a variable is put in as it is and never read as a template again.
-/

namespace SchemaLens.Settings

/-- A piece of a template. -/
inductive TemplatePiece where
  /-- A character that stands for itself. -/
  | literal (character : Char)
  /-- A reference with its name in braces. -/
  | braced (name : List Char)
  /-- A reference without braces. -/
  | bare (name : List Char)
deriving DecidableEq, Repr

/-- Whether a character may stand in the name of a reference without braces. -/
def isNameCharacter (character : Char) : Bool :=
  Text.isAlphanumeric character || character = '_'

/-- The pieces that a text is made of. -/
def templatePieces (text : List Char) : List TemplatePiece :=
  match text with
  | [] => []
  | '$' :: '\x7b' :: rest =>
    .braced (rest.takeWhile (· ≠ '\x7d')) ::
      templatePieces ((rest.dropWhile (· ≠ '\x7d')).drop 1)
  | '$' :: rest =>
    let name := rest.takeWhile isNameCharacter
    if name.isEmpty then .literal '$' :: templatePieces rest
    else .bare name :: templatePieces (rest.dropWhile isNameCharacter)
  | character :: rest => .literal character :: templatePieces rest
termination_by text.length
decreasing_by
  · have := (List.dropWhile_sublist (· ≠ '\x7d') (l := rest)).length_le
    simp only [List.length_drop, List.length_cons]
    omega
  · simp
  · have := (List.dropWhile_sublist isNameCharacter (l := rest)).length_le
    simp only [List.length_cons]
    omega
  · simp

namespace TemplatePiece

/-- The name of the variable that a piece refers to, if it is a reference. -/
def reference? : TemplatePiece → Option String
  | .literal _ => none
  | .braced name | .bare name => some (String.ofList name)

/-- What a piece of a template stands for. -/
def expand (valueOf? : String → Option String) (template : String) :
    TemplatePiece → Except SettingsError (List Char)
  | .literal character => .ok [character]
  | .braced [] => .error (.emptyReference template)
  | .braced name | .bare name =>
    match valueOf? (String.ofList name) with
    | some value => .ok value.toList
    | none => .error (.missingVariable (String.ofList name))

end TemplatePiece

/-- A text with its references replaced by the values of the variables. -/
def expandTemplate (valueOf? : String → Option String) (template : String) :
    Except SettingsError String := do
  let pieces ← (templatePieces template.toList).mapM (TemplatePiece.expand valueOf? template)
  return String.ofList pieces.flatten

/-- The names of the variables that a text refers to, in order. -/
def templateReferences (template : String) : List String :=
  (templatePieces template.toList).filterMap TemplatePiece.reference?

end SchemaLens.Settings
