import SchemaLens.Toml.Scalar
import SchemaLens.Toml.Table

/-!
# TOML documents

A document is a sequence of headers and assignments. Arrays and inline tables nest at most eighty
deep. A document that is not well formed is `none`.
-/

namespace SchemaLens.Toml

/-- A line of a document. -/
inductive Statement where
  /-- Assigns a value to a dotted key. -/
  | assignment (path : List String) (name : String) (value : Value)
  /-- Opens a table. -/
  | header (path : List String) (name : String)
  /-- Adds a table to a list. -/
  | repeatedHeader (path : List String) (name : String)
deriving Repr

/-- Whether a character may stand in a key without quotes. -/
def isBareKeyCharacter (character : Char) : Bool :=
  character.isAlphanum || character = '_' || character = '-'

namespace Reader

/-- Reads one part of a key. -/
def keyPart : Reader String := do
  match ← lineString? with
  | some text => return String.ofList text
  | none =>
    let text ← takeRun isBareKeyCharacter
    if text.isEmpty then failure else return String.ofList text

/-- Reads the parts of a key from the first on. The first argument bounds their number. -/
def keyParts : Nat → Reader (List String × String)
  | 0 => failure
  | fuel + 1 => do
    let part ← keyPart
    blanks
    if ← accept "." then
      blanks
      let (path, name) ← keyParts fuel
      return (part :: path, name)
    else return ([], part)

/-- Reads a dotted key and the blanks after it. -/
def key : Reader (List String × String) := do
  keyParts ((← get).length + 1)

/-- Reads the elements of an array up to the closing bracket. The first argument bounds their
number. -/
def elements (element : Reader Value) : Nat → Reader (List Value)
  | 0 => failure
  | fuel + 1 => do
    trivia
    if ← accept "]" then return []
    else
      let first ← element
      trivia
      if ← accept "," then return first :: (← elements element fuel)
      else
        expect "]"
        return [first]

/-- Reads the members of an inline table up to the closing brace. The first argument bounds their
number. -/
def inlineMembers (value : Reader Value) (members : Members) : Nat → Reader Members
  | 0 => failure
  | fuel + 1 => do
    blanks
    let (path, name) ← key
    expect "="
    blanks
    let assigned ← value
    blanks
    let (_, members) ← assign path name assigned .inline members
    if ← accept "," then inlineMembers value members fuel
    else
      expect "\x7d"
      return members

/-- Reads a string or a scalar. -/
def plainValue : Reader Value := do
  match ← string? with
  | some text => return .string text
  | none => scalar

/-- Reads a value that nests at most so deep. -/
def value : Nat → Reader Value
  | 0 => plainValue
  | depth + 1 => do
    let bound := (← get).length + 1
    if ← accept "[" then return .array (← elements (value depth) bound)
    else if ← accept "\x7b" then
      blanks
      if ← accept "\x7d" then return .table .inline []
      else return .table .inline (← inlineMembers (value depth) [] bound)
    else plainValue

/-- Reads the rest of a line after a statement, up to the line end or the comment. -/
def endOfStatement : Reader Unit := do
  blanks
  match ← next? with
  | none => return
  | some character => if isLineEnd character || character = '#' then return else failure

/-- Reads a header or an assignment. -/
def statement : Reader Statement := do
  if ← accept "[[" then
    blanks
    let (path, name) ← key
    expect "]]"
    return .repeatedHeader path name
  else if ← accept "[" then
    blanks
    let (path, name) ← key
    expect "]"
    return .header path name
  else
    let (path, name) ← key
    expect "="
    blanks
    return .assignment path name (← value 80)

/-- Reads statements to the end of the text. The first argument bounds their number. -/
def statements : Nat → Reader (List Statement)
  | 0 => failure
  | fuel + 1 => do
    trivia
    if (← get).isEmpty then return []
    else
      let first ← statement
      endOfStatement
      return first :: (← statements fuel)

end Reader

/-- The statements of a text. -/
def Statement.ofText? (text : List Char) : Option (List Statement) :=
  if returnsEndLines text then
    ((Reader.statements (text.length + 1)).run text).map Prod.fst
  else none

/-- A document that is being built. -/
structure Draft where
  /-- The members of the document so far. -/
  members : Members := []
  /-- The table that assignments go to. -/
  current : List String := []
deriving Repr

/-- Adds what a statement says. -/
def Draft.add (draft : Draft) : Statement → Option Draft
  | .assignment path name value => do
    return { draft with members := ← assignUnder draft.current path name value draft.members }
  | .header path name => do
    return { members := ← openTable path name draft.members, current := path ++ [name] }
  | .repeatedHeader path name => do
    return { members := ← appendTable path name draft.members, current := path ++ [name] }

/-- The members of the document that a text holds. A byte order mark may come first. -/
def document? (text : String) : Option Members := do
  let content :=
    match text.toList with
    | '\uFEFF' :: rest => rest
    | characters => characters
  let draft ← (← Statement.ofText? content).foldlM Draft.add {}
  return draft.members

end SchemaLens.Toml
