import SchemaLens.Text.Hexadecimal
import SchemaLens.Toml.Reader

/-!
# TOML strings

The four forms of strings: basic ones with escapes and literal ones without, each on one line or
over several. Every function here starts after the opening quotes and takes the closing ones.
-/

namespace SchemaLens.Toml

/-- The character at a code point, unless it is a surrogate or out of range. -/
def character? (codePoint : Nat) : Option Char :=
  if codePoint.isValidChar then some (Char.ofNat codePoint) else none

/-- Reads the digits of a code point. -/
def codePointEscape? (count : Nat) (text : List Char) : Option (Char × List Char) := do
  let digits := text.take count
  if digits.length < count then none
  else
    let character ← character? (← Text.hexNumber? digits)
    return (character, text.drop count)

/-- Reads what follows the backslash of an escape. -/
def escape? : List Char → Option (Char × List Char)
  | 'b' :: rest => some ('\x08', rest)
  | 't' :: rest => some ('\t', rest)
  | 'n' :: rest => some ('\n', rest)
  | 'f' :: rest => some ('\x0C', rest)
  | 'r' :: rest => some ('\r', rest)
  | '"' :: rest => some ('"', rest)
  | '\\' :: rest => some ('\\', rest)
  | 'u' :: rest => codePointEscape? 4 rest
  | 'U' :: rest => codePointEscape? 8 rest
  | _ => none

/-- Reads a basic string on one line. The first argument bounds the number of steps. -/
def basicString? : Nat → List Char → Option (List Char × List Char)
  | 0, _ => none
  | _, [] => none
  | _ + 1, '"' :: rest => some ([], rest)
  | fuel + 1, '\\' :: rest => do
    let (character, rest) ← escape? rest
    let (text, rest) ← basicString? fuel rest
    return (character :: text, rest)
  | fuel + 1, character :: rest =>
    if isControl character then none
    else do
      let (text, rest) ← basicString? fuel rest
      return (character :: text, rest)

/-- Reads a literal string on one line. -/
def literalString? (text : List Char) : Option (List Char × List Char) :=
  let content := text.takeWhile (· ≠ '\'')
  match text.dropWhile (· ≠ '\'') with
  | [] => none
  | _ :: rest => if content.any isControl then none else some (content, rest)

/-- The rest of a text after the line end it may start with. -/
def afterFirstLineEnd : List Char → List Char
  | '\r' :: '\n' :: rest => rest
  | '\n' :: rest => rest
  | text => text

/-- What a run of quotes does inside a string over several lines: three close it, and up to two
before them belong to it. `none` if the run does not close the string. -/
def closingQuotes? (quotes : Nat) : Option Nat :=
  if quotes < 3 then none else some (min (quotes - 3) 2)

/-- What follows a backslash at the end of a line: the first character that is neither blank nor
line end. `none` if the backslash does not stand at the end of a line. -/
def afterContinuation? (text : List Char) : Option (List Char) :=
  match text.dropWhile isBlank with
  | [] => none
  | character :: rest =>
    if isLineEnd character then
      some (rest.dropWhile fun character => isBlank character || isLineEnd character)
    else none

/-- Whether a character may stand in a string over several lines. -/
def isMultilineCharacter (character : Char) : Bool :=
  isLineEnd character || !isControl character

/-- Reads a basic string over several lines. The first argument bounds the number of steps. -/
def multilineBasic? : Nat → List Char → Option (List Char × List Char)
  | 0, _ => none
  | _, [] => none
  | fuel + 1, '"' :: rest =>
    let quotes := 1 + (rest.takeWhile (· = '"')).length
    match closingQuotes? quotes with
    | some kept => some (List.replicate kept '"', rest.drop (kept + 2))
    | none => do
      let (text, rest) ← multilineBasic? fuel (rest.dropWhile (· = '"'))
      return (List.replicate quotes '"' ++ text, rest)
  | fuel + 1, '\\' :: rest =>
    match afterContinuation? rest with
    | some rest => multilineBasic? fuel rest
    | none => do
      let (character, rest) ← escape? rest
      let (text, rest) ← multilineBasic? fuel rest
      return (character :: text, rest)
  | fuel + 1, character :: rest =>
    if isMultilineCharacter character then do
      let (text, rest) ← multilineBasic? fuel rest
      return (character :: text, rest)
    else none

/-- Reads a literal string over several lines. The first argument bounds the number of steps. -/
def multilineLiteral? : Nat → List Char → Option (List Char × List Char)
  | 0, _ => none
  | _, [] => none
  | fuel + 1, '\'' :: rest =>
    let quotes := 1 + (rest.takeWhile (· = '\'')).length
    match closingQuotes? quotes with
    | some kept => some (List.replicate kept '\'', rest.drop (kept + 2))
    | none => do
      let (text, rest) ← multilineLiteral? fuel (rest.dropWhile (· = '\''))
      return (List.replicate quotes '\'' ++ text, rest)
  | fuel + 1, character :: rest =>
    if isMultilineCharacter character then do
      let (text, rest) ← multilineLiteral? fuel rest
      return (character :: text, rest)
    else none

namespace Reader

/-- Reads a string on one line in either form; `none` if no string starts here. -/
def lineString? : Reader (Option (List Char)) := do
  if ← accept "\"" then
    return some (← fun text => basicString? (text.length + 1) text)
  else if ← accept "'" then
    return some (← literalString?)
  else return none

/-- Reads a string in any form; `none` if no string starts here. -/
def string? : Reader (Option (List Char)) := do
  if ← accept "\"\"\"" then
    modify afterFirstLineEnd
    return some (← fun text => multilineBasic? (text.length + 1) text)
  else if ← accept "'''" then
    modify afterFirstLineEnd
    return some (← fun text => multilineLiteral? (text.length + 1) text)
  else lineString?

end Reader

end SchemaLens.Toml
