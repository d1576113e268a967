/-!
# Reading from the front of a text

A reader takes what it reads from the front of the characters and fails if it finds something
else. Blanks are spaces and tabs; lines end with a line feed, which a carriage return may
precede.
-/

namespace SchemaLens.Toml

/-- A computation that takes characters from the front of a text. -/
abbrev Reader := StateT (List Char) Option

/-- Spaces and tabs. -/
def isBlank (character : Char) : Bool :=
  character = ' ' || character = '\t'

/-- The characters of a line end. -/
def isLineEnd (character : Char) : Bool :=
  character = '\n' || character = '\r'

/-- Controls that may stand nowhere inside a line. -/
def isControl (character : Char) : Bool :=
  (character.toNat < 0x20 && character ≠ '\t') || character = '\x7F'

/-- Whether each carriage return of a text stands before a line feed. -/
def returnsEndLines : List Char → Bool
  | [] => true
  | '\r' :: '\n' :: rest => returnsEndLines rest
  | '\r' :: _ => false
  | _ :: rest => returnsEndLines rest

/-- The rest of a text after blanks, line ends and comments; `none` if a comment holds a
control. -/
def afterTrivia (inComment : Bool) : List Char → Option (List Char)
  | [] => some []
  | character :: rest =>
    if isLineEnd character then afterTrivia (inComment && character = '\r') rest
    else if inComment then if isControl character then none else afterTrivia true rest
    else if isBlank character then afterTrivia false rest
    else if character = '#' then afterTrivia true rest
    else some (character :: rest)

namespace Reader

/-- Takes the longest run of characters of a class. -/
def takeRun (admits : Char → Bool) : Reader (List Char) :=
  modifyGet fun text => (text.takeWhile admits, text.dropWhile admits)

/-- Takes blanks. -/
def blanks : Reader Unit :=
  modify (·.dropWhile isBlank)

/-- Takes blanks, line ends and comments. -/
def trivia : Reader Unit := do
  set (← afterTrivia false (← get))

/-- Takes a word if the text starts with it, and tells whether it did. -/
def accept (word : String) : Reader Bool :=
  modifyGet fun text =>
    if word.toList.isPrefixOf text then (true, text.drop word.length) else (false, text)

/-- Takes a word that has to come next. -/
def expect (word : String) : Reader Unit := do
  unless ← accept word do failure

/-- The next character, if there is one. -/
def next? : Reader (Option Char) :=
  return (← get).head?

end Reader

end SchemaLens.Toml
