import SchemaLens.Json.Value

/-!
# JSON text

How JSON values are written over several lines: two spaces for each level, one element or member
to a line, and empty arrays and objects closed where they open. Only the quotation mark, the
backslash and the controls below the space are escaped.
-/

namespace SchemaLens.Json

/-- A number below 256 as two hexadecimal digits. -/
def twoDigits (number : Nat) : List Char :=
  [Nat.digitChar (number / 16), Nat.digitChar (number % 16)]

/-- How one character stands inside a JSON string. -/
def escapedCharacter (character : Char) : List Char :=
  match character with
  | '"' => ['\\', '"']
  | '\\' => ['\\', '\\']
  | '\x08' => ['\\', 'b']
  | '\x0C' => ['\\', 'f']
  | '\n' => ['\\', 'n']
  | '\r' => ['\\', 'r']
  | '\t' => ['\\', 't']
  | _ =>
    if character.toNat < 0x20 then ['\\', 'u', '0', '0'] ++ twoDigits character.toNat
    else [character]

/-- A text as a JSON string. -/
def stringLiteral (text : String) : String :=
  String.ofList ('"' :: text.toList.flatMap escapedCharacter ++ ['"'])

/-- The start of a line at a level of nesting. -/
def lineStart (level : Nat) : String :=
  "\n" ++ String.ofList (List.replicate (2 * level) ' ')

mutual

/-- A value as text, its first line standing at a level of nesting. -/
def prettyAt (level : Nat) : Json → String
  | .null => "null"
  | .bool value => if value then "true" else "false"
  | .integer value => toString value
  | .decimal literal => literal
  | .string text => stringLiteral text
  | .array [] => "[]"
  | .array (first :: others) =>
    "[" ++ lineStart (level + 1) ++ prettyAt (level + 1) first ++
      prettyElements (level + 1) others ++ lineStart level ++ "]"
  | .object [] => "\x7b\x7d"
  | .object ((name, first) :: others) =>
    "\x7b" ++ lineStart (level + 1) ++ stringLiteral name ++ ": " ++ prettyAt (level + 1) first ++
      prettyMembers (level + 1) others ++ lineStart level ++ "\x7d"

/-- The elements of an array after the first. -/
def prettyElements (level : Nat) : List Json → String
  | [] => ""
  | first :: others =>
    "," ++ lineStart level ++ prettyAt level first ++ prettyElements level others

/-- The members of an object after the first. -/
def prettyMembers (level : Nat) : List (String × Json) → String
  | [] => ""
  | (name, first) :: others =>
    "," ++ lineStart level ++ stringLiteral name ++ ": " ++ prettyAt level first ++
      prettyMembers level others

end

/-- A value as text over several lines. -/
def pretty (value : Json) : String :=
  prettyAt 0 value

end SchemaLens.Json
