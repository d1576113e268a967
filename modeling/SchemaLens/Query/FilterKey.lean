import SchemaLens.Text.Ascii
import SchemaLens.Text.WhiteSpace

/-!
# Filter keys

The key of a filter parameter is the word `filter`, a keyword in brackets and any number of path
segments in brackets. White space may stand around every token and every segment. Any other key
belongs to some other parameter.
-/

namespace SchemaLens.Query

/-- A key that addresses a filter. -/
structure FilterKey where
  /-- The keyword in lower case. -/
  keyword : String
  /-- The path segments, trimmed. -/
  path : List String
deriving DecidableEq, Repr

namespace FilterKey

/-- What follows a word at the start of a text, the word being in any ASCII case. -/
def afterWord? (word text : List Char) : Option (List Char) :=
  if Text.asciiLower (text.take word.length) = word then some (text.drop word.length) else none

/-- What follows a symbol at the start of a text. -/
def after? (symbol : Char) : List Char → Option (List Char)
  | [] => none
  | character :: rest => if character = symbol then some rest else none

/-- Whether a character may stand inside a segment. -/
def isSegmentCharacter (character : Char) : Bool :=
  character ≠ '[' && character ≠ ']'

theorem length_trimStart_le (text : List Char) : (Text.trimStart text).length ≤ text.length :=
  (List.dropWhile_sublist _).length_le

/-- The segments that make up a whole text, with white space between them. -/
def segments? (text : List Char) : Option (List (List Char)) :=
  match _opened : Text.trimStart text with
  | [] => some []
  | bracket :: body =>
    if bracket = '[' then
      match _closed : body.dropWhile isSegmentCharacter with
      | ']' :: rest =>
        (segments? rest).map (Text.trim (body.takeWhile isSegmentCharacter) :: ·)
      | _ => none
    else none
termination_by text.length
decreasing_by
  have opened_le := length_trimStart_le text
  have closed_le := (List.dropWhile_sublist isSegmentCharacter (l := body)).length_le
  rw [_opened] at opened_le
  rw [_closed] at closed_le
  simp only [List.length_cons] at opened_le closed_le
  omega

/-- Reads a key; `none` if it does not address a filter. -/
def parse? (key : String) : Option FilterKey := do
  let afterFilter ← afterWord? ['f', 'i', 'l', 't', 'e', 'r'] (Text.trimStart key.toList)
  let opened ← after? '[' (Text.trimStart afterFilter)
  let keywordOn := Text.trimStart opened
  let closed ← after? ']' (Text.trimStart (keywordOn.dropWhile Text.isAsciiWord))
  let segments ← segments? closed
  return {
    keyword := String.ofList (Text.asciiLower (keywordOn.takeWhile Text.isAsciiWord))
    path := segments.map String.ofList
  }

end FilterKey

end SchemaLens.Query
