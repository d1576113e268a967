/-!
# ASCII classes and case

The parts of the filter language that know ASCII only: keywords, order entries, operators and
flags. A character outside ASCII belongs to none of these classes and has no other case here.
-/

namespace SchemaLens.Text

/-- Letters, digits and the underscore of ASCII. -/
def isAsciiWord (character : Char) : Bool :=
  character.isAlphanum || character == '_'

/-- The six blanks of ASCII: space, tab, line feed, vertical tab, form feed, carriage return. -/
def isAsciiBlank (character : Char) : Bool :=
  character == ' ' || (9 ≤ character.toNat && character.toNat ≤ 13)

/-- Text with its ASCII capitals made small. -/
def asciiLower (text : List Char) : List Char :=
  text.map Char.toLower

@[simp]
theorem length_asciiLower (text : List Char) : (asciiLower text).length = text.length := by
  simp [asciiLower]

end SchemaLens.Text
