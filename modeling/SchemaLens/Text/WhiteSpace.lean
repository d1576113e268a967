import SchemaLens.Text.CodePointSet

/-!
# White space

White space is the Unicode property White_Space. Filter keys, flags, field lists and type names
are trimmed and cut by it.
-/

namespace SchemaLens.Text

/-- Characters with the property White_Space. -/
def CodePointSet.whiteSpace : CodePointSet :=
  [
    (0x9, 0xD), (0x20, 0x20), (0x85, 0x85), (0xA0, 0xA0), (0x1680, 0x1680), (0x2000, 0x200A),
    (0x2028, 0x2029), (0x202F, 0x202F), (0x205F, 0x205F), (0x3000, 0x3000)
  ]

/-- Whether a character is white space. -/
def isWhiteSpace (character : Char) : Bool :=
  CodePointSet.whiteSpace.includes character

/-- Text without the white space it starts with. -/
def trimStart (text : List Char) : List Char :=
  text.dropWhile isWhiteSpace

/-- Text without the white space it ends with. -/
def trimEnd (text : List Char) : List Char :=
  (text.reverse.dropWhile isWhiteSpace).reverse

/-- Text without the white space around it. -/
def trim (text : List Char) : List Char :=
  trimEnd (trimStart text)

@[simp]
theorem trim_nil : trim [] = [] := rfl

end SchemaLens.Text
