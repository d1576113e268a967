import SchemaLens.Text.Tables.Letter
import SchemaLens.Text.Tables.Number
import SchemaLens.Text.Tables.Mark

/-!
# Alphanumeric and word characters

Names of variables are made of alphanumeric characters, and the plural rules act on the last
run of word characters. Both classes are Unicode ones.
-/

namespace SchemaLens.Text

/-- Whether a character is a letter, a digit or another number character. -/
def isAlphanumeric (character : Char) : Bool :=
  character.isAlphanum || CodePointSet.alphabetic.includes character ||
    CodePointSet.decimalDigit.includes character || CodePointSet.otherNumber.includes character

/-- Connector punctuation and the two joiners. -/
def CodePointSet.connector : CodePointSet :=
  [
    (0x5F, 0x5F), (0x200C, 0x200D), (0x203F, 0x2040), (0x2054, 0x2054), (0xFE33, 0xFE34),
    (0xFE4D, 0xFE4F), (0xFF3F, 0xFF3F)
  ]

/-- Whether a character may stand inside a word: letters, marks, decimal digits, connectors. -/
def isWordCharacter (character : Char) : Bool :=
  character.isAlphanum || CodePointSet.connector.includes character ||
    CodePointSet.alphabetic.includes character || CodePointSet.decimalDigit.includes character ||
    CodePointSet.mark.includes character

end SchemaLens.Text
