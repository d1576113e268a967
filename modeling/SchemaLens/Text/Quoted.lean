import SchemaLens.Text.Hexadecimal
import SchemaLens.Text.Tables.Mark
import SchemaLens.Text.Tables.Unprintable

/-!
# Quoted text

Messages show a value between quotation marks, on one line and free of invisible characters:
the usual controls, the quotation mark and the backslash get a short escape, every other
character without a glyph of its own is written by its code point.
-/

namespace SchemaLens.Text

/-- Whether a character has to be written by its code point. -/
def isInvisible (character : Char) : Bool :=
  CodePointSet.graphemeExtend.includes character || CodePointSet.unprintable.includes character

/-- How one character stands inside quoted text. -/
def quotedCharacter (character : Char) : List Char :=
  match character with
  | '\x00' => ['\\', '0']
  | '\t' => ['\\', 't']
  | '\r' => ['\\', 'r']
  | '\n' => ['\\', 'n']
  | '"' => ['\\', '"']
  | '\\' => ['\\', '\\']
  | _ =>
    if isInvisible character then
      ['\\', 'u', '\x7b'] ++ hexadecimal character.toNat ++ ['\x7d']
    else [character]

/-- Text between quotation marks. -/
def quoted (text : String) : String :=
  String.ofList ('"' :: text.toList.flatMap quotedCharacter ++ ['"'])

end SchemaLens.Text
