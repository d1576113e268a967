import SchemaLens.Text.Tables.LowerCase
import SchemaLens.Text.Tables.Casing

/-!
# Lower case

Text in lower case, by the full Unicode mapping: a dotted capital I gains a combining dot, and a
capital sigma becomes the final form at the end of a word.
-/

namespace SchemaLens.Text

namespace CaseRun

/-- Whether a code point is a member of the run. -/
def covers (run : CaseRun) (codePoint : Nat) : Bool :=
  run.first ≤ codePoint && codePoint ≤ run.last && (codePoint - run.first) % run.stride == 0

end CaseRun

/-- The lower case of one character outside any context. -/
def lowerCaseOf (character : Char) : List Char :=
  if character = '\u0130' then ['i', '\u0307']
  else
    match lowerCaseRuns.find? (·.covers character.toNat) with
    | some run => [Char.ofNat (Int.toNat (character.toNat + run.offset))]
    | none => [character]

/-- Whether a cased character comes first in a text, not counting those that casing ignores. -/
def startsCased (text : List Char) : Bool :=
  match text.dropWhile CodePointSet.caseIgnorable.includes with
  | [] => false
  | character :: _ => CodePointSet.cased.includes character

/-- Text in lower case, where `before` is the text already read, nearest character first. -/
def lowerCaseAfter (before : List Char) : List Char → List Char
  | [] => []
  | character :: rest =>
    let lowered :=
      if character = '\u03A3' then
        if startsCased before && !startsCased rest then ['\u03C2'] else ['\u03C3']
      else lowerCaseOf character
    lowered ++ lowerCaseAfter (character :: before) rest

/-- Text in lower case. -/
def lowerCase (text : String) : String :=
  String.ofList (lowerCaseAfter [] text.toList)

end SchemaLens.Text
