import SchemaLens.Text.Word

/-!
# Plural rules

A rule knows a word by its end. The end is a stem, which is kept, followed by an ending, which is
dropped; what stays is the stem with the word characters before it, and the replacement follows.
Whatever precedes those word characters is lost.

Words are read from their last character here, so every text in this module is reversed.
-/

namespace SchemaLens.Naming

/-- One place of a stem. -/
inductive StemCharacter where
  /-- One of these characters. -/
  | among (characters : List Char)
  /-- Any character but these. -/
  | except (characters : List Char)
deriving DecidableEq, Repr

/-- Whether a character may stand at a place of a stem. -/
def StemCharacter.admits : StemCharacter → Char → Bool
  | .among characters, character => characters.contains character
  | .except characters, character => !characters.contains character

/-- The places of a stem, from the first to the last. -/
abbrev Stem := List StemCharacter

/-- A stem of given characters. -/
def Stem.word (text : String) : Stem :=
  text.toList.map fun character => .among [character]

/-- How words with certain ends form their plural. -/
structure PluralRule where
  /-- The stems, any one of which comes before the ending. -/
  stems : List Stem
  /-- The endings, any one of which is dropped. -/
  endings : List String := [""]
  /-- What is put in the place of the ending. -/
  replacement : String

/-- Takes from a reversed text the characters that a reversed list of places admits. -/
def takeStem? : List StemCharacter → List Char → Option (List Char × List Char)
  | [], text => some ([], text)
  | _ :: _, [] => none
  | place :: places, character :: rest =>
    if place.admits character then
      (takeStem? places rest).map fun (taken, left) => (character :: taken, left)
    else none

namespace PluralRule

/-- What a stem keeps of a reversed text: the stem and the word characters before it. -/
def keptByStem? (stem : Stem) (reversed : List Char) : Option (List Char) :=
  (takeStem? stem.reverse reversed).map fun (taken, left) =>
    taken ++ left.takeWhile Text.isWordCharacter

/-- The longer of two texts, the first if they are as long as each other. -/
def longer (first second : List Char) : List Char :=
  if first.length < second.length then second else first

/-- What the stems keep of a reversed text; of several stems the one that keeps most decides. -/
def kept? (rule : PluralRule) (reversed : List Char) : Option (List Char) :=
  match rule.stems.filterMap (keptByStem? · reversed) with
  | [] => none
  | first :: others => some (others.foldl longer first)

/-- What an ending leaves of a reversed text. -/
def beforeEnding? (ending : String) (reversed : List Char) : Option (List Char) :=
  if ending.toList.reverse.isPrefixOf reversed then some (reversed.drop ending.length) else none

/-- The plural of a word by a rule, if the word ends as the rule says. -/
def plural? (rule : PluralRule) (word : String) : Option String :=
  let reversed := word.toList.reverse
  rule.endings.findSome? fun ending => do
    let rest ← beforeEnding? ending reversed
    let kept ← rule.kept? rest
    return String.ofList kept.reverse ++ rule.replacement

end PluralRule

end SchemaLens.Naming
