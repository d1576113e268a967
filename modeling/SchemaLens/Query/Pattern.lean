import SchemaLens.Query.Filter
import SchemaLens.Query.FilterKey
import SchemaLens.Text.LowerCase
import SchemaLens.Text.Pattern

/-!
# Patterns of filter parameters

Keys and orders told by patterns: a key by one pattern for the whole of it and another for each of
its path segments, an order by a pattern for each of its entries.
-/

namespace SchemaLens.Query

open Text (Pattern)

namespace FilterKey

def blanks : Pattern :=
  .span Text.isWhiteSpace

def segment : Pattern :=
  .sequence [blanks, .symbol '[', .span isSegmentCharacter, .symbol ']']

/-- A whole key. It captures the keyword and all of the path. -/
def pattern : Pattern :=
  .sequence [
    .start, blanks, .word ['f', 'i', 'l', 't', 'e', 'r'], blanks, .symbol '[', blanks,
    .capture 1 (.span Text.isAsciiWord), blanks, .symbol ']', .capture 2 (.many segment), blanks,
    .finish]

/-- One path segment. It captures what stands between the white space inside the brackets. -/
def segmentPattern : Pattern :=
  .sequence [
    .symbol '[', blanks, .capture 1 (.few (.character isSegmentCharacter)), blanks, .symbol ']']

/-- The path that a text of segments is matched as. -/
def matchPath (text : List Char) : List String :=
  ((segmentPattern.occurrences [] text).filterMap (·.captured? 1)).map String.ofList

def ofMatch (found : Text.Place) : FilterKey where
  keyword := Text.lowerCase (String.ofList ((found.captured? 1).getD []))
  path := ((found.captured? 2).map matchPath).getD []

/-- The key that a text is matched as. -/
def match? (key : String) : Option FilterKey :=
  (pattern.occurrences [] key.toList).head?.map ofMatch

end FilterKey

namespace SortOrder

def directionPattern : Pattern :=
  .orElse (.word ['a', 's', 'c']) (.word ['d', 'e', 's', 'c'])

/-- One entry of an order. It captures the field and the direction. -/
def entryPattern : Pattern :=
  .sequence [
    .wordBoundary, .capture 1 (.sequence [.character Text.isAsciiWord, .span Text.isAsciiWord]),
    .character Text.isAsciiBlank, .span Text.isAsciiBlank, .capture 2 directionPattern,
    .wordBoundary]

def entryOf? (found : Text.Place) : Option OrderEntry := do
  let fieldName ← found.captured? 1
  let direction ← found.captured? 2
  return {
    fieldName := String.ofList fieldName
    direction :=
      if Text.asciiLower direction = ['d', 'e', 's', 'c'] then .descending else .ascending
  }

/-- The order that a text is matched as. -/
def match? (value : String) : Option SortOrder :=
  let entries := (entryPattern.occurrences [] value.toList).filterMap entryOf?
  if entries.isEmpty then none else some { entries }

end SortOrder

end SchemaLens.Query
