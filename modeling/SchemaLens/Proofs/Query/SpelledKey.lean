import Mathlib.Data.List.Basic
import Mathlib.Data.List.TakeWhile
import Mathlib.Tactic.NthRewrite
import Mathlib.Tactic.SplitIfs
import SchemaLens.Proofs.Text.LowerCase
import SchemaLens.Query.FilterKey

/-!
# Keys spelled out

A key is spelled as the word `filter`, a keyword in brackets and segments in brackets, with white
space around every token. The keys that are read are the ones that can be spelled, and what is read
are the keyword in small letters and the segments without the white space around them. A key can be
spelled in one way only, but for the white space around an empty keyword, which may be cut anywhere.
-/

namespace SchemaLens.Query.FilterKey

theorem bracket_shown {bracket : Char} (is_bracket : bracket = '[' ∨ bracket = ']')
    (rest : List Char) :
    ∀ character ∈ (bracket :: rest).head?, Text.isWhiteSpace character = false := by
  rintro character ⟨⟩
  rcases is_bracket with rfl | rfl <;> decide

theorem after?_eq_some_iff {symbol : Char} {text rest : List Char} :
    after? symbol text = some rest ↔ text = symbol :: rest := by
  cases text with
  | nil => simp [after?]
  | cons first others => by_cases same : first = symbol <;> simp [after?, same]

theorem afterWord?_eq_some_iff {word text rest : List Char} :
    afterWord? word text = some rest ↔
      Text.asciiLower (text.take word.length) = word ∧ text = text.take word.length ++ rest := by
  rw [afterWord?]
  split_ifs with spelled
  · rw [Option.some.injEq, and_iff_right spelled]
    nth_rewrite 2 [← List.take_append_drop word.length text]
    rw [List.append_cancel_left_eq]
  · simp [spelled]

/-! ## Segments -/

/-- A path segment in brackets, with the white space before them. -/
@[ext]
structure SpelledSegment where
  blanks : List Char
  content : List Char
  white : Text.IsWhite blanks
  inside : ∀ character ∈ content, isSegmentCharacter character = true

namespace SpelledSegment

def text (segment : SpelledSegment) : List Char :=
  segment.blanks ++ '[' :: (segment.content ++ [']'])

def textOf (segments : List SpelledSegment) : List Char :=
  segments.flatMap text

/-- The segment without the white space around it. -/
def trimmed (segment : SpelledSegment) : List Char :=
  Text.trim segment.content

theorem text_append (segment : SpelledSegment) (rest : List Char) :
    segment.text ++ rest = segment.blanks ++ '[' :: (segment.content ++ ']' :: rest) := by
  simp [text]

@[simp]
theorem textOf_nil : textOf [] = [] := rfl

@[simp]
theorem textOf_cons (segment : SpelledSegment) (rest : List SpelledSegment) :
    textOf (segment :: rest) = segment.text ++ textOf rest := rfl

theorem length_text_pos (segment : SpelledSegment) : 0 < segment.text.length := by
  rw [List.length_pos_iff]
  simp [text]

theorem not_white_text_append (segment : SpelledSegment) (rest : List Char) :
    ¬Text.IsWhite (segment.text ++ rest) := by
  intro white
  have bracket_white := white '[' (by simp [text])
  contradiction

theorem content_ended (rest : List Char) :
    ∀ character ∈ (']' :: rest).head?, isSegmentCharacter character = false := by
  rintro character ⟨⟩
  rfl

end SpelledSegment

theorem segments?_of_white {trail : List Char} (white : Text.IsWhite trail) :
    segments? trail = some [] := by
  have nothing_shown : Text.trimStart trail = [] := List.dropWhile_eq_nil_iff.mpr white
  rw [segments?]
  split
  · rfl
  · simp_all

/-- One segment is read, whatever comes next. -/
theorem segments?_segment_append (segment : SpelledSegment) (rest : List Char) :
    segments? (segment.text ++ rest) = (segments? rest).map (segment.trimmed :: ·) := by
  rw [segment.text_append]
  have shown : Text.trimStart (segment.blanks ++ '[' :: (segment.content ++ ']' :: rest)) =
      '[' :: (segment.content ++ ']' :: rest) :=
    Text.trimStart_append segment.white (bracket_shown (.inl rfl) _)
  have dropped : (segment.content ++ ']' :: rest).dropWhile isSegmentCharacter = ']' :: rest :=
    Text.dropWhile_append_of_ended segment.inside (SpelledSegment.content_ended rest)
  have taken : (segment.content ++ ']' :: rest).takeWhile isSegmentCharacter = segment.content :=
    Text.takeWhile_append_of_ended segment.inside (SpelledSegment.content_ended rest)
  rw [segments?]
  split
  · rename_i opened
    rw [shown] at opened
    contradiction
  · rename_i bracket body opened
    rw [shown] at opened
    rcases List.cons.inj opened with ⟨rfl, rfl⟩
    rw [if_pos rfl]
    split
    · rename_i closedRest closed
      rw [dropped] at closed
      rcases List.cons.inj closed with ⟨-, rfl⟩
      rw [taken, SpelledSegment.trimmed]
    · rename_i not_closed
      exact absurd dropped (not_closed rest)

theorem segments?_textOf_append (segments : List SpelledSegment) {trail : List Char}
    (white : Text.IsWhite trail) :
    segments? (SpelledSegment.textOf segments ++ trail) =
      some (segments.map SpelledSegment.trimmed) := by
  induction segments with
  | nil => exact segments?_of_white white
  | cons segment rest ih =>
      rw [SpelledSegment.textOf_cons, List.append_assoc, segments?_segment_append, ih]
      rfl

theorem exists_spelled_of_segments? {text : List Char} {segments : List (List Char)}
    (read : segments? text = some segments) :
    ∃ spelled trail, Text.IsWhite trail ∧ text = SpelledSegment.textOf spelled ++ trail := by
  fun_induction segments? text generalizing segments with
  | case1 text opened =>
      rcases Text.exists_white_append text with ⟨blanks, white, text_eq⟩
      rw [opened, List.append_nil] at text_eq
      exact ⟨[], text, text_eq ▸ white, rfl⟩
  | case2 text body rest closed opened ih =>
      rcases Option.map_eq_some_iff.mp read with ⟨others, others_read, -⟩
      rcases ih others_read with ⟨spelled, trail, trail_white, rest_eq⟩
      rcases Text.exists_white_append text with ⟨blanks, white, text_eq⟩
      let segment : SpelledSegment := {
        blanks
        content := body.takeWhile isSegmentCharacter
        white
        inside := Text.kept_takeWhile _ _ }
      refine ⟨segment :: spelled, trail, trail_white, ?_⟩
      rw [SpelledSegment.textOf_cons, List.append_assoc, ← rest_eq, segment.text_append, ← closed,
        List.takeWhile_append_dropWhile, ← opened]
      exact text_eq
  | case3 => contradiction
  | case4 => contradiction

namespace SpelledSegment

/-- A text is made of segments in one way only. -/
theorem eq_of_textOf_append_eq {segments others : List SpelledSegment}
    {trail otherTrail : List Char} (white : Text.IsWhite trail)
    (other_white : Text.IsWhite otherTrail)
    (same : textOf segments ++ trail = textOf others ++ otherTrail) :
    segments = others ∧ trail = otherTrail := by
  induction segments generalizing others with
  | nil =>
      cases others with
      | nil => exact ⟨rfl, same⟩
      | cons other others =>
          have trail_eq : trail = other.text ++ (textOf others ++ otherTrail) := by simpa using same
          exact absurd (trail_eq ▸ white) (not_white_text_append other _)
  | cons segment rest ih =>
      cases others with
      | nil =>
          have trail_eq : otherTrail = segment.text ++ (textOf rest ++ trail) := by
            simpa using same.symm
          exact absurd (trail_eq ▸ other_white) (not_white_text_append segment _)
      | cons other others =>
          rw [textOf_cons, List.append_assoc, text_append, textOf_cons, List.append_assoc,
            text_append] at same
          rcases Text.eq_of_append_eq_append segment.white (bracket_shown (.inl rfl) _) other.white
            (bracket_shown (.inl rfl) _) same with ⟨blanks_eq, opened_eq⟩
          rcases Text.eq_of_append_eq_append segment.inside (content_ended _) other.inside
            (content_ended _) (List.cons.inj opened_eq).2 with ⟨content_eq, closed_eq⟩
          rcases ih (List.cons.inj closed_eq).2 with ⟨rest_eq, trail_eq⟩
          exact ⟨by rw [SpelledSegment.ext blanks_eq content_eq, rest_eq], trail_eq⟩

end SpelledSegment

/-! ## Keys -/

structure SpelledKey where
  lead : List Char
  word : List Char
  beforeOpening : List Char
  afterOpening : List Char
  keyword : List Char
  beforeClosing : List Char
  segments : List SpelledSegment
  trail : List Char
  lead_white : Text.IsWhite lead
  spelled : Text.asciiLower word = ['f', 'i', 'l', 't', 'e', 'r']
  beforeOpening_white : Text.IsWhite beforeOpening
  afterOpening_white : Text.IsWhite afterOpening
  keyword_word : ∀ character ∈ keyword, Text.isAsciiWord character = true
  beforeClosing_white : Text.IsWhite beforeClosing
  trail_white : Text.IsWhite trail

namespace SpelledKey

/-- The text behind the opening bracket of the keyword. -/
def opened (spelled : SpelledKey) : List Char :=
  spelled.afterOpening ++ (spelled.keyword ++ (spelled.beforeClosing ++
    ']' :: (SpelledSegment.textOf spelled.segments ++ spelled.trail)))

def text (spelled : SpelledKey) : List Char :=
  spelled.lead ++ (spelled.word ++ (spelled.beforeOpening ++ '[' :: spelled.opened))

def filterKey (spelled : SpelledKey) : FilterKey where
  keyword := String.ofList (Text.asciiLower spelled.keyword)
  path := spelled.segments.map fun segment => String.ofList segment.trimmed

variable (spelled : SpelledKey)

theorem isAsciiWord_of_mem_word :
    ∀ character ∈ spelled.word, Text.isAsciiWord character = true := by
  rw [← Text.forall_isAsciiWord_asciiLower, spelled.spelled]
  exact List.all_eq_true.mp rfl

theorem length_word : spelled.word.length = ['f', 'i', 'l', 't', 'e', 'r'].length := by
  rw [← spelled.spelled, Text.length_asciiLower]

theorem word_shown (rest : List Char) :
    ∀ character ∈ (spelled.word ++ rest).head?, Text.isWhiteSpace character = false := by
  intro character first
  have word_ne_nil : spelled.word ≠ [] := by
    rw [← List.length_pos_iff, spelled.length_word]
    decide
  rw [List.head?_append_of_ne_nil _ word_ne_nil] at first
  exact Text.visible_of_isAsciiWord
    (spelled.isAsciiWord_of_mem_word character (List.mem_of_mem_head? first))

/-- The keyword and what closes it, whether or not the keyword is empty. -/
theorem opened_read :
    (Text.trimStart spelled.opened).takeWhile Text.isAsciiWord = spelled.keyword ∧
      Text.trimStart ((Text.trimStart spelled.opened).dropWhile Text.isAsciiWord) =
        ']' :: (SpelledSegment.textOf spelled.segments ++ spelled.trail) := by
  let closing := ']' :: (SpelledSegment.textOf spelled.segments ++ spelled.trail)
  have closing_shown := bracket_shown (.inr rfl)
    (SpelledSegment.textOf spelled.segments ++ spelled.trail)
  have closing_ended : ∀ character ∈ closing.head?, Text.isAsciiWord character = false := by
    rintro character ⟨⟩
    rfl
  cases keyword_eq : spelled.keyword with
  | nil =>
      -- All the white space is passed at once.
      have blanks_white : Text.IsWhite (spelled.afterOpening ++ spelled.beforeClosing) :=
        List.forall_mem_append.mpr ⟨spelled.afterOpening_white, spelled.beforeClosing_white⟩
      have shown : Text.trimStart spelled.opened = closing := by
        rw [opened, keyword_eq, List.nil_append, ← List.append_assoc]
        exact Text.trimStart_append blanks_white closing_shown
      rw [shown]
      exact ⟨rfl, rfl⟩
  | cons first others =>
      have keyword_word := spelled.keyword_word
      rw [keyword_eq] at keyword_word
      have keyword_shown : ∀ character ∈ (first :: others ++ (spelled.beforeClosing ++
          closing)).head?, Text.isWhiteSpace character = false := by
        rintro character ⟨⟩
        exact Text.visible_of_isAsciiWord (keyword_word first List.mem_cons_self)
      have keyword_ended : ∀ character ∈ (spelled.beforeClosing ++ closing).head?,
          Text.isAsciiWord character = false := by
        cases blanks_eq : spelled.beforeClosing with
        | nil => exact closing_ended
        | cons blank blanks =>
            rintro character ⟨⟩
            exact Text.not_isAsciiWord_of_isWhiteSpace
              (spelled.beforeClosing_white _ (by simp [blanks_eq]))
      have shown : Text.trimStart spelled.opened =
          first :: others ++ (spelled.beforeClosing ++ closing) := by
        rw [opened, keyword_eq]
        exact Text.trimStart_append spelled.afterOpening_white keyword_shown
      rw [shown, Text.takeWhile_append_of_ended keyword_word keyword_ended,
        Text.dropWhile_append_of_ended keyword_word keyword_ended]
      exact ⟨rfl, Text.trimStart_append spelled.beforeClosing_white closing_shown⟩

theorem afterWord?_text :
    afterWord? ['f', 'i', 'l', 't', 'e', 'r'] (Text.trimStart spelled.text) =
      some (spelled.beforeOpening ++ '[' :: spelled.opened) := by
  rw [text, Text.trimStart_append spelled.lead_white (spelled.word_shown _), afterWord?,
    List.take_left' spelled.length_word, List.drop_left' spelled.length_word]
  exact if_pos spelled.spelled

theorem after?_opening :
    after? '[' (Text.trimStart (spelled.beforeOpening ++ '[' :: spelled.opened)) =
      some spelled.opened := by
  rw [Text.trimStart_append spelled.beforeOpening_white (bracket_shown (.inl rfl) _)]
  rfl

theorem after?_closing :
    after? ']' (Text.trimStart ((Text.trimStart spelled.opened).dropWhile Text.isAsciiWord)) =
      some (SpelledSegment.textOf spelled.segments ++ spelled.trail) := by
  rw [spelled.opened_read.2]
  rfl

theorem parse?_text : parse? (String.ofList spelled.text) = some spelled.filterKey := by
  simp only [parse?, String.toList_ofList, spelled.afterWord?_text, spelled.after?_opening,
    spelled.after?_closing, segments?_textOf_append spelled.segments spelled.trail_white,
    spelled.opened_read.1, Option.bind_eq_bind, Option.bind_some]
  simp [filterKey]

theorem exists_text_eq {key : String} {filterKey : FilterKey}
    (read : parse? key = some filterKey) : ∃ spelled : SpelledKey, spelled.text = key.toList := by
  simp only [parse?, Option.bind_eq_bind, Option.bind_eq_some_iff] at read
  rcases read with ⟨afterFilter, filter_read, opened, bracket_read, closed, closed_read, segments,
    segments_read, -⟩
  rcases afterWord?_eq_some_iff.mp filter_read with ⟨word_spelled, word_eq⟩
  rcases Text.exists_white_append key.toList with ⟨lead, lead_white, lead_eq⟩
  rcases Text.exists_white_append afterFilter with ⟨beforeOpening, beforeOpening_white, filter_eq⟩
  rcases Text.exists_white_append opened with ⟨afterOpening, afterOpening_white, opened_eq⟩
  rcases Text.exists_white_append ((Text.trimStart opened).dropWhile Text.isAsciiWord) with
    ⟨beforeClosing, beforeClosing_white, keyword_eq⟩
  rcases exists_spelled_of_segments? segments_read with ⟨spelled, trail, trail_white, closed_eq⟩
  rw [after?_eq_some_iff] at bracket_read closed_read
  refine ⟨{
    lead
    word := (Text.trimStart key.toList).take 6
    beforeOpening
    afterOpening
    keyword := (Text.trimStart opened).takeWhile Text.isAsciiWord
    beforeClosing
    segments := spelled
    trail
    lead_white
    spelled := word_spelled
    beforeOpening_white
    afterOpening_white
    keyword_word := Text.kept_takeWhile _ _
    beforeClosing_white
    trail_white }, ?_⟩
  rw [text, SpelledKey.opened, ← closed_eq, ← closed_read, ← keyword_eq,
    List.takeWhile_append_dropWhile, ← opened_eq, ← bracket_read, ← filter_eq]
  exact (lead_eq.trans (congrArg (lead ++ ·) word_eq)).symm

/-- Whether two keys are spelled alike, but for the white space around an empty keyword. -/
structure Agrees (spelled other : SpelledKey) : Prop where
  lead_eq : spelled.lead = other.lead
  word_eq : spelled.word = other.word
  beforeOpening_eq : spelled.beforeOpening = other.beforeOpening
  keyword_eq : spelled.keyword = other.keyword
  blanks_eq : spelled.afterOpening ++ spelled.beforeClosing =
    other.afterOpening ++ other.beforeClosing
  afterOpening_eq : spelled.keyword ≠ [] → spelled.afterOpening = other.afterOpening
  segments_eq : spelled.segments = other.segments
  trail_eq : spelled.trail = other.trail

/-- White space before a keyword ends where the keyword starts, if it is not empty. -/
theorem blanks_agree_of_opened_eq {spelled other : SpelledKey}
    (keyword_eq : spelled.keyword = other.keyword) (segments_eq : spelled.segments = other.segments)
    (trail_eq : spelled.trail = other.trail) (opened_eq : spelled.opened = other.opened) :
    spelled.afterOpening ++ spelled.beforeClosing = other.afterOpening ++ other.beforeClosing ∧
      (spelled.keyword ≠ [] → spelled.afterOpening = other.afterOpening) := by
  rw [opened, opened, ← keyword_eq, ← segments_eq, ← trail_eq] at opened_eq
  cases keyword : spelled.keyword with
  | nil =>
      rw [keyword, List.nil_append, List.nil_append, ← List.append_assoc, ← List.append_assoc]
        at opened_eq
      exact ⟨List.append_cancel_right opened_eq, fun named => absurd rfl named⟩
  | cons first others =>
      have shown (rest : List Char) : ∀ character ∈ (spelled.keyword ++ rest).head?,
          Text.isWhiteSpace character = false := by
        rw [keyword]
        rintro character ⟨⟩
        exact Text.visible_of_isAsciiWord (spelled.keyword_word _ (by simp [keyword]))
      rcases Text.eq_of_append_eq_append spelled.afterOpening_white (shown _)
        other.afterOpening_white (shown _) opened_eq with ⟨afterOpening_eq, closing_eq⟩
      have beforeClosing_eq := List.append_cancel_right (List.append_cancel_left closing_eq)
      exact ⟨by rw [afterOpening_eq, beforeClosing_eq], fun _ => afterOpening_eq⟩

theorem agrees_of_text_eq {spelled other : SpelledKey} (same : spelled.text = other.text) :
    spelled.Agrees other := by
  -- The texts are compared token by token from the left.
  rcases Text.eq_of_append_eq_append spelled.lead_white (spelled.word_shown _) other.lead_white
    (other.word_shown _) same with ⟨lead_eq, same⟩
  rcases List.append_inj same (by rw [spelled.length_word, other.length_word]) with
    ⟨word_eq, same⟩
  rcases Text.eq_of_append_eq_append spelled.beforeOpening_white (bracket_shown (.inl rfl) _)
    other.beforeOpening_white (bracket_shown (.inl rfl) _) same with ⟨beforeOpening_eq, same⟩
  have opened_eq : spelled.opened = other.opened := (List.cons.inj same).2
  have keyword_eq : spelled.keyword = other.keyword := by
    rw [← spelled.opened_read.1, ← other.opened_read.1, opened_eq]
  have closed_eq := spelled.opened_read.2
  rw [opened_eq, other.opened_read.2] at closed_eq
  rcases SpelledSegment.eq_of_textOf_append_eq spelled.trail_white other.trail_white
    (List.cons.inj closed_eq).2.symm with ⟨segments_eq, trail_eq⟩
  rcases blanks_agree_of_opened_eq keyword_eq segments_eq trail_eq opened_eq with
    ⟨blanks_eq, afterOpening_eq⟩
  exact ⟨lead_eq, word_eq, beforeOpening_eq, keyword_eq, blanks_eq, afterOpening_eq, segments_eq,
    trail_eq⟩

end SpelledKey

end SchemaLens.Query.FilterKey
