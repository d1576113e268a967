import SchemaLens.Proofs.Naming.CapitalCase

/-!
# Segments of an identifier

An identifier is a row of words, digits and gaps. A word is a run of ASCII letters that is as long
as it can be, a digit stands by itself, and a gap is a character that is neither. There is one way
only to cut a text like this, and capital case can be told from the segments without the pass over
the text that makes it: a word begins with a capital, a digit stays as it is and a gap is left out.

The pass knows of the text before it only whether a word may begin. Behind a word this makes no
difference, as the next segment is no word, and behind anything else a word may begin. So what
stands before a gap and what stands behind it are put in capital case each by itself.
-/

namespace SchemaLens.Naming

/-- A part of an identifier. -/
inductive Segment where
  /-- Letters that follow each other, of which there is at least one. -/
  | word (first : Char) (others : List Char)
  | digit (character : Char)
  /-- A character that is neither a letter nor a digit. -/
  | gap (character : Char)
deriving DecidableEq, Repr

/-- What a segment becomes in capital case. -/
def Segment.capitalized : Segment → List Char
  | .word first others => first.toUpper :: Text.asciiLower others
  | .digit character => [character]
  | .gap _ => []

/-- The segments of a text, from its start to its end. -/
inductive Segmented : List Char → List Segment → Prop
  | done : Segmented [] []
  | word {first : Char} {others behind : List Char} {segments : List Segment}
      (letters : ∀ character ∈ first :: others, character.isAlpha = true)
      (longest : ∀ next ∈ behind.head?, next.isAlpha = false) (rest : Segmented behind segments) :
      Segmented (first :: others ++ behind) (.word first others :: segments)
  | digit {character : Char} {behind : List Char} {segments : List Segment}
      (digit : character.isDigit = true) (rest : Segmented behind segments) :
      Segmented (character :: behind) (.digit character :: segments)
  | gap {character : Char} {behind : List Char} {segments : List Segment}
      (neither : character.isAlphanum = false) (rest : Segmented behind segments) :
      Segmented (character :: behind) (.gap character :: segments)

/-! ## One way to cut -/

theorem not_isAlpha_of_isDigit {character : Char} (digit : character.isDigit = true) :
    character.isAlpha = false := by
  have word : Text.isAsciiWord character = true :=
    Text.isAsciiWord_of_isAlphanum (by simp [Char.isAlphanum, digit])
  have bounds := Text.toNat_bounds_of_isAsciiWord word
  have ascii : character.toNat < 128 := by omega
  revert digit
  apply Text.forall_of_forall_codePoint_lt
    (motive := fun other => other.isDigit = true → other.isAlpha = false) _ ascii
  decide +kernel

theorem isAlphanum_eq_false_iff {character : Char} :
    character.isAlphanum = false ↔ character.isAlpha = false ∧ character.isDigit = false := by
  simp [Char.isAlphanum]

/-- Cuts a text from its end on: a letter goes in front of the word behind it, if there is one. -/
def segmentsOf : List Char → List Segment
  | [] => []
  | character :: behind =>
    if character.isAlpha then
      match segmentsOf behind with
      | .word first others :: segments => .word character (first :: others) :: segments
      | segments => .word character [] :: segments
    else if character.isDigit then .digit character :: segmentsOf behind
    else .gap character :: segmentsOf behind

variable {text behind : List Char} {segments : List Segment}

theorem segmentsOf_word {first : Char} {others : List Char}
    (letters : ∀ character ∈ first :: others, character.isAlpha = true)
    (longest : ∀ next ∈ behind.head?, next.isAlpha = false) :
    segmentsOf (first :: others ++ behind) = .word first others :: segmentsOf behind := by
  induction others generalizing first with
  | nil =>
      have letter := letters first List.mem_cons_self
      cases behind with
      | nil => simp [segmentsOf, letter]
      | cons next later =>
          have no_letter : next.isAlpha = false := longest next rfl
          cases digit : next.isDigit <;> simp [segmentsOf, letter, no_letter, digit]
  | cons second others ih =>
      rw [List.forall_mem_cons] at letters
      rw [List.cons_append, segmentsOf, ih letters.2]
      simp [letters.1]

theorem Segmented.eq_segmentsOf (segmented : Segmented text segments) :
    segments = segmentsOf text := by
  induction segmented with
  | done => rfl
  | word letters longest _ ih => rw [segmentsOf_word letters longest, ih]
  | digit digit _ ih => simp [segmentsOf, not_isAlpha_of_isDigit digit, digit, ih]
  | gap neither _ ih =>
      rw [isAlphanum_eq_false_iff] at neither
      simp [segmentsOf, neither, ih]

/-- A text begins with a letter only if its first segment is a word. -/
theorem Segmented.no_letter (segmented : Segmented text segments)
    (no_word : ∀ first others rest, segments ≠ .word first others :: rest) :
    ∀ next ∈ text.head?, next.isAlpha = false := by
  cases segmented with
  | done => nofun
  | word letters longest rest => exact absurd rfl (no_word _ _ _)
  | digit digit rest => simpa using not_isAlpha_of_isDigit digit
  | gap neither rest => simpa using (isAlphanum_eq_false_iff.mp neither).1

theorem segmented_segmentsOf (text : List Char) : Segmented text (segmentsOf text) := by
  induction text with
  | nil => exact .done
  | cons character behind ih =>
      unfold segmentsOf
      split
      · rename_i letter
        split
        · rename_i first others segments behind_eq
          rw [behind_eq] at ih
          cases ih with
          | word letters longest rest =>
              exact .word (List.forall_mem_cons.mpr ⟨letter, letters⟩) longest rest
        · rename_i no_word
          exact .word (List.forall_mem_singleton.mpr letter) (ih.no_letter no_word) ih
      · rename_i no_letter
        split
        · rename_i digit
          exact .digit digit ih
        · rename_i no_digit
          exact .gap (isAlphanum_eq_false_iff.mpr (by simp [no_letter, no_digit])) ih

theorem segmented_iff : Segmented text segments ↔ segments = segmentsOf text := by
  constructor
  · exact Segmented.eq_segmentsOf
  · rintro rfl
    exact segmented_segmentsOf text

/-! ## Capital case -/

/-- Where no letter comes next, it makes no difference whether a word may begin. -/
theorem capitalCaseFrom_of_no_letter (atStart : Bool)
    (no_letter : ∀ next ∈ text.head?, next.isAlpha = false) :
    capitalCaseFrom atStart text = capitalCaseFrom true text := by
  cases text with
  | nil => rfl
  | cons next later =>
      have not_alpha : next.isAlpha = false := no_letter next rfl
      simp [capitalCaseFrom, not_alpha]

theorem capitalCaseFrom_false_append {letters : List Char}
    (all_letters : ∀ character ∈ letters, character.isAlpha = true) (behind : List Char) :
    capitalCaseFrom false (letters ++ behind) =
      Text.asciiLower letters ++ capitalCaseFrom false behind := by
  induction letters with
  | nil => rfl
  | cons character others ih =>
      rw [List.forall_mem_cons] at all_letters
      rw [List.cons_append, capitalCaseFrom, if_pos all_letters.1, ih all_letters.2]
      rfl

theorem capitalCaseFrom_of_segmented (segmented : Segmented text segments) :
    capitalCaseFrom true text = segments.flatMap Segment.capitalized := by
  induction segmented with
  | done => rfl
  | word letters longest _ ih =>
      rw [List.forall_mem_cons] at letters
      rw [List.cons_append, capitalCaseFrom, if_pos letters.1,
        capitalCaseFrom_false_append letters.2, capitalCaseFrom_of_no_letter false longest, ih]
      rfl
  | digit digit _ ih =>
      simp [capitalCaseFrom, not_isAlpha_of_isDigit digit, digit, ih, Segment.capitalized]
  | gap neither _ ih =>
      rw [isAlphanum_eq_false_iff] at neither
      simp [capitalCaseFrom, neither, ih, Segment.capitalized]

theorem capitalCaseFrom_gap {gap : List Char} (not_empty : gap ≠ [])
    (neither : ∀ character ∈ gap, character.isAlphanum = false) (atStart : Bool)
    (behind : List Char) :
    capitalCaseFrom atStart (gap ++ behind) = capitalCaseFrom true behind := by
  induction gap generalizing atStart with
  | nil => exact absurd rfl not_empty
  | cons character others ih =>
      rw [List.forall_mem_cons] at neither
      have outside := isAlphanum_eq_false_iff.mp neither.1
      have passed : capitalCaseFrom atStart (character :: (others ++ behind)) =
          capitalCaseFrom true (others ++ behind) := by
        simp [capitalCaseFrom, outside]
      rw [List.cons_append, passed]
      cases others with
      | nil => rfl
      | cons next later => exact ih (List.cons_ne_nil _ _) neither.2 true

/-- What stands behind a gap does not depend on what stands before it. -/
theorem capitalCaseFrom_append_gap {gap : List Char} (not_empty : gap ≠ [])
    (neither : ∀ character ∈ gap, character.isAlphanum = false) (atStart : Bool)
    (before after : List Char) :
    capitalCaseFrom atStart (before ++ gap ++ after) =
      capitalCaseFrom atStart before ++ capitalCaseFrom true after := by
  induction before generalizing atStart with
  | nil => exact capitalCaseFrom_gap not_empty neither atStart after
  | cons character rest ih =>
      simp only [List.cons_append, capitalCaseFrom, ih]
      split
      · rfl
      · split <;> rfl

/--
An identifier is cut into words, digits and gaps in one way only, and its capital case is made of
these in a row: words with a capital and small letters, digits as they are, and nothing for gaps. So
it has letters and digits of ASCII only, which are those of the identifier but for their case, and
identifiers with a gap between them are put in capital case each by itself.
-/
theorem capitalCase_segment_by_segment :
    (∀ identifier : String, ∃ segments,
      (∀ others, Segmented identifier.toList others ↔ others = segments) ∧
      capitalCase identifier = String.ofList (segments.flatMap Segment.capitalized) ∧
      (∀ character ∈ (capitalCase identifier).toList, character.isAlphanum = true) ∧
      Text.lowerCase (capitalCase identifier) = lettersAndDigits identifier) ∧
    ∀ before gap after : String, gap ≠ "" →
      (∀ character ∈ gap.toList, character.isAlphanum = false) →
      capitalCase (before ++ gap ++ after) = capitalCase before ++ capitalCase after := by
  constructor
  · intro identifier
    have segmented := segmented_segmentsOf identifier.toList
    refine ⟨segmentsOf identifier.toList, fun others => segmented_iff, ?_, ?_,
      lowerCase_capitalCase identifier⟩
    · rw [capitalCase, capitalCaseFrom_of_segmented segmented]
    · intro character character_mem
      rw [capitalCase, String.toList_ofList] at character_mem
      exact isAlphanum_of_mem_capitalCaseFrom _ _ _ character_mem
  · intro before gap after not_empty neither
    have not_nil : gap.toList ≠ [] := fun nil => not_empty (String.toList_eq_nil_iff.mp nil)
    simp only [capitalCase, String.toList_append,
      capitalCaseFrom_append_gap not_nil neither true, String.ofList_append]

/-- A letter outside ASCII parts two words as an underscore does, and a digit does but stays. -/
theorem capitalCase_segment_by_segment_accents :
    let identifier := "naïve_ip4ADDR"
    let before := "2fa"
    let gap := "_é "
    let after := "CODES"
    Segmented identifier.toList [.word 'n' ['a'], .gap 'ï', .word 'v' ['e'], .gap '_',
        .word 'i' ['p'], .digit '4', .word 'A' ['D', 'D', 'R']] ∧
      capitalCase identifier = "NaVeIp4Addr" ∧
      Text.lowerCase (capitalCase identifier) = "naveip4addr" ∧
      gap ≠ "" ∧ (∀ character ∈ gap.toList, character.isAlphanum = false) ∧
      capitalCase (before ++ gap ++ after) = "2Fa" ++ "Codes" := by
  intro identifier before gap after
  have segmented : Segmented identifier.toList [.word 'n' ['a'], .gap 'ï', .word 'v' ['e'],
      .gap '_', .word 'i' ['p'], .digit '4', .word 'A' ['D', 'D', 'R']] := by
    rw [segmented_iff]
    decide +kernel
  have all_neither : gap.toList.all (!·.isAlphanum) = true := by decide +kernel
  have neither : ∀ character ∈ gap.toList, character.isAlphanum = false := by
    simpa using all_neither
  rcases capitalCase_segment_by_segment with ⟨whole, parted⟩
  rcases whole identifier with ⟨segments, unique, capitalized, -, lower⟩
  rcases (unique _).mp segmented with rfl
  refine ⟨segmented, ?_, ?_, by decide, neither, ?_⟩
  · rw [capitalized]
    decide +kernel
  · rw [lower]
    decide +kernel
  · rw [parted before gap after (by decide) neither]
    decide +kernel

end SchemaLens.Naming
