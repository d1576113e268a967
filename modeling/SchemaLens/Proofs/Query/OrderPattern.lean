import SchemaLens.Proofs.Query.WordScan
import SchemaLens.Proofs.Text.Pattern
import SchemaLens.Query.Pattern

/-!
# The pattern of the entries of an order

The pattern of an entry has one way at most from any place: its field has to be a whole word, the
blanks behind it have to be all there are, and the direction has to be a whole word again. So the
matches of the pattern one after another are the entries that a scan of the words finds.
-/

namespace SchemaLens.Query

open Text (Place Pattern Continuation)

namespace SortOrder

/-- The end of an entry whose direction starts at a place. -/
def directionEnd? (place : Place) : Option Place :=
  (SortDirection.ofWord? (place.after.takeWhile Text.isAsciiWord)).map fun _ =>
    (place.skip Text.isAsciiWord).capture 2 place

/-- The end of an entry whose field ends at a place. -/
def fieldEnd? (place : Place) : Option Place :=
  if place.isBefore Text.isAsciiBlank then directionEnd? (place.skip Text.isAsciiBlank) else none

theorem run_directionPattern :
    (Pattern.capture 2 directionPattern).run (Pattern.wordBoundary.run some) = directionEnd? := by
  funext place
  let next (reached : Place) : Option Place := some (reached.capture 2 place)
  have unrolled :
      (Pattern.capture 2 directionPattern).run (Pattern.wordBoundary.run some) place =
        ((Pattern.word ['a', 's', 'c']).run (Pattern.wordBoundary.run next) place).or
          ((Pattern.word ['d', 'e', 's', 'c']).run (Pattern.wordBoundary.run next) place) := rfl
  rw [unrolled, Pattern.run_word_of_boundary (by simp) (List.all_eq_true.mp rfl),
    Pattern.run_word_of_boundary (by simp) (List.all_eq_true.mp rfl), directionEnd?,
    SortDirection.ofWord?_eq_ite]
  split_ifs <;> rfl

/-- The blanks have to be taken up to their end, since no direction starts with one. -/
theorem run_blanks (place : Place) :
    (Pattern.span Text.isAsciiBlank).run directionEnd? place =
      directionEnd? (place.skip Text.isAsciiBlank) := by
  apply Pattern.run_span_of_stuck
  intro place blank
  rcases Place.isBefore_eq_true_iff.mp blank with ⟨first, rest, after_eq, first_blank⟩
  have no_word := Text.not_isAsciiWord_of_isAsciiBlank first_blank
  simp [directionEnd?, after_eq, no_word, SortDirection.ofWord?_eq_ite, Text.asciiLower]

theorem run_character_blanks :
    (Pattern.character Text.isAsciiBlank).run
      ((Pattern.span Text.isAsciiBlank).run directionEnd?) = fieldEnd? := by
  funext place
  rw [Pattern.run_character, fieldEnd?]
  split_ifs with blank
  · rw [run_blanks, Place.skip_advance_one blank]
  · rfl

/-- The field has to be taken up to its end, since no blank belongs to a word. -/
theorem run_field (place earlier : Place) :
    (Pattern.span Text.isAsciiWord).run (fun reached => fieldEnd? (reached.capture 1 earlier))
        place =
      fieldEnd? ((place.skip Text.isAsciiWord).capture 1 earlier) := by
  apply Pattern.run_span_of_stuck
  intro place word
  rcases Place.isBefore_eq_true_iff.mp word with ⟨first, rest, after_eq, first_word⟩
  have no_blank := Text.not_isAsciiBlank_of_isAsciiWord first_word
  simp [fieldEnd?, Place.isBefore, after_eq, no_blank]

theorem run_entryPattern (place : Place) :
    entryPattern.run some place =
      if place.isAfter Text.isAsciiWord = false ∧ place.isBefore Text.isAsciiWord = true then
        fieldEnd? ((place.skip Text.isAsciiWord).capture 1 place)
      else none := by
  have unrolled : entryPattern.run some place =
      (Pattern.wordBoundary.run fun place =>
        (Pattern.character Text.isAsciiWord).run ((Pattern.span Text.isAsciiWord).run fun reached =>
          ((Pattern.character Text.isAsciiBlank).run ((Pattern.span Text.isAsciiBlank).run
            ((Pattern.capture 2 directionPattern).run (Pattern.wordBoundary.run some))))
              (reached.capture 1 place)) place) place := rfl
  rw [unrolled, run_directionPattern, run_character_blanks, Pattern.run_wordBoundary]
  cases is_after : place.isAfter Text.isAsciiWord <;>
    cases is_before : place.isBefore Text.isAsciiWord <;>
      simp [Pattern.run_character, is_before, run_field, Place.skip_advance_one]

theorem fieldEnd?_eq_map (place : Place) :
    fieldEnd? place = (directionBehind? place.after).map fun _ =>
      ((place.skip Text.isAsciiBlank).skip Text.isAsciiWord).capture 2
        (place.skip Text.isAsciiBlank) := by
  by_cases blank : place.isBefore Text.isAsciiBlank = true
  · rcases Place.isBefore_eq_true_iff.mp blank with ⟨first, rest, after_eq, first_blank⟩
    have not_empty : (place.after.takeWhile Text.isAsciiBlank).isEmpty = false := by
      simp [after_eq, first_blank]
    simp [fieldEnd?, blank, directionEnd?, directionBehind?, not_empty]
  · have none_taken : place.after.takeWhile Text.isAsciiBlank = [] := by
      cases after_eq : place.after <;> simp_all [Place.isBefore]
    simp [fieldEnd?, blank, directionBehind?, none_taken]

/-- The entry that is captured from a word with a direction behind it. -/
theorem fieldEnd?_of_directionBehind? {place : Place} {direction : SortDirection}
    (behind : directionBehind? (place.after.dropWhile Text.isAsciiWord) = some direction) :
    ∃ final, fieldEnd? ((place.skip Text.isAsciiWord).capture 1 place) = some final ∧
      entryOf? final = some
        { fieldName := String.ofList (place.after.takeWhile Text.isAsciiWord), direction } ∧
      final.after = ((place.after.dropWhile Text.isAsciiWord).dropWhile
        Text.isAsciiBlank).dropWhile Text.isAsciiWord := by
  let field := (place.skip Text.isAsciiWord).capture 1 place
  let blanks := field.skip Text.isAsciiBlank
  have field_after : field.after = place.after.dropWhile Text.isAsciiWord := by simp [field]
  refine ⟨(blanks.skip Text.isAsciiWord).capture 2 blanks, ?_, ?_, ?_⟩
  · rw [fieldEnd?_eq_map, field_after, behind]
    rfl
  · have captures_eq : ((blanks.skip Text.isAsciiWord).capture 2 blanks).captures =
        (2, blanks.after.takeWhile Text.isAsciiWord) ::
          (1, place.after.takeWhile Text.isAsciiWord) :: place.captures := by
      rw [Place.captures_capture_skip, ← Place.captures_capture_skip 1]
      rfl
    have directed : SortDirection.ofWord? (blanks.after.takeWhile Text.isAsciiWord) =
        some direction := by
      rw [Place.after_skip, field_after]
      exact ofWord?_of_directionBehind? behind
    have direction_eq : (if Text.asciiLower (blanks.after.takeWhile Text.isAsciiWord) =
        ['d', 'e', 's', 'c'] then SortDirection.descending else .ascending) = direction := by
      rw [SortDirection.ofWord?_eq_ite] at directed
      split_ifs at directed ⊢ <;> simp_all
    simp [entryOf?, Place.captured?, captures_eq, List.lookup_cons, direction_eq]
  · simp [blanks, field]

/-! ## One match after another -/

variable {before others : List Char} {first : Char}

/-- A word without a direction is passed over: no match starts with it, nor inside of it. -/
theorem occurrences_of_undirected (word : Text.isAsciiWord first = true)
    (behind : directionBehind? (others.dropWhile Text.isAsciiWord) = none) :
    entryPattern.occurrences before (first :: others) =
      entryPattern.occurrences ((first :: others.takeWhile Text.isAsciiWord).reverse ++ before)
        (others.dropWhile Text.isAsciiWord) := by
  have whole_word : ∀ character ∈ first :: others.takeWhile Text.isAsciiWord,
      Text.isAsciiWord character = true := by
    rw [List.forall_mem_cons]
    exact ⟨word, Text.kept_takeWhile _ _⟩
  have text_eq : first :: others =
      first :: others.takeWhile Text.isAsciiWord ++ others.dropWhile Text.isAsciiWord := by
    simp
  rw [text_eq, Pattern.occurrences_append]
  intro passed next later word_eq
  rw [run_entryPattern]
  rcases List.eq_nil_or_concat passed with rfl | ⟨earlier, last, rfl⟩
  · rcases List.cons.inj word_eq with ⟨rfl, rfl⟩
    simp [fieldEnd?_eq_map, word, behind]
  · -- Inside of a word there is no boundary.
    have last_word : Text.isAsciiWord last = true := whole_word last (by simp [word_eq])
    simp [Place.isAfter, last_word]

/-- A word with a direction is matched with it. -/
theorem occurrences_of_directed (outside : before.head?.any Text.isAsciiWord = false)
    (word : Text.isAsciiWord first = true) {direction : SortDirection}
    (behind : directionBehind? (others.dropWhile Text.isAsciiWord) = some direction) :
    ∃ final, entryPattern.occurrences before (first :: others) =
        final :: entryPattern.occurrences final.before final.after ∧
      entryOf? final = some
        { fieldName := String.ofList (first :: others.takeWhile Text.isAsciiWord), direction } ∧
      final.after = ((others.dropWhile Text.isAsciiWord).dropWhile Text.isAsciiBlank).dropWhile
        Text.isAsciiWord := by
  let place : Place := { before, after := first :: others }
  have place_behind :
      directionBehind? (place.after.dropWhile Text.isAsciiWord) = some direction := by
    simpa [place, word] using behind
  rcases fieldEnd?_of_directionBehind? place_behind with ⟨final, found, entry_eq, after_eq⟩
  simp only [place, List.takeWhile_cons_of_pos word, List.dropWhile_cons_of_pos word]
    at entry_eq after_eq
  refine ⟨final, ?_, entry_eq, after_eq⟩
  apply Pattern.occurrences_cons_of_found
  · rw [run_entryPattern, if_pos ⟨outside, by simpa [Place.isBefore] using word⟩]
    exact found
  · rw [after_eq]
    exact length_behind_le others

/-- The matches of the pattern from a place on that is not inside a word. -/
theorem filterMap_entryOf?_occurrences (before text : List Char)
    (not_inside : (before.head?.any Text.isAsciiWord && text.head?.any Text.isAsciiWord) = false) :
    (entryPattern.occurrences before text).filterMap entryOf? = orderEntries text := by
  have not_word_behind (rest : List Char) :
      (rest.dropWhile Text.isAsciiWord).head?.any Text.isAsciiWord = false := by
    cases next_eq : (rest.dropWhile Text.isAsciiWord).head? with
    | none => rfl
    | some next => exact Text.ended_dropWhile Text.isAsciiWord rest next next_eq
  induction text using orderEntries_induction generalizing before with
  | nil => simp
  | not_word first others no_first ih =>
      have not_found : entryPattern.run some { before, after := first :: others } = none := by
        simp [run_entryPattern, Place.isBefore, no_first]
      rw [Pattern.occurrences_cons_of_not_found not_found, orderEntries_cons_of_not_word no_first]
      apply ih
      simp [no_first]
  | word first others begun ih_word ih_entry =>
      have outside : before.head?.any Text.isAsciiWord = false := by
        simpa [begun] using not_inside
      rw [orderEntries_cons_of_isAsciiWord begun]
      cases behind : directionBehind? (others.dropWhile Text.isAsciiWord) with
      | none =>
          rw [occurrences_of_undirected begun behind]
          apply ih_word
          rw [not_word_behind, Bool.and_false]
      | some direction =>
          rcases occurrences_of_directed outside begun behind with
            ⟨final, matches_eq, entry_eq, after_eq⟩
          rw [matches_eq, List.filterMap_cons_some entry_eq, after_eq]
          congr 1
          apply ih_entry
          rw [not_word_behind, Bool.and_false]

theorem match?_eq_parse? (value : String) : match? value = parse? value := by
  rw [match?, parse?, filterMap_entryOf?_occurrences [] value.toList rfl]
  cases orderEntries value.toList with
  | nil => rfl
  | cons first others => rfl

def ofEntries? : List OrderEntry → Option SortOrder
  | [] => none
  | first :: others => some { entries := first :: others }

theorem parse?_eq_ofEntries? (value : String) :
    parse? value = ofEntries? (orderEntries value.toList) := by
  unfold parse? ofEntries?
  cases orderEntries value.toList with
  | nil => rfl
  | cons first others => rfl

/--
An order is what a scan finds among the words of its text, which are cut from the text in one way
only. The matches of the pattern of an entry are the same. So an order whose entries are written out
with blanks inside and gaps between them is read back, whatever words its fields are.
-/
theorem parse?_eq_scan (value : String) :
    match? value = parse? value ∧
      (∃! cut : WordCut, cut.text = value.toList) ∧
      (∀ cut : WordCut, cut.text = value.toList →
        parse? value = ofEntries? (WordPart.scan cut.parts)) ∧
      ∀ spelled : SpelledOrder, spelled.text = value.toList →
        parse? value = some spelled.order := by
  refine ⟨match?_eq_parse? value, WordCut.existsUnique_text_eq value.toList, ?_, ?_⟩
  · intro cut text_eq
    rw [parse?_eq_ofEntries?, ← text_eq, cut.orderEntries_text]
  · intro spelled text_eq
    rw [← String.ofList_toList (s := value), ← text_eq, spelled.parse?_text]

/-- Fields that are directions themselves, and words that only start like one. -/
theorem parse?_eq_scan_directions :
    parse? "asc DESC,desc\tAsc" =
        some { entries := [⟨"asc", .descending⟩, ⟨"desc", .ascending⟩] } ∧
      parse? "ascending asc_1 asc" = some { entries := [⟨"asc_1", .ascending⟩] } := by
  constructor
  · let spelled : SpelledOrder := {
      lead := []
      entries := [
        ⟨['a', 's', 'c'], [' '], ['D', 'E', 'S', 'C'], .descending, [','], by simp,
          List.all_eq_true.mp rfl, by simp, List.all_eq_true.mp rfl, rfl, by simp; rfl⟩,
        ⟨['d', 'e', 's', 'c'], ['\t'], ['A', 's', 'c'], .ascending, [], by simp,
          List.all_eq_true.mp rfl, by simp, List.all_eq_true.mp rfl, rfl, by simp⟩]
      not_isAsciiWord_of_mem_lead := by simp
      entries_ne_nil := by simp
      gap_ne_nil := by simp }
    exact (parse?_eq_scan "asc DESC,desc\tAsc").2.2.2 spelled rfl
  · let cut : WordCut := {
      lead := []
      parts := [
        ⟨"ascending".toList, [' '], by simp, List.all_eq_true.mp rfl, by simp; rfl⟩,
        ⟨"asc_1".toList, [' '], by simp, List.all_eq_true.mp rfl, by simp; rfl⟩,
        ⟨"asc".toList, [], by simp, List.all_eq_true.mp rfl, by simp⟩]
      not_isAsciiWord_of_mem_lead := by simp
      areApart := by simp [WordPart.AreApart] }
    have scanned : WordPart.scan cut.parts = [⟨"asc_1", .ascending⟩] := by decide +kernel
    rw [(parse?_eq_scan "ascending asc_1 asc").2.2.1 cut rfl, scanned]
    rfl

end SortOrder

end SchemaLens.Query
