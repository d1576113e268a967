import SchemaLens.Proofs.Query.SpelledKey
import SchemaLens.Proofs.Text.Pattern
import SchemaLens.Query.Pattern

/-!
# The pattern of a key

Two patterns tell a key, one that captures its keyword and its path as a whole, and another whose
matches in the path are the segments. White space in a key can be matched in several ways where it
stands beside a keyword that may be empty or inside the brackets of a segment. What is captured of a
key is still what is read from it.
-/

namespace SchemaLens.Query.FilterKey

open Text (Place Pattern Continuation)

/-! ## From token to token -/

/-- White space and then a symbol. -/
def symbolEnd? (symbol : Char) (next : Continuation) (place : Place) : Option Place :=
  if (place.skip Text.isWhiteSpace).isBefore (· == symbol) then
    next ((place.skip Text.isWhiteSpace).advance 1)
  else none

theorem run_blanks_symbol {symbol : Char} (shown : Text.isWhiteSpace symbol = false)
    (next : Continuation) :
    blanks.run ((Pattern.symbol symbol).run next) = symbolEnd? symbol next := by
  funext place
  apply Pattern.run_span_of_stuck
  intro place white
  rw [Pattern.symbol, Pattern.run_character, if_neg]
  simp [Place.not_isBefore_symbol white shown]

theorem symbolEnd?_eq_none {symbol : Char} {next : Continuation} {place : Place}
    {kind : Char → Bool} (is_before : place.isBefore kind = true) (other : kind symbol = false)
    (shown : place.isBefore Text.isWhiteSpace = false) : symbolEnd? symbol next place = none := by
  rw [symbolEnd?, Place.skip_eq_self shown, if_neg]
  simp [Place.not_isBefore_symbol is_before other]

/-! ## Segments of a path -/

/-- White space, an opening bracket, a segment and its closing bracket. -/
def segmentEnd? (next : Continuation) : Continuation :=
  symbolEnd? '[' fun opened =>
    if (opened.skip isSegmentCharacter).isBefore (· == ']') then
      next ((opened.skip isSegmentCharacter).advance 1)
    else none

theorem run_segment (next : Continuation) : segment.run next = segmentEnd? next := by
  have unrolled : segment.run next = blanks.run ((Pattern.symbol '[').run
      ((Pattern.span isSegmentCharacter).run ((Pattern.symbol ']').run next))) := rfl
  have content : (Pattern.span isSegmentCharacter).run ((Pattern.symbol ']').run next) =
      fun opened => if (opened.skip isSegmentCharacter).isBefore (· == ']') then
        next ((opened.skip isSegmentCharacter).advance 1) else none := by
    funext opened
    apply Pattern.run_span_of_stuck
    intro place inside
    rw [Pattern.symbol, Pattern.run_character, if_neg]
    simp [Place.not_isBefore_symbol inside (by decide : isSegmentCharacter ']' = false)]
  rw [unrolled, content, run_blanks_symbol (by decide), segmentEnd?]

theorem segmentEnd?_of_spelled {place : Place} (segment : SpelledSegment) {rest : List Char}
    (after_eq : place.after = segment.text ++ rest) (next : Continuation) :
    segmentEnd? next place = next (place.advance segment.text.length) := by
  rw [segment.text_append] at after_eq
  let opened := (place.advance segment.blanks.length).advance 1
  have blanks_skipped : place.skip Text.isWhiteSpace = place.advance segment.blanks.length := by
    rw [Place.skip, after_eq, Text.takeWhile_append_of_ended segment.white
      (bracket_shown (.inl rfl) _)]
  have opened_after : opened.after = segment.content ++ ']' :: rest := by
    simp [opened, after_eq]
  have content_skipped : opened.skip isSegmentCharacter =
      opened.advance segment.content.length := by
    rw [Place.skip, opened_after, Text.takeWhile_append_of_ended segment.inside
      (SpelledSegment.content_ended rest)]
  have at_opening : (place.advance segment.blanks.length).isBefore (· == '[') = true := by
    simp [Place.isBefore, after_eq]
  have at_closing : (opened.advance segment.content.length).isBefore (· == ']') = true := by
    simp [Place.isBefore, opened_after]
  rw [segmentEnd?, symbolEnd?, blanks_skipped, if_pos at_opening]
  change (if (opened.skip isSegmentCharacter).isBefore (· == ']') then
    next ((opened.skip isSegmentCharacter).advance 1) else none) = _
  rw [content_skipped, if_pos at_closing, Place.advance_advance, Place.advance_advance,
    Place.advance_advance]
  congr 2
  simp only [SpelledSegment.text, List.length_append, List.length_cons, List.length_nil]
  omega

/-- A segment is spelled at a place, or no segment is matched from there. -/
theorem exists_spelled_or_segmentEnd?_eq_none (place : Place) :
    (∃ (segment : SpelledSegment) (rest : List Char), place.after = segment.text ++ rest) ∨
      ∀ next, segmentEnd? next place = none := by
  by_cases at_opening : (place.skip Text.isWhiteSpace).isBefore (· == '[') = true
  · -- What stands behind the bracket is a segment if the next bracket is a closing one.
    let opened := (place.skip Text.isWhiteSpace).advance 1
    by_cases at_closing : (opened.skip isSegmentCharacter).isBefore (· == ']') = true
    · left
      rcases Place.isBefore_symbol_iff.mp at_opening with ⟨body, body_eq⟩
      rcases Place.isBefore_symbol_iff.mp at_closing with ⟨rest, rest_eq⟩
      rw [Place.after_skip] at body_eq rest_eq
      have opened_after : opened.after = body := by simp [opened, body_eq]
      rw [opened_after] at rest_eq
      let segment : SpelledSegment := {
        blanks := place.after.takeWhile Text.isWhiteSpace
        content := body.takeWhile isSegmentCharacter
        white := Text.kept_takeWhile _ _
        inside := Text.kept_takeWhile _ _ }
      refine ⟨segment, rest, ?_⟩
      rw [segment.text_append, ← rest_eq, List.takeWhile_append_dropWhile, ← body_eq,
        List.takeWhile_append_dropWhile]
    · right
      intro next
      rw [segmentEnd?, symbolEnd?, if_pos at_opening, if_neg at_closing]
  · right
    intro next
    rw [segmentEnd?, symbolEnd?, if_neg at_opening]

section Path

variable {place : Place} {next : Continuation}
  (stuck : ∀ reached : Place, ¬Text.IsWhite reached.after → next reached = none)

include stuck

/-- If a segment is spelled at a place, the path goes on behind it. -/
theorem run_many_segment_of_spelled (spelled : SpelledSegment) {rest : List Char}
    (after_eq : place.after = spelled.text ++ rest) :
    (Pattern.many segment).run next place =
      (Pattern.many segment).run next (place.advance spelled.text.length) := by
  have step (next : Continuation) :
      segment.run next place = next (place.advance spelled.text.length) := by
    rw [run_segment, segmentEnd?_of_spelled spelled after_eq]
  have not_white : ¬Text.IsWhite place.after := by
    rw [after_eq]
    exact SpelledSegment.not_white_text_append spelled rest
  have shorter : (place.advance spelled.text.length).after.length < place.after.length := by
    simpa [after_eq] using spelled.length_text_pos
  rw [Pattern.run_many_of_step step shorter, stuck place not_white, Option.or_none]

theorem run_many_segment_of_segments?_eq_none (not_read : segments? place.after = none) :
    (Pattern.many segment).run next place = none := by
  -- Each segment that is passed leaves less of the text.
  induction remaining : place.after.length using Nat.strongRecOn generalizing place with
  | ind length ih =>
  rcases exists_spelled_or_segmentEnd?_eq_none place with ⟨spelled, rest, after_eq⟩ | not_matched
  · have reached_after : (place.advance spelled.text.length).after = rest := by simp [after_eq]
    rw [run_many_segment_of_spelled stuck spelled after_eq]
    rw [after_eq, segments?_segment_append, Option.map_eq_none_iff] at not_read
    apply ih rest.length
    · simpa [← remaining, after_eq] using spelled.length_text_pos
    · rw [reached_after, not_read]
    · rw [reached_after]
  · rw [Pattern.run_many_of_stuck fun next => by rw [run_segment, not_matched next]]
    apply stuck
    intro white
    rw [segments?_of_white white] at not_read
    contradiction

theorem run_many_segment_of_textOf {segments : List SpelledSegment} {trail : List Char}
    (white : Text.IsWhite trail)
    (after_eq : place.after = SpelledSegment.textOf segments ++ trail) :
    (Pattern.many segment).run next place =
      next (place.advance (SpelledSegment.textOf segments).length) := by
  induction segments generalizing place with
  | nil =>
      have not_matched : ∀ next, segmentEnd? next place = none := by
        intro next
        have nothing_shown : (place.skip Text.isWhiteSpace).after = [] := by
          rw [Place.after_skip, after_eq]
          exact List.dropWhile_eq_nil_iff.mpr white
        have not_opening : (place.skip Text.isWhiteSpace).isBefore (· == '[') = false := by
          rw [Place.isBefore, nothing_shown]
          rfl
        rw [segmentEnd?, symbolEnd?, not_opening]
        rfl
      rw [Pattern.run_many_of_stuck fun next => by rw [run_segment, not_matched next]]
      simp
  | cons spelled rest ih =>
      rw [SpelledSegment.textOf_cons, List.append_assoc] at after_eq
      rw [run_many_segment_of_spelled stuck spelled after_eq, ih (by simp [after_eq]),
        Place.advance_advance, SpelledSegment.textOf_cons, List.length_append]

end Path

/-! ## The whole key -/

/-- White space up to the end. -/
def trailEnd? (place : Place) : Option Place :=
  if Text.IsWhite place.after then some (place.skip Text.isWhiteSpace) else none

theorem run_trail : blanks.run (Pattern.finish.run some) = trailEnd? := by
  have stuck : ∀ place : Place, place.isBefore Text.isWhiteSpace = true →
      Pattern.finish.run some place = none := by
    intro place white
    rcases Place.isBefore_eq_true_iff.mp white with ⟨first, rest, after_eq, -⟩
    simp [Pattern.run, after_eq]
  funext place
  have finished : Pattern.finish.run some (place.skip Text.isWhiteSpace) =
      if (place.skip Text.isWhiteSpace).after.isEmpty then some (place.skip Text.isWhiteSpace)
      else none := rfl
  have empty_iff :
      (place.skip Text.isWhiteSpace).after.isEmpty = true ↔ Text.IsWhite place.after := by
    rw [Place.after_skip, List.isEmpty_iff]
    exact List.dropWhile_eq_nil_iff
  rw [blanks, Pattern.run_span_of_stuck stuck, finished, trailEnd?]
  simp only [empty_iff]

/-- The path and what comes behind it. -/
def pathEnd? : Continuation :=
  (Pattern.capture 2 (.many segment)).run trailEnd?

theorem trailEnd?_capture_of_not_white (number : Nat) (earlier : Place) :
    ∀ reached : Place, ¬Text.IsWhite reached.after →
      trailEnd? (reached.capture number earlier) = none := by
  intro reached not_white
  exact if_neg not_white

theorem pathEnd?_eq_none {place : Place} (not_read : segments? place.after = none) :
    pathEnd? place = none :=
  run_many_segment_of_segments?_eq_none (trailEnd?_capture_of_not_white 2 place) not_read

theorem exists_pathEnd?_eq_some {place : Place} {segments : List SpelledSegment}
    {trail : List Char} (white : Text.IsWhite trail)
    (after_eq : place.after = SpelledSegment.textOf segments ++ trail) :
    ∃ final, pathEnd? place = some final ∧ final.after = [] ∧
      final.captures = (2, SpelledSegment.textOf segments) :: place.captures := by
  let path := place.advance (SpelledSegment.textOf segments).length
  have path_after : path.after = trail := by simp [path, after_eq]
  have path_run : pathEnd? place = trailEnd? (path.capture 2 place) :=
    run_many_segment_of_textOf (trailEnd?_capture_of_not_white 2 place) white after_eq
  refine ⟨(path.capture 2 place).skip Text.isWhiteSpace, ?_, ?_, ?_⟩
  · rw [path_run, trailEnd?, Place.after_capture, path_after, if_pos white]
  · rw [Place.after_skip, Place.after_capture, path_after]
    exact List.dropWhile_eq_nil_iff.mpr white
  · have captured : (path.capture 2 place).captures =
        (2, place.after.take (SpelledSegment.textOf segments).length) :: place.captures :=
      Place.captures_capture_advance 2 (by simp [after_eq])
    rw [Place.captures_skip, captured, after_eq, List.take_left]

/-- The keyword and its closing bracket. If the keyword is empty, the white space around it can be
matched in several ways, which all lead to the same place. -/
theorem run_keyword (next : Continuation) (place : Place) :
    blanks.run ((Pattern.capture 1 (.span Text.isAsciiWord)).run (symbolEnd? ']' next)) place =
      symbolEnd? ']' next (((place.skip Text.isWhiteSpace).skip Text.isAsciiWord).capture 1
        (place.skip Text.isWhiteSpace)) := by
  let keywordEnd? (place : Place) : Option Place :=
    symbolEnd? ']' next ((place.skip Text.isAsciiWord).capture 1 place)
  have captured : (Pattern.capture 1 (.span Text.isAsciiWord)).run (symbolEnd? ']' next) =
      keywordEnd? := by
    funext earlier
    rw [Pattern.run_capture, Pattern.run_span_of_stuck]
    intro place word
    exact symbolEnd?_eq_none word (by decide)
      (Place.isBefore_eq_false_of_disjoint word fun _ => Text.visible_of_isAsciiWord)
  rw [captured]
  apply Pattern.run_span
  intro place leads_not
  by_cases white : place.isBefore Text.isWhiteSpace = true
  · -- In front of white space the keyword is empty, as it is behind all of it if `]` comes next.
    have not_word : place.isBefore Text.isAsciiWord = false :=
      Place.isBefore_eq_false_of_disjoint white fun _ => Text.not_isAsciiWord_of_isWhiteSpace
    let shown := place.skip Text.isWhiteSpace
    have skipped : (place.capture 1 place).skip Text.isWhiteSpace = shown.capture 1 shown :=
      Place.capture_self_skip 1 place Text.isWhiteSpace
    simp only [keywordEnd?, Place.skip_eq_self not_word, symbolEnd?, skipped]
    by_cases closing : shown.isBefore (· == ']') = true
    · have shown_not_word : shown.isBefore Text.isAsciiWord = false :=
        Place.isBefore_eq_false_of_disjoint closing fun character is_closing => by
          rw [eq_of_beq is_closing]
          rfl
      have shown_ended : shown.isBefore Text.isWhiteSpace = false := Place.isBefore_skip _ _
      have longest : keywordEnd? shown =
          if (shown.capture 1 shown).isBefore (· == ']') then
            next ((shown.capture 1 shown).advance 1)
          else none := by
        simp only [keywordEnd?, Place.skip_eq_self shown_not_word, symbolEnd?,
          Place.capture_self_skip, Place.skip_eq_self shown_ended]
      rw [← longest]
      exact leads_not
    · exact if_neg closing
  · rwa [Place.skip_eq_self (by simpa using white)] at leads_not

theorem run_filter (next : Continuation) (place : Place) :
    blanks.run ((Pattern.word ['f', 'i', 'l', 't', 'e', 'r']).run next) place =
      (afterWord? ['f', 'i', 'l', 't', 'e', 'r'] (Text.trimStart place.after)).bind fun _ =>
        next ((place.skip Text.isWhiteSpace).advance 6) := by
  have stuck : ∀ place : Place, place.isBefore Text.isWhiteSpace = true →
      (Pattern.word ['f', 'i', 'l', 't', 'e', 'r']).run next place = none := by
    intro place white
    rcases Place.isBefore_eq_true_iff.mp white with ⟨first, rest, after_eq, first_white⟩
    rw [Pattern.run_word, if_neg]
    intro spelled
    have words : ∀ character ∈ place.after.take 6, Text.isAsciiWord character = true := by
      rw [← Text.forall_isAsciiWord_asciiLower]
      exact spelled ▸ List.all_eq_true.mp rfl
    have first_word := words first (by simp [after_eq])
    rw [Text.visible_of_isAsciiWord first_word] at first_white
    contradiction
  rw [blanks, Pattern.run_span_of_stuck stuck, Pattern.run_word, Place.after_skip, afterWord?,
    Text.trimStart]
  split_ifs <;> rfl

theorem symbolEnd?_eq_bind (symbol : Char) (next : Continuation) (place : Place) :
    symbolEnd? symbol next place =
      (after? symbol (Text.trimStart place.after)).bind fun _ =>
        next ((place.skip Text.isWhiteSpace).advance 1) := by
  rw [symbolEnd?, Place.isBefore, Place.after_skip, Text.trimStart]
  cases shown : place.after.dropWhile Text.isWhiteSpace with
  | nil => rfl
  | cons first rest => by_cases same : first = symbol <;> simp [after?, same]

/-- What the pattern takes from a start is what a reading takes. -/
theorem run_pattern (start : Place) (at_start : start.before = []) :
    pattern.run some start =
      (afterWord? ['f', 'i', 'l', 't', 'e', 'r'] (Text.trimStart start.after)).bind fun _ =>
        let filterEnd := (start.skip Text.isWhiteSpace).advance 6
        (after? '[' (Text.trimStart filterEnd.after)).bind fun _ =>
          let opened := (filterEnd.skip Text.isWhiteSpace).advance 1
          let keyword := opened.skip Text.isWhiteSpace
          let keywordEnd := (keyword.skip Text.isAsciiWord).capture 1 keyword
          (after? ']' (Text.trimStart keywordEnd.after)).bind fun _ =>
            pathEnd? ((keywordEnd.skip Text.isWhiteSpace).advance 1) := by
  have unrolled : pattern.run some start =
      if start.before.isEmpty then
        blanks.run ((Pattern.word ['f', 'i', 'l', 't', 'e', 'r']).run (blanks.run
          ((Pattern.symbol '[').run (blanks.run ((Pattern.capture 1 (.span Text.isAsciiWord)).run
            (blanks.run ((Pattern.symbol ']').run ((Pattern.capture 2 (.many segment)).run
              (blanks.run (Pattern.finish.run some)))))))))) start
      else none := rfl
  rw [unrolled, at_start, run_trail, run_blanks_symbol (by decide), run_blanks_symbol (by decide)]
  simp only [List.isEmpty_nil, if_true, run_filter, symbolEnd?_eq_bind, run_keyword]
  rfl

theorem drop_of_afterWord? {word text rest : List Char} (read : afterWord? word text = some rest) :
    text.drop word.length = rest := by
  rw [afterWord?] at read
  split_ifs at read
  exact Option.some.inj read

theorem drop_of_after? {symbol : Char} {text rest : List Char}
    (read : after? symbol text = some rest) : text.drop 1 = rest := by
  rw [after?_eq_some_iff.mp read]
  rfl

/-- What comes after a token that is read, at the place behind it. -/
theorem after_advance_of_afterWord? (place : Place) {word rest : List Char}
    (read : afterWord? word (Text.trimStart place.after) = some rest) :
    ((place.skip Text.isWhiteSpace).advance word.length).after = rest := by
  rw [Place.after_advance, Place.after_skip]
  exact drop_of_afterWord? read

theorem after_advance_of_after? (place : Place) {symbol : Char} {rest : List Char}
    (read : after? symbol (Text.trimStart place.after) = some rest) :
    ((place.skip Text.isWhiteSpace).advance 1).after = rest := by
  rw [Place.after_advance, Place.after_skip]
  exact drop_of_after? read

theorem after_keywordEnd (opened : Place) :
    (((opened.skip Text.isWhiteSpace).skip Text.isAsciiWord).capture 1
      (opened.skip Text.isWhiteSpace)).after =
        (Text.trimStart opened.after).dropWhile Text.isAsciiWord := by
  rw [Place.after_capture, Place.after_skip, Place.after_skip, Text.trimStart]

/-- The pattern leads to the end of the text of a key, and captures its keyword and its path. -/
theorem exists_run_pattern (spelled : SpelledKey) :
    ∃ final, pattern.run some { after := spelled.text } = some final ∧ final.after = [] ∧
      final.captures =
        [(2, SpelledSegment.textOf spelled.segments), (1, spelled.keyword)] := by
  let start : Place := { after := spelled.text }
  let filterEnd := (start.skip Text.isWhiteSpace).advance 6
  let opened := (filterEnd.skip Text.isWhiteSpace).advance 1
  let keyword := opened.skip Text.isWhiteSpace
  let keywordEnd := (keyword.skip Text.isAsciiWord).capture 1 keyword
  let path := (keywordEnd.skip Text.isWhiteSpace).advance 1
  have filter_read := spelled.afterWord?_text
  have filter_after : filterEnd.after = spelled.beforeOpening ++ '[' :: spelled.opened :=
    after_advance_of_afterWord? start filter_read
  have opening_read : after? '[' (Text.trimStart filterEnd.after) = some spelled.opened := by
    rw [filter_after, spelled.after?_opening]
  have opened_after : opened.after = spelled.opened :=
    after_advance_of_after? filterEnd opening_read
  have closing_read : after? ']' (Text.trimStart keywordEnd.after) =
      some (SpelledSegment.textOf spelled.segments ++ spelled.trail) := by
    rw [after_keywordEnd, opened_after, spelled.after?_closing]
  have path_after := after_advance_of_after? keywordEnd closing_read
  rcases exists_pathEnd?_eq_some spelled.trail_white path_after with
    ⟨final, path_found, final_after, captures_eq⟩
  refine ⟨final, ?_, final_after, ?_⟩
  · rw [run_pattern _ rfl, filter_read, Option.bind_some]
    change (after? '[' (Text.trimStart filterEnd.after)).bind _ = _
    rw [opening_read, Option.bind_some]
    change (after? ']' (Text.trimStart keywordEnd.after)).bind _ = _
    rw [closing_read, Option.bind_some]
    exact path_found
  · have keyword_captured : keywordEnd.captures =
        (1, keyword.after.takeWhile Text.isAsciiWord) :: [] :=
      Place.captures_capture_skip 1 keyword Text.isAsciiWord
    have keyword_eq : keyword.after.takeWhile Text.isAsciiWord = spelled.keyword := by
      rw [Place.after_skip, opened_after]
      exact spelled.opened_read.1
    rw [captures_eq, Place.captures_advance, Place.captures_skip, keyword_captured, keyword_eq]

/-- Only a key that is read is matched. -/
theorem exists_parse?_of_run_pattern {key : String} {final : Place}
    (found : pattern.run some { after := key.toList } = some final) :
    ∃ filterKey, parse? key = some filterKey := by
  rw [run_pattern _ rfl] at found
  simp only [Option.bind_eq_some_iff] at found
  rcases found with ⟨afterFilter, filter_read, opened, opening_read, closed, closing_read,
    path_found⟩
  have filter_after := after_advance_of_afterWord? { after := key.toList } filter_read
  have opened_after := after_advance_of_after? _ opening_read
  have closed_after := after_advance_of_after? _ closing_read
  rw [after_keywordEnd, opened_after] at closing_read
  cases segments_read : segments? closed with
  | none =>
      rw [pathEnd?_eq_none (by rw [closed_after, segments_read])] at path_found
      contradiction
  | some segments =>
      have opening_parsed : after? '[' (Text.trimStart afterFilter) = some opened := by
        rw [← filter_after]
        exact opening_read
      simp [parse?, filter_read, opening_parsed, closing_read, segments_read]

/-! ## The segments of a matched path -/

theorem trimStart_append_bracket (content rest : List Char) :
    Text.trimStart (content ++ ']' :: rest) = Text.trimStart content ++ ']' :: rest := by
  rw [Text.trimStart, Text.trimStart, List.dropWhile_append]
  split_ifs with all_white
  · rw [List.isEmpty_iff.mp all_white]
    rfl
  · rfl

/-- Before the end of a trimmed text there is more than white space to come. -/
theorem after?_drop_of_isTrimmed {taken : List Char} (trimmed : Text.IsTrimmed taken)
    (inside : ∀ character ∈ taken, isSegmentCharacter character = true) {fewer : Nat}
    (fewer_lt : fewer < taken.length) (rest : List Char) :
    after? ']' (Text.trimStart (taken.drop fewer ++ rest)) = none := by
  have last_mem : ∃ last ∈ taken.drop fewer, Text.isWhiteSpace last = false := by
    rcases List.eq_nil_or_concat taken with rfl | ⟨initial, last, rfl⟩
    · simp at fewer_lt
    · rw [List.concat_eq_append,
        List.drop_append_of_le_length (by simpa [Nat.lt_succ_iff] using fewer_lt)]
      exact ⟨last, by simp, trimmed.finish last (by simp)⟩
  cases shown : Text.trimStart (taken.drop fewer) with
  | nil =>
      rcases last_mem with ⟨last, last_mem, visible⟩
      have white := List.dropWhile_eq_nil_iff.mp shown last last_mem
      rw [visible] at white
      contradiction
  | cons first others =>
      have first_mem : first ∈ taken := by
        apply (List.drop_suffix fewer taken).subset
        apply (List.dropWhile_suffix Text.isWhiteSpace).subset
        rw [← Text.trimStart, shown]
        exact List.mem_cons_self
      have not_closing : first ≠ ']' := by
        rintro rfl
        exact absurd (inside ']' first_mem) (by decide)
      have shown_append : Text.trimStart (taken.drop fewer ++ rest) = first :: others ++ rest := by
        rw [Text.trimStart, List.dropWhile_append, ← Text.trimStart, shown]
        rfl
      rw [shown_append]
      exact if_neg not_closing

theorem exists_run_segmentPattern (place : Place) {content rest : List Char}
    (inside : ∀ character ∈ content, isSegmentCharacter character = true)
    (after_eq : place.after = '[' :: (content ++ ']' :: rest)) :
    ∃ final, segmentPattern.run some place = some final ∧ final.after = rest ∧
      final.captures = (1, Text.trim content) :: place.captures := by
  let shown := (place.advance 1).skip Text.isWhiteSpace
  let taken := shown.advance (Text.trim content).length
  let captured := taken.capture 1 shown
  rcases Text.exists_trimEnd_append (Text.trimStart content) with ⟨trail, white, trail_eq⟩
  have content_eq : Text.trimStart content = Text.trim content ++ trail := trail_eq
  have shown_after : shown.after = Text.trim content ++ (trail ++ ']' :: rest) := by
    have skipped : shown.after = Text.trimStart (place.advance 1).after := Place.after_skip _ _
    rw [skipped, Place.after_advance, after_eq, List.drop_one, List.tail_cons,
      trimStart_append_bracket, content_eq, List.append_assoc]
  have captured_after : captured.after = trail ++ ']' :: rest := by
    simp [captured, taken, shown_after]
  have closing_read : after? ']' (Text.trimStart captured.after) = some rest := by
    rw [captured_after, Text.trimStart_append white (bracket_shown (.inr rfl) rest)]
    rfl
  let final := (captured.skip Text.isWhiteSpace).advance 1
  have closing_found : symbolEnd? ']' some captured = some final := by
    rw [symbolEnd?_eq_bind, closing_read, Option.bind_some]
  have inside_trimmed : ∀ character ∈ Text.trim content, isSegmentCharacter character = true :=
    fun character mem => inside character (Text.mem_of_mem_trim mem)
  have content_found : (Pattern.few (.character isSegmentCharacter)).run
      (fun reached => symbolEnd? ']' some (reached.capture 1 shown)) shown = some final := by
    apply Pattern.run_few_character_of_first shown_after inside_trimmed _ closing_found
    intro fewer fewer_lt
    rw [symbolEnd?_eq_bind, Place.after_capture, Place.after_advance, shown_after,
      List.drop_append_of_le_length (Nat.le_of_lt fewer_lt),
      after?_drop_of_isTrimmed (Text.isTrimmed_trim content) inside_trimmed fewer_lt]
    rfl
  have unrolled : segmentPattern.run some place =
      (Pattern.symbol '[').run (blanks.run
        ((Pattern.capture 1 (.few (.character isSegmentCharacter))).run
          (blanks.run ((Pattern.symbol ']').run some)))) place := rfl
  refine ⟨final, ?_, after_advance_of_after? captured closing_read, ?_⟩
  · rw [unrolled, run_blanks_symbol (by decide), Pattern.symbol, Pattern.run_character,
      if_pos (Place.isBefore_symbol_iff.mpr ⟨_, after_eq⟩)]
    exact Pattern.run_span_of_leads content_found
  · have captures_eq : captured.captures =
        (1, shown.after.take (Text.trim content).length) :: place.captures :=
      Place.captures_capture_advance 1 (by simp [shown_after])
    rw [Place.captures_advance, Place.captures_skip, captures_eq, shown_after, List.take_left]

theorem run_segmentPattern_of_ne {place : Place} {first : Char} {rest : List Char}
    (after_eq : place.after = first :: rest) (not_opening : first ≠ '[') :
    segmentPattern.run some place = none := by
  have not_before : place.isBefore (· == '[') = false := by
    simpa [Place.isBefore, after_eq] using not_opening
  exact if_neg (by simp [not_before])

theorem filterMap_captured?_occurrences (segments : List SpelledSegment) (before : List Char) :
    (segmentPattern.occurrences before (SpelledSegment.textOf segments)).filterMap (·.captured? 1) =
      segments.map SpelledSegment.trimmed := by
  induction segments generalizing before with
  | nil => simp
  | cons segment rest ih =>
      let opening : Place := {
        before := segment.blanks.reverse ++ before
        after := '[' :: (segment.content ++ ']' :: SpelledSegment.textOf rest) }
      rcases exists_run_segmentPattern opening segment.inside rfl with
        ⟨final, found, final_after, captures_eq⟩
      have captured : final.captured? 1 = some segment.trimmed := by
        rw [Place.captured?, captures_eq]
        rfl
      have shorter : final.after.length ≤
          (segment.content ++ ']' :: SpelledSegment.textOf rest).length := by
        simp only [final_after, List.length_append, List.length_cons]
        omega
      rw [SpelledSegment.textOf_cons, SpelledSegment.text_append, Pattern.occurrences_append]
      · rw [Pattern.occurrences_cons_of_found found shorter, final_after]
        simp [captured, ih]
      · intro passed first later blanks_eq
        apply run_segmentPattern_of_ne rfl
        rintro rfl
        have bracket_white := segment.white '[' (by simp [blanks_eq])
        contradiction

theorem matchPath_textOf (segments : List SpelledSegment) :
    matchPath (SpelledSegment.textOf segments) =
      segments.map fun segment => String.ofList segment.trimmed := by
  rw [matchPath, filterMap_captured?_occurrences, List.map_map]
  rfl

/-! ## Keys by their patterns -/

theorem ofMatch_of_captures_eq {spelled : SpelledKey} {final : Place} (captures_eq :
    final.captures = [(2, SpelledSegment.textOf spelled.segments), (1, spelled.keyword)]) :
    ofMatch final = spelled.filterKey := by
  have keyword_lower : Text.lowerCase (String.ofList spelled.keyword) =
      String.ofList (Text.asciiLower spelled.keyword) := by
    rw [Text.lowerCase_of_isAsciiWord (by simpa using spelled.keyword_word), String.toList_ofList]
  simp [ofMatch, Place.captured?, captures_eq, List.lookup_cons, keyword_lower, matchPath_textOf,
    SpelledKey.filterKey]

theorem match?_text (spelled : SpelledKey) :
    match? (String.ofList spelled.text) = some spelled.filterKey := by
  rcases exists_run_pattern spelled with ⟨final, found, final_after, captures_eq⟩
  cases text_eq : spelled.text with
  | nil => simp [SpelledKey.text] at text_eq
  | cons first rest =>
      rw [text_eq] at found
      rw [match?, String.toList_ofList,
        Pattern.occurrences_cons_of_found found (by simp [final_after]), List.head?_cons,
        Option.map_some, ofMatch_of_captures_eq captures_eq]

/-- A match of the whole key cannot start later than at its start. -/
theorem occurrences_pattern_of_passed {passed : List Char} (not_empty : passed ≠ [])
    (rest : List Char) : pattern.occurrences passed rest = [] := by
  induction rest generalizing passed with
  | nil => simp
  | cons first rest ih =>
      rw [Pattern.occurrences_cons_of_not_found, ih (List.cons_ne_nil _ _)]
      exact if_neg (by simpa using not_empty)

theorem match?_eq_none {key : String} (not_read : parse? key = none) : match? key = none := by
  have not_found : pattern.run some { after := key.toList } = none := by
    rw [Option.eq_none_iff_forall_ne_some]
    intro final found
    rcases exists_parse?_of_run_pattern found with ⟨filterKey, read⟩
    rw [not_read] at read
    contradiction
  rw [match?, Option.map_eq_none_iff, List.head?_eq_none_iff]
  cases text_eq : key.toList with
  | nil => simp
  | cons first rest =>
      rw [text_eq] at not_found
      rw [Pattern.occurrences_cons_of_not_found not_found,
        occurrences_pattern_of_passed (List.cons_ne_nil _ _)]

theorem match?_eq_parse? (key : String) : match? key = parse? key := by
  cases read : parse? key with
  | none => exact match?_eq_none read
  | some filterKey =>
      rcases SpelledKey.exists_text_eq read with ⟨spelled, text_eq⟩
      have key_eq : key = String.ofList spelled.text := by rw [text_eq, String.ofList_toList]
      rw [key_eq, match?_text, ← spelled.parse?_text, ← key_eq, read]

/-- Whether two keys are spelled with the same tokens, apart from the case of the keyword and the
white space around the segments. -/
structure SpelledKey.SameTokens (spelled other : SpelledKey) : Prop where
  keyword_eq : Text.asciiLower spelled.keyword = Text.asciiLower other.keyword
  path_eq : spelled.segments.map SpelledSegment.trimmed =
    other.segments.map SpelledSegment.trimmed

theorem SpelledKey.SameTokens.filterKey_eq {spelled other : SpelledKey}
    (same : spelled.SameTokens other) : spelled.filterKey = other.filterKey := by
  have paths := congrArg (List.map String.ofList) same.path_eq
  rw [List.map_map, List.map_map] at paths
  rw [SpelledKey.filterKey, SpelledKey.filterKey, same.keyword_eq]
  exact congrArg (FilterKey.mk _) paths

/--
The keys that are read are those that can be spelled, and what is read of a key is its keyword in
small letters and its segments without the white space around them. The patterns of a key tell the
same. All spellings of one key agree, and keys that are spelled with the same tokens are read alike,
in whatever case the words are and whatever white space stands around the tokens.
-/
theorem parse?_iff_spelled (key : String) :
    match? key = parse? key ∧
      (∀ filterKey, parse? key = some filterKey ↔
        ∃ spelled : SpelledKey, spelled.text = key.toList ∧ spelled.filterKey = filterKey) ∧
      ∀ spelled : SpelledKey, spelled.text = key.toList →
        (∀ other : SpelledKey, other.text = key.toList → spelled.Agrees other) ∧
          ∀ other : SpelledKey, spelled.SameTokens other →
            parse? (String.ofList other.text) = parse? key := by
  have read_of_text_eq {spelled : SpelledKey} (text_eq : spelled.text = key.toList) :
      parse? key = some spelled.filterKey := by
    rw [← spelled.parse?_text, text_eq, String.ofList_toList]
  refine ⟨match?_eq_parse? key, ?_, ?_⟩
  · intro filterKey
    constructor
    · intro read
      rcases SpelledKey.exists_text_eq read with ⟨spelled, text_eq⟩
      refine ⟨spelled, text_eq, ?_⟩
      rw [read_of_text_eq text_eq] at read
      exact Option.some.inj read
    · rintro ⟨spelled, text_eq, rfl⟩
      exact read_of_text_eq text_eq
  · intro spelled text_eq
    constructor
    · intro other other_text_eq
      exact SpelledKey.agrees_of_text_eq (text_eq.trans other_text_eq.symm)
    · intro other same
      rw [other.parse?_text, read_of_text_eq text_eq, same.filterKey_eq]

/-- A key with white space around all of its tokens, and the same tokens without any. -/
theorem parse?_iff_spelled_where :
    parse? "\tFiLter [ Where\n] [ a b ][\r]" = some ⟨"where", ["a b", ""]⟩ ∧
      parse? "filter[WHERE][a b][]" = some ⟨"where", ["a b", ""]⟩ := by
  let spelled : SpelledKey := {
    lead := ['\t']
    word := ['F', 'i', 'L', 't', 'e', 'r']
    beforeOpening := [' ']
    afterOpening := [' ']
    keyword := ['W', 'h', 'e', 'r', 'e']
    beforeClosing := ['\n']
    segments := [
      ⟨[' '], [' ', 'a', ' ', 'b', ' '], by decide, List.all_eq_true.mp rfl⟩,
      ⟨[], ['\r'], by decide, List.all_eq_true.mp rfl⟩]
    trail := []
    lead_white := by decide
    spelled := by decide
    beforeOpening_white := by decide
    afterOpening_white := by decide
    keyword_word := List.all_eq_true.mp rfl
    beforeClosing_white := by decide
    trail_white := by decide }
  let plain : SpelledKey := {
    lead := []
    word := ['f', 'i', 'l', 't', 'e', 'r']
    beforeOpening := []
    afterOpening := []
    keyword := ['W', 'H', 'E', 'R', 'E']
    beforeClosing := []
    segments := [⟨[], ['a', ' ', 'b'], by decide, List.all_eq_true.mp rfl⟩,
      ⟨[], [], by decide, List.all_eq_true.mp rfl⟩]
    trail := []
    lead_white := by decide
    spelled := by decide
    beforeOpening_white := by decide
    afterOpening_white := by decide
    keyword_word := List.all_eq_true.mp rfl
    beforeClosing_white := by decide
    trail_white := by decide }
  have same : spelled.SameTokens plain := ⟨by decide, by decide⟩
  rcases parse?_iff_spelled "\tFiLter [ Where\n] [ a b ][\r]" with ⟨-, read_iff, alike⟩
  have read := (read_iff ⟨"where", ["a b", ""]⟩).mpr ⟨spelled, rfl, by decide +kernel⟩
  have plain_read := (alike spelled rfl).2 plain same
  rw [read] at plain_read
  exact ⟨read, plain_read⟩

end SchemaLens.Query.FilterKey
