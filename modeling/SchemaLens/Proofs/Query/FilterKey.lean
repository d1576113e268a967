import SchemaLens.Proofs.Query.SpelledKey

/-!
# Keys and the text they are written as

The segments that are read from a key have no brackets in them and no white space around them,
whatever the key looks like. Segments of this kind, written in brackets after a keyword, are read
back as they are.
-/

namespace SchemaLens.Query.FilterKey

/-- Whether a text can be a path segment of a key. -/
structure IsSegment (text : List Char) : Prop where
  trimmed : Text.IsTrimmed text
  no_opening : '[' ∉ text
  no_closing : ']' ∉ text

instance (text : List Char) : Decidable (IsSegment text) :=
  decidable_of_iff (Text.IsTrimmed text ∧ '[' ∉ text ∧ ']' ∉ text)
    ⟨fun ⟨trimmed, no_opening, no_closing⟩ => ⟨trimmed, no_opening, no_closing⟩,
      fun ⟨trimmed, no_opening, no_closing⟩ => ⟨trimmed, no_opening, no_closing⟩⟩

/-- Whether a text can be the keyword of a key. -/
structure IsKeyword (text : List Char) : Prop where
  word : ∀ character ∈ text, Text.isAsciiWord character = true
  lower : Text.asciiLower text = text

theorem isSegmentCharacter_iff {character : Char} :
    isSegmentCharacter character = true ↔ character ≠ '[' ∧ character ≠ ']' := by
  simp [isSegmentCharacter]

theorem IsSegment.isSegmentCharacter {text : List Char} (segment : IsSegment text) :
    ∀ character ∈ text, isSegmentCharacter character = true := by
  intro character mem
  rw [isSegmentCharacter_iff]
  constructor
  · rintro rfl
    exact segment.no_opening mem
  · rintro rfl
    exact segment.no_closing mem

theorem isSegment_trim {text : List Char}
    (inside : ∀ character ∈ text, isSegmentCharacter character = true) :
    IsSegment (Text.trim text) where
  trimmed := Text.isTrimmed_trim text
  no_opening := fun mem => by
    simpa [isSegmentCharacter] using inside '[' (Text.mem_of_mem_trim mem)
  no_closing := fun mem => by
    simpa [isSegmentCharacter] using inside ']' (Text.mem_of_mem_trim mem)

theorem isSegment_of_isAsciiWord {text : List Char}
    (word : ∀ character ∈ text, Text.isAsciiWord character = true) : IsSegment text where
  trimmed := Text.isTrimmed_of_isAsciiWord word
  no_opening := fun mem => absurd (word '[' mem) (by decide)
  no_closing := fun mem => absurd (word ']' mem) (by decide)

theorem isSegment_of_mem_segments? {text : List Char} {segments : List (List Char)}
    (read : segments? text = some segments) : ∀ segment ∈ segments, IsSegment segment := by
  fun_induction segments? text generalizing segments with
  | case1 text opened =>
      cases read
      exact List.forall_mem_nil _
  | case2 text body rest closed opened ih =>
      rcases Option.map_eq_some_iff.mp read with ⟨others, others_read, rfl⟩
      rw [List.forall_mem_cons]
      exact ⟨isSegment_trim (Text.kept_takeWhile _ _), ih others_read⟩
  | case3 => contradiction
  | case4 => contradiction

theorem isSegment_of_mem_path {key : String} {filterKey : FilterKey}
    (read : parse? key = some filterKey) :
    ∀ segment ∈ filterKey.path, IsSegment segment.toList := by
  simp only [parse?, Option.bind_eq_bind, Option.bind_eq_some_iff, Option.pure_def,
    Option.some.injEq] at read
  rcases read with ⟨afterFilter, -, opened, -, closed, -, segments, segments_read, rfl⟩
  intro segment segment_mem
  rcases List.mem_map.mp segment_mem with ⟨text, text_mem, rfl⟩
  rw [String.toList_ofList]
  exact isSegment_of_mem_segments? segments_read text text_mem

/-! ## Written keys -/

/-- A text in brackets. -/
def bracketed (text : List Char) : List Char :=
  '[' :: (text ++ [']'])

/-- The key that stands for a keyword and a path, without white space. -/
def render (filterKey : FilterKey) : String :=
  String.ofList (['f', 'i', 'l', 't', 'e', 'r'] ++ bracketed filterKey.keyword.toList ++
    filterKey.path.flatMap fun segment => bracketed segment.toList)

/-- Segments in brackets are spelled without any white space. -/
theorem exists_spelled_of_isSegment {path : List String}
    (segments : ∀ segment ∈ path, IsSegment segment.toList) :
    ∃ spelled : List SpelledSegment,
      SpelledSegment.textOf spelled = (path.flatMap fun segment => bracketed segment.toList) ∧
        (spelled.map fun segment => String.ofList segment.trimmed) = path := by
  induction path with
  | nil => exact ⟨[], rfl, rfl⟩
  | cons segment rest ih =>
      rw [List.forall_mem_cons] at segments
      rcases ih segments.2 with ⟨spelled, text_eq, path_eq⟩
      let first : SpelledSegment := {
        blanks := []
        content := segment.toList
        white := List.forall_mem_nil _
        inside := segments.1.isSegmentCharacter }
      have first_trimmed : String.ofList first.trimmed = segment := by
        rw [SpelledSegment.trimmed, Text.trim_eq_self segments.1.trimmed, String.ofList_toList]
      refine ⟨first :: spelled, ?_, ?_⟩
      · rw [List.flatMap_cons, ← text_eq]
        rfl
      · rw [List.map_cons, first_trimmed, path_eq]

/-- A key that is written for a keyword and segments is read as these. -/
theorem parse?_render {filterKey : FilterKey} (keyword : IsKeyword filterKey.keyword.toList)
    (segments : ∀ segment ∈ filterKey.path, IsSegment segment.toList) :
    parse? filterKey.render = some filterKey := by
  rcases exists_spelled_of_isSegment segments with ⟨spelledPath, text_eq, path_eq⟩
  let spelled : SpelledKey := {
    lead := []
    word := ['f', 'i', 'l', 't', 'e', 'r']
    beforeOpening := []
    afterOpening := []
    keyword := filterKey.keyword.toList
    beforeClosing := []
    segments := spelledPath
    trail := []
    lead_white := List.forall_mem_nil _
    spelled := rfl
    beforeOpening_white := List.forall_mem_nil _
    afterOpening_white := List.forall_mem_nil _
    keyword_word := keyword.word
    beforeClosing_white := List.forall_mem_nil _
    trail_white := List.forall_mem_nil _ }
  have render_eq : filterKey.render = String.ofList spelled.text := by
    simp [render, SpelledKey.text, SpelledKey.opened, spelled, bracketed, text_eq]
  rw [render_eq, spelled.parse?_text, SpelledKey.filterKey, keyword.lower, path_eq,
    String.ofList_toList]

end SchemaLens.Query.FilterKey
