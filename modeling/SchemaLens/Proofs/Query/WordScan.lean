import SchemaLens.Proofs.Query.OrderEntries

/-!
# Orders scanned word by word

A text is cut into its words, which are as long as possible, and the gaps between them. An order is
what a scan of the words from left to right finds in it: a word, a gap of blanks only and a
direction make an entry, and the scan goes on behind them; any other word is passed over alone.
-/

namespace SchemaLens.Query

/-! ## Words with their gaps -/

/-- A word with the gap that comes after it. -/
@[ext]
structure WordPart where
  word : List Char
  gap : List Char
  word_ne_nil : word ≠ []
  isAsciiWord_of_mem : ∀ character ∈ word, Text.isAsciiWord character = true
  not_isAsciiWord_of_mem : ∀ character ∈ gap, Text.isAsciiWord character = false

namespace WordPart

def textOf (parts : List WordPart) : List Char :=
  parts.flatMap fun part => part.word ++ part.gap

/-- Whether all words but the last are kept apart by their gaps. -/
def AreApart (parts : List WordPart) : Prop :=
  parts.IsChain fun part _ => part.gap ≠ []

/-- The direction that the next word is for a word, if it is one. -/
def direction? (part next : WordPart) : Option SortDirection :=
  if part.gap ≠ [] ∧ part.gap.all Text.isAsciiBlank = true then
    SortDirection.ofWord? next.word
  else none

/-- The entries that are found from left to right. -/
def scan : List WordPart → List OrderEntry
  | part :: next :: rest =>
    match part.direction? next with
    | some direction => { fieldName := String.ofList part.word, direction } :: scan rest
    | none => scan (next :: rest)
  | _ => []

variable {part : WordPart} {rest : List WordPart}

@[simp]
theorem textOf_cons (part : WordPart) (rest : List WordPart) :
    textOf (part :: rest) = part.word ++ (part.gap ++ textOf rest) := by
  simp [textOf]

theorem AreApart.of_cons (apart : AreApart (part :: rest)) : AreApart rest :=
  List.IsChain.of_cons apart

theorem AreApart.ended (apart : AreApart (part :: rest)) :
    ∀ character ∈ (part.gap ++ textOf rest).head?, Text.isAsciiWord character = false := by
  intro character first
  cases rest with
  | nil =>
      rw [textOf, List.flatMap_nil, List.append_nil] at first
      exact part.not_isAsciiWord_of_mem _ (List.mem_of_mem_head? first)
  | cons next others =>
      have gap_ne_nil : part.gap ≠ [] := (List.isChain_cons_cons.mp apart).1
      rw [List.head?_append_of_ne_nil _ gap_ne_nil] at first
      exact part.not_isAsciiWord_of_mem _ (List.mem_of_mem_head? first)

theorem isAsciiWord_of_mem_head?_textOf (parts : List WordPart) :
    ∀ character ∈ (textOf parts).head?, Text.isAsciiWord character = true := by
  intro character first
  cases parts with
  | nil => contradiction
  | cons part rest =>
      rw [textOf_cons, List.head?_append_of_ne_nil _ part.word_ne_nil] at first
      exact part.isAsciiWord_of_mem _ (List.mem_of_mem_head? first)

theorem takeWhile_textOf (apart : AreApart (part :: rest)) :
    (textOf (part :: rest)).takeWhile Text.isAsciiWord = part.word := by
  rw [textOf_cons, Text.takeWhile_append_of_ended part.isAsciiWord_of_mem apart.ended]

theorem dropWhile_textOf (apart : AreApart (part :: rest)) :
    (textOf (part :: rest)).dropWhile Text.isAsciiWord = part.gap ++ textOf rest := by
  rw [textOf_cons, Text.dropWhile_append_of_ended part.isAsciiWord_of_mem apart.ended]

/-- The entry of the first word, and where the text is read on. -/
theorem orderEntries_textOf_cons (apart : AreApart (part :: rest)) :
    orderEntries (textOf (part :: rest)) =
      match directionBehind? (part.gap ++ textOf rest) with
      | some direction =>
        { fieldName := String.ofList part.word, direction } ::
          orderEntries ((textOf rest).dropWhile Text.isAsciiWord)
      | none => orderEntries (textOf rest) := by
  have taken := takeWhile_textOf apart
  have dropped := dropWhile_textOf apart
  cases text_eq : textOf (part :: rest) with
  | nil =>
      rw [text_eq] at taken
      exact absurd taken.symm part.word_ne_nil
  | cons first others =>
      have begun : Text.isAsciiWord first = true :=
        isAsciiWord_of_mem_head?_textOf (part :: rest) first (by simp [text_eq])
      rw [text_eq, List.takeWhile_cons_of_pos begun] at taken
      rw [text_eq, List.dropWhile_cons_of_pos begun] at dropped
      rw [orderEntries_cons_of_isAsciiWord begun, taken, dropped,
        orderEntries_append_of_not_word part.not_isAsciiWord_of_mem]
      -- If a direction is read, the gap has blanks only and all of it is passed.
      rw [directionBehind?_append part.not_isAsciiWord_of_mem
        (isAsciiWord_of_mem_head?_textOf rest)]
      split_ifs with blanks
      · have passed : (part.gap ++ textOf rest).dropWhile Text.isAsciiBlank = textOf rest :=
          Text.dropWhile_append_of_ended (List.all_eq_true.mp blanks.2) fun character mem =>
            Text.not_isAsciiBlank_of_isAsciiWord
              (isAsciiWord_of_mem_head?_textOf rest character mem)
        cases SortDirection.ofWord? ((textOf rest).takeWhile Text.isAsciiWord) with
        | none => rfl
        | some direction => simp only [passed]
      · rfl

theorem orderEntries_textOf {parts : List WordPart} (apart : AreApart parts) :
    orderEntries (textOf parts) = scan parts := by
  fun_induction scan parts with
  | case1 part next rest direction directed ih =>
      have behind : directionBehind? (part.gap ++ textOf (next :: rest)) = some direction := by
        rw [directionBehind?_append part.not_isAsciiWord_of_mem
          (isAsciiWord_of_mem_head?_textOf _), takeWhile_textOf apart.of_cons]
        exact directed
      rw [orderEntries_textOf_cons apart, behind, dropWhile_textOf apart.of_cons,
        orderEntries_append_of_not_word next.not_isAsciiWord_of_mem, ih apart.of_cons.of_cons]
  | case2 part next rest undirected ih =>
      have behind : directionBehind? (part.gap ++ textOf (next :: rest)) = none := by
        rw [directionBehind?_append part.not_isAsciiWord_of_mem
          (isAsciiWord_of_mem_head?_textOf _), takeWhile_textOf apart.of_cons]
        exact undirected
      rw [orderEntries_textOf_cons apart, behind, ih apart.of_cons]
  | case3 parts not_two =>
      cases parts with
      | nil => exact orderEntries_nil
      | cons part rest =>
          cases rest with
          | nil =>
              have behind : directionBehind? (part.gap ++ textOf []) = none := by
                rw [directionBehind?_append part.not_isAsciiWord_of_mem
                  (isAsciiWord_of_mem_head?_textOf _)]
                exact ite_self _
              rw [orderEntries_textOf_cons apart, behind]
              exact orderEntries_nil
          | cons next others => exact absurd rfl (not_two part next others)

theorem eq_of_gap_append_textOf_eq {gap other : List Char} {parts others : List WordPart}
    (no_words : ∀ character ∈ gap, Text.isAsciiWord character = false)
    (other_no_words : ∀ character ∈ other, Text.isAsciiWord character = false)
    (same : gap ++ textOf parts = other ++ textOf others) :
    gap = other ∧ textOf parts = textOf others := by
  have ended (parts : List WordPart) :
      ∀ character ∈ (textOf parts).head?, (!Text.isAsciiWord character) = false := by
    simpa using isAsciiWord_of_mem_head?_textOf parts
  exact Text.eq_of_append_eq_append (by simpa using no_words) (ended parts)
    (by simpa using other_no_words) (ended others) same

/-- A text is made of words and gaps in one way only. -/
theorem eq_of_textOf_eq {parts others : List WordPart} (apart : AreApart parts)
    (others_apart : AreApart others) (same : textOf parts = textOf others) : parts = others := by
  induction parts generalizing others with
  | nil =>
      cases others with
      | nil => rfl
      | cons other others => simp [textOf, other.word_ne_nil] at same
  | cons part rest ih =>
      cases others with
      | nil => simp [textOf, part.word_ne_nil] at same
      | cons other others =>
          rw [textOf_cons, textOf_cons] at same
          rcases Text.eq_of_append_eq_append part.isAsciiWord_of_mem apart.ended
            other.isAsciiWord_of_mem others_apart.ended same with ⟨words, behind⟩
          rcases eq_of_gap_append_textOf_eq part.not_isAsciiWord_of_mem
            other.not_isAsciiWord_of_mem behind with ⟨gaps, rests⟩
          rw [WordPart.ext words gaps, ih apart.of_cons others_apart.of_cons rests]

end WordPart

/-- A text cut into words and gaps. -/
@[ext]
structure WordCut where
  lead : List Char
  parts : List WordPart
  not_isAsciiWord_of_mem_lead : ∀ character ∈ lead, Text.isAsciiWord character = false
  areApart : WordPart.AreApart parts

namespace WordCut

def text (cut : WordCut) : List Char :=
  cut.lead ++ WordPart.textOf cut.parts

theorem eq_of_text_eq {cut other : WordCut} (same : cut.text = other.text) : cut = other := by
  rcases WordPart.eq_of_gap_append_textOf_eq cut.not_isAsciiWord_of_mem_lead
    other.not_isAsciiWord_of_mem_lead same with ⟨leads, parts⟩
  exact WordCut.ext leads (WordPart.eq_of_textOf_eq cut.areApart other.areApart parts)

theorem exists_text_eq (text : List Char) : ∃ cut : WordCut, cut.text = text := by
  induction text with
  | nil => exact ⟨⟨[], [], by simp, by simp [WordPart.AreApart]⟩, rfl⟩
  | cons first others ih =>
      rcases ih with ⟨⟨lead, parts, no_words, apart⟩, rfl⟩
      by_cases word : Text.isAsciiWord first = true
      · rcases lead with - | ⟨blank, lead⟩
        · rcases parts with - | ⟨part, parts⟩
          · let single : WordPart := ⟨[first], [], by simp, by simp [word], by simp⟩
            exact ⟨⟨[], [single], by simp, by simp [WordPart.AreApart]⟩, rfl⟩
          · -- The word that follows at once is made longer.
            let longer : WordPart := ⟨first :: part.word, part.gap, by simp,
              by simpa [word] using part.isAsciiWord_of_mem, part.not_isAsciiWord_of_mem⟩
            refine ⟨⟨[], longer :: parts, by simp, ?_⟩, by simp [text, longer]⟩
            cases parts with
            | nil => simp [WordPart.AreApart]
            | cons next parts =>
                rw [WordPart.AreApart, List.isChain_cons_cons] at apart ⊢
                exact apart
        · let single : WordPart := ⟨[first], blank :: lead, by simp, by simp [word], no_words⟩
          refine ⟨⟨[], single :: parts, by simp, ?_⟩, by simp [text, single]⟩
          cases parts with
          | nil => simp [WordPart.AreApart]
          | cons next parts =>
              rw [WordPart.AreApart, List.isChain_cons_cons]
              exact ⟨by simp [single], apart⟩
      · exact ⟨⟨first :: lead, parts, by simpa [word] using no_words, apart⟩, rfl⟩

theorem existsUnique_text_eq (text : List Char) : ∃! cut : WordCut, cut.text = text := by
  rcases exists_text_eq text with ⟨cut, rfl⟩
  exact ⟨cut, rfl, fun other same => eq_of_text_eq same⟩

theorem orderEntries_text (cut : WordCut) : orderEntries cut.text = WordPart.scan cut.parts := by
  rw [text, orderEntries_append_of_not_word cut.not_isAsciiWord_of_mem_lead,
    WordPart.orderEntries_textOf cut.areApart]

end WordCut

/-! ## Orders written as words -/

/-- An entry of an order in letters, with the gap that comes after it. -/
structure SpelledEntry where
  fieldName : List Char
  blanks : List Char
  directionWord : List Char
  direction : SortDirection
  gap : List Char
  fieldName_ne_nil : fieldName ≠ []
  isAsciiWord_of_mem : ∀ character ∈ fieldName, Text.isAsciiWord character = true
  blanks_ne_nil : blanks ≠ []
  isAsciiBlank_of_mem : ∀ character ∈ blanks, Text.isAsciiBlank character = true
  spelled : Text.asciiLower directionWord = (Named.name direction).toList
  not_isAsciiWord_of_mem : ∀ character ∈ gap, Text.isAsciiWord character = false

namespace SpelledEntry

def entry (spelled : SpelledEntry) : OrderEntry where
  fieldName := String.ofList spelled.fieldName
  direction := spelled.direction

theorem ofWord?_directionWord (spelled : SpelledEntry) :
    SortDirection.ofWord? spelled.directionWord = some spelled.direction :=
  SortDirection.ofWord?_of_asciiLower_eq spelled.spelled

def fieldPart (spelled : SpelledEntry) : WordPart where
  word := spelled.fieldName
  gap := spelled.blanks
  word_ne_nil := spelled.fieldName_ne_nil
  isAsciiWord_of_mem := spelled.isAsciiWord_of_mem
  not_isAsciiWord_of_mem := fun character mem =>
    Text.not_isAsciiWord_of_isAsciiBlank (spelled.isAsciiBlank_of_mem character mem)

def directionPart (spelled : SpelledEntry) : WordPart where
  word := spelled.directionWord
  gap := spelled.gap
  word_ne_nil := (SortDirection.isAsciiWord_of_ofWord? spelled.ofWord?_directionWord).1
  isAsciiWord_of_mem := (SortDirection.isAsciiWord_of_ofWord? spelled.ofWord?_directionWord).2
  not_isAsciiWord_of_mem := spelled.not_isAsciiWord_of_mem

def partsOf (entries : List SpelledEntry) : List WordPart :=
  entries.flatMap fun spelled => [spelled.fieldPart, spelled.directionPart]

@[simp]
theorem partsOf_cons (spelled : SpelledEntry) (rest : List SpelledEntry) :
    partsOf (spelled :: rest) = spelled.fieldPart :: spelled.directionPart :: partsOf rest := rfl

theorem direction?_fieldPart (spelled : SpelledEntry) :
    spelled.fieldPart.direction? spelled.directionPart = some spelled.direction := by
  rw [WordPart.direction?,
    if_pos ⟨spelled.blanks_ne_nil, List.all_eq_true.mpr spelled.isAsciiBlank_of_mem⟩]
  exact spelled.ofWord?_directionWord

theorem scan_partsOf (entries : List SpelledEntry) :
    WordPart.scan (partsOf entries) = entries.map entry := by
  induction entries with
  | nil => rfl
  | cons spelled rest ih =>
      rw [partsOf_cons, WordPart.scan, direction?_fieldPart, List.map_cons, ← ih]
      rfl

theorem areApart_partsOf {entries : List SpelledEntry}
    (apart : entries.IsChain fun spelled _ => spelled.gap ≠ []) :
    WordPart.AreApart (partsOf entries) := by
  induction entries with
  | nil => exact .nil
  | cons spelled rest ih =>
      rw [partsOf_cons, WordPart.AreApart, List.isChain_cons_cons]
      refine ⟨spelled.blanks_ne_nil, ?_⟩
      cases rest with
      | nil => exact .singleton _
      | cons next others =>
          rw [List.isChain_cons_cons] at apart
          rw [partsOf_cons, List.isChain_cons_cons]
          exact ⟨apart.1, ih apart.2⟩

end SpelledEntry

/-- Entries of an order in letters, kept apart by gaps. -/
structure SpelledOrder where
  lead : List Char
  entries : List SpelledEntry
  not_isAsciiWord_of_mem_lead : ∀ character ∈ lead, Text.isAsciiWord character = false
  entries_ne_nil : entries ≠ []
  gap_ne_nil : entries.IsChain fun spelled _ => spelled.gap ≠ []

namespace SpelledOrder

def text (spelled : SpelledOrder) : List Char :=
  spelled.lead ++ spelled.entries.flatMap fun entry =>
    entry.fieldName ++ entry.blanks ++ entry.directionWord ++ entry.gap

def order (spelled : SpelledOrder) : SortOrder where
  entries := spelled.entries.map SpelledEntry.entry

/-- Entries in letters are read one by one, whatever words their fields are. -/
theorem parse?_text (spelled : SpelledOrder) :
    SortOrder.parse? (String.ofList spelled.text) = some spelled.order := by
  let cut : WordCut := {
    lead := spelled.lead
    parts := SpelledEntry.partsOf spelled.entries
    not_isAsciiWord_of_mem_lead := spelled.not_isAsciiWord_of_mem_lead
    areApart := SpelledEntry.areApart_partsOf spelled.gap_ne_nil }
  have text_eq : spelled.text = cut.text := by
    simp [text, WordCut.text, cut, SpelledEntry.partsOf, WordPart.textOf, List.flatMap_assoc,
      SpelledEntry.fieldPart, SpelledEntry.directionPart]
  rw [SortOrder.parse?, String.toList_ofList, text_eq, cut.orderEntries_text,
    SpelledEntry.scan_partsOf, order]
  cases entries_eq : spelled.entries with
  | nil => exact absurd entries_eq spelled.entries_ne_nil
  | cons first others => rfl

end SpelledOrder

end SchemaLens.Query
