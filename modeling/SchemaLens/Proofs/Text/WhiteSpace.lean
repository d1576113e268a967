import SchemaLens.Text.Ascii
import SchemaLens.Text.WhiteSpace

/-!
# Trimmed texts

A text is trimmed if no white space stands at either end of it. Trimming makes every text so, and
leaves one that is so as it is. A word of ASCII has no white space in it, so it is trimmed as well.
-/

namespace SchemaLens.Text

/-- Whether a text neither starts nor ends with white space. -/
structure IsTrimmed (text : List Char) : Prop where
  start : ∀ character ∈ text.head?, isWhiteSpace character = false
  finish : ∀ character ∈ text.getLast?, isWhiteSpace character = false

instance (text : List Char) : Decidable (IsTrimmed text) :=
  decidable_of_iff
    (text.head?.all (!isWhiteSpace ·) = true ∧ text.getLast?.all (!isWhiteSpace ·) = true) (by
      simp only [Option.all_eq_true, Bool.not_eq_true']
      exact ⟨fun ⟨start, finish⟩ => ⟨start, finish⟩, fun ⟨start, finish⟩ => ⟨start, finish⟩⟩)

theorem trimStart_eq_self {text : List Char}
    (start : ∀ character ∈ text.head?, isWhiteSpace character = false) : trimStart text = text := by
  cases text with
  | nil => rfl
  | cons first rest =>
      have visible : isWhiteSpace first = false := start first rfl
      unfold trimStart
      rw [List.dropWhile_cons_of_neg (by simp [visible])]

theorem trimEnd_eq_reverse (text : List Char) :
    trimEnd text = (trimStart text.reverse).reverse := rfl

theorem head?_trimStart {text : List Char} {character : Char}
    (first : character ∈ (trimStart text).head?) : isWhiteSpace character = false := by
  have stopped := List.head?_dropWhile_not isWhiteSpace text
  have first_eq : (text.dropWhile isWhiteSpace).head? = some character := first
  rw [first_eq] at stopped
  simpa using stopped

theorem trimEnd_isPrefix (text : List Char) : trimEnd text <+: text := by
  rw [← List.reverse_suffix, trimEnd_eq_reverse, List.reverse_reverse]
  exact List.dropWhile_suffix isWhiteSpace

theorem mem_head?_of_mem_head?_trimEnd {text : List Char} {character : Char}
    (first : character ∈ (trimEnd text).head?) : character ∈ text.head? := by
  rcases trimEnd_isPrefix text with ⟨dropped, split⟩
  rw [← split, List.head?_append, Option.mem_def.mp first]
  rfl

theorem mem_of_mem_trim {text : List Char} {character : Char} (mem : character ∈ trim text) :
    character ∈ text := by
  have mem_start : character ∈ trimStart text := (trimEnd_isPrefix _).subset mem
  exact (List.dropWhile_sublist isWhiteSpace).subset mem_start

theorem getLast?_trimEnd {text : List Char} {character : Char}
    (last : character ∈ (trimEnd text).getLast?) : isWhiteSpace character = false := by
  rw [trimEnd_eq_reverse, List.getLast?_reverse] at last
  exact head?_trimStart last

theorem isTrimmed_trim (text : List Char) : IsTrimmed (trim text) where
  start := by
    intro character first
    exact head?_trimStart (mem_head?_of_mem_head?_trimEnd first)
  finish := by
    intro character last
    exact getLast?_trimEnd last

theorem trim_eq_self {text : List Char} (trimmed : IsTrimmed text) : trim text = text := by
  have reversed_start : ∀ character ∈ text.reverse.head?, isWhiteSpace character = false := by
    intro character first
    rw [List.head?_reverse] at first
    exact trimmed.finish character first
  unfold trim
  rw [trimStart_eq_self trimmed.start, trimEnd_eq_reverse, trimStart_eq_self reversed_start,
    List.reverse_reverse]

/-! ## Runs -/

theorem takeWhile_append_of_ended {keep : Char → Bool} {word rest : List Char}
    (kept : ∀ character ∈ word, keep character = true)
    (ended : ∀ character ∈ rest.head?, keep character = false) :
    (word ++ rest).takeWhile keep = word := by
  rw [List.takeWhile_append_of_pos kept]
  cases rest with
  | nil => simp
  | cons next later => simp [ended next rfl]

theorem dropWhile_append_of_ended {keep : Char → Bool} {word rest : List Char}
    (kept : ∀ character ∈ word, keep character = true)
    (ended : ∀ character ∈ rest.head?, keep character = false) :
    (word ++ rest).dropWhile keep = rest := by
  rw [List.dropWhile_append_of_pos kept]
  cases rest with
  | nil => rfl
  | cons next later => rw [List.dropWhile_cons_of_neg (by simp [ended next rfl])]

/-- A run ends at the first character that stops it, whatever comes after. -/
theorem takeWhile_append_cons_of_stop {keep : Char → Bool} {stop : Char}
    (stops : keep stop = false) (left right : List Char) :
    (left ++ stop :: right).takeWhile keep = left.takeWhile keep := by
  induction left with
  | nil => simp [stops]
  | cons first others ih => cases kept : keep first <;> simp [kept, ih]

theorem dropWhile_append_cons_of_stop {keep : Char → Bool} {stop : Char}
    (stops : keep stop = false) (left right : List Char) :
    (left ++ stop :: right).dropWhile keep = left.dropWhile keep ++ stop :: right := by
  induction left with
  | nil => simp [stops]
  | cons first others ih => cases kept : keep first <;> simp [kept, ih]

/-- A text is cut in one way only where a run of characters ends. -/
theorem eq_of_append_eq_append {keep : Char → Bool} {word rest other otherRest : List Char}
    (kept : ∀ character ∈ word, keep character = true)
    (ended : ∀ character ∈ rest.head?, keep character = false)
    (other_kept : ∀ character ∈ other, keep character = true)
    (other_ended : ∀ character ∈ otherRest.head?, keep character = false)
    (same : word ++ rest = other ++ otherRest) : word = other ∧ rest = otherRest := by
  have taken := congrArg (List.takeWhile keep) same
  have dropped := congrArg (List.dropWhile keep) same
  rw [takeWhile_append_of_ended kept ended, takeWhile_append_of_ended other_kept other_ended]
    at taken
  rw [dropWhile_append_of_ended kept ended, dropWhile_append_of_ended other_kept other_ended]
    at dropped
  exact ⟨taken, dropped⟩

theorem kept_takeWhile (keep : Char → Bool) (text : List Char) :
    ∀ character ∈ text.takeWhile keep, keep character = true :=
  fun character mem => List.all_eq_true.mp List.all_takeWhile character mem

theorem ended_dropWhile (keep : Char → Bool) (text : List Char) :
    ∀ character ∈ (text.dropWhile keep).head?, keep character = false := by
  intro character first
  have stopped := List.head?_dropWhile_not keep text
  rw [Option.mem_def.mp first] at stopped
  simpa using stopped

/-! ## White space around a text -/

/-- Whether a text is white space. -/
def IsWhite (text : List Char) : Prop :=
  ∀ character ∈ text, isWhiteSpace character = true

instance (text : List Char) : Decidable (IsWhite text) :=
  decidable_of_iff (text.all isWhiteSpace = true) List.all_eq_true

theorem trimStart_append {blanks rest : List Char} (white : IsWhite blanks)
    (shown : ∀ character ∈ rest.head?, isWhiteSpace character = false) :
    trimStart (blanks ++ rest) = rest :=
  dropWhile_append_of_ended white shown

theorem exists_white_append (text : List Char) :
    ∃ blanks, IsWhite blanks ∧ text = blanks ++ trimStart text :=
  ⟨text.takeWhile isWhiteSpace, kept_takeWhile isWhiteSpace text,
    List.takeWhile_append_dropWhile.symm⟩

theorem exists_trimEnd_append (text : List Char) :
    ∃ trail, IsWhite trail ∧ text = trimEnd text ++ trail := by
  rcases exists_white_append text.reverse with ⟨trail, white, reversed_eq⟩
  refine ⟨trail.reverse, by simpa [IsWhite] using white, ?_⟩
  rw [trimEnd_eq_reverse, ← List.reverse_append, ← reversed_eq, List.reverse_reverse]

/-- The white space that a text ends with begins behind its last character that is none. -/
theorem trimEnd_append {front : List Char}
    (shown : ∀ character ∈ front.getLast?, isWhiteSpace character = false) (rest : List Char) :
    trimEnd (front ++ rest) = front ++ trimEnd rest := by
  rcases exists_trimEnd_append rest with ⟨trail, white, rest_eq⟩
  have reversed_white : IsWhite trail.reverse := by simpa [IsWhite] using white
  have last_shown : ∀ character ∈ (front ++ trimEnd rest).reverse.head?,
      isWhiteSpace character = false := by
    intro character last
    rw [List.head?_reverse, List.getLast?_append, Option.mem_def, Option.or_eq_some_iff] at last
    rcases last with last | ⟨-, last⟩
    · exact getLast?_trimEnd last
    · exact shown character last
  calc trimEnd (front ++ rest) = trimEnd (front ++ trimEnd rest ++ trail) := by
        rw [List.append_assoc, ← rest_eq]
    _ = front ++ trimEnd rest := by
        rw [trimEnd_eq_reverse, List.reverse_append, trimStart_append reversed_white last_shown,
          List.reverse_reverse]

theorem trimEnd_of_white {blanks : List Char} (white : IsWhite blanks) : trimEnd blanks = [] := by
  have reversed_white : ∀ character ∈ blanks.reverse, isWhiteSpace character = true := by
    simpa [IsWhite] using white
  have none_left : ∀ character ∈ ([] : List Char).head?, isWhiteSpace character = false := nofun
  have start_eq := trimStart_append reversed_white none_left
  rw [List.append_nil] at start_eq
  rw [trimEnd_eq_reverse, start_eq, List.reverse_nil]

theorem trim_append {blanks front : List Char} (white : IsWhite blanks) (not_empty : front ≠ [])
    (trimmed : IsTrimmed front) (rest : List Char) :
    trim (blanks ++ front ++ rest) = front ++ trimEnd rest := by
  have shown : ∀ character ∈ (front ++ rest).head?, isWhiteSpace character = false := by
    cases front with
    | nil => exact absurd rfl not_empty
    | cons first others => exact trimmed.start
  rw [List.append_assoc, trim, trimStart_append white shown, trimEnd_append trimmed.finish]

/-- Every text is its trimmed text with white space around it. -/
theorem exists_trim_append (text : List Char) :
    ∃ before after, IsWhite before ∧ IsWhite after ∧ text = before ++ trim text ++ after := by
  rcases exists_white_append text with ⟨before, before_white, text_eq⟩
  rcases exists_trimEnd_append (trimStart text) with ⟨after, after_white, start_eq⟩
  refine ⟨before, after, before_white, after_white, ?_⟩
  rw [List.append_assoc, trim, ← start_eq, ← text_eq]

/-! ## Words -/

theorem toNat_bounds_of_isAsciiWord {character : Char} (word : isAsciiWord character = true) :
    0x30 ≤ character.toNat ∧ character.toNat ≤ 0x7A := by
  have classes : ((decide ('A'.toNat ≤ character.toNat ∧ character.toNat ≤ 'Z'.toNat) ||
      (decide ('a'.toNat ≤ character.toNat) && decide (character.toNat ≤ 'z'.toNat))) ||
      (decide ('0'.toNat ≤ character.toNat) && decide (character.toNat ≤ '9'.toNat)) ||
      character == '_') = true := word
  simp only [Bool.or_eq_true, Bool.and_eq_true, decide_eq_true_eq, beq_iff_eq] at classes
  rcases classes with ((upper | lower) | digit) | rfl
  · exact ⟨Nat.le_trans (by decide) upper.1, Nat.le_trans upper.2 (by decide)⟩
  · exact ⟨Nat.le_trans (by decide) lower.1, Nat.le_trans lower.2 (by decide)⟩
  · exact ⟨Nat.le_trans (by decide) digit.1, Nat.le_trans digit.2 (by decide)⟩
  · decide

theorem visible_of_isAsciiWord {character : Char} (word : isAsciiWord character = true) :
    isWhiteSpace character = false := by
  have bounds := toNat_bounds_of_isAsciiWord word
  rw [Bool.eq_false_iff]
  intro white
  rw [isWhiteSpace, CodePointSet.includes_iff] at white
  rcases white with ⟨range, range_mem, least, greatest⟩
  simp only [CodePointSet.whiteSpace, List.mem_cons, List.not_mem_nil, or_false] at range_mem
  -- No range of white space meets the stretch from the digits to the small letters.
  have disjoint : range.2 < 0x30 ∨ 0x7A < range.1 := by
    rcases range_mem with rfl | rfl | rfl | rfl | rfl | rfl | rfl | rfl | rfl | rfl <;> decide
  omega

theorem not_isAsciiWord_of_isWhiteSpace {character : Char}
    (white : isWhiteSpace character = true) : isAsciiWord character = false := by
  rw [Bool.eq_false_iff]
  intro word
  rw [visible_of_isAsciiWord word] at white
  contradiction

theorem isWhiteSpace_of_isAsciiBlank {character : Char} (blank : isAsciiBlank character = true) :
    isWhiteSpace character = true := by
  rw [isWhiteSpace, CodePointSet.includes_iff]
  simp only [isAsciiBlank, Bool.or_eq_true, beq_iff_eq, Bool.and_eq_true,
    decide_eq_true_eq] at blank
  rcases blank with rfl | ⟨least, greatest⟩
  · exact ⟨(0x20, 0x20), by decide, by decide, by decide⟩
  · exact ⟨(0x9, 0xD), by decide, least, greatest⟩

theorem isTrimmed_of_isAsciiWord {text : List Char}
    (word : ∀ character ∈ text, isAsciiWord character = true) : IsTrimmed text where
  start := by
    intro character first
    exact visible_of_isAsciiWord (word character (List.mem_of_mem_head? first))
  finish := by
    intro character last
    exact visible_of_isAsciiWord (word character (List.mem_of_mem_getLast? last))

end SchemaLens.Text
