import Mathlib.Data.List.Basic
import Mathlib.Tactic.SplitIfs
import SchemaLens.Proofs.Text.LowerCase
import SchemaLens.Query.Filter

/-!
# The entries of an order, word by word

What a text of an order gives at its first word: the word is the field of an entry if blanks and a
direction come right behind it, and is passed over otherwise.
-/

namespace SchemaLens.Query

/-! ## Words for directions -/

namespace SortDirection

theorem ofWord?_of_asciiLower_eq {word : List Char} {direction : SortDirection}
    (spelled : Text.asciiLower word = (Named.name direction).toList) :
    SortDirection.ofWord? word = some direction := by
  rw [SortDirection.ofWord?, spelled, String.ofList_toList, Named.ofName?_name]

theorem ofWord?_name (direction : SortDirection) :
    SortDirection.ofWord? (Named.name direction).toList = some direction := by
  apply ofWord?_of_asciiLower_eq
  cases direction <;> decide +kernel

theorem asciiLower_of_ofWord? {word : List Char} {direction : SortDirection}
    (read : SortDirection.ofWord? word = some direction) :
    Text.asciiLower word = (Named.name direction).toList := by
  rw [Named.name_of_ofName? read, String.toList_ofList]

/-- A word for a direction is written in ASCII letters. -/
theorem isAsciiWord_of_ofWord? {word : List Char} {direction : SortDirection}
    (read : SortDirection.ofWord? word = some direction) :
    word ≠ [] ∧ ∀ character ∈ word, Text.isAsciiWord character = true := by
  have lowered := asciiLower_of_ofWord? read
  constructor
  · rintro rfl
    cases direction <;> contradiction
  · rw [← Text.forall_isAsciiWord_asciiLower, lowered, ← List.all_eq_true]
    cases direction <;> decide +kernel

theorem ofWord?_eq_ite (word : List Char) :
    SortDirection.ofWord? word =
      if Text.asciiLower word = ['a', 's', 'c'] then some .ascending
      else if Text.asciiLower word = ['d', 'e', 's', 'c'] then some .descending
      else none := by
  split_ifs with ascending descending
  · exact ofWord?_of_asciiLower_eq ascending
  · exact ofWord?_of_asciiLower_eq descending
  · cases read : SortDirection.ofWord? word with
    | none => rfl
    | some direction =>
        have spelled := asciiLower_of_ofWord? read
        cases direction with
        | ascending => exact absurd spelled ascending
        | descending => exact absurd spelled descending

end SortDirection

/-! ## Characters before the first word -/

@[simp]
theorem orderEntries_nil : orderEntries [] = [] := by
  rw [orderEntries]
  rfl

/-- Entries are looked for from the first word on. -/
theorem orderEntries_congr {text other : List Char}
    (same : text.dropWhile (!Text.isAsciiWord ·) = other.dropWhile (!Text.isAsciiWord ·)) :
    orderEntries text = orderEntries other := by
  rw [orderEntries, orderEntries.eq_def other]
  generalize text.dropWhile (!Text.isAsciiWord ·) = dropped at same ⊢
  subst same
  rfl

theorem orderEntries_cons_of_not_word {character : Char}
    (no_word : Text.isAsciiWord character = false) (rest : List Char) :
    orderEntries (character :: rest) = orderEntries rest := by
  apply orderEntries_congr
  rw [List.dropWhile_cons_of_pos (by simp [no_word])]

theorem orderEntries_append_of_not_word {gap : List Char}
    (no_words : ∀ character ∈ gap, Text.isAsciiWord character = false) (rest : List Char) :
    orderEntries (gap ++ rest) = orderEntries rest := by
  induction gap with
  | nil => rfl
  | cons first others ih =>
      rw [List.forall_mem_cons] at no_words
      rw [List.cons_append, orderEntries_cons_of_not_word no_words.1, ih no_words.2]

/-! ## The first word -/

def directionBehind? (afterWord : List Char) : Option SortDirection :=
  if (afterWord.takeWhile Text.isAsciiBlank).isEmpty then none
  else SortDirection.ofWord? ((afterWord.dropWhile Text.isAsciiBlank).takeWhile Text.isAsciiWord)

theorem orderEntries_cons_of_isAsciiWord {first : Char} (begun : Text.isAsciiWord first = true)
    (others : List Char) :
    let afterWord := others.dropWhile Text.isAsciiWord
    orderEntries (first :: others) =
      match directionBehind? afterWord with
      | some direction =>
        { fieldName := String.ofList (first :: others.takeWhile Text.isAsciiWord), direction } ::
          orderEntries ((afterWord.dropWhile Text.isAsciiBlank).dropWhile Text.isAsciiWord)
      | none => orderEntries afterWord := by
  have started : (first :: others).dropWhile (!Text.isAsciiWord ·) = first :: others := by
    rw [List.dropWhile_cons_of_neg (by simp [begun])]
  rw [orderEntries]
  split
  · rename_i none_started
    rw [started] at none_started
    contradiction
  · rename_i initial later some_started
    rw [started] at some_started
    rcases List.cons.inj some_started with ⟨rfl, rfl⟩
    rfl

theorem ofWord?_of_directionBehind? {afterWord : List Char} {direction : SortDirection}
    (behind : directionBehind? afterWord = some direction) :
    SortDirection.ofWord? ((afterWord.dropWhile Text.isAsciiBlank).takeWhile Text.isAsciiWord) =
      some direction := by
  rw [directionBehind?] at behind
  split_ifs at behind
  exact behind

/-- The first character of a gap that is no blank starts no word either. -/
theorem takeWhile_dropWhile_append_of_not_blanks {gap : List Char}
    (no_words : ∀ character ∈ gap, Text.isAsciiWord character = false)
    (not_blanks : ¬∀ character ∈ gap, Text.isAsciiBlank character = true) (rest : List Char) :
    ((gap ++ rest).dropWhile Text.isAsciiBlank).takeWhile Text.isAsciiWord = [] := by
  induction gap with
  | nil => exact absurd (List.forall_mem_nil _) not_blanks
  | cons first others ih =>
      rw [List.forall_mem_cons] at no_words not_blanks
      by_cases blank : Text.isAsciiBlank first = true
      · simpa [blank] using ih no_words.2 fun blanks => not_blanks ⟨blank, blanks⟩
      · simp [blank, no_words.1]

/-- Behind a gap a direction is read only if the gap has blanks and nothing else. -/
theorem directionBehind?_append {gap rest : List Char}
    (no_words : ∀ character ∈ gap, Text.isAsciiWord character = false)
    (begun : ∀ character ∈ rest.head?, Text.isAsciiWord character = true) :
    directionBehind? (gap ++ rest) =
      if gap ≠ [] ∧ gap.all Text.isAsciiBlank = true then
        SortDirection.ofWord? (rest.takeWhile Text.isAsciiWord)
      else none := by
  by_cases blanks : ∀ character ∈ gap, Text.isAsciiBlank character = true
  · have rest_not_blank : ∀ character ∈ rest.head?, Text.isAsciiBlank character = false :=
      fun character first => Text.not_isAsciiBlank_of_isAsciiWord (begun character first)
    rw [directionBehind?, Text.takeWhile_append_of_ended blanks rest_not_blank,
      Text.dropWhile_append_of_ended blanks rest_not_blank]
    cases gap <;> simp_all
  · have no_direction : SortDirection.ofWord? [] = none := rfl
    rw [directionBehind?, takeWhile_dropWhile_append_of_not_blanks no_words blanks, no_direction,
      ite_self, if_neg fun both => blanks (List.all_eq_true.mp both.2)]

/-- A word that starts with `first`, blanks and a direction are an entry, whatever comes next. -/
theorem orderEntries_word_direction_append {first : Char} {others : List Char}
    (word : ∀ character ∈ first :: others, Text.isAsciiWord character = true)
    {blanks : List Char} (separated : blanks ≠ [])
    (are_blanks : ∀ character ∈ blanks, Text.isAsciiBlank character = true)
    {directionWord : List Char} {direction : SortDirection}
    (directed : SortDirection.ofWord? directionWord = some direction) {rest : List Char}
    (ended : ∀ character ∈ rest.head?, Text.isAsciiWord character = false) :
    orderEntries (first :: (others ++ (blanks ++ (directionWord ++ rest)))) =
      { fieldName := String.ofList (first :: others), direction } :: orderEntries rest := by
  rcases SortDirection.isAsciiWord_of_ofWord? directed with ⟨direction_not_empty, direction_word⟩
  rw [List.forall_mem_cons] at word
  have gap_no_words : ∀ character ∈ blanks, Text.isAsciiWord character = false :=
    fun character mem => Text.not_isAsciiWord_of_isAsciiBlank (are_blanks character mem)
  have word_ended : ∀ character ∈ (blanks ++ (directionWord ++ rest)).head?,
      Text.isAsciiWord character = false := by
    intro character initial
    rw [List.head?_append_of_ne_nil _ separated] at initial
    exact gap_no_words _ (List.mem_of_mem_head? initial)
  have direction_begun : ∀ character ∈ (directionWord ++ rest).head?,
      Text.isAsciiWord character = true := by
    intro character initial
    rw [List.head?_append_of_ne_nil _ direction_not_empty] at initial
    exact direction_word _ (List.mem_of_mem_head? initial)
  have behind : directionBehind? (blanks ++ (directionWord ++ rest)) = some direction := by
    rw [directionBehind?_append gap_no_words direction_begun,
      if_pos ⟨separated, List.all_eq_true.mpr are_blanks⟩,
      Text.takeWhile_append_of_ended direction_word ended, directed]
  rw [orderEntries_cons_of_isAsciiWord word.1, Text.takeWhile_append_of_ended word.2 word_ended,
    Text.dropWhile_append_of_ended word.2 word_ended, behind]
  simp only
  rw [Text.dropWhile_append_of_ended are_blanks fun character initial =>
      Text.not_isAsciiBlank_of_isAsciiWord (direction_begun character initial),
    Text.dropWhile_append_of_ended direction_word ended]

/-! ## From word to word -/

/-- What is left behind an entry is no longer than what comes after the first character. -/
theorem length_behind_le (others : List Char) :
    (((others.dropWhile Text.isAsciiWord).dropWhile Text.isAsciiBlank).dropWhile
      Text.isAsciiWord).length ≤ others.length :=
  ((List.dropWhile_sublist _).trans ((List.dropWhile_sublist _).trans
    (List.dropWhile_sublist _))).length_le

/-- Texts are read from left to right, past a word or past a whole entry at a time. -/
@[elab_as_elim]
theorem orderEntries_induction {motive : List Char → Prop} (nil : motive [])
    (not_word : ∀ first others, Text.isAsciiWord first = false → motive others →
      motive (first :: others))
    (word : ∀ first others, Text.isAsciiWord first = true →
      motive (others.dropWhile Text.isAsciiWord) →
      motive (((others.dropWhile Text.isAsciiWord).dropWhile Text.isAsciiBlank).dropWhile
        Text.isAsciiWord) →
      motive (first :: others))
    (text : List Char) : motive text := by
  induction remaining : text.length using Nat.strongRecOn generalizing text with
  | ind length ih =>
  subst remaining
  cases text with
  | nil => exact nil
  | cons first others =>
      have shorter : ∀ text : List Char, text.length ≤ others.length → motive text :=
        fun text le => ih text.length (Nat.lt_succ_of_le le) text rfl
      cases is_word : Text.isAsciiWord first with
      | false => exact not_word first others is_word (shorter others (Nat.le_refl _))
      | true =>
          apply word first others is_word
          · exact shorter _ (List.dropWhile_sublist _).length_le
          · exact shorter _ (length_behind_le others)

/-! ## Characters between entries -/

theorem directionBehind?_append_cons {separator : Char}
    (no_word : Text.isAsciiWord separator = false)
    (no_blank : Text.isAsciiBlank separator = false) (left right : List Char) :
    directionBehind? (left ++ separator :: right) = directionBehind? left := by
  rw [directionBehind?, directionBehind?, Text.takeWhile_append_cons_of_stop no_blank,
    Text.dropWhile_append_cons_of_stop no_blank, Text.takeWhile_append_cons_of_stop no_word]

/-- No entry reaches over a character that belongs neither to words nor to the blanks behind them,
so the texts on its two sides are read each by itself. -/
theorem orderEntries_append_cons {separator : Char} (no_word : Text.isAsciiWord separator = false)
    (no_blank : Text.isAsciiBlank separator = false) (left right : List Char) :
    orderEntries (left ++ separator :: right) = orderEntries left ++ orderEntries right := by
  induction left using orderEntries_induction with
  | nil =>
      rw [orderEntries_nil, List.nil_append, List.nil_append, orderEntries_cons_of_not_word no_word]
  | not_word first others no_first ih =>
      rw [List.cons_append, orderEntries_cons_of_not_word no_first,
        orderEntries_cons_of_not_word no_first, ih]
  | word first others begun ih_word ih_entry =>
      rw [List.cons_append, orderEntries_cons_of_isAsciiWord begun,
        orderEntries_cons_of_isAsciiWord begun, Text.takeWhile_append_cons_of_stop no_word,
        Text.dropWhile_append_cons_of_stop no_word,
        directionBehind?_append_cons no_word no_blank]
      cases directionBehind? (others.dropWhile Text.isAsciiWord) with
      | none => exact ih_word
      | some direction =>
          simp only
          rw [Text.dropWhile_append_cons_of_stop no_blank,
            Text.dropWhile_append_cons_of_stop no_word, ih_entry, List.cons_append]

theorem orderEntries_intercalate_commas (texts : List (List Char)) :
    orderEntries ([','].intercalate texts) = texts.flatMap orderEntries := by
  induction texts with
  | nil => exact orderEntries_nil
  | cons first others ih =>
      cases others with
      | nil => simp
      | cons next rest =>
          rw [List.intercalate_cons_cons, List.append_assoc, List.singleton_append,
            orderEntries_append_cons (by decide) (by decide), ih]
          rfl

theorem directionBehind?_of_not_blank {afterWord : List Char}
    (no_blanks : ∀ character ∈ afterWord, Text.isAsciiBlank character = false) :
    directionBehind? afterWord = none := by
  have none_taken : afterWord.takeWhile Text.isAsciiBlank = [] := by
    cases afterWord with
    | nil => rfl
    | cons first others => rw [List.takeWhile_cons_of_neg (by simp [no_blanks first])]
  rw [directionBehind?, none_taken]
  rfl

/-- An entry needs blanks between its field and its direction. -/
theorem orderEntries_of_not_blank {text : List Char}
    (no_blanks : ∀ character ∈ text, Text.isAsciiBlank character = false) :
    orderEntries text = [] := by
  induction text using orderEntries_induction with
  | nil => exact orderEntries_nil
  | not_word first others no_first ih =>
      rw [List.forall_mem_cons] at no_blanks
      rw [orderEntries_cons_of_not_word no_first, ih no_blanks.2]
  | word first others begun ih_word ih_entry =>
      rw [List.forall_mem_cons] at no_blanks
      have still_no_blanks : ∀ character ∈ others.dropWhile Text.isAsciiWord,
          Text.isAsciiBlank character = false :=
        fun character mem => no_blanks.2 character ((List.dropWhile_sublist _).subset mem)
      rw [orderEntries_cons_of_isAsciiWord begun, directionBehind?_of_not_blank still_no_blanks]
      exact ih_word still_no_blanks

end SchemaLens.Query
