import Mathlib.Tactic.NthRewrite
import SchemaLens.Proofs.Text.LowerCase
import SchemaLens.Text.Pattern

/-!
# Matching without backtracking

Where the characters that end a repetition cannot be taken by it, there is one way on only. A span
of characters is then matched up to its end, and a pattern is matched like a program that takes one
token after another.
-/

namespace SchemaLens.Text

namespace Place

/-- The place behind all of the next characters that are of a kind. -/
def skip (place : Place) (kind : Char → Bool) : Place :=
  place.advance (place.after.takeWhile kind).length

variable {place : Place} {kind : Char → Bool}

@[simp]
theorem advance_zero (place : Place) : place.advance 0 = place := by
  cases place
  simp [advance]

theorem advance_advance (place : Place) (first second : Nat) :
    (place.advance first).advance second = place.advance (first + second) := by
  simp [advance, List.take_add]

@[simp]
theorem after_advance (place : Place) (count : Nat) :
    (place.advance count).after = place.after.drop count := rfl

@[simp]
theorem captures_advance (place : Place) (count : Nat) :
    (place.advance count).captures = place.captures := rfl

@[simp]
theorem after_capture (place : Place) (number : Nat) (earlier : Place) :
    (place.capture number earlier).after = place.after := rfl

theorem captures_capture_advance {count : Nat} (number : Nat)
    (within : count ≤ place.after.length) :
    ((place.advance count).capture number place).captures =
      (number, place.after.take count) :: place.captures := by
  simp [capture, Nat.sub_sub_self within]

@[simp]
theorem after_skip (place : Place) (kind : Char → Bool) :
    (place.skip kind).after = place.after.dropWhile kind := by
  have dropped : (place.after.takeWhile kind ++ place.after.dropWhile kind).drop
      (place.after.takeWhile kind).length = place.after.dropWhile kind := List.drop_left
  rwa [List.takeWhile_append_dropWhile] at dropped

@[simp]
theorem captures_skip (place : Place) (kind : Char → Bool) :
    (place.skip kind).captures = place.captures := rfl

theorem captures_capture_skip (number : Nat) (place : Place) (kind : Char → Bool) :
    ((place.skip kind).capture number place).captures =
      (number, place.after.takeWhile kind) :: place.captures := by
  have taken : place.after.take (place.after.takeWhile kind).length = place.after.takeWhile kind :=
    List.prefix_iff_eq_take.mp (List.takeWhile_prefix kind) |>.symm
  rw [skip, captures_capture_advance number (List.takeWhile_prefix kind).length_le, taken]

theorem capture_self_skip (number : Nat) (place : Place) (kind : Char → Bool) :
    (place.capture number place).skip kind =
      (place.skip kind).capture number (place.skip kind) := by
  simp [capture, skip, advance]

theorem isBefore_eq_true_iff :
    place.isBefore kind = true ↔ ∃ first rest, place.after = first :: rest ∧ kind first = true := by
  cases after_eq : place.after <;> simp [isBefore, after_eq]

theorem isBefore_eq_false_iff :
    place.isBefore kind = false ↔ ∀ first ∈ place.after.head?, kind first = false := by
  cases after_eq : place.after <;> simp [isBefore, after_eq]

theorem isBefore_symbol_iff {symbol : Char} :
    place.isBefore (· == symbol) = true ↔ ∃ rest, place.after = symbol :: rest := by
  rw [isBefore_eq_true_iff]
  simp

theorem not_isBefore_symbol {symbol : Char}
    (is_before : place.isBefore kind = true) (other : kind symbol = false) :
    place.isBefore (· == symbol) = false := by
  rw [Bool.eq_false_iff]
  intro at_symbol
  rcases isBefore_symbol_iff.mp at_symbol with ⟨rest, after_eq⟩
  simp [isBefore, after_eq, other] at is_before

theorem isBefore_eq_false_of_disjoint {other : Char → Bool}
    (is_before : place.isBefore kind = true)
    (disjoint : ∀ character, kind character = true → other character = false) :
    place.isBefore other = false := by
  rcases isBefore_eq_true_iff.mp is_before with ⟨first, rest, after_eq, first_kind⟩
  simp [isBefore, after_eq, disjoint first first_kind]

theorem length_advance_one_lt (begun : place.isBefore kind = true) :
    (place.advance 1).after.length < place.after.length := by
  rcases isBefore_eq_true_iff.mp begun with ⟨first, rest, after_eq, -⟩
  simp [after_eq]

theorem isAfter_advance {count : Nat}
    (taken : ∀ character ∈ place.after.take count, kind character = true)
    (not_empty : place.after.take count ≠ []) : (place.advance count).isAfter kind = true := by
  have last_taken := taken _ (List.getLast_mem not_empty)
  simp only [isAfter, advance]
  rw [List.head?_append, List.head?_reverse, List.getLast?_eq_some_getLast not_empty]
  simpa using last_taken

/-- All that is of a kind is taken if what comes next is not of the kind. -/
theorem takeWhile_eq_take_iff {count : Nat}
    (taken : ∀ character ∈ place.after.take count, kind character = true) :
    place.after.takeWhile kind = place.after.take count ↔
      (place.advance count).isBefore kind = false := by
  nth_rewrite 1 [← List.take_append_drop count place.after]
  rw [List.takeWhile_append_of_pos taken, List.append_right_eq_self, isBefore_eq_false_iff,
    after_advance]
  cases place.after.drop count <;> simp [List.takeWhile_cons]

theorem isBefore_skip (place : Place) (kind : Char → Bool) :
    (place.skip kind).isBefore kind = false := by
  rw [isBefore_eq_false_iff, after_skip]
  exact ended_dropWhile kind place.after

theorem skip_eq_self (ended : place.isBefore kind = false) : place.skip kind = place := by
  cases after_eq : place.after with
  | nil => simp [skip, after_eq]
  | cons first rest =>
      have refused : kind first = false := by simpa [isBefore, after_eq] using ended
      simp [skip, after_eq, refused]

theorem skip_advance_one (begun : place.isBefore kind = true) :
    (place.advance 1).skip kind = place.skip kind := by
  rcases isBefore_eq_true_iff.mp begun with ⟨first, rest, after_eq, taken⟩
  simp [skip, after_eq, taken, advance_advance, Nat.add_comm]

end Place

namespace Pattern

variable {kind : Char → Bool} {pattern : Pattern} {next : Continuation} {place : Place}

theorem run_character (accepts : Char → Bool) (next : Continuation) (place : Place) :
    (character accepts).run next place =
      if place.isBefore accepts then next (place.advance 1) else none := rfl

theorem run_capture (number : Nat) (pattern : Pattern) (next : Continuation) (place : Place) :
    (capture number pattern).run next place =
      pattern.run (fun reached => next (reached.capture number place)) place := rfl

theorem run_wordBoundary (next : Continuation) (place : Place) :
    wordBoundary.run next place =
      if place.isAfter isAsciiWord != place.isBefore isAsciiWord then next place else none := rfl

theorem run_word (letters : List Char) (next : Continuation) (place : Place) :
    (word letters).run next place =
      if asciiLower (place.after.take letters.length) = letters then
        next (place.advance letters.length)
      else none := by
  induction letters generalizing place with
  | nil => simp [word, sequence, run, asciiLower]
  | cons letter others ih =>
      have unrolled : (word (letter :: others)).run next place =
          (character (·.toLower == letter)).run ((word others).run next) place := rfl
      rw [unrolled, run_character, ih]
      cases after_eq : place.after with
      | nil => simp [Place.isBefore, after_eq, asciiLower]
      | cons first rest =>
          by_cases same : first.toLower = letter <;>
            simp [Place.isBefore, after_eq, asciiLower, same, Place.advance_advance, Nat.add_comm]

/-- A word up to a boundary is the whole of the next word in the text. -/
theorem run_word_of_boundary {letters : List Char} (not_empty : letters ≠ [])
    (are_word : ∀ character ∈ letters, isAsciiWord character = true) (next : Continuation)
    (place : Place) :
    (word letters).run (wordBoundary.run next) place =
      if asciiLower (place.after.takeWhile isAsciiWord) = letters then
        next (place.skip isAsciiWord)
      else none := by
  have whole_taken (whole : asciiLower (place.after.takeWhile isAsciiWord) = letters) :
      place.after.takeWhile isAsciiWord = place.after.take letters.length := by
    rw [← whole, length_asciiLower]
    exact List.prefix_iff_eq_take.mp (List.takeWhile_prefix isAsciiWord)
  rw [run_word]
  by_cases spelled : asciiLower (place.after.take letters.length) = letters
  · have taken_word : ∀ character ∈ place.after.take letters.length,
        isAsciiWord character = true := by
      rw [← forall_isAsciiWord_asciiLower, spelled]
      exact are_word
    have is_after := Place.isAfter_advance taken_word (by
      rintro nothing_taken
      rw [nothing_taken] at spelled
      exact not_empty spelled.symm)
    rw [if_pos spelled, run_wordBoundary, is_after]
    cases further : (place.advance letters.length).isBefore isAsciiWord with
    | true =>
        -- The word of the text is longer than the letters.
        have not_whole : asciiLower (place.after.takeWhile isAsciiWord) ≠ letters := by
          intro whole
          have ended := (Place.takeWhile_eq_take_iff taken_word).mp (whole_taken whole)
          rw [further] at ended
          contradiction
        rw [if_neg not_whole]
        rfl
    | false =>
        have same := (Place.takeWhile_eq_take_iff taken_word).mpr further
        have length_eq : (place.after.take letters.length).length = letters.length := by
          simpa using congrArg List.length spelled
        rw [same, if_pos spelled, Place.skip, same, length_eq]
        rfl
  · rw [if_neg spelled, if_neg]
    intro whole
    rw [whole_taken whole] at whole
    exact spelled whole

/-! ## Repetitions -/

theorem run_many (pattern : Pattern) (next : Continuation) (place : Place) :
    (many pattern).run next place =
      (pattern.run (fun reached =>
        if reached.after.length < place.after.length then (many pattern).run next reached
        else none) place).or (next place) := by
  have unrolled : (many pattern).run next place = repeatMany pattern.run next place := rfl
  rw [unrolled, repeatMany]
  rfl

theorem run_many_of_step {reached : Place}
    (step : ∀ next : Continuation, pattern.run next place = next reached)
    (shorter : reached.after.length < place.after.length) :
    (many pattern).run next place = ((many pattern).run next reached).or (next place) := by
  rw [run_many, step, if_pos shorter]

theorem run_many_of_stuck (stuck : ∀ next : Continuation, pattern.run next place = none) :
    (many pattern).run next place = next place := by
  rw [run_many, stuck, Option.none_or]

theorem run_span_of_begun (begun : place.isBefore kind = true) :
    (span kind).run next place = ((span kind).run next (place.advance 1)).or (next place) := by
  have step (next : Continuation) : (character kind).run next place = next (place.advance 1) := by
    rw [run_character, if_pos begun]
  exact run_many_of_step step (Place.length_advance_one_lt begun)

theorem run_span_of_ended (ended : place.isBefore kind = false) :
    (span kind).run next place = next place :=
  run_many_of_stuck fun next => by simp [run_character, ended]

/-- A span is matched up to its end if this leads on. -/
theorem run_span_of_leads {final : Place} (leads : next (place.skip kind) = some final) :
    (span kind).run next place = some final := by
  induction remaining : place.after.length generalizing place with
  | zero =>
      have ended : place.isBefore kind = false := by
        simp [Place.isBefore, List.length_eq_zero_iff.mp remaining]
      rwa [run_span_of_ended ended, ← Place.skip_eq_self ended]
  | succ length ih =>
      cases begun : place.isBefore kind with
      | true =>
          have further := ih (by rwa [Place.skip_advance_one begun]) (by simp [remaining])
          rw [run_span_of_begun begun, further, Option.some_or]
      | false => rwa [run_span_of_ended begun, ← Place.skip_eq_self begun]

/-- A span is matched up to its end if no shorter one leads on where the whole does not. -/
theorem run_span (whole : ∀ place : Place, next (place.skip kind) = none → next place = none)
    (place : Place) : (span kind).run next place = next (place.skip kind) := by
  cases leads : next (place.skip kind) with
  | some final => exact run_span_of_leads leads
  | none =>
      induction remaining : place.after.length generalizing place with
      | zero =>
          have ended : place.isBefore kind = false := by
            simp [Place.isBefore, List.length_eq_zero_iff.mp remaining]
          rw [run_span_of_ended ended, whole place leads]
      | succ length ih =>
          cases begun : place.isBefore kind with
          | true =>
              have further := ih (place.advance 1) (by rwa [Place.skip_advance_one begun])
                (by simp [remaining])
              rw [run_span_of_begun begun, further, whole place leads, Option.none_or]
          | false => rw [run_span_of_ended begun, whole place leads]

theorem run_span_of_stuck
    (stuck : ∀ place : Place, place.isBefore kind = true → next place = none) (place : Place) :
    (span kind).run next place = next (place.skip kind) := by
  apply run_span
  intro place skipped
  by_cases begun : place.isBefore kind = true
  · exact stuck place begun
  · rwa [Place.skip_eq_self (by simpa using begun)] at skipped

theorem run_few_character (next : Continuation) (place : Place) :
    (few (character kind)).run next place =
      (next place).or
        (if place.isBefore kind then (few (character kind)).run next (place.advance 1)
        else none) := by
  have unrolled : (few (character kind)).run next place =
      repeatFew (character kind).run next place := rfl
  rw [unrolled, repeatFew, run_character]
  by_cases begun : place.isBefore kind = true
  · rw [if_pos begun, if_pos begun, if_pos (Place.length_advance_one_lt begun)]
    rfl
  · rw [if_neg begun, if_neg begun]

/-- A repetition that is to be short stops at the first place that leads on. -/
theorem run_few_character_of_first {taken rest : List Char} (after_eq : place.after = taken ++ rest)
    (kinds : ∀ character ∈ taken, kind character = true)
    (stuck : ∀ fewer < taken.length, next (place.advance fewer) = none)
    {final : Place} (leads : next (place.advance taken.length) = some final) :
    (few (character kind)).run next place = some final := by
  induction taken generalizing place with
  | nil =>
      rw [List.length_nil, Place.advance_zero] at leads
      rw [run_few_character, leads, Option.some_or]
  | cons first others ih =>
      rw [List.forall_mem_cons] at kinds
      have begun : place.isBefore kind = true := by simp [Place.isBefore, after_eq, kinds.1]
      have not_yet : next place = none := by simpa using stuck 0 (by simp)
      rw [run_few_character, not_yet, Option.none_or, if_pos begun]
      apply ih (by simp [after_eq]) kinds.2
      · intro fewer fewer_lt
        rw [Place.advance_advance, Nat.add_comm]
        apply stuck
        simpa using fewer_lt
      · rwa [Place.advance_advance, Nat.add_comm]

/-! ## Occurrences -/

@[simp]
theorem occurrences_nil (pattern : Pattern) (before : List Char) :
    pattern.occurrences before [] = [] := by
  rw [occurrences]

theorem occurrences_cons_of_found {before rest : List Char} {first : Char} {final : Place}
    (found : pattern.run some { before, after := first :: rest } = some final)
    (shorter : final.after.length ≤ rest.length) :
    pattern.occurrences before (first :: rest) =
      final :: pattern.occurrences final.before final.after := by
  rw [occurrences]
  split <;> simp_all [Option.filter]

theorem occurrences_cons_of_not_found {before rest : List Char} {first : Char}
    (not_found : pattern.run some { before, after := first :: rest } = none) :
    pattern.occurrences before (first :: rest) = pattern.occurrences (first :: before) rest := by
  rw [occurrences]
  split <;> simp_all [Option.filter]

/-- Characters where no match starts are passed over. -/
theorem occurrences_append {gap : List Char} (before rest : List Char)
    (not_found : ∀ passed first later, gap = passed ++ first :: later →
      pattern.run some
        { before := passed.reverse ++ before, after := first :: (later ++ rest) } = none) :
    pattern.occurrences before (gap ++ rest) =
      pattern.occurrences (gap.reverse ++ before) rest := by
  induction gap generalizing before with
  | nil => rfl
  | cons first later ih =>
      have first_not_found :
          pattern.run some { before, after := first :: (later ++ rest) } = none :=
        not_found [] first later rfl
      rw [List.cons_append, occurrences_cons_of_not_found first_not_found, ih (first :: before)]
      · simp
      · rintro passed next others rfl
        simpa using not_found (first :: passed) next others rfl

end Pattern

end SchemaLens.Text
