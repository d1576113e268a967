import SchemaLens.Proofs.Text.WhiteSpace
import SchemaLens.Text.LowerCase

/-!
# Lower case of ASCII texts

Text is put in lower case in two ways, by ASCII alone and by the full mapping. On characters of
ASCII the two agree, and so texts of ASCII that differ in the case of their letters only have the
same lower case.
-/

namespace SchemaLens.Text

/-! ## Characters of ASCII -/

/-- A property of all ASCII characters holds if it does of their code points one by one. -/
theorem forall_of_forall_codePoint_lt {motive : Char → Prop}
    (each : ∀ codePoint < 128, motive (Char.ofNat codePoint)) {character : Char}
    (ascii : character.toNat < 128) : motive character := by
  have own := each character.toNat ascii
  rwa [Char.ofNat_toNat] at own

/-- Only characters of ASCII are made small. -/
theorem toLower_eq_self_or_ascii (character : Char) :
    character.toLower = character ∨ character.toNat < 128 := by
  unfold Char.toLower
  split
  · rename_i upper
    have small : character.toNat ≤ 'Z'.toNat := upper.2
    exact .inr (Nat.lt_of_le_of_lt small (by decide))
  · exact .inl rfl

theorem isAsciiWord_toLower (character : Char) :
    isAsciiWord character.toLower = isAsciiWord character := by
  rcases toLower_eq_self_or_ascii character with unchanged | ascii
  · rw [unchanged]
  · apply forall_of_forall_codePoint_lt
      (motive := fun other => isAsciiWord other.toLower = isAsciiWord other) _ ascii
    decide +kernel

theorem isAsciiWord_of_isAlphanum {character : Char} (alphanumeric : character.isAlphanum = true) :
    isAsciiWord character = true := by
  simp [isAsciiWord, alphanumeric]

theorem not_isAsciiWord_of_isAsciiBlank {character : Char} (blank : isAsciiBlank character = true) :
    isAsciiWord character = false := by
  rw [Bool.eq_false_iff]
  intro word
  have bounds := toNat_bounds_of_isAsciiWord word
  simp only [isAsciiBlank, Bool.or_eq_true, beq_iff_eq, Bool.and_eq_true,
    decide_eq_true_eq] at blank
  rcases blank with rfl | ⟨-, small⟩
  · exact absurd bounds.1 (by decide)
  · omega

theorem not_isAsciiBlank_of_isAsciiWord {character : Char}
    (word : isAsciiWord character = true) : isAsciiBlank character = false := by
  rw [Bool.eq_false_iff]
  intro blank
  rw [not_isAsciiWord_of_isAsciiBlank blank] at word
  contradiction

@[simp]
theorem asciiLower_asciiLower (text : List Char) :
    asciiLower (asciiLower text) = asciiLower text := by
  rw [asciiLower, asciiLower, List.map_map]
  apply List.map_congr_left
  intro character _
  rcases toLower_eq_self_or_ascii character with unchanged | ascii
  · simp [unchanged]
  · apply forall_of_forall_codePoint_lt
      (motive := fun other => other.toLower.toLower = other.toLower) _ ascii
    decide +kernel

theorem forall_isAsciiWord_asciiLower {text : List Char} :
    (∀ character ∈ asciiLower text, isAsciiWord character = true) ↔
      ∀ character ∈ text, isAsciiWord character = true := by
  simp [asciiLower, isAsciiWord_toLower]

/-! ## The full mapping -/

/-- The run of the ASCII capitals is the only one that has ASCII characters. -/
theorem find?_covers_of_ascii {codePoint : Nat} (ascii : codePoint < 128) :
    lowerCaseRuns.find? (·.covers codePoint) =
      if 0x41 ≤ codePoint ∧ codePoint ≤ 0x5A then some ⟨0x41, 0x5A, 1, 32⟩ else none := by
  have beyond : ∀ run ∈ lowerCaseRuns.tail, 128 ≤ run.first := by decide +kernel
  have not_found : lowerCaseRuns.tail.find? (·.covers codePoint) = none := by
    rw [List.find?_eq_none]
    intro run run_mem covered
    simp only [CaseRun.covers, Bool.and_eq_true, decide_eq_true_eq] at covered
    have := beyond run run_mem
    omega
  have capital : (⟨0x41, 0x5A, 1, 32⟩ : CaseRun).covers codePoint =
      decide (0x41 ≤ codePoint ∧ codePoint ≤ 0x5A) := by
    simp [CaseRun.covers, Nat.mod_one]
  have runs_eq : lowerCaseRuns = ⟨0x41, 0x5A, 1, 32⟩ :: lowerCaseRuns.tail := rfl
  rw [runs_eq, List.find?_cons, not_found, capital]
  by_cases inside : 0x41 ≤ codePoint ∧ codePoint ≤ 0x5A <;> simp [inside]

theorem lowerCaseOf_of_ascii {character : Char} (ascii : character.toNat < 128) :
    lowerCaseOf character = [character.toLower] := by
  have undotted : character ≠ '\u0130' := by
    rintro rfl
    exact absurd ascii (by decide)
  rw [lowerCaseOf, if_neg undotted, find?_covers_of_ascii ascii]
  by_cases capital : 0x41 ≤ character.toNat ∧ character.toNat ≤ 0x5A
  · rw [if_pos capital]
    revert capital
    apply forall_of_forall_codePoint_lt (motive := fun other =>
      0x41 ≤ other.toNat ∧ other.toNat ≤ 0x5A →
        [Char.ofNat (Int.toNat (other.toNat + 32))] = [other.toLower]) _ ascii
    decide +kernel
  · have unchanged : character.toLower = character := dif_neg capital
    rw [if_neg capital, unchanged]

theorem lowerCaseAfter_of_ascii {text : List Char}
    (ascii : ∀ character ∈ text, character.toNat < 128) (before : List Char) :
    lowerCaseAfter before text = asciiLower text := by
  induction text generalizing before with
  | nil => rfl
  | cons character rest ih =>
      rw [List.forall_mem_cons] at ascii
      have no_sigma : character ≠ '\u03A3' := by
        rintro rfl
        exact absurd ascii.1 (by decide)
      simp only [lowerCaseAfter, if_neg no_sigma, lowerCaseOf_of_ascii ascii.1, ih ascii.2]
      rfl

theorem lowerCase_of_isAsciiWord {text : String}
    (word : ∀ character ∈ text.toList, isAsciiWord character = true) :
    lowerCase text = String.ofList (asciiLower text.toList) := by
  rw [lowerCase, lowerCaseAfter_of_ascii]
  intro character character_mem
  have bounds := toNat_bounds_of_isAsciiWord (word character character_mem)
  omega

theorem lowerCase_eq_of_asciiLower_eq {text other : String}
    (word : ∀ character ∈ text.toList, isAsciiWord character = true)
    (same : asciiLower other.toList = asciiLower text.toList) :
    lowerCase other = lowerCase text := by
  have other_word : ∀ character ∈ other.toList, isAsciiWord character = true := by
    rw [← forall_isAsciiWord_asciiLower, same, forall_isAsciiWord_asciiLower]
    exact word
  rw [lowerCase_of_isAsciiWord other_word, same, lowerCase_of_isAsciiWord word]

end SchemaLens.Text
