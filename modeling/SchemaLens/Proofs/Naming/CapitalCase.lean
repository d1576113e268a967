import SchemaLens.Naming.CapitalCase
import SchemaLens.Proofs.Text.LowerCase

/-!
# Capital case and lower case

Capital case keeps the letters and digits of an identifier and changes their case only. So the
lower case of a name in capital case can be told from the identifier without the name.
-/

namespace SchemaLens.Naming

/-- The ASCII letters and digits of an identifier, the letters made small. -/
def lettersAndDigits (identifier : String) : String :=
  String.ofList (Text.asciiLower (identifier.toList.filter Char.isAlphanum))

theorem recased_letter (atStart : Bool) {character : Char} (letter : character.isAlpha = true) :
    let recased := if atStart then character.toUpper else character.toLower
    recased.isAlpha = true ∧ recased.toLower = character.toLower := by
  have word : Text.isAsciiWord character = true :=
    Text.isAsciiWord_of_isAlphanum (by simp [Char.isAlphanum, letter])
  have bounds := Text.toNat_bounds_of_isAsciiWord word
  have ascii : character.toNat < 128 := by omega
  revert letter
  apply Text.forall_of_forall_codePoint_lt (motive := fun other => other.isAlpha = true →
    let recased := if atStart then other.toUpper else other.toLower
    recased.isAlpha = true ∧ recased.toLower = other.toLower) _ ascii
  cases atStart <;> decide +kernel

theorem isAlphanum_of_mem_capitalCaseFrom (atStart : Bool) (text : List Char) :
    ∀ character ∈ capitalCaseFrom atStart text, character.isAlphanum = true := by
  induction text generalizing atStart with
  | nil => exact List.forall_mem_nil _
  | cons character rest ih =>
      unfold capitalCaseFrom
      split
      · rename_i letter
        rw [List.forall_mem_cons]
        exact ⟨by simp [Char.isAlphanum, (recased_letter atStart letter).1], ih false⟩
      · split
        · rename_i digit
          rw [List.forall_mem_cons]
          exact ⟨by simp [Char.isAlphanum, digit], ih true⟩
        · exact ih true

theorem asciiLower_capitalCaseFrom (atStart : Bool) (text : List Char) :
    Text.asciiLower (capitalCaseFrom atStart text) =
      Text.asciiLower (text.filter Char.isAlphanum) := by
  induction text generalizing atStart with
  | nil => rfl
  | cons character rest ih =>
      unfold capitalCaseFrom
      split
      · rename_i letter
        rw [List.filter_cons_of_pos (by simp [Char.isAlphanum, letter])]
        exact List.cons_eq_cons.mpr ⟨(recased_letter atStart letter).2, ih false⟩
      · split
        · rename_i digit
          rw [List.filter_cons_of_pos (by simp [Char.isAlphanum, digit])]
          exact List.cons_eq_cons.mpr ⟨rfl, ih true⟩
        · rename_i no_letter no_digit
          rw [List.filter_cons_of_neg (by simp [Char.isAlphanum, no_letter, no_digit]), ih]

theorem isAsciiWord_of_mem_capitalCase {identifier : String} :
    ∀ character ∈ (capitalCase identifier).toList, Text.isAsciiWord character = true := by
  intro character character_mem
  rw [capitalCase, String.toList_ofList] at character_mem
  exact Text.isAsciiWord_of_isAlphanum (isAlphanum_of_mem_capitalCaseFrom _ _ _ character_mem)

/-- The lower case of a name in capital case is the letters and digits it was made of. -/
theorem lowerCase_capitalCase (identifier : String) :
    Text.lowerCase (capitalCase identifier) = lettersAndDigits identifier := by
  rw [Text.lowerCase_of_isAsciiWord isAsciiWord_of_mem_capitalCase, capitalCase,
    String.toList_ofList, asciiLower_capitalCaseFrom, lettersAndDigits]

end SchemaLens.Naming
