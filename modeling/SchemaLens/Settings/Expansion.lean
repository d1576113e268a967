import SchemaLens.Settings.Template

/-!
# Expansion in one pass

A template expanded while it is read, with nothing kept of it but what has been written so far. A
character is written as it comes, and a reference is looked up as soon as its name ends. The first
reference that cannot be replaced ends the pass, whatever comes after it.
-/

namespace SchemaLens.Settings.Expansion

/-- Takes a name up to the closing brace, which is passed over, or to the end of the text. -/
def takeBraced : List Char → List Char × List Char
  | [] => ([], [])
  | character :: rest =>
    if character = '\x7d' then ([], rest)
    else ((character :: (takeBraced rest).1), (takeBraced rest).2)

/-- Takes characters as long as they may stand in a name without braces. -/
def takeBare : List Char → List Char × List Char
  | [] => ([], [])
  | character :: rest =>
    if isNameCharacter character then (character :: (takeBare rest).1, (takeBare rest).2)
    else ([], character :: rest)

/-- The value of the variable with a name. -/
def lookUp (valueOf? : String → Option String) (name : List Char) : Except SettingsError String :=
  match valueOf? (String.ofList name) with
  | some value => .ok value
  | none => .error (.missingVariable (String.ofList name))

theorem length_takeBraced_le (text : List Char) : (takeBraced text).2.length ≤ text.length := by
  induction text with
  | nil => exact Nat.le_refl 0
  | cons character rest ih =>
      rw [takeBraced]
      split
      · exact Nat.le_succ rest.length
      · exact Nat.le_succ_of_le ih

theorem length_takeBare_le (text : List Char) : (takeBare text).2.length ≤ text.length := by
  induction text with
  | nil => exact Nat.le_refl 0
  | cons character rest ih =>
      rw [takeBare]
      split
      · exact Nat.le_succ_of_le ih
      · exact Nat.le_refl _

/-- Expands what is left of a template behind what has been written. -/
def run (valueOf? : String → Option String) (template : String) (written : List Char)
    (text : List Char) : Except SettingsError (List Char) :=
  match text with
  | [] => .ok written
  | character :: rest =>
    if character ≠ '$' then run valueOf? template (written ++ [character]) rest
    else if rest.head? = some '\x7b' then do
      let name := (takeBraced rest.tail).1
      if name.isEmpty then .error (.emptyReference template)
      else
        let value ← lookUp valueOf? name
        run valueOf? template (written ++ value.toList) (takeBraced rest.tail).2
    else do
      let name := (takeBare rest).1
      if name.isEmpty then run valueOf? template (written ++ ['$']) rest
      else
        let value ← lookUp valueOf? name
        run valueOf? template (written ++ value.toList) (takeBare rest).2
termination_by text.length
decreasing_by
  · simp
  · have behind_le := length_takeBraced_le rest.tail
    simp only [List.length_tail] at behind_le
    simp only [List.length_cons]
    omega
  · simp
  · have behind_le := length_takeBare_le rest
    simp only [List.length_cons]
    omega

/-- The text that a template is expanded to in one pass. -/
def expand (valueOf? : String → Option String) (template : String) :
    Except SettingsError String :=
  (run valueOf? template [] template.toList).map String.ofList

end SchemaLens.Settings.Expansion
