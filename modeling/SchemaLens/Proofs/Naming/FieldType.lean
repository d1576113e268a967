import SchemaLens.Naming.FieldType
import SchemaLens.Proofs.Text.Fields
import SchemaLens.Proofs.Text.LowerCase

/-!
# What a field type depends on

A database type is written as a base name, with white space before it and a modifier behind it that
begins with white space or an opening bracket. Its generic type is that of the base name alone, in
whatever ASCII case the name is written. Types that can be counted up are known by their exact
names, and these have the same generic type in either reading.
-/

namespace SchemaLens.Naming

/-- Whether a character ends the base name of a database type. -/
def endsBaseName (character : Char) : Bool :=
  Text.isWhiteSpace character || character == '('

theorem baseTypeName_eq (dataType : String) :
    baseTypeName dataType = String.ofList (Text.asciiLower
      ((Text.trim dataType.toList).takeWhile (!endsBaseName ·))) := rfl

theorem visible_of_not_endsBaseName {character : Char} (inside : endsBaseName character = false) :
    Text.isWhiteSpace character = false :=
  (Bool.or_eq_false_iff.mp inside).1

theorem endsBaseName_toLower (character : Char) :
    endsBaseName character.toLower = endsBaseName character := by
  rcases Text.toLower_eq_self_or_ascii character with unchanged | ascii
  · rw [unchanged]
  · apply Text.forall_of_forall_codePoint_lt
      (motive := fun other => endsBaseName other.toLower = endsBaseName other) _ ascii
    decide +kernel

/-- Whether a text can be a base name does not depend on the case of its letters. -/
theorem isField_of_asciiLower_eq {name base : List Char}
    (same : Text.asciiLower name = Text.asciiLower base)
    (isBase : Text.IsField endsBaseName base) : Text.IsField endsBaseName name where
  not_empty := by
    rintro rfl
    exact isBase.not_empty (List.map_eq_nil_iff.mp same.symm)
  whole := by
    have lower_whole : ∀ character ∈ Text.asciiLower name, endsBaseName character = false := by
      rw [same]
      intro character lower_mem
      rcases List.mem_map.mp lower_mem with ⟨original, original_mem, rfl⟩
      rw [endsBaseName_toLower]
      exact isBase.whole original original_mem
    intro character character_mem
    rw [← endsBaseName_toLower]
    exact lower_whole _ (List.mem_map_of_mem character_mem)

/-- Neither the white space before a base name nor the modifier behind it is read. -/
theorem baseTypeName_of_spelled {blanks name modifier : String}
    (white : Text.IsWhite blanks.toList) (isName : Text.IsField endsBaseName name.toList)
    (apart : ∀ character ∈ modifier.toList.head?, endsBaseName character = true) :
    baseTypeName (blanks ++ name ++ modifier) =
      String.ofList (Text.asciiLower name.toList) := by
  have trimmed : Text.IsTrimmed name.toList := {
    start := fun character first =>
      visible_of_not_endsBaseName (isName.whole character (List.mem_of_mem_head? first))
    finish := fun character last =>
      visible_of_not_endsBaseName (isName.whole character (List.mem_of_mem_getLast? last)) }
  have inside : ∀ character ∈ name.toList, (!endsBaseName character) = true := by
    simpa using isName.whole
  have ended : ∀ character ∈ (Text.trimEnd modifier.toList).head?,
      (!endsBaseName character) = false := by
    intro character first
    rw [Bool.not_eq_false']
    exact apart character (Text.mem_head?_of_mem_head?_trimEnd first)
  rw [baseTypeName_eq, String.toList_append, String.toList_append,
    Text.trim_append white isName.not_empty trimmed,
    Text.takeWhile_append_of_ended inside ended]

namespace FieldType

/-- The base names, in small letters, of the database types that are not shown as text. -/
def namedTypes : List String :=
  ["bigint", "int", "integer", "smallint", "timestamp", "numeric", "boolean"]

theorem ofDataType_congr {dataType other : String}
    (same : baseTypeName dataType = baseTypeName other) :
    ofDataType dataType = ofDataType other := by
  unfold ofDataType
  rw [same]

theorem ofDataType_eq_string_iff {dataType : String} :
    ofDataType dataType = .string ↔ baseTypeName dataType ∉ namedTypes := by
  unfold ofDataType namedTypes
  split <;> simp_all

end FieldType

/-- Where a database type has a counted form, both readings of the type name one generic type. -/
theorem AutoIncrementType.fieldType_of_ofDataType? {dataType : String} {type : AutoIncrementType}
    (counted : ofDataType? dataType = some type) :
    type.fieldType = FieldType.ofDataType dataType := by
  unfold ofDataType? at counted
  split at counted
  · cases counted
    rfl
  · cases counted
    rfl
  · contradiction

/--
However a database type is written, its generic type is that of its base name in any ASCII case, and
it is text unless the base name is one of seven. A type that can be counted up has one generic type
only, whether it is read as such or as any other type.
-/
theorem FieldType.ofDataType_base_name_only :
    (∀ blanks base name modifier : String, Text.IsWhite blanks.toList →
      Text.IsField endsBaseName base.toList →
      Text.asciiLower name.toList = Text.asciiLower base.toList →
      (∀ character ∈ modifier.toList.head?, endsBaseName character = true) →
      ofDataType (blanks ++ name ++ modifier) = ofDataType base ∧
      (ofDataType (blanks ++ name ++ modifier) = .string ↔
        String.ofList (Text.asciiLower base.toList) ∉ namedTypes)) ∧
    ∀ (dataType : String) (type : AutoIncrementType),
      AutoIncrementType.ofDataType? dataType = some type →
      type.fieldType = ofDataType dataType := by
  constructor
  · intro blanks base name modifier white isBase same apart
    have isName := isField_of_asciiLower_eq same isBase
    have written := baseTypeName_of_spelled white isName apart
    have alone : baseTypeName ("" ++ base ++ "") = String.ofList (Text.asciiLower base.toList) :=
      baseTypeName_of_spelled (List.forall_mem_nil _) isBase nofun
    simp only [String.empty_append, String.append_empty] at alone
    constructor
    · apply ofDataType_congr
      rw [written, alone, same]
    · rw [ofDataType_eq_string_iff, written, same]
  · intro dataType type counted
    exact AutoIncrementType.fieldType_of_ofDataType? counted

/-- A type in mixed case behind a space that is not of ASCII, with its precision, and a type that is
shown as text and whose modifier is a word. -/
theorem FieldType.ofDataType_base_name_only_numeric :
    (Text.IsWhite "\u3000 ".toList ∧ Text.IsField endsBaseName "numeric".toList ∧
      Text.asciiLower "NumERIC".toList = Text.asciiLower "numeric".toList ∧
      (∀ character ∈ "(10,2) ".toList.head?, endsBaseName character = true) ∧
      ofDataType ("\u3000 " ++ "NumERIC" ++ "(10,2) ") = ofDataType "numeric" ∧
      ofDataType ("\u3000 " ++ "NumERIC" ++ "(10,2) ") ≠ .string) ∧
    ofDataType ("" ++ "Character" ++ "\u00A0integer") = .string ∧
    (AutoIncrementType.ofDataType? "bigint" = some .bigSerial ∧
      AutoIncrementType.bigSerial.fieldType = ofDataType "bigint") := by
  have white : Text.IsWhite "\u3000 ".toList := by decide +kernel
  have isBase : Text.IsField endsBaseName "numeric".toList := by decide +kernel
  have same : Text.asciiLower "NumERIC".toList = Text.asciiLower "numeric".toList := by
    decide +kernel
  have apart : ∀ character ∈ "(10,2) ".toList.head?, endsBaseName character = true :=
    (Option.all_eq_true _ _).mp (by decide +kernel)
  have text_apart : ∀ character ∈ "\u00A0integer".toList.head?, endsBaseName character = true :=
    (Option.all_eq_true _ _).mp (by decide +kernel)
  have text_isBase : Text.IsField endsBaseName "character".toList := by decide +kernel
  rcases ofDataType_base_name_only with ⟨spelled, counted⟩
  rcases spelled _ _ _ _ white isBase same apart with ⟨alike, string_iff⟩
  have text := (spelled "" "character" "Character" "\u00A0integer" (List.forall_mem_nil _)
    text_isBase (by decide +kernel) text_apart).2
  refine ⟨⟨white, isBase, same, apart, alike, ?_⟩, ?_, rfl, counted "bigint" .bigSerial rfl⟩
  · rw [Ne, string_iff]
    decide +kernel
  · rw [text]
    decide +kernel

end SchemaLens.Naming
