import SchemaLens.Text.Fields

/-!
# Texts made of fields

Fields that are joined by separators are read back as they are. A text between two separators can
be read by itself, so a list is read from its first field on. There is one way only to tell the
fields of a text, which is as its longest stretches without a separator.
-/

namespace SchemaLens.Text

variable {separates : Char → Bool}

/-- Whether a text can stand between separators as one field. -/
structure IsField (separates : Char → Bool) (text : List Char) : Prop where
  not_empty : text ≠ []
  whole : ∀ character ∈ text, separates character = false

instance (separates : Char → Bool) (text : List Char) : Decidable (IsField separates text) :=
  decidable_of_iff (text ≠ [] ∧ text.all (!separates ·) = true) (by
    simp only [List.all_eq_true, Bool.not_eq_true']
    exact ⟨fun ⟨not_empty, whole⟩ => ⟨not_empty, whole⟩,
      fun ⟨not_empty, whole⟩ => ⟨not_empty, whole⟩⟩)

@[simp]
theorem fields_nil : fields separates [] = [] := rfl

theorem fields_append_cons (before after : List Char) {separator : Char}
    (separating : separates separator = true) :
    fields separates (before ++ separator :: after) =
      fields separates before ++ fields separates after := by
  simp only [fields, List.splitOnP_append_cons before after separating, List.filter_append]

theorem fields_eq_singleton {text : List Char} (isField : IsField separates text) :
    fields separates text = [text] := by
  have not_empty := isField.not_empty
  simp [fields, List.splitOnP_eq_singleton isField.whole, not_empty]

/-- Fields are read back from a list that has one separator between any two of them. -/
theorem fields_intercalate {separator : Char} (separating : separates separator = true)
    {texts : List (List Char)} (are_fields : ∀ text ∈ texts, IsField separates text) :
    fields separates ([separator].intercalate texts) = texts := by
  induction texts with
  | nil => rfl
  | cons text rest ih =>
      rw [List.forall_mem_cons] at are_fields
      have own := fields_eq_singleton are_fields.1
      cases rest with
      | nil => simpa using own
      | cons next others =>
          rw [List.intercalate_cons_cons, List.append_assoc, List.singleton_append,
            fields_append_cons text _ separating, own, ih are_fields.2, List.singleton_append]

/-! ## Longest stretches -/

/-- The longest stretches of a text without a separator, from its start to its end. -/
inductive FieldsOf (separates : Char → Bool) : List Char → List (List Char) → Prop
  | done : FieldsOf separates [] []
  | separator {character : Char} {behind : List Char} {found : List (List Char)}
      (separating : separates character = true) (rest : FieldsOf separates behind found) :
      FieldsOf separates (character :: behind) found
  | field {text behind : List Char} {found : List (List Char)} (isField : IsField separates text)
      (longest : ∀ next ∈ behind.head?, separates next = true)
      (rest : FieldsOf separates behind found) :
      FieldsOf separates (text ++ behind) (text :: found)

theorem fields_cons_separator {separator : Char} (separating : separates separator = true)
    (behind : List Char) : fields separates (separator :: behind) = fields separates behind :=
  fields_append_cons [] behind separating

theorem fields_append_of_longest {text behind : List Char} (isField : IsField separates text)
    (longest : ∀ next ∈ behind.head?, separates next = true) :
    fields separates (text ++ behind) = text :: fields separates behind := by
  cases behind with
  | nil => simpa using fields_eq_singleton isField
  | cons next later =>
      have separating : separates next = true := longest next rfl
      simp only [fields_append_cons text later separating, fields_eq_singleton isField,
        fields_cons_separator separating, List.singleton_append]

theorem FieldsOf.eq_fields {text : List Char} {found : List (List Char)}
    (fieldsOf : FieldsOf separates text found) : found = fields separates text := by
  induction fieldsOf with
  | done => rfl
  | separator separating _ ih => rw [fields_cons_separator separating, ih]
  | field isField longest _ ih => rw [fields_append_of_longest isField longest, ih]

/-- A character that does not separate is a field by itself, or the first one of the field behind
it. -/
theorem FieldsOf.exists_cons {character : Char} (inside : separates character = false)
    {text : List Char} {found : List (List Char)} (fieldsOf : FieldsOf separates text found) :
    ∃ others, FieldsOf separates (character :: text) others := by
  have alone : IsField separates [character] :=
    ⟨List.cons_ne_nil _ _, List.forall_mem_singleton.mpr inside⟩
  cases fieldsOf with
  | done => exact ⟨_, .field alone nofun .done⟩
  | separator separating rest =>
      exact ⟨_, .field alone (by simpa using separating) (.separator separating rest)⟩
  | field isField longest rest =>
      rename_i field behind found
      have longer : IsField separates (character :: field) :=
        ⟨List.cons_ne_nil _ _, List.forall_mem_cons.mpr ⟨inside, isField.whole⟩⟩
      exact ⟨_, .field longer longest rest⟩

theorem exists_fieldsOf (separates : Char → Bool) (text : List Char) :
    ∃ found, FieldsOf separates text found := by
  induction text with
  | nil => exact ⟨[], .done⟩
  | cons character behind ih =>
      rcases ih with ⟨found, fieldsOf⟩
      cases separating : separates character with
      | true => exact ⟨found, .separator separating fieldsOf⟩
      | false => exact fieldsOf.exists_cons separating

theorem fieldsOf_iff {text : List Char} {found : List (List Char)} :
    FieldsOf separates text found ↔ found = fields separates text := by
  constructor
  · exact FieldsOf.eq_fields
  · rintro rfl
    rcases exists_fieldsOf separates text with ⟨found, fieldsOf⟩
    rwa [← fieldsOf.eq_fields]

/-! ## Any separators between texts -/

/-- Whether a text consists of separators. -/
def IsGap (separates : Char → Bool) (text : List Char) : Prop :=
  ∀ character ∈ text, separates character = true

instance (separates : Char → Bool) (text : List Char) : Decidable (IsGap separates text) :=
  decidable_of_iff (text.all separates = true) List.all_eq_true

/-- Whether a text has no separator in it. It may be empty. -/
def HasNoSeparator (separates : Char → Bool) (text : List Char) : Prop :=
  ∀ character ∈ text, separates character = false

instance (separates : Char → Bool) (text : List Char) :
    Decidable (HasNoSeparator separates text) :=
  decidable_of_iff (text.all (!separates ·) = true) (by simp [HasNoSeparator])

variable {gap : List Char}

theorem fields_gap_append (isGap : IsGap separates gap) (after : List Char) :
    fields separates (gap ++ after) = fields separates after := by
  induction gap with
  | nil => rfl
  | cons separator others ih =>
      rw [IsGap, List.forall_mem_cons] at isGap
      rw [List.cons_append, fields_cons_separator isGap.1, ih isGap.2]

theorem fields_append_gap_append (not_empty : gap ≠ []) (isGap : IsGap separates gap)
    (before after : List Char) :
    fields separates (before ++ gap ++ after) =
      fields separates before ++ fields separates after := by
  cases gap with
  | nil => exact absurd rfl not_empty
  | cons separator others =>
      rw [IsGap, List.forall_mem_cons] at isGap
      rw [List.append_assoc, List.cons_append, fields_append_cons before _ isGap.1,
        fields_gap_append isGap.2]

theorem fields_append_gap (isGap : IsGap separates gap) (before : List Char) :
    fields separates (before ++ gap) = fields separates before := by
  by_cases empty : gap = []
  · rw [empty, List.append_nil]
  · simpa using fields_append_gap_append empty isGap before []

theorem fields_eq_nil_iff {text : List Char} :
    fields separates text = [] ↔ IsGap separates text := by
  constructor
  · intro none_found
    have fieldsOf : FieldsOf separates text [] := fieldsOf_iff.mpr none_found.symm
    clear none_found
    generalize found_eq : [] = found at fieldsOf
    induction fieldsOf with
    | done => exact List.forall_mem_nil _
    | separator separating _ ih =>
        exact List.forall_mem_cons.mpr ⟨separating, ih found_eq⟩
    | field isField longest rest => cases found_eq
  · intro isGap
    simpa using fields_gap_append isGap []

/-- Texts with separators between them are read one by one, whatever the separators are. -/
theorem fields_append_flatMap {others : List (List Char × List Char)}
    (parted : ∀ other ∈ others, other.1 ≠ [] ∧ IsGap separates other.1) (first : List Char) :
    fields separates (first ++ others.flatMap fun other => other.1 ++ other.2) =
      (first :: others.map Prod.snd).flatMap (fields separates) := by
  induction others generalizing first with
  | nil => simp
  | cons other rest ih =>
      rw [List.forall_mem_cons] at parted
      have split : first ++ (other :: rest).flatMap (fun other => other.1 ++ other.2) =
          first ++ other.1 ++ (other.2 ++ rest.flatMap fun other => other.1 ++ other.2) := by
        simp
      rw [split, fields_append_gap_append parted.1.1 parted.1.2, ih parted.2]
      rfl

end SchemaLens.Text
