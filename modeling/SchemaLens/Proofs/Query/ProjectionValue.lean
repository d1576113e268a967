import SchemaLens.Proofs.Query.Rendering

/-!
# Values of projections

What is read from the value of a projection depends on the path of its key. Without a path the value
is a list, whose names are the longest stretches without a comma or white space, and a list without
names is no projection. With the name of one field it is the flag of that field, a word in any ASCII
case with any white space around it. Every other path is refused before the value is looked at, so
that no value is read in two ways.
-/

namespace SchemaLens.Query

/-! ## Flags -/

/-- The words that state a flag, in small letters. -/
def flagWords : Bool → List String
  | true => ["true", "1"]
  | false => ["false", "0"]

/-- Whether a value is a word for a flag, in any ASCII case and with any white space around it. -/
def StatesFlag (value : String) (flag : Bool) : Prop :=
  ∃ before word after, value.toList = before ++ word ++ after ∧ Text.IsWhite before ∧
    Text.IsWhite after ∧ String.ofList (Text.asciiLower word) ∈ flagWords flag

theorem word_of_mem_flagWords {flag : Bool} {text : String} (text_mem : text ∈ flagWords flag) :
    text.toList ≠ [] ∧ ∀ character ∈ text.toList, Text.isAsciiWord character = true := by
  have words : ∀ flag, ∀ word ∈ flagWords flag,
      word.toList ≠ [] ∧ word.toList.all Text.isAsciiWord = true := by
    decide +kernel
  rcases words flag text text_mem with ⟨not_empty, word⟩
  exact ⟨not_empty, List.all_eq_true.mp word⟩

theorem statesFlag_iff {value : String} {flag : Bool} :
    StatesFlag value flag ↔
      String.ofList (Text.asciiLower (Text.trim value.toList)) ∈ flagWords flag := by
  constructor
  · rintro ⟨before, word, after, value_eq, before_white, after_white, word_mem⟩
    rcases word_of_mem_flagWords word_mem with ⟨not_empty, lower_word⟩
    rw [String.toList_ofList] at not_empty lower_word
    have word_not_empty : word ≠ [] := by
      rintro rfl
      exact not_empty rfl
    have trimmed : Text.IsTrimmed word :=
      Text.isTrimmed_of_isAsciiWord (Text.forall_isAsciiWord_asciiLower.mp lower_word)
    have trim_eq : Text.trim value.toList = word := by
      rw [value_eq, Text.trim_append before_white word_not_empty trimmed,
        Text.trimEnd_of_white after_white, List.append_nil]
    rwa [trim_eq]
  · intro word_mem
    rcases Text.exists_trim_append value.toList with
      ⟨before, after, before_white, after_white, split⟩
    exact ⟨before, _, after, split, before_white, after_white, word_mem⟩

theorem flagValue?_eq_some_iff {value : String} {flag : Bool} :
    flagValue? value = some flag ↔ StatesFlag value flag := by
  rw [statesFlag_iff, flagValue?]
  generalize String.ofList (Text.asciiLower (Text.trim value.toList)) = word
  split <;> cases flag <;> simp_all [flagWords]

theorem flagValue?_eq_none_iff {value : String} :
    flagValue? value = none ↔ ¬StatesFlag value true ∧ ¬StatesFlag value false := by
  simp only [← flagValue?_eq_some_iff]
  cases flagValue? value with
  | none => simp
  | some flag => cases flag <;> simp

/-! ## Lists -/

/-- Names written one after the other, with commas and white space between and around them. -/
structure WrittenNames where
  lead : List Char
  first : List Char
  /-- The other names, each with what stands before it. -/
  others : List (List Char × List Char)
  trail : List Char
  lead_gap : Text.IsGap separatesFields lead
  names_whole : ∀ name ∈ first :: others.map Prod.snd, Text.HasNoSeparator separatesFields name
  parted : ∀ other ∈ others, other.1 ≠ [] ∧ Text.IsGap separatesFields other.1
  trail_gap : Text.IsGap separatesFields trail

namespace WrittenNames

variable (written : WrittenNames)

/-- The text that is written. -/
def text : String :=
  String.ofList (written.lead ++
    (written.first ++ written.others.flatMap fun other => other.1 ++ other.2) ++ written.trail)

/-- The names, in the order in which they are written. -/
def names : List String :=
  (written.first :: written.others.map Prod.snd).map String.ofList

end WrittenNames

theorem flatMap_fields_of_whole {names : List (List Char)}
    (whole : ∀ name ∈ names, Text.HasNoSeparator separatesFields name) :
    names.flatMap (Text.fields separatesFields) = names.filter (!·.isEmpty) := by
  induction names with
  | nil => rfl
  | cons name rest ih =>
      rw [List.forall_mem_cons] at whole
      rw [List.flatMap_cons, ih whole.2]
      cases name with
      | nil => rfl
      | cons first others =>
          rw [Text.fields_eq_singleton ⟨List.cons_ne_nil _ _, whole.1⟩]
          rfl

/-- Every written name is read that is not empty, in order and with repetitions. -/
theorem WrittenNames.fields_text (written : WrittenNames) :
    (Text.fields separatesFields written.text.toList).map String.ofList =
      written.names.filter (· ≠ "") := by
  simp only [text, String.toList_ofList, Text.fields_append_gap written.trail_gap,
    Text.fields_gap_append written.lead_gap, Text.fields_append_flatMap written.parted,
    flatMap_fields_of_whole written.names_whole, names, List.filter_map]
  congr 1
  apply List.filter_congr
  intro name _
  cases name <;> simp

namespace Projection

variable {key value : String}

/-- The projection of a list of names; `none` if there is none. -/
def ofNames? (names : List String) : Option Projection :=
  if names = [] then none else some { included := names, excluded := [] }

theorem ofList?_eq_ofNames? (value : String) :
    ofList? value = ofNames? ((Text.fields separatesFields value.toList).map String.ofList) := by
  rw [ofList?, ofNames?]
  cases Text.fields separatesFields value.toList <;> rfl

theorem ofList?_eq_none_iff :
    ofList? value = none ↔ Text.IsGap separatesFields value.toList := by
  simp [ofList?_eq_ofNames?, ofNames?, Text.fields_eq_nil_iff]

/-! ## Paths -/

theorem parse_field {fieldName : String} (named : fieldName ≠ "") :
    (Projection.parse key [fieldName] value =
        .ok (some { included := [fieldName], excluded := [] }) ↔ StatesFlag value true) ∧
    (Projection.parse key [fieldName] value =
        .ok (some { included := [], excluded := [fieldName] }) ↔ StatesFlag value false) ∧
    (Projection.parse key [fieldName] value = .error (.invalidFlag key value) ↔
      ¬StatesFlag value true ∧ ¬StatesFlag value false) := by
  have not_empty : fieldName.isEmpty = false := by simpa using named
  rw [← flagValue?_eq_none_iff]
  simp only [Projection.parse, not_empty, Bool.false_eq_true, if_false, ← flagValue?_eq_some_iff]
  cases flagValue? value with
  | none => simp
  | some flag => cases flag <;> simp

theorem parse_eq_invalidPath_iff {path : List String} :
    Projection.parse key path value = .error (.invalidPath key) ↔
      path ≠ [] ∧ ∀ fieldName, fieldName ≠ "" → path ≠ [fieldName] := by
  match path with
  | [] => simp [parse_list]
  | [fieldName] =>
      by_cases named : fieldName = ""
      · subst named
        have refused : Projection.parse key [""] value = .error (.invalidPath key) := rfl
        simp only [refused, true_iff]
        refine ⟨List.cons_ne_nil _ _, ?_⟩
        rintro fieldName named ⟨⟩
        exact named rfl
      · have not_empty : fieldName.isEmpty = false := by simpa using named
        simp only [Projection.parse, not_empty, Bool.false_eq_true, if_false]
        cases flagValue? value with
        | none => simp [named]
        | some flag => cases flag <;> simp [named]
  | first :: second :: rest => simp [Projection.parse]

/--
Without a path a value is no projection exactly if it has commas and white space only, and
otherwise it is the projection of its longest stretches of other characters. With the name of a
field it is the flag of that field if it states one, and is told as it stands if it does not. Every
other path is refused, whatever the value is. So names that are written one after the other are read
back, whatever stands between and around them; only an empty name leaves no trace.
-/
theorem parse_list_or_flag (key : String) :
    (∀ value, ∃ names,
      (∀ others, Text.FieldsOf separatesFields value.toList others ↔ others = names) ∧
      Projection.parse key [] value = .ok (if names = [] then none
        else some { included := names.map String.ofList, excluded := [] }) ∧
      (Projection.parse key [] value = .ok none ↔
        ∀ character ∈ value.toList, character = ',' ∨ Text.isWhiteSpace character = true)) ∧
    (∀ fieldName value, fieldName ≠ "" →
      (Projection.parse key [fieldName] value =
          .ok (some { included := [fieldName], excluded := [] }) ↔ StatesFlag value true) ∧
      (Projection.parse key [fieldName] value =
          .ok (some { included := [], excluded := [fieldName] }) ↔ StatesFlag value false) ∧
      (Projection.parse key [fieldName] value = .error (.invalidFlag key value) ↔
        ¬StatesFlag value true ∧ ¬StatesFlag value false)) ∧
    (∀ path value, Projection.parse key path value = .error (.invalidPath key) ↔
      path ≠ [] ∧ ∀ fieldName, fieldName ≠ "" → path ≠ [fieldName]) ∧
    ∀ written : WrittenNames,
      Projection.parse key [] written.text = .ok (ofNames? (written.names.filter (· ≠ ""))) ∧
      ((∀ name ∈ written.names, name ≠ "") →
        Projection.parse key [] written.text =
          .ok (some { included := written.names, excluded := [] })) := by
  refine ⟨?_, fun fieldName value named => parse_field named,
    fun path value => parse_eq_invalidPath_iff, ?_⟩
  · intro value
    refine ⟨Text.fields separatesFields value.toList, fun others => Text.fieldsOf_iff, ?_, ?_⟩
    · simp [parse_list, ofList?_eq_ofNames?, ofNames?]
    · simp only [parse_list, Except.ok.injEq, ofList?_eq_none_iff, Text.IsGap, separatesFields,
        Bool.or_eq_true, decide_eq_true_eq]
  · intro written
    have read : Projection.parse key [] written.text =
        .ok (ofNames? (written.names.filter (· ≠ ""))) := by
      rw [parse_list, ofList?_eq_ofNames?, written.fields_text]
    refine ⟨read, ?_⟩
    intro named
    have all_kept : written.names.filter (· ≠ "") = written.names := by
      simpa [List.filter_eq_self] using named
    rw [read, all_kept]
    rfl

/-- A list with a name twice and blanks of several kinds, a flag in mixed case behind a space that
is not of ASCII, a word that states no flag, and a path of one empty segment. -/
theorem parse_list_or_flag_secret :
    let written : WrittenNames := {
      lead := [' ', ',']
      first := "id".toList
      others := [([',', '\u2003'], "naïve".toList), (['\n'], "id".toList)]
      trail := [',']
      lead_gap := by decide +kernel
      names_whole := by decide +kernel
      parted := by decide +kernel
      trail_gap := by decide +kernel }
    written.text = " ,id,\u2003naïve\nid," ∧ (∀ name ∈ written.names, name ≠ "") ∧
      Projection.parse "filter[fields]" [] " ,id,\u2003naïve\nid," =
        .ok (some { included := ["id", "naïve", "id"] }) ∧
      Projection.parse "k" ["secret"] "\u3000FaLSE " = .ok (some { excluded := ["secret"] }) ∧
      Projection.parse "k" ["secret"] " yes" = .error (.invalidFlag "k" " yes") ∧
      Projection.parse "k" [""] "true" = .error (.invalidPath "k") := by
  intro written
  have text_eq : written.text = " ,id,\u2003naïve\nid," := by decide +kernel
  have named : ∀ name ∈ written.names, name ≠ "" := by decide +kernel
  have excluded : StatesFlag "\u3000FaLSE " false := statesFlag_iff.mpr (by decide +kernel)
  have no_flag : ∀ flag, ¬StatesFlag " yes" flag := by
    simp only [statesFlag_iff]
    decide +kernel
  rcases parse_list_or_flag "filter[fields]" with ⟨-, -, -, lists⟩
  rcases parse_list_or_flag "k" with ⟨-, flags, paths, -⟩
  refine ⟨text_eq, named, ?_, ?_, ?_, ?_⟩
  · rw [← text_eq, (lists written).2 named]
    decide +kernel
  · exact (flags "secret" _ (by decide)).2.1.mpr excluded
  · exact (flags "secret" _ (by decide)).2.2.mpr ⟨no_flag true, no_flag false⟩
  · rw [paths]
    refine ⟨List.cons_ne_nil _ _, ?_⟩
    rintro fieldName named ⟨⟩
    exact named rfl

end Projection

end SchemaLens.Query
