import Mathlib.Data.List.DropRight
import SchemaLens.Proofs.Query.OrderPattern
import SchemaLens.Proofs.Text.Fields

/-!
# Orders written item by item

An order is meant as items with commas between them, each of them a field and a direction. It is
read word by word, though, and a field need not be a word. No entry reaches over a character that
is neither part of a word nor blank, so of a field with such characters only the end behind the last
of them is read. If it is a word, the item gives an entry for a field that nobody has named; if
there is nothing behind that character, the item gives none.
-/

namespace SchemaLens.Query

/-- A field and a direction in letters, with white space between them and perhaps around them. -/
structure OrderItem where
  lead : List Char := []
  fieldName : List Char
  space : List Char := [' ']
  directionWord : List Char
  direction : SortDirection
  trail : List Char := []
  isWhite_lead : Text.IsWhite lead := by decide
  isField : Text.IsField separatesFields fieldName := by decide
  space_ne_nil : space ≠ [] := by decide
  isWhite_space : Text.IsWhite space := by decide
  spelled : Text.asciiLower directionWord = (Named.name direction).toList := by decide +kernel
  isWhite_trail : Text.IsWhite trail := by decide

namespace OrderItem

def text (item : OrderItem) : List Char :=
  item.lead ++ (item.fieldName ++ (item.space ++ (item.directionWord ++ item.trail)))

/-- The value of an order with these items. -/
def valueOf (items : List OrderItem) : String :=
  String.ofList ([','].intercalate (items.map text))

/-- Whether the white space between field and direction is blanks of ASCII. -/
def IsBlankSpaced (item : OrderItem) : Prop :=
  item.space.all Text.isAsciiBlank = true

instance (item : OrderItem) : Decidable item.IsBlankSpaced :=
  inferInstanceAs (Decidable (_ = true))

/-- Whether the whole field is a word. -/
def NamesWord (item : OrderItem) : Prop :=
  ∀ character ∈ item.fieldName, Text.isAsciiWord character = true

instance (item : OrderItem) : Decidable item.NamesWord :=
  List.decidableBAll _ item.fieldName

/-- Whether the field ends with a word but has other characters before it. -/
structure IsCut (item : OrderItem) : Prop where
  isBlankSpaced : item.IsBlankSpaced
  not_namesWord : ¬item.NamesWord
  ends : ∃ last ∈ item.fieldName.getLast?, Text.isAsciiWord last = true

/-- The word that the field ends with. -/
def lastWord (item : OrderItem) : List Char :=
  item.fieldName.rtakeWhile Text.isAsciiWord

/-- The entry that the item gives. -/
def readAs? (item : OrderItem) : Option OrderEntry :=
  if item.lastWord ≠ [] ∧ item.IsBlankSpaced then
    some { fieldName := String.ofList item.lastWord, direction := item.direction }
  else none

/-- The entry that the item gives if it has to name the whole field. -/
def readWhole? (item : OrderItem) : Option OrderEntry :=
  if item.NamesWord ∧ item.IsBlankSpaced then
    some { fieldName := String.ofList item.fieldName, direction := item.direction }
  else none

variable {item : OrderItem}

theorem ofWord?_directionWord (item : OrderItem) :
    SortDirection.ofWord? item.directionWord = some item.direction :=
  SortDirection.ofWord?_of_asciiLower_eq item.spelled

theorem not_isAsciiWord_of_isWhite {text : List Char} (white : Text.IsWhite text) :
    ∀ character ∈ text, Text.isAsciiWord character = false :=
  fun character mem => Text.not_isAsciiWord_of_isWhiteSpace (white character mem)

theorem not_isAsciiBlank_of_mem_fieldName {character : Char} (mem : character ∈ item.fieldName) :
    Text.isAsciiBlank character = false := by
  have whole := item.isField.whole character mem
  rw [separatesFields, Bool.or_eq_false_iff] at whole
  rw [Bool.eq_false_iff]
  intro blank
  rw [Text.isWhiteSpace_of_isAsciiBlank blank] at whole
  exact absurd whole.2 (by decide)

/-! ## What an item gives -/

/-- Up to its last word, a text without blanks gives nothing. -/
theorem orderEntries_append_of_not_blank {text : List Char}
    (no_blanks : ∀ character ∈ text, Text.isAsciiBlank character = false) (rest : List Char) :
    orderEntries (text ++ rest) = orderEntries (text.rtakeWhile Text.isAsciiWord ++ rest) := by
  have split := List.rdropWhile_append_rtakeWhile (p := Text.isAsciiWord) (l := text)
  have stopped := List.rdropWhile_last_not Text.isAsciiWord text
  rcases List.eq_nil_or_concat' (text.rdropWhile Text.isAsciiWord) with
    dropped_eq | ⟨before, last, dropped_eq⟩
  · rw [dropped_eq, List.nil_append] at split
    rw [split]
  · rw [dropped_eq, List.append_assoc, List.singleton_append] at split
    have no_word : Text.isAsciiWord last = false := by
      simpa [dropped_eq] using stopped
    have no_blank : Text.isAsciiBlank last = false :=
      no_blanks last (split ▸ List.mem_append_right _ List.mem_cons_self)
    have before_no_blanks : ∀ character ∈ before, Text.isAsciiBlank character = false :=
      fun character mem => no_blanks character (split ▸ List.mem_append_left _ mem)
    calc orderEntries (text ++ rest)
        = orderEntries (before ++ last :: (text.rtakeWhile Text.isAsciiWord ++ rest)) := by
          rw [← List.cons_append, ← List.append_assoc, split]
      _ = orderEntries (text.rtakeWhile Text.isAsciiWord ++ rest) := by
          rw [orderEntries_append_cons no_word no_blank,
            orderEntries_of_not_blank before_no_blanks, List.nil_append]

def directionPart (item : OrderItem) : WordPart where
  word := item.directionWord
  gap := item.trail
  word_ne_nil := (SortDirection.isAsciiWord_of_ofWord? item.ofWord?_directionWord).1
  isAsciiWord_of_mem := (SortDirection.isAsciiWord_of_ofWord? item.ofWord?_directionWord).2
  not_isAsciiWord_of_mem := not_isAsciiWord_of_isWhite item.isWhite_trail

def lastWordPart (item : OrderItem) (named : item.lastWord ≠ []) : WordPart where
  word := item.lastWord
  gap := item.space
  word_ne_nil := named
  isAsciiWord_of_mem := fun _ mem => List.mem_rtakeWhile_imp mem
  not_isAsciiWord_of_mem := not_isAsciiWord_of_isWhite item.isWhite_space

theorem orderEntries_lastWord_append (item : OrderItem) :
    orderEntries (item.lastWord ++ (item.space ++ (item.directionWord ++ item.trail))) =
      item.readAs?.toList := by
  have behind_eq : item.directionWord ++ item.trail = WordPart.textOf [item.directionPart] := by
    simp [WordPart.textOf, directionPart]
  rw [behind_eq]
  by_cases named : item.lastWord = []
  · rw [readAs?, if_neg fun both => both.1 named, named, List.nil_append,
      orderEntries_append_of_not_word (not_isAsciiWord_of_isWhite item.isWhite_space),
      WordPart.orderEntries_textOf (.singleton _)]
    rfl
  · have apart : WordPart.AreApart [item.lastWordPart named, item.directionPart] := by
      simp [WordPart.AreApart, lastWordPart, item.space_ne_nil]
    have text_eq : item.lastWord ++ (item.space ++ WordPart.textOf [item.directionPart]) =
        WordPart.textOf [item.lastWordPart named, item.directionPart] := by
      rw [WordPart.textOf_cons (item.lastWordPart named)]
      rfl
    have direction?_eq : (item.lastWordPart named).direction? item.directionPart =
        if item.IsBlankSpaced then some item.direction else none := by
      rw [← item.ofWord?_directionWord]
      simp [WordPart.direction?, lastWordPart, directionPart, IsBlankSpaced, item.space_ne_nil]
    rw [text_eq, WordPart.orderEntries_textOf apart, WordPart.scan, direction?_eq, readAs?]
    by_cases spaced : item.IsBlankSpaced
    · rw [if_pos spaced, if_pos ⟨named, spaced⟩]
      rfl
    · rw [if_neg spaced, if_neg fun both => spaced both.2]
      rfl

theorem orderEntries_text (item : OrderItem) : orderEntries item.text = item.readAs?.toList := by
  rw [text, orderEntries_append_of_not_word (not_isAsciiWord_of_isWhite item.isWhite_lead),
    orderEntries_append_of_not_blank fun _ => not_isAsciiBlank_of_mem_fieldName]
  exact item.orderEntries_lastWord_append

theorem orderEntries_valueOf (items : List OrderItem) :
    orderEntries (valueOf items).toList = items.filterMap readAs? := by
  rw [valueOf, String.toList_ofList, orderEntries_intercalate_commas, List.flatMap_map,
    List.filterMap_eq_flatMap_toList]
  exact List.flatMap_congr fun item _ => item.orderEntries_text

/-! ## Whole fields -/

theorem lastWord_eq_fieldName_iff : item.lastWord = item.fieldName ↔ item.NamesWord :=
  List.rtakeWhile_eq_self_iff

theorem lastWord_ne_nil_iff :
    item.lastWord ≠ [] ↔ ∃ last ∈ item.fieldName.getLast?, Text.isAsciiWord last = true := by
  rw [Ne, lastWord, List.rtakeWhile_eq_nil_iff, not_forall]
  simp only [not_not, List.getLast?_eq_some_getLast item.isField.not_empty, Option.mem_some_iff,
    exists_eq_left', exists_prop_of_true item.isField.not_empty]

/-- An item is cut exactly if it gives an entry that names anything but its field. -/
theorem isCut_iff :
    item.IsCut ↔
      ∃ entry, item.readAs? = some entry ∧ entry.fieldName.toList ≠ item.fieldName := by
  constructor
  · intro cut
    refine ⟨{ fieldName := String.ofList item.lastWord, direction := item.direction }, ?_, ?_⟩
    · rw [readAs?, if_pos ⟨lastWord_ne_nil_iff.mpr cut.ends, cut.isBlankSpaced⟩]
    · rw [String.toList_ofList, Ne, lastWord_eq_fieldName_iff]
      exact cut.not_namesWord
  · rintro ⟨entry, given, differs⟩
    rw [readAs?, Option.ite_none_right_eq_some] at given
    rcases given with ⟨⟨named, spaced⟩, entry_eq⟩
    rw [← Option.some.inj entry_eq, String.toList_ofList, Ne, lastWord_eq_fieldName_iff] at differs
    exact ⟨spaced, differs, lastWord_ne_nil_iff.mp named⟩

theorem readAs?_of_readWhole? {entry : OrderEntry} (given : item.readWhole? = some entry) :
    item.readAs? = some entry := by
  rw [readWhole?, Option.ite_none_right_eq_some] at given
  rcases given with ⟨⟨word, spaced⟩, entry_eq⟩
  have whole : item.lastWord = item.fieldName := lastWord_eq_fieldName_iff.mpr word
  rw [readAs?, whole, if_pos ⟨item.isField.not_empty, spaced⟩, entry_eq]

theorem readWhole?_eq_readAs?_iff : item.readWhole? = item.readAs? ↔ ¬item.IsCut := by
  constructor
  · intro same cut
    rcases isCut_iff.mp cut with ⟨entry, given, -⟩
    rw [← same, readWhole?, if_neg fun both => cut.not_namesWord both.1] at given
    contradiction
  · intro not_cut
    by_cases word : item.NamesWord
    · have whole : item.lastWord = item.fieldName := lastWord_eq_fieldName_iff.mpr word
      simp [readWhole?, readAs?, word, whole, item.isField.not_empty]
    · have nothing : ¬(item.lastWord ≠ [] ∧ item.IsBlankSpaced) := fun ⟨named, spaced⟩ =>
        not_cut ⟨spaced, word, lastWord_ne_nil_iff.mp named⟩
      rw [readWhole?, readAs?, if_neg fun both => word both.1, if_neg nothing]

theorem filterMap_readWhole?_sublist (items : List OrderItem) :
    (items.filterMap readWhole?).Sublist (items.filterMap readAs?) := by
  induction items with
  | nil => exact .slnil
  | cons first others ih =>
      cases whole : first.readWhole? with
      | some entry =>
          rw [List.filterMap_cons_some whole,
            List.filterMap_cons_some (readAs?_of_readWhole? whole)]
          exact ih.cons_cons entry
      | none =>
          rw [List.filterMap_cons_none whole, ← List.singleton_append, List.filterMap_append]
          exact ih.trans (List.sublist_append_right _ _)

/-- The entries of whole fields are all there are exactly if no item is cut. -/
theorem filterMap_readWhole?_eq_iff (items : List OrderItem) :
    items.filterMap readWhole? = items.filterMap readAs? ↔ ∀ item ∈ items, ¬item.IsCut := by
  constructor
  · intro same
    induction items with
    | nil => exact List.forall_mem_nil _
    | cons first others ih =>
        rw [List.forall_mem_cons]
        cases whole : first.readWhole? with
        | some entry =>
            have given := readAs?_of_readWhole? whole
            rw [List.filterMap_cons_some whole, List.filterMap_cons_some given] at same
            exact ⟨readWhole?_eq_readAs?_iff.mp (whole.trans given.symm),
              ih (List.cons.inj same).2⟩
        | none =>
            rw [List.filterMap_cons_none whole] at same
            cases given : first.readAs? with
            | none =>
                rw [List.filterMap_cons_none given] at same
                exact ⟨readWhole?_eq_readAs?_iff.mp (whole.trans given.symm), ih same⟩
            | some entry =>
                -- The others would have to give as many whole entries as there are entries in all.
                have fewer := (filterMap_readWhole?_sublist others).length_le
                rw [same, List.filterMap_cons_some given, List.length_cons] at fewer
                exact absurd fewer (Nat.not_succ_le_self _)
  · intro none_cut
    exact List.filterMap_congr fun item mem => readWhole?_eq_readAs?_iff.mpr (none_cut item mem)

end OrderItem

namespace SortOrder

theorem ofEntries?_inj {entries others : List OrderEntry} :
    ofEntries? entries = ofEntries? others ↔ entries = others := by
  cases entries <;> cases others <;> simp [ofEntries?]

/--
The order that is read from items has an entry for each of them whose field ends with a word and has
blanks of ASCII behind it, and names that word. So its entries are those of the items whose whole
field is a word exactly if no item is cut, and an item is cut exactly if its entry does not name its
field.
-/
theorem parse?_items_whole_iff (items : List OrderItem) :
    parse? (OrderItem.valueOf items) = ofEntries? (items.filterMap OrderItem.readAs?) ∧
      (parse? (OrderItem.valueOf items) = ofEntries? (items.filterMap OrderItem.readWhole?) ↔
        ∀ item ∈ items, ¬item.IsCut) ∧
      ∀ item ∈ items, item.IsCut ↔
        ∃ entry, item.readAs? = some entry ∧ entry.fieldName.toList ≠ item.fieldName := by
  have parsed :
      parse? (OrderItem.valueOf items) = ofEntries? (items.filterMap OrderItem.readAs?) := by
    rw [parse?_eq_ofEntries?, OrderItem.orderEntries_valueOf]
  refine ⟨parsed, ?_, fun item _ => OrderItem.isCut_iff⟩
  rw [parsed, ofEntries?_inj, eq_comm, OrderItem.filterMap_readWhole?_eq_iff]

/-- A field that ends with another character gives nothing. One that starts with such a character
or has one in its middle is cut. -/
theorem parse?_items_whole_iff_accents :
    parse? "été ASC,état\tdesc, user.name DESC" =
        some { entries := [⟨"tat", .descending⟩, ⟨"name", .descending⟩] } ∧
      parse? "été ASC,id asc" = some { entries := [⟨"id", .ascending⟩] } ∧
      ∃ item : OrderItem, String.ofList item.text = " user.name DESC" ∧ item.IsCut := by
  let summer : OrderItem := {
    fieldName := "été".toList, directionWord := "ASC".toList, direction := .ascending }
  let state : OrderItem := {
    fieldName := "état".toList, space := ['\t'], directionWord := "desc".toList
    direction := .descending }
  let userName : OrderItem := {
    lead := [' '], fieldName := "user.name".toList, directionWord := "DESC".toList
    direction := .descending }
  let identifier : OrderItem := {
    fieldName := "id".toList, directionWord := "asc".toList, direction := .ascending }
  refine ⟨?_, ?_, userName, by decide +kernel, ?_⟩
  · exact (parse?_items_whole_iff [summer, state, userName]).1
  · have none_cut : ∀ item ∈ [summer, identifier], ¬item.IsCut := by
      rw [List.forall_mem_cons, List.forall_mem_singleton]
      constructor
      · rintro ⟨-, -, last, last_mem, word⟩
        rcases Option.mem_some.mp last_mem with rfl
        exact absurd word (by decide)
      · rintro ⟨-, no_word, -⟩
        exact absurd (by decide) no_word
    exact (parse?_items_whole_iff [summer, identifier]).2.1.mpr none_cut
  · apply ((parse?_items_whole_iff [summer, state, userName]).2.2 userName (by simp)).mpr
    exact ⟨⟨"name", .descending⟩, by decide +kernel, by decide +kernel⟩

/-- A field with a letter outside ASCII gives an entry for the end of its name. -/
theorem parse?_end_of_accented_field :
    ∃ item : OrderItem, OrderItem.valueOf [item] = "prénom ASC" ∧ ¬item.NamesWord ∧
      parse? (OrderItem.valueOf [item]) = some { entries := [⟨"nom", .ascending⟩] } := by
  let firstName : OrderItem := {
    fieldName := "prénom".toList, directionWord := "ASC".toList, direction := .ascending }
  exact ⟨firstName, by decide +kernel⟩

end SortOrder

end SchemaLens.Query
