import SchemaLens.Proofs.Schema.FieldNames

/-!
# Columns that share a field name

A field name keeps no more than the letters and digits of the name in the database, so columns with
different names there can have one name in filters. A lookup leads to the first of them and the
others are shadowed: a column is reached by its names exactly if no column before it has the same
letters and digits.
-/

namespace SchemaLens.Schema

open Naming (lettersAndDigits)

variable {Failure : Type}

namespace Column

/-- Whether the names of two columns in the database have the same letters and digits. -/
def Resembles (column other : Column) : Prop :=
  lettersAndDigits column.columnName = lettersAndDigits other.columnName

instance (column other : Column) : Decidable (column.Resembles other) :=
  inferInstanceAs (Decidable (_ = _))

theorem IsNamed.lowerCase_of_mem_filterNames {column : Column} (isNamed : column.IsNamed)
    {name : String} (name_mem : name ∈ column.filterNames) :
    Text.lowerCase name = lettersAndDigits column.columnName := by
  rw [← isNamed.fieldNameLowerCase_eq, ← isNamed.lowerCase_fieldName]
  exact Text.lowerCase_eq_of_asciiLower_eq isNamed.isAsciiWord_of_mem_fieldName
    (isNamed.asciiLower_of_mem_filterNames name_mem)

/-- A column that resembles one with a field name has a field name as well. -/
theorem Resembles.fieldName_ne_empty {column other : Column} (resembles : other.Resembles column)
    (column_isNamed : column.IsNamed) (other_isNamed : other.IsNamed)
    (named : column.fieldName ≠ "") : other.fieldName ≠ "" := by
  intro unnamed
  have lowered : Text.lowerCase column.fieldName = Text.lowerCase other.fieldName := by
    rw [column_isNamed.lowerCase_of_mem_filterNames List.mem_cons_self,
      other_isNamed.lowerCase_of_mem_filterNames List.mem_cons_self, resembles]
  rw [unnamed, column_isNamed.lowerCase_fieldName] at lowered
  exact column_isNamed.ne_empty_of_mem_filterNames named
    (List.mem_cons_of_mem _ List.mem_cons_self) lowered

end Column

namespace Table

variable {table : Table} {before after : List Column} {column : Column}

/-- A lookup by a name of a column finds the first column that resembles it. -/
theorem columnByField?_of_mem_filterNames (all_named : ∀ column ∈ table.columns, column.IsNamed)
    (column_mem : column ∈ table.columns) {name : String} (name_mem : name ∈ column.filterNames) :
    table.columnByField? name = table.columns.find? (·.Resembles column) := by
  rw [columnByField?_eq_find? all_named,
    (all_named column column_mem).lowerCase_of_mem_filterNames name_mem]
  rfl

theorem find?_resembles_eq_self_iff (split : table.columns = before ++ column :: after)
    (distinct : (table.columns.map Column.columnName).Nodup) :
    table.columns.find? (·.Resembles column) = some column ↔
      ∀ earlier ∈ before, ¬earlier.Resembles column := by
  constructor
  · intro found earlier earlier_mem resembles
    rw [split, List.find?_append] at found
    -- Something is found before the column, and it has another name than the column.
    have is_found : (before.find? (·.Resembles column)).isSome = true := by
      rw [List.find?_isSome]
      exact ⟨earlier, earlier_mem, by simpa using resembles⟩
    rcases Option.isSome_iff_exists.mp is_found with ⟨first, first_found⟩
    rw [first_found, Option.some_or, Option.some.injEq] at found
    subst found
    have column_mem : first ∈ before := List.mem_of_find?_eq_some first_found
    rw [split, List.map_append, List.nodup_append] at distinct
    exact distinct.2.2 first.columnName (List.mem_map_of_mem column_mem) first.columnName
      (List.mem_map_of_mem List.mem_cons_self) rfl
  · intro unshadowed
    rw [split, List.find?_append, List.find?_eq_none.mpr (by simpa using unshadowed),
      Option.none_or, List.find?_cons_of_pos]
    exact decide_eq_true (rfl : column.Resembles column)

end Table

/-- Elements are related pairwise if each is to all before it, wherever the list is cut. -/
theorem pairwise_iff_forall_split {Element : Type} {related : Element → Element → Prop}
    {elements : List Element} :
    elements.Pairwise related ↔
      ∀ before element after, elements = before ++ element :: after →
        ∀ earlier ∈ before, related earlier element := by
  constructor
  · rintro pairwise before element after rfl earlier earlier_mem
    exact (List.pairwise_append.mp pairwise).2.2 earlier earlier_mem element List.mem_cons_self
  · intro each
    rw [List.pairwise_iff_getElem]
    intro first second first_lt second_lt first_before
    apply each (elements.take second) elements[second] (elements.drop (second + 1))
    · rw [← List.drop_eq_getElem_cons second_lt, List.take_append_drop]
    · exact List.mem_take_iff_getElem.mpr ⟨first, by omega, rfl⟩

/--
In a table of a reflection whose columns have distinct names in the database, a column is looked up
by the letters and digits of its name: both of its field names lead to the first column that has
them, which is the column itself exactly if no column before it has them as well. All columns that
have a field name are reached by it exactly if no two of them have the same letters and digits.
-/
theorem reflect_columns_shadowed {catalog : Catalog Failure} {database schema : String}
    {tables : List Table} (reflected : (reflect catalog database schema).1 = .ok tables) :
    ∀ table ∈ tables, (table.columns.map Column.columnName).Nodup →
      (∀ before column after, table.columns = before ++ column :: after → column.fieldName ≠ "" →
        ∀ name ∈ column.filterNames,
          ∃ found, table.columnByField? name = some found ∧
            table.columns.find? (·.Resembles column) = some found ∧
            (found = column ↔ ∀ earlier ∈ before, ¬earlier.Resembles column)) ∧
      ((∀ column ∈ table.columns, column.fieldName ≠ "" → ∀ name ∈ column.filterNames,
          table.columnByField? name = some column) ↔
        (table.columns.filter (·.fieldName ≠ "")).Pairwise fun earlier later =>
          ¬earlier.Resembles later) := by
  intro table table_mem distinct
  have all_named := isNamed_of_mem_columns reflected table_mem
  have looked_up : ∀ column ∈ table.columns, ∀ name ∈ column.filterNames,
      table.columnByField? name = table.columns.find? (·.Resembles column) :=
    fun _ column_mem _ name_mem =>
      Table.columnByField?_of_mem_filterNames all_named column_mem name_mem
  constructor
  · intro before column after split _ name name_mem
    have column_mem : column ∈ table.columns := by simp [split]
    have is_found : (table.columns.find? (·.Resembles column)).isSome = true := by
      rw [List.find?_isSome]
      exact ⟨column, column_mem, decide_eq_true (rfl : column.Resembles column)⟩
    rcases Option.isSome_iff_exists.mp is_found with ⟨found, found_eq⟩
    refine ⟨found, by rw [looked_up column column_mem name name_mem, found_eq], found_eq, ?_⟩
    rw [← Table.find?_resembles_eq_self_iff split distinct, found_eq, Option.some.injEq]
  · rw [List.pairwise_filter, pairwise_iff_forall_split]
    constructor
    · intro reached before column after split earlier earlier_mem _ named
      have column_mem : column ∈ table.columns := by simp [split]
      have found := reached column column_mem (by simpa using named) column.fieldName
        List.mem_cons_self
      rw [looked_up column column_mem _ List.mem_cons_self,
        Table.find?_resembles_eq_self_iff split distinct] at found
      exact found earlier earlier_mem
    · intro unlike column column_mem named name name_mem
      rcases List.append_of_mem column_mem with ⟨before, after, split⟩
      rw [looked_up column column_mem name name_mem,
        Table.find?_resembles_eq_self_iff split distinct]
      intro earlier earlier_mem resembles
      have earlier_named := resembles.fieldName_ne_empty (all_named column column_mem)
        (all_named earlier (by simp [split, earlier_mem])) named
      exact unlike before column after split earlier earlier_mem (by simpa using earlier_named)
        (by simpa using named) resembles

/-- Of the columns `as_c` and `ASC` the second has a field name, and both of its names lead to the
first. -/
theorem reflect_shadows_asc :
    let catalog : Catalog String := .ofAnswers fun call => .ok (lookalikeRows call)
    ∃ table asC asc, (reflect catalog "shop" "public").1 = .ok [table] ∧
      (table.columns.map Column.columnName).Nodup ∧ asc ∈ table.columns ∧ asc.fieldName ≠ "" ∧
      table.columnByField? asc.fieldName = some asC ∧
      table.columnByField? asc.fieldNameLowerCase = some asC ∧ asC ≠ asc := by
  let table := Reflecting.tableOf lookalikeRows "shop" "public" {
    tableCatalog := "shop", tableSchema := "public", tableName := "shoe"
    tableType := "BASE TABLE" }
  exact ⟨table, table.columns[0], table.columns[1], reflect_ofAnswers lookalikeRows "shop" "public",
    by decide +kernel, List.getElem_mem _, by decide +kernel, by decide +kernel,
    by decide +kernel, by decide +kernel⟩

/-- The columns before and after the shadowed one are reached by their names. -/
theorem reflect_columns_shadowed_lookalikeRows :
    let catalog : Catalog String := .ofAnswers fun call => .ok (lookalikeRows call)
    ∃ table asC asc size, (reflect catalog "shop" "public").1 = .ok [table] ∧
      table.columns = [asC, asc, size] ∧ (table.columns.map Column.columnName).Nodup ∧
      asC.fieldName = "AsC" ∧ table.columnByField? "AsC" = some asC ∧
      asc.fieldName = "Asc" ∧ table.columnByField? "Asc" ≠ some asc ∧
      size.fieldNameLowerCase = "gre2" ∧ table.columnByField? "gre2" = some size := by
  let table := Reflecting.tableOf lookalikeRows "shop" "public" {
    tableCatalog := "shop", tableSchema := "public", tableName := "shoe"
    tableType := "BASE TABLE" }
  have reflected : (reflect (.ofAnswers fun call => .ok (lookalikeRows call) : Catalog String)
      "shop" "public").1 = .ok [table] := reflect_ofAnswers lookalikeRows "shop" "public"
  have distinct : (table.columns.map Column.columnName).Nodup := by decide +kernel
  have reached := (reflect_columns_shadowed reflected table List.mem_cons_self distinct).1
  rcases reached [] table.columns[0] [table.columns[1], table.columns[2]] rfl
    (by decide +kernel) "AsC" (by decide +kernel) with ⟨asC, asC_found, -, asC_iff⟩
  rcases reached [table.columns[0]] table.columns[1] [table.columns[2]] rfl
    (by decide +kernel) "Asc" (by decide +kernel) with ⟨asc, asc_found, -, asc_iff⟩
  rcases reached [table.columns[0], table.columns[1]] table.columns[2] [] rfl
    (by decide +kernel) "gre2" (by decide +kernel) with ⟨size, size_found, -, size_iff⟩
  refine ⟨table, table.columns[0], table.columns[1], table.columns[2], reflected, rfl, distinct,
    by decide +kernel, ?_, by decide +kernel, ?_, by decide +kernel, ?_⟩
  · rw [asC_found, asC_iff.mpr (by decide +kernel)]
  · rw [asc_found, ne_eq, Option.some.injEq, asc_iff]
    decide +kernel
  · rw [size_found, size_iff.mpr (by decide +kernel)]

end SchemaLens.Schema
