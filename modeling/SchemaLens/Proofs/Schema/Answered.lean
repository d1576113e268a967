import Mathlib.Data.List.Forall2
import SchemaLens.Proofs.Schema.Reflection

/-!
# What a successful reflection was answered

A catalog may answer the same call differently every time. What a reflection makes of the answers
is then told by the calls that it made and by their numbers: `Reflecting.Yields` relates the calls
of a successful run and its value, given how many calls were made before. The relation of a whole
is put together from those of its parts, each with the number of calls that the parts before it
have made.
-/

namespace SchemaLens.Schema

variable {Failure : Type}

namespace Reflecting

variable {Entry Value Result : Type}

/-- Each run that succeeds makes calls and has a value that stand in a relation, given how many
calls were made before it. -/
def Yields (action : Reflecting Failure Value)
    (relation : Nat → List CatalogCall → Value → Prop) : Prop :=
  ∀ journal later value, action.run.run journal = (.ok value, later) →
    ∃ calls, later.calls = journal.calls ++ calls ∧ relation journal.calls.length calls value

/-- Entries stand one after another in a relation to calls and values, the calls of each following
those of the entries before it. -/
inductive InTurn (relation : Entry → Nat → List CatalogCall → Value → Prop) :
    List Entry → Nat → List CatalogCall → List Value → Prop where
  | nil (number : Nat) : InTurn relation [] number [] []
  | cons {entry : Entry} {entries : List Entry} {number : Nat} {calls later : List CatalogCall}
      {value : Value} {values : List Value} (first : relation entry number calls value)
      (rest : InTurn relation entries (number + calls.length) later values) :
      InTurn relation (entry :: entries) number (calls ++ later) (value :: values)

/-- Each value comes from an entry, by calls of its own among all calls. -/
theorem InTurn.exists_of_mem {relation : Entry → Nat → List CatalogCall → Value → Prop}
    {entries : List Entry} {number : Nat} {calls : List CatalogCall} {values : List Value}
    (inTurn : InTurn relation entries number calls values) {value : Value}
    (value_mem : value ∈ values) :
    ∃ entry ∈ entries, ∃ earlier own later, calls = earlier ++ own ++ later ∧
      relation entry (number + earlier.length) own value := by
  induction inTurn with
  | nil number => exact absurd value_mem List.not_mem_nil
  | cons first rest ih =>
      rename_i entry entries number calls laterCalls firstValue values
      rcases List.mem_cons.mp value_mem with rfl | value_mem
      · refine ⟨entry, List.mem_cons_self, [], calls, laterCalls, ?_, ?_⟩
        · simp
        · simpa using first
      · rcases ih value_mem with ⟨other, other_mem, earlier, own, later, rfl, related⟩
        refine ⟨other, List.mem_cons_of_mem _ other_mem, calls ++ earlier, own, later, ?_, ?_⟩
        · simp
        · rw [List.length_append, ← Nat.add_assoc]
          exact related

namespace Yields

theorem pure (value : Value) :
    Yields (Pure.pure value : Reflecting Failure Value)
      fun _ calls result => calls = [] ∧ result = value := by
  intro journal later result succeeded
  cases succeeded
  exact ⟨[], by simp, rfl, rfl⟩

theorem report (events : List ReflectionEvent) :
    Yields (Reflecting.report events : Reflecting Failure Unit) fun _ calls _ => calls = [] := by
  intro journal later result succeeded
  cases succeeded
  exact ⟨[], by simp, rfl⟩

theorem ask (catalog : Catalog Failure) (call : CatalogCall) :
    Yields (Reflecting.ask catalog call)
      fun number calls rows => calls = [call] ∧ catalog.answer number call = .ok rows := by
  intro journal later rows succeeded
  rw [run_ask] at succeeded
  rcases Prod.mk.inj succeeded with ⟨answered, rfl⟩
  exact ⟨[call], rfl, rfl, answered⟩

theorem bind {action : Reflecting Failure Value} {next : Value → Reflecting Failure Result}
    {relation : Nat → List CatalogCall → Value → Prop}
    {nextRelation : Value → Nat → List CatalogCall → Result → Prop}
    (first : Yields action relation)
    (second : ∀ value, Yields (next value) (nextRelation value)) :
    Yields (action >>= next) fun number calls result =>
      ∃ earlier value later, calls = earlier ++ later ∧ relation number earlier value ∧
        nextRelation value (number + earlier.length) later result := by
  intro journal last result succeeded
  rw [run_bind] at succeeded
  cases first_run : action.run.run journal with
  | mk outcome middle =>
      cases outcome with
      | error failure =>
          rw [first_run] at succeeded
          cases succeeded
      | ok value =>
          rw [first_run] at succeeded
          rcases first journal middle value first_run with ⟨earlier, middle_calls, related⟩
          rcases second value middle last result succeeded with ⟨later, last_calls, next_related⟩
          refine ⟨earlier ++ later, ?_, earlier, value, later, rfl, related, ?_⟩
          · rw [last_calls, middle_calls, List.append_assoc]
          · rw [middle_calls, List.length_append] at next_related
            exact next_related

theorem mono {action : Reflecting Failure Value}
    {relation weaker : Nat → List CatalogCall → Value → Prop} (yields : Yields action relation)
    (weaken : ∀ number calls value, relation number calls value → weaker number calls value) :
    Yields action weaker := by
  intro journal later value succeeded
  rcases yields journal later value succeeded with ⟨calls, later_calls, related⟩
  exact ⟨calls, later_calls, weaken _ _ _ related⟩

theorem mapM {action : Entry → Reflecting Failure Value}
    {relation : Entry → Nat → List CatalogCall → Value → Prop}
    (each : ∀ entry, Yields (action entry) (relation entry)) (entries : List Entry) :
    Yields (entries.mapM action) (InTurn relation entries) := by
  induction entries with
  | nil =>
      apply (Yields.pure []).mono
      rintro number calls values ⟨rfl, rfl⟩
      exact InTurn.nil number
  | cons entry rest ih =>
      rw [List.mapM_cons]
      apply ((each entry).bind fun value => ih.bind fun values => Yields.pure (value :: values)).mono
      rintro number calls result
        ⟨own, value, others, rfl, first, later, values, none, rfl, inTurn, rfl, rfl⟩
      rw [List.append_nil]
      exact InTurn.cons first inTurn

end Yields

/-! ## Columns and tables -/

/-- The call for the key usage of the column of a row. -/
def keyUsageCall (database schema table : String) (row : ColumnRow) : CatalogCall :=
  .columnKeyUsage database schema table row.columnName

/-- A column is made of its row and of the answer to the call with a number. -/
def ColumnAnswered (catalog : Catalog Failure) (database schema table : String)
    (numbered : ColumnRow × Nat) (column : Column) : Prop :=
  ∃ keyUsage, catalog.answer numbered.2
      (.columnKeyUsage database schema table numbered.1.columnName) = .ok keyUsage ∧
    column = Column.ofRow numbered.1 keyUsage

theorem yields_column (catalog : Catalog Failure) (database schema table : String)
    (row : ColumnRow) :
    Yields (column catalog database schema table row) fun number calls made =>
      calls = [keyUsageCall database schema table row] ∧
        ColumnAnswered catalog database schema table (row, number) made := by
  apply ((Yields.ask catalog (.columnKeyUsage database schema table row.columnName)).bind
    fun keyUsage => Yields.pure (Column.ofRow row keyUsage)).mono
  rintro number calls made ⟨own, keyUsage, none, rfl, ⟨rfl, answered⟩, rfl, rfl⟩
  exact ⟨List.append_nil _, keyUsage, answered, rfl⟩

/-- Columns that are read in turn make one call each, so their numbers are consecutive. -/
theorem forall₂_columnAnswered {catalog : Catalog Failure} {database schema table : String}
    {rows : List ColumnRow} {number : Nat} {calls : List CatalogCall} {columns : List Column}
    (inTurn : InTurn (fun row number calls made =>
      calls = [keyUsageCall database schema table row] ∧
        ColumnAnswered catalog database schema table (row, number) made) rows number calls columns) :
    calls = rows.map (keyUsageCall database schema table) ∧
      List.Forall₂ (ColumnAnswered catalog database schema table) (rows.zipIdx number) columns := by
  induction inTurn with
  | nil number => exact ⟨rfl, List.Forall₂.nil⟩
  | cons first rest ih =>
      rcases first with ⟨rfl, answered⟩
      rcases ih with ⟨rfl, others⟩
      rw [List.zipIdx_cons]
      exact ⟨rfl, List.Forall₂.cons answered others⟩

theorem exists_eq_ofRow_of_forall₂_columnAnswered {catalog : Catalog Failure}
    {database schema table : String} {numbered : List (ColumnRow × Nat)} {columns : List Column}
    (answered : List.Forall₂ (ColumnAnswered catalog database schema table) numbered columns) :
    ∀ column ∈ columns, ∃ row keyUsage, column = Column.ofRow row keyUsage := by
  induction answered with
  | nil => exact List.forall_mem_nil _
  | cons first rest ih =>
      rcases first with ⟨keyUsage, -, rfl⟩
      rw [List.forall_mem_cons]
      exact ⟨⟨_, keyUsage, rfl⟩, ih⟩

/-- A table is made of the answers to consecutive calls, the first of them with a number: those for
its columns, its foreign keys and the key usage of each column. -/
structure TableAnswered (catalog : Catalog Failure) (database schema : String) (row : TableRow)
    (number : Nat) (calls : List CatalogCall) (columnRows : List ColumnRow) (table : Table) :
    Prop where
  calls_eq : calls = .columns database schema row.tableName ::
    .foreignKeyPairs database schema row.tableName ::
      columnRows.map (keyUsageCall database schema row.tableName)
  columnRows_answered :
    catalog.answer number (.columns database schema row.tableName) = .ok columnRows
  columns_answered :
    List.Forall₂ (ColumnAnswered catalog database schema row.tableName)
      (columnRows.zipIdx (number + 2)) table.columns
  eq_ofRow : table = Table.ofRow row table.columns table.foreignKeys

theorem yields_table (catalog : Catalog Failure) (database schema : String) (row : TableRow) :
    Yields (table catalog database schema row) fun number calls made =>
      ∃ columnRows, TableAnswered catalog database schema row number calls columnRows made := by
  apply ((Yields.ask catalog (.columns database schema row.tableName)).bind fun columnRows =>
    (Yields.ask catalog (.foreignKeyPairs database schema row.tableName)).bind fun keyRows =>
      (Yields.mapM (yields_column catalog database schema row.tableName) columnRows).bind
        fun columns =>
          let made := Table.ofRow row columns (ForeignKey.group keyRows)
          (Yields.report (tableEvents made)).bind fun _ => Yields.pure made).mono
  rintro number calls made ⟨_, columnRows, _, rfl, ⟨rfl, rows_answered⟩, _, keyRows, _, rfl,
    ⟨rfl, _⟩, usageCalls, columns, _, rfl, inTurn, _, _, _, rfl, rfl, rfl, rfl⟩
  rcases forall₂_columnAnswered inTurn with ⟨rfl, answered⟩
  refine ⟨columnRows, ?_, rows_answered, answered, rfl⟩
  simp

theorem yields_tables (catalog : Catalog Failure) (database schema : String) :
    Yields (tables catalog database schema) fun number calls made =>
      ∃ rows later, calls = .baseTables database schema :: later ∧
        catalog.answer number (.baseTables database schema) = .ok rows ∧
        InTurn (fun row number calls table =>
          ∃ columnRows, TableAnswered catalog database schema row number calls columnRows table)
          rows (number + 1) later made := by
  apply ((Yields.ask catalog (.baseTables database schema)).bind fun rows =>
    (Yields.report [.tablesListed rows.length database schema]).bind fun _ =>
      Yields.mapM (yields_table catalog database schema) rows).mono
  rintro number calls made ⟨_, rows, _, rfl, ⟨rfl, answered⟩, _, _, later, rfl, rfl, inTurn⟩
  exact ⟨rows, later, rfl, answered, inTurn⟩

end Reflecting

open Reflecting (TableAnswered)

/-- Each table of a reflection that succeeds is made of the answers to consecutive calls of it. -/
theorem exists_tableAnswered_of_mem {catalog : Catalog Failure} {database schema : String}
    {tables : List Table} (reflected : (reflect catalog database schema).1 = .ok tables)
    {table : Table} (table_mem : table ∈ tables) :
    ∃ row earlier own later columnRows,
      (reflect catalog database schema).2.calls = earlier ++ own ++ later ∧
        TableAnswered catalog database schema row earlier.length own columnRows table := by
  have run_eq : (Reflecting.tables catalog database schema).run.run {} =
      (.ok tables, (reflect catalog database schema).2) := by
    rw [← reflected]
    rfl
  rcases Reflecting.yields_tables catalog database schema _ _ _ run_eq with
    ⟨calls, all_calls, rows, rest, rfl, -, inTurn⟩
  rcases inTurn.exists_of_mem table_mem with
    ⟨row, -, earlier, own, later, rfl, columnRows, answered⟩
  refine ⟨row, .baseTables database schema :: earlier, own, later, columnRows, ?_, ?_⟩
  · rw [all_calls]
    rfl
  · rw [List.length_cons]
    have number_eq : ([] : List CatalogCall).length + 1 + earlier.length = earlier.length + 1 := by
      rw [List.length_nil]
      omega
    rw [← number_eq]
    exact answered

end SchemaLens.Schema
