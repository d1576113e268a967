import Mathlib.Tactic.SplitIfs
import SchemaLens.Schema.Reflection

/-!
# The calls of a reflection

What a reflection asks next depends on the answers so far: the base tables, and for each of them its
columns, its foreign keys and the key usage of each column. If every call has one answer, these
calls are a plan that can be told beforehand. The reflection makes the calls of its plan in order.
If none of them fails, each table is made of the answers to its own calls; if one fails, it is the
last that is made, and its failure is the result.

`Reflecting.CarriesOut` says this of a computation, a plan and a result. It passes from the parts of
a computation to the whole, the plans one after the other.
-/

namespace SchemaLens.Schema

variable {Failure : Type}

namespace Catalog

/-- None of the calls fails if they are made in turn, the first of them with a number. -/
def Answers (catalog : Catalog Failure) (number : Nat) (calls : List CatalogCall) : Prop :=
  ∀ index call, calls[index]? = some call →
    ∃ rows, catalog.answer (number + index) call = .ok rows

/-- An answer depends on what is asked and not on when, but any call may fail. -/
def AnswersBy (catalog : Catalog Failure) (rows : (call : CatalogCall) → List call.Row) : Prop :=
  ∀ number call answer, catalog.answer number call = .ok answer → answer = rows call

theorem answersBy_ofAnswers (rows : (call : CatalogCall) → List call.Row) :
    (ofAnswers fun call => .ok (rows call) : Catalog Failure).AnswersBy rows := by
  intro number call answer answered
  exact (Except.ok.inj answered).symm

theorem AnswersBy.failingAt {catalog : Catalog Failure} {rows : (call : CatalogCall) → List call.Row}
    (answersBy : catalog.AnswersBy rows) (number : Nat) (failure : CatalogCall → Failure) :
    (catalog.failingAt number failure).AnswersBy rows := by
  intro count call answer answered
  simp only [Catalog.failingAt] at answered
  split_ifs at answered
  exact answersBy count call answer answered

variable {catalog : Catalog Failure} {number : Nat}

theorem answers_append {earlier later : List CatalogCall}
    (answers : catalog.Answers number (earlier ++ later)) :
    catalog.Answers number earlier ∧ catalog.Answers (number + earlier.length) later := by
  constructor
  · intro index call call_at
    refine answers index call ?_
    rw [List.getElem?_append_left (List.getElem?_eq_some_iff.mp call_at).1]
    exact call_at
  · intro index call call_at
    rw [Nat.add_assoc]
    refine answers (earlier.length + index) call ?_
    rw [List.getElem?_append_right (Nat.le_add_right _ _), Nat.add_sub_cancel_left]
    exact call_at

end Catalog

theorem split_of_append_eq {plan laterPlan earlier later : List CatalogCall} {call : CatalogCall}
    (plans_eq : plan ++ laterPlan = earlier ++ call :: later) :
    (∃ rest, plan = earlier ++ call :: rest) ∨
      ∃ rest, earlier = plan ++ rest ∧ laterPlan = rest ++ call :: later := by
  rcases List.append_eq_append_iff.mp plans_eq with
    ⟨rest, earlier_eq, later_eq⟩ | ⟨rest, plan_eq, later_eq⟩
  · exact Or.inr ⟨rest, earlier_eq, later_eq⟩
  · rcases rest with _ | ⟨first, rest⟩
    · refine Or.inr ⟨[], ?_, later_eq.symm⟩
      rw [plan_eq, List.append_nil, List.append_nil]
    · rw [List.cons_append, List.cons.injEq] at later_eq
      exact Or.inl ⟨rest, later_eq.1 ▸ plan_eq⟩

namespace Reflecting

variable {Value Result : Type}

theorem run_bind (action : Reflecting Failure Value) (next : Value → Reflecting Failure Result)
    (journal : Journal) :
    (action >>= next).run.run journal =
      match action.run.run journal with
      | (.ok value, later) => (next value).run.run later
      | (.error failure, later) => (.error failure, later) := by
  simp only [ExceptT.run_bind, StateT.run_bind]
  rcases action.run.run journal with ⟨failure | value, later⟩ <;> rfl

theorem run_get (journal : Journal) :
    (get : Reflecting Failure Journal).run.run journal = (.ok journal, journal) := rfl

theorem run_modify (change : Journal → Journal) (journal : Journal) :
    (modify change : Reflecting Failure PUnit).run.run journal = (.ok ⟨⟩, change journal) := rfl

theorem run_ask (catalog : Catalog Failure) (call : CatalogCall) (journal : Journal) :
    (ask catalog call).run.run journal =
      (catalog.answer journal.calls.length call,
        { journal with calls := journal.calls ++ [call] }) := by
  cases answered : catalog.answer journal.calls.length call with
  | error failure =>
      simp only [ask, run_bind, run_get, run_modify, answered]
      rfl
  | ok rows =>
      simp only [ask, run_bind, run_get, run_modify, answered]
      rfl

/-- The computation makes the calls of the plan in order, up to the first that fails. If none fails
it has the value; if one fails it has the failure. -/
structure CarriesOut (catalog : Catalog Failure) (action : Reflecting Failure Value)
    (plan : List CatalogCall) (value : Value) : Prop where
  completes : ∀ journal : Journal, catalog.Answers journal.calls.length plan →
    ∃ events, action.run.run journal = (.ok value, { calls := journal.calls ++ plan, events })
  aborts : ∀ (journal : Journal) earlier call later failure, plan = earlier ++ call :: later →
    catalog.Answers journal.calls.length earlier →
    catalog.answer (journal.calls.length + earlier.length) call = .error failure →
    ∃ events, action.run.run journal =
      (.error failure, { calls := journal.calls ++ (earlier ++ [call]), events })

namespace CarriesOut

variable {catalog : Catalog Failure}

theorem pure (value : Value) : CarriesOut catalog (Pure.pure value) [] value where
  completes := by
    intro journal _
    exact ⟨journal.events, by rw [List.append_nil]; rfl⟩
  aborts := by
    intro journal earlier call later failure plan_eq
    exact absurd plan_eq.symm (List.append_ne_nil_of_right_ne_nil _ (List.cons_ne_nil _ _))

theorem report (events : List ReflectionEvent) :
    CarriesOut catalog (Reflecting.report events) [] () where
  completes := by
    intro journal _
    exact ⟨journal.events ++ events, by rw [List.append_nil]; rfl⟩
  aborts := by
    intro journal earlier call later failure plan_eq
    exact absurd plan_eq.symm (List.append_ne_nil_of_right_ne_nil _ (List.cons_ne_nil _ _))

theorem ask {rows : (call : CatalogCall) → List call.Row} (answersBy : catalog.AnswersBy rows)
    (call : CatalogCall) : CarriesOut catalog (Reflecting.ask catalog call) [call] (rows call) where
  completes := by
    intro journal answers
    rcases answers 0 call rfl with ⟨answer, answered⟩
    refine ⟨journal.events, ?_⟩
    rw [run_ask, ← answersBy _ _ _ answered, ← answered]
    rfl
  aborts := by
    intro journal earlier failing later failure plan_eq _ failed
    rcases List.append_eq_singleton_iff.mp plan_eq.symm with ⟨rfl, last⟩ | ⟨_, impossible⟩
    · rw [List.cons.injEq] at last
      rcases last with ⟨rfl, _⟩
      refine ⟨journal.events, ?_⟩
      rw [run_ask]
      exact congrArg (·, _) failed
    · contradiction

theorem bind {action : Reflecting Failure Value} {next : Value → Reflecting Failure Result}
    {plan laterPlan : List CatalogCall} {value : Value} {result : Result}
    (first : CarriesOut catalog action plan value)
    (second : CarriesOut catalog (next value) laterPlan result) :
    CarriesOut catalog (action >>= next) (plan ++ laterPlan) result where
  completes := by
    intro journal answers
    rcases Catalog.answers_append answers with ⟨plan_answers, later_answers⟩
    rcases first.completes journal plan_answers with ⟨events, first_run⟩
    rw [← List.length_append] at later_answers
    rcases second.completes { calls := journal.calls ++ plan, events } later_answers with
      ⟨laterEvents, second_run⟩
    refine ⟨laterEvents, ?_⟩
    rw [run_bind, first_run, ← List.append_assoc]
    exact second_run
  aborts := by
    intro journal earlier call later failure plan_eq answers failed
    -- the call that fails is one of the first plan, or that plan is carried out before it
    rcases split_of_append_eq plan_eq with ⟨rest, own_eq⟩ | ⟨rest, rfl, later_eq⟩
    · rcases first.aborts journal earlier call rest failure own_eq answers failed with
        ⟨events, first_run⟩
      exact ⟨events, by rw [run_bind, first_run]⟩
    · rcases Catalog.answers_append answers with ⟨plan_answers, rest_answers⟩
      rcases first.completes journal plan_answers with ⟨events, first_run⟩
      rw [List.length_append, ← Nat.add_assoc] at failed
      rw [← List.length_append] at rest_answers failed
      rcases second.aborts { calls := journal.calls ++ plan, events } rest call later failure
        later_eq rest_answers failed with ⟨laterEvents, second_run⟩
      refine ⟨laterEvents, ?_⟩
      rw [run_bind, first_run]
      simpa only [List.append_assoc] using second_run

/-- Computations that are made for each entry carry out the plans of the entries in order. -/
theorem mapM {Entry : Type} {action : Entry → Reflecting Failure Value}
    {plan : Entry → List CatalogCall} {value : Entry → Value}
    (each : ∀ entry, CarriesOut catalog (action entry) (plan entry) (value entry))
    (entries : List Entry) :
    CarriesOut catalog (entries.mapM action) (entries.flatMap plan) (entries.map value) := by
  induction entries with
  | nil => exact CarriesOut.pure []
  | cons entry rest ih =>
      rw [List.mapM_cons, List.flatMap_cons, List.map_cons]
      refine (each entry).bind ?_
      rw [← List.append_nil (rest.flatMap plan)]
      exact ih.bind (CarriesOut.pure _)

end CarriesOut

/-- The calls for a table: its columns, its foreign keys, and the key usage of each column. -/
def tablePlan (rows : (call : CatalogCall) → List call.Row) (database schema : String)
    (table : TableRow) : List CatalogCall :=
  [.columns database schema table.tableName, .foreignKeyPairs database schema table.tableName] ++
    (rows (.columns database schema table.tableName)).map fun column : ColumnRow =>
      .columnKeyUsage database schema table.tableName column.columnName

/-- The table that the answers to its own calls make. -/
def tableOf (rows : (call : CatalogCall) → List call.Row) (database schema : String)
    (table : TableRow) : Table :=
  Table.ofRow table
    ((rows (.columns database schema table.tableName)).map fun column : ColumnRow =>
      Column.ofRow column
        (rows (.columnKeyUsage database schema table.tableName column.columnName)))
    (ForeignKey.group (rows (.foreignKeyPairs database schema table.tableName)))

/-- The calls for a schema: its base tables, and then those for each table. -/
def schemaPlan (rows : (call : CatalogCall) → List call.Row) (database schema : String) :
    List CatalogCall :=
  .baseTables database schema ::
    (rows (.baseTables database schema)).flatMap (tablePlan rows database schema)

variable {catalog : Catalog Failure} {rows : (call : CatalogCall) → List call.Row}

theorem carriesOut_column (answersBy : catalog.AnswersBy rows) (database schema table : String)
    (row : ColumnRow) :
    CarriesOut catalog (column catalog database schema table row)
      [.columnKeyUsage database schema table row.columnName]
      (Column.ofRow row (rows (.columnKeyUsage database schema table row.columnName))) :=
  (CarriesOut.ask answersBy (.columnKeyUsage database schema table row.columnName)).bind
    (CarriesOut.pure _)

theorem carriesOut_table (answersBy : catalog.AnswersBy rows) (database schema : String)
    (row : TableRow) :
    CarriesOut catalog (table catalog database schema row) (tablePlan rows database schema row)
      (tableOf rows database schema row) := by
  refine (CarriesOut.ask answersBy (.columns database schema row.tableName)).bind ?_
  refine (CarriesOut.ask answersBy (.foreignKeyPairs database schema row.tableName)).bind ?_
  rw [List.map_eq_flatMap, ← List.append_nil (List.flatMap _ _)]
  refine (CarriesOut.mapM (carriesOut_column answersBy database schema row.tableName) _).bind ?_
  exact (CarriesOut.report _).bind (CarriesOut.pure _)

theorem carriesOut_tables (answersBy : catalog.AnswersBy rows) (database schema : String) :
    CarriesOut catalog (tables catalog database schema) (schemaPlan rows database schema)
      ((rows (.baseTables database schema)).map (tableOf rows database schema)) := by
  refine (CarriesOut.ask answersBy (.baseTables database schema)).bind ?_
  exact (CarriesOut.report _).bind
    (CarriesOut.mapM (carriesOut_table answersBy database schema) _)

end Reflecting

open Reflecting (schemaPlan tableOf)

theorem reflect_ofAnswers (rows : (call : CatalogCall) → List call.Row)
    (database schema : String) :
    (reflect (.ofAnswers fun call => .ok (rows call) : Catalog Failure) database schema).1 =
      .ok ((rows (.baseTables database schema)).map (tableOf rows database schema)) := by
  have answers : (.ofAnswers fun call => .ok (rows call) : Catalog Failure).Answers 0
      (schemaPlan rows database schema) := fun _ call _ => ⟨rows call, rfl⟩
  rcases (Reflecting.carriesOut_tables (Catalog.answersBy_ofAnswers rows) database
    schema).completes {} answers with ⟨events, run_eq⟩
  exact congrArg Prod.fst run_eq

/--
A reflection of a catalog whose answers depend on the calls alone makes the calls of its plan. If
none fails, it has one table for each base table, in order, made of the answers to the calls for
that table. If one fails, that is the last call that is made, and its failure is the result.
-/
theorem reflect_carriesOut_schemaPlan {catalog : Catalog Failure}
    {rows : (call : CatalogCall) → List call.Row} (answersBy : catalog.AnswersBy rows)
    (database schema : String) :
    let plan := schemaPlan rows database schema
    let outcome := reflect catalog database schema
    (catalog.Answers 0 plan →
      outcome.1 = .ok ((rows (.baseTables database schema)).map (tableOf rows database schema)) ∧
      outcome.2.calls = plan) ∧
    ∀ earlier call later failure, plan = earlier ++ call :: later → catalog.Answers 0 earlier →
      catalog.answer earlier.length call = .error failure →
      outcome.1 = .error failure ∧ outcome.2.calls = earlier ++ [call] := by
  intro plan outcome
  have carriedOut := Reflecting.carriesOut_tables answersBy database schema
  constructor
  · intro answers
    rcases carriedOut.completes {} answers with ⟨events, run_eq⟩
    have outcome_eq : outcome = _ := run_eq
    rw [outcome_eq]
    exact ⟨rfl, rfl⟩
  · intro earlier call later failure plan_eq answers failed
    rw [← Nat.zero_add earlier.length] at failed
    rcases carriedOut.aborts {} earlier call later failure plan_eq answers failed with
      ⟨events, run_eq⟩
    have outcome_eq : outcome = _ := run_eq
    rw [outcome_eq]
    exact ⟨rfl, rfl⟩

/-- The rows of a schema with a table of orders that has one column and a table of customers that
has two. -/
def shopRows : (call : CatalogCall) → List call.Row
  | .baseTables database schema =>
    ["orders", "customer"].map fun name =>
      { tableCatalog := database, tableSchema := schema, tableName := name
        tableType := "BASE TABLE" }
  | .columns database schema table =>
    (if table = "orders" then ["order_id"] else ["customer_id", "email"]).map fun name =>
      { tableCatalog := database, tableSchema := schema, tableName := table, columnName := name
        ordinalPosition := none, columnDefault := none, isNullable := some "NO"
        dataType := "integer", characterMaximumLength := none }
  | .foreignKeyPairs .. => []
  | .columnKeyUsage .. => []

theorem reflect_carriesOut_schemaPlan_shopRows :
    let catalog : Catalog String := .ofAnswers fun call => .ok (shopRows call)
    let interrupted := catalog.failingAt 6 CatalogCall.operation
    let plan : List CatalogCall :=
      [.baseTables "shop" "public", .columns "shop" "public" "orders",
        .foreignKeyPairs "shop" "public" "orders",
        .columnKeyUsage "shop" "public" "orders" "order_id", .columns "shop" "public" "customer",
        .foreignKeyPairs "shop" "public" "customer",
        .columnKeyUsage "shop" "public" "customer" "customer_id",
        .columnKeyUsage "shop" "public" "customer" "email"]
    ((reflect catalog "shop" "public").2.calls = plan ∧
      ∃ tables, (reflect catalog "shop" "public").1 = .ok tables ∧ tables.length = 2) ∧
    (reflect interrupted "shop" "public").1 = .error "list_column_key_usage" ∧
      (reflect interrupted "shop" "public").2.calls = plan.take 7 := by
  intro catalog interrupted plan
  have plan_eq : schemaPlan shopRows "shop" "public" = plan := by decide +kernel
  have catalog_by : catalog.AnswersBy shopRows := Catalog.answersBy_ofAnswers shopRows
  have interrupted_by : interrupted.AnswersBy shopRows :=
    catalog_by.failingAt 6 CatalogCall.operation
  constructor
  · have answers : catalog.Answers 0 (schemaPlan shopRows "shop" "public") :=
      fun _ call _ => ⟨shopRows call, rfl⟩
    rcases (reflect_carriesOut_schemaPlan catalog_by "shop" "public").1 answers with
      ⟨tables_eq, calls_eq⟩
    exact ⟨calls_eq.trans plan_eq, _, tables_eq, rfl⟩
  · have answers : interrupted.Answers 0 (plan.take 6) := by
      intro index call call_at
      have before : index < 6 := (List.getElem?_eq_some_iff.mp call_at).1
      exact ⟨shopRows call, if_neg (by omega)⟩
    exact (reflect_carriesOut_schemaPlan interrupted_by "shop" "public").2 (plan.take 6) _
      (plan.drop 7) _ plan_eq answers rfl

end SchemaLens.Schema
