import SchemaLens.Proofs.Data.OrderedMap
import SchemaLens.Proofs.Settings.Expansion
import SchemaLens.Proofs.Text.ByteOrder
import SchemaLens.Settings.Target

/-!
# Targets and what they are taken from

A target has a database, a schema and a connection string, and each of them has its own places to
be taken from, the options first. Which connection of the settings is meant does not depend on the
order of the document: it is the one that is named, else the one called `default`, else the one
whose name comes first by bytes.

Several things can be wrong with options and settings at once. Each of them is said by itself here,
with a rank that does not depend on the others, and the one of least rank is what a caller is told.
If nothing is wrong, there is a target.
-/

namespace SchemaLens.Settings

/-! ## The connection that is meant -/

/-- No other entry has a name whose bytes come first. -/
def IsLeast (entries : List (String × Connection)) (entry : String × Connection) : Prop :=
  entry ∈ entries ∧
    ∀ other ∈ entries, other ≠ entry → Text.utf8Bytes entry.1 < Text.utf8Bytes other.1

/-- The connection that a name, or the lack of one, stands for. -/
inductive Selects (settings : Settings) : Option String → String × Connection → Prop
  | named {name : String} {connection : Connection}
      (entry : (name, connection) ∈ settings.connections.entries) :
      Selects settings (some name) (name, connection)
  | default {connection : Connection}
      (entry : ("default", connection) ∈ settings.connections.entries) :
      Selects settings none ("default", connection)
  | least {entry : String × Connection} (no_default : "default" ∉ settings.connections.keys)
      (least : IsLeast settings.connections.entries entry) : Selects settings none entry

variable {entries : List (String × Connection)} {entry least : String × Connection}

theorem IsLeast.unique {other : String × Connection} (isLeast : IsLeast entries least)
    (other_isLeast : IsLeast entries other) : other = least := by
  by_contra differ
  apply List.lt_asymm (isLeast.2 other other_isLeast.1 differ)
  exact other_isLeast.2 least isLeast.1 (Ne.symm differ)

/-- Of the least entry and one more, the one with the lesser name is the least. -/
theorem IsLeast.cons (isLeast : IsLeast entries least) (differ : entry.1 ≠ least.1) :
    IsLeast (entry :: entries) (if least.1 < entry.1 then least else entry) := by
  split
  · rename_i before
    refine ⟨List.mem_cons_of_mem _ isLeast.1, List.forall_mem_cons.mpr ⟨?_, isLeast.2⟩⟩
    intro _
    exact Text.utf8Bytes_lt_utf8Bytes_iff.mpr before
  · rename_i not_before
    have entry_lt : Text.utf8Bytes entry.1 < Text.utf8Bytes least.1 := by
      rw [Text.utf8Bytes_lt_utf8Bytes_iff]
      by_contra not_after
      exact differ (String.le_antisymm (String.not_lt.mp not_before) (String.not_lt.mp not_after))
    refine ⟨List.mem_cons_self, List.forall_mem_cons.mpr ⟨fun same => absurd rfl same, ?_⟩⟩
    intro other other_mem _
    by_cases same : other = least
    · rwa [same]
    · exact List.lt_trans entry_lt (isLeast.2 other other_mem same)

theorem leastByName_eq_none_iff : leastByName entries = none ↔ entries = [] := by
  cases entries with
  | nil => simp [leastByName]
  | cons entry rest => cases later : leastByName rest <;> simp [leastByName, later]

theorem isLeast_of_leastByName (distinct : (entries.map Prod.fst).Nodup)
    (found : leastByName entries = some least) : IsLeast entries least := by
  induction entries generalizing least with
  | nil => contradiction
  | cons entry rest ih =>
      simp only [List.map_cons, List.nodup_cons] at distinct
      cases later : leastByName rest with
      | none =>
          simp only [leastByName, later, Option.some.injEq] at found
          rw [leastByName_eq_none_iff] at later
          subst later found
          exact ⟨List.mem_cons_self, by simp⟩
      | some other =>
          have isLeast := ih distinct.2 later
          have differ : entry.1 ≠ other.1 := by
            intro same
            apply distinct.1
            rw [same]
            exact List.mem_map_of_mem isLeast.1
          simp only [leastByName, later, Option.some.injEq] at found
          rw [← found]
          exact isLeast.cons differ

theorem leastByName_eq_some_iff (distinct : (entries.map Prod.fst).Nodup) :
    leastByName entries = some least ↔ IsLeast entries least := by
  constructor
  · exact isLeast_of_leastByName distinct
  · intro isLeast
    cases found : leastByName entries with
    | none =>
        rw [leastByName_eq_none_iff] at found
        subst found
        cases isLeast.1
    | some other => rw [isLeast.unique (isLeast_of_leastByName distinct found)]

variable {settings : Settings} {name? : Option String}

theorem defaultConnection?_eq_some_iff :
    settings.defaultConnection? = some entry ↔ Selects settings none entry := by
  unfold defaultConnection?
  cases called : settings.connections.get? "default" with
  | some connection =>
      have default_mem := OrderedMap.get?_eq_some_iff.mp called
      simp only [Option.some.injEq]
      constructor
      · rintro rfl
        exact .default default_mem
      · intro selects
        cases selects with
        | default entry =>
            rw [OrderedMap.get?_eq_some_iff.mpr entry, Option.some.injEq] at called
            rw [called]
        | least no_default least => exact absurd (List.mem_map_of_mem default_mem) no_default
  | none =>
      have no_default := OrderedMap.get?_eq_none_iff.mp called
      simp only [leastByName_eq_some_iff settings.connections.distinct]
      constructor
      · exact .least no_default
      · intro selects
        cases selects with
        | default entry => exact absurd (List.mem_map_of_mem entry) no_default
        | least _ least => exact least

theorem defaultConnection?_eq_none_iff :
    settings.defaultConnection? = none ↔ settings.connections.keys = [] := by
  unfold defaultConnection?
  cases called : settings.connections.get? "default" with
  | some connection =>
      have default_mem := OrderedMap.get?_eq_some_iff.mp called
      simp only [reduceCtorEq, false_iff]
      exact List.ne_nil_of_mem (List.mem_map_of_mem default_mem)
  | none => simp [leastByName_eq_none_iff, OrderedMap.keys]

theorem orError_eq_ok_iff {Value : Type} {error : SettingsError} {value? : Option Value}
    {value : Value} : orError error value? = .ok value ↔ value? = some value := by
  cases value? <;> simp [orError]

theorem orError_eq_error_iff {Value : Type} {error other : SettingsError}
    {value? : Option Value} :
    orError error value? = .error other ↔ value? = none ∧ other = error := by
  cases value? <;> simp [orError, eq_comm]

theorem chosenConnection_eq_ok_iff :
    Target.chosenConnection settings name? = .ok entry ↔ Selects settings name? entry := by
  cases name? with
  | none => exact orError_eq_ok_iff.trans defaultConnection?_eq_some_iff
  | some name =>
      simp only [Target.chosenConnection, Settings.connection]
      cases found : settings.connections.get? name with
      | none =>
          have absent := OrderedMap.get?_eq_none_iff.mp found
          simp only [Except.map, reduceCtorEq, false_iff]
          rintro ⟨entry⟩
          exact absent (List.mem_map_of_mem entry)
      | some connection =>
          simp only [Except.map, Except.ok.injEq]
          constructor
          · rintro rfl
            exact .named (OrderedMap.get?_eq_some_iff.mp found)
          · rintro ⟨entry⟩
            rw [OrderedMap.get?_eq_some_iff.mpr entry, Option.some.injEq] at found
            rw [found]

theorem Selects.unique {other : String × Connection} (selects : Selects settings name? entry)
    (other_selects : Selects settings name? other) : other = entry := by
  rw [← chosenConnection_eq_ok_iff] at selects other_selects
  exact Except.ok.inj (other_selects.symm.trans selects)

theorem Selects.mem (selects : Selects settings name? entry) :
    entry ∈ settings.connections.entries := by
  cases selects with
  | named entry => exact entry
  | default entry => exact entry
  | least no_default least => exact least.1

theorem chosenConnection_eq_error_iff {error : SettingsError} :
    Target.chosenConnection settings name? = .error error ↔
      (∃ name, name? = some name ∧ name ∉ settings.connections.keys ∧
        error = .connectionNotFound name) ∨
      (name? = none ∧ settings.connections.keys = [] ∧ error = .noConnections) := by
  cases name? with
  | none => simp [Target.chosenConnection, orError_eq_error_iff, defaultConnection?_eq_none_iff]
  | some name =>
      simp only [Target.chosenConnection, Settings.connection]
      cases found : settings.connections.get? name with
      | none =>
          have absent := OrderedMap.get?_eq_none_iff.mp found
          constructor
          · rintro ⟨⟩
            exact .inl ⟨name, rfl, absent, rfl⟩
          · rintro (⟨_, ⟨⟩, -, rfl⟩ | ⟨⟨⟩, -⟩)
            rfl
      | some connection =>
          have entry_mem := OrderedMap.get?_eq_some_iff.mp found
          constructor
          · rintro ⟨⟩
          · rintro (⟨_, ⟨⟩, absent, -⟩ | ⟨⟨⟩, -⟩)
            exact absurd (List.mem_map_of_mem entry_mem) absent

/-! ## Targets and faults -/

section Outcome

variable (valueOf? : String → Option String) (loaded : Except SettingsError Settings)
  (options : TargetOptions)

/-- The target that options and settings describe. -/
inductive IsTarget : Target → Prop
  | url {url database schema : String} (given : options.url = some url)
      (database_eq : options.database = some database)
      (schema_eq : options.schema = some schema ∨ options.schema = none ∧
        ∃ settings, loaded = .ok settings ∧ schema = settings.defaultSchema) :
      IsTarget { connectionString := url, database, schema }
  | connection {settings : Settings} {name connectionString database : String}
      {connection : Connection} (no_url : options.url = none) (loads : loaded = .ok settings)
      (selects : Selects settings options.connection (name, connection))
      (expanded : expandTemplate valueOf? connection.connectionString = .ok connectionString)
      (database_eq : options.database.or connection.database = some database) :
      IsTarget {
        connectionString
        database
        schema := (options.schema.or connection.schema).getD settings.defaultSchema }

/-- What can be wrong, each with its rank. -/
inductive Fault : Nat → SettingsError → Prop
  | no_database_with_url (given : options.url ≠ none) (missing : options.database = none) :
      Fault 0 .databaseRequired
  | not_loaded {error : SettingsError} (needed : options.url = none ∨ options.schema = none)
      (failed : loaded = .error error) : Fault 1 error
  | unknown_connection {settings : Settings} {name : String} (no_url : options.url = none)
      (loads : loaded = .ok settings) (named : options.connection = some name)
      (absent : name ∉ settings.connections.keys) : Fault 2 (.connectionNotFound name)
  | no_connections {settings : Settings} (no_url : options.url = none)
      (loads : loaded = .ok settings) (unnamed : options.connection = none)
      (empty : settings.connections.keys = []) : Fault 2 .noConnections
  | no_database {settings : Settings} {name : String} {connection : Connection}
      (no_url : options.url = none) (loads : loaded = .ok settings)
      (selects : Selects settings options.connection (name, connection))
      (not_given : options.database = none) (not_stated : connection.database = none) :
      Fault 3 (.noDatabase name)
  | not_expanded {settings : Settings} {name : String} {connection : Connection}
      {error : SettingsError} (no_url : options.url = none) (loads : loaded = .ok settings)
      (selects : Selects settings options.connection (name, connection))
      (failed : expandTemplate valueOf? connection.connectionString = .error error) :
      Fault 4 error

/-- Something is wrong, and nothing of lesser rank is. -/
structure IsFirstFault (rank : Nat) (error : SettingsError) : Prop where
  fault : Fault valueOf? loaded options rank error
  first : ∀ earlier < rank, ∀ other, ¬Fault valueOf? loaded options earlier other

end Outcome

variable {valueOf? : String → Option String} {loaded : Except SettingsError Settings}
  {options : TargetOptions} {rank : Nat} {error : SettingsError} {target : Target}

namespace Fault

theorem unique {other : SettingsError} (fault : Fault valueOf? loaded options rank error)
    (other_fault : Fault valueOf? loaded options rank other) : other = error := by
  cases fault with
  | no_database_with_url given missing =>
      cases other_fault
      rfl
  | not_loaded needed failed =>
      cases other_fault with
      | not_loaded _ other_failed => exact Except.error.inj (other_failed.symm.trans failed)
  | unknown_connection no_url loads named absent =>
      cases other_fault with
      | unknown_connection _ _ other_named _ =>
          rw [Option.some.inj (other_named.symm.trans named)]
      | no_connections _ _ unnamed _ => cases named.symm.trans unnamed
  | no_connections no_url loads unnamed empty =>
      cases other_fault with
      | unknown_connection _ _ named _ => cases named.symm.trans unnamed
      | no_connections => rfl
  | no_database no_url loads selects not_given not_stated =>
      cases other_fault with
      | no_database _ other_loads other_selects _ _ =>
          cases loads.symm.trans other_loads
          cases selects.unique other_selects
          rfl
  | not_expanded no_url loads selects failed =>
      cases other_fault with
      | not_expanded _ other_loads other_selects other_failed =>
          cases loads.symm.trans other_loads
          cases selects.unique other_selects
          exact Except.error.inj (other_failed.symm.trans failed)

/-! What is in order leaves the lesser ranks without a fault. -/

theorem one_le (passed : options.url = none ∨ options.database ≠ none)
    (fault : Fault valueOf? loaded options rank error) : 1 ≤ rank := by
  cases fault with
  | no_database_with_url given missing =>
      rcases passed with no_url | database_given
      · exact absurd no_url given
      · exact absurd missing database_given
  | _ => omega

variable {settings : Settings}

theorem two_le (no_url : options.url = none) (loads : loaded = .ok settings)
    (fault : Fault valueOf? loaded options rank error) : 2 ≤ rank := by
  have := fault.one_le (.inl no_url)
  cases fault with
  | not_loaded needed failed => cases loads.symm.trans failed
  | _ => omega

variable {name : String} {connection : Connection}

theorem three_le (no_url : options.url = none) (loads : loaded = .ok settings)
    (selects : Selects settings options.connection (name, connection))
    (fault : Fault valueOf? loaded options rank error) : 3 ≤ rank := by
  have := fault.two_le no_url loads
  cases fault with
  | unknown_connection _ other_loads named absent =>
      cases loads.symm.trans other_loads
      rw [named] at selects
      cases selects with
      | named entry => exact absurd (List.mem_map_of_mem entry) absent
  | no_connections _ other_loads unnamed empty =>
      cases loads.symm.trans other_loads
      exact absurd empty (List.ne_nil_of_mem (List.mem_map_of_mem selects.mem))
  | _ => omega

theorem four_le (no_url : options.url = none) (loads : loaded = .ok settings)
    (selects : Selects settings options.connection (name, connection))
    (database_given : options.database.or connection.database ≠ none)
    (fault : Fault valueOf? loaded options rank error) : 4 ≤ rank := by
  have := fault.three_le no_url loads selects
  cases fault with
  | no_database _ other_loads other_selects not_given not_stated =>
      cases loads.symm.trans other_loads
      cases selects.unique other_selects
      simp [not_given, not_stated] at database_given
  | _ => omega

end Fault

theorem IsFirstFault.of_least (fault : Fault valueOf? loaded options rank error)
    (least : ∀ {otherRank other}, Fault valueOf? loaded options otherRank other →
      rank ≤ otherRank) : IsFirstFault valueOf? loaded options rank error where
  fault := fault
  first := by
    intro earlier earlier_lt other earlier_fault
    exact Nat.not_le.mpr earlier_lt (least earlier_fault)

theorem IsFirstFault.unique {otherRank : Nat} {other : SettingsError}
    (first : IsFirstFault valueOf? loaded options rank error)
    (other_first : IsFirstFault valueOf? loaded options otherRank other) : other = error := by
  rcases Nat.lt_trichotomy rank otherRank with less | rfl | greater
  · exact absurd first.fault (other_first.first rank less error)
  · exact first.fault.unique other_first.fault
  · exact absurd other_first.fault (first.first otherRank greater other)

theorem IsTarget.no_fault (isTarget : IsTarget valueOf? loaded options target) :
    ¬Fault valueOf? loaded options rank error := by
  intro fault
  cases isTarget with
  | url given database_eq schema_eq =>
      have url_given : options.url ≠ none := by simp [given]
      cases fault with
      | no_database_with_url _ missing => cases missing.symm.trans database_eq
      | not_loaded needed failed =>
          rcases schema_eq with schema_given | ⟨-, settings, loads, -⟩
          · rcases needed with no_url | no_schema
            · exact url_given no_url
            · cases no_schema.symm.trans schema_given
          · cases loads.symm.trans failed
      | unknown_connection no_url => exact url_given no_url
      | no_connections no_url => exact url_given no_url
      | no_database no_url => exact url_given no_url
      | not_expanded no_url => exact url_given no_url
  | connection no_url loads selects expanded database_eq =>
      have := fault.four_le no_url loads selects (by simp [database_eq])
      cases fault with
      | not_expanded _ other_loads other_selects failed =>
          cases loads.symm.trans other_loads
          cases selects.unique other_selects
          cases expanded.symm.trans failed
      | _ => omega

/-! ## Resolution -/

namespace Target

variable {settings : Settings} {name url : String} {connection : Connection}

theorem resolve_of_url (given : options.url = some url) :
    resolve valueOf? loaded options = ofUrl loaded options url := by
  rw [resolve, given]

theorem resolve_of_no_url (no_url : options.url = none) :
    resolve valueOf? loaded options = ofConnection valueOf? loaded options := by
  rw [resolve, no_url]

theorem ofConnection_of_selects
    (selects : Selects settings options.connection (name, connection)) :
    ofConnection valueOf? (.ok settings) options =
      (orError (.noDatabase name) (options.database.or connection.database)).bind fun database =>
        (expandTemplate valueOf? connection.connectionString).map fun connectionString => {
          connectionString
          database
          schema := (options.schema.or connection.schema).getD settings.defaultSchema } := by
  have schema_eq : options.schema.getD (settings.schemaFor connection) =
      (options.schema.or connection.schema).getD settings.defaultSchema := by
    cases options.schema <;> rfl
  have database_eq : (options.database <|> connection.database) =
      options.database.or connection.database := by
    cases options.database <;> rfl
  simp only [ofConnection, bind, Except.bind, chosenConnection_eq_ok_iff.mpr selects, database_eq,
    schema_eq, Connection.resolved]
  cases orError (.noDatabase name) (options.database.or connection.database) with
  | error error => rfl
  | ok database => cases expandTemplate valueOf? connection.connectionString <;> rfl

theorem resolve_of_isTarget (isTarget : IsTarget valueOf? loaded options target) :
    resolve valueOf? loaded options = .ok target := by
  cases isTarget with
  | url given database_eq schema_eq =>
      simp only [resolve_of_url given, ofUrl, database_eq]
      rcases schema_eq with schema_given | ⟨no_schema, settings, rfl, rfl⟩
      · rw [schema_given]
        rfl
      · rw [no_schema]
        rfl
  | connection no_url loads selects expanded database_eq =>
      subst loads
      rw [resolve_of_no_url no_url, ofConnection_of_selects selects, database_eq, expanded]
      rfl

/-- With a connection string among the options there is a target unless the database is missing, or
the schema is and the settings cannot be loaded. -/
theorem resolve_cases_of_url (given : options.url = some url) :
    (∃ target, IsTarget valueOf? loaded options target) ∨
      ∃ rank error, IsFirstFault valueOf? loaded options rank error ∧
        resolve valueOf? loaded options = .error error := by
  have url_given : options.url ≠ none := by simp [given]
  cases database_eq : options.database with
  | none =>
      refine .inr ⟨0, .databaseRequired,
        .of_least (.no_database_with_url url_given database_eq) (fun _ => Nat.zero_le _), ?_⟩
      simp only [resolve_of_url given, ofUrl, database_eq]
      rfl
  | some database =>
      cases schema_eq : options.schema with
      | some schema => exact .inl ⟨_, .url given database_eq (.inl schema_eq)⟩
      | none =>
          cases loaded with
          | ok settings =>
              exact .inl ⟨_, .url given database_eq (.inr ⟨schema_eq, settings, rfl, rfl⟩)⟩
          | error error =>
              have database_given : options.database ≠ none := by simp [database_eq]
              refine .inr ⟨1, error, .of_least (.not_loaded (.inr schema_eq) rfl)
                (fun fault => fault.one_le (.inr database_given)), ?_⟩
              simp only [resolve_of_url given, ofUrl, database_eq, schema_eq]
              rfl

/-- Without one there is a target unless the settings cannot be loaded, there is no connection, its
database is not known or its connection string cannot be expanded. -/
theorem resolve_cases_of_no_url (no_url : options.url = none) :
    (∃ target, IsTarget valueOf? loaded options target) ∨
      ∃ rank error, IsFirstFault valueOf? loaded options rank error ∧
        resolve valueOf? loaded options = .error error := by
  rw [resolve_of_no_url no_url]
  cases loaded with
  | error error =>
      exact .inr ⟨1, error, .of_least (.not_loaded (.inl no_url) rfl)
        (fun fault => fault.one_le (.inl no_url)), rfl⟩
  | ok settings =>
      cases chosen : chosenConnection settings options.connection with
      | error error =>
          have fault : Fault valueOf? (.ok settings) options 2 error := by
            rcases chosenConnection_eq_error_iff.mp chosen with
              ⟨name, named, absent, rfl⟩ | ⟨unnamed, empty, rfl⟩
            · exact .unknown_connection no_url rfl named absent
            · exact .no_connections no_url rfl unnamed empty
          refine .inr ⟨2, error, .of_least fault (fun other => other.two_le no_url rfl), ?_⟩
          simp only [ofConnection, bind, Except.bind, chosen]
      | ok selected =>
          rcases selected with ⟨name, connection⟩
          have selects := chosenConnection_eq_ok_iff.mp chosen
          rw [ofConnection_of_selects selects]
          cases database_eq : options.database.or connection.database with
          | none =>
              have missing := Option.or_eq_none_iff.mp database_eq
              exact .inr ⟨3, .noDatabase name,
                .of_least (.no_database no_url rfl selects missing.1 missing.2)
                  (fun fault => fault.three_le no_url rfl selects), rfl⟩
          | some database =>
              cases expanded : expandTemplate valueOf? connection.connectionString with
              | ok connectionString =>
                  exact .inl ⟨_, .connection no_url rfl selects expanded database_eq⟩
              | error error =>
                  have known : options.database.or connection.database ≠ none := by
                    simp [database_eq]
                  exact .inr ⟨4, error,
                    .of_least (.not_expanded no_url rfl selects expanded)
                      (fun fault => fault.four_le no_url rfl selects known), rfl⟩

/-- Either there is a target, or something is wrong and the fault of least rank is told. -/
theorem resolve_cases (valueOf? : String → Option String)
    (loaded : Except SettingsError Settings) (options : TargetOptions) :
    (∃ target, IsTarget valueOf? loaded options target) ∨
      ∃ rank error, IsFirstFault valueOf? loaded options rank error ∧
        resolve valueOf? loaded options = .error error := by
  cases url_eq : options.url with
  | none => exact resolve_cases_of_no_url url_eq
  | some url => exact resolve_cases_of_url url_eq

theorem resolve_eq_ok_iff :
    resolve valueOf? loaded options = .ok target ↔ IsTarget valueOf? loaded options target := by
  constructor
  · intro resolved
    rcases resolve_cases valueOf? loaded options with ⟨found, isTarget⟩ | ⟨_, error, -, failed⟩
    · rw [resolve_of_isTarget isTarget, Except.ok.injEq] at resolved
      rwa [← resolved]
    · cases resolved.symm.trans failed
  · exact resolve_of_isTarget

theorem resolve_eq_error_iff :
    resolve valueOf? loaded options = .error error ↔
      ∃ rank, IsFirstFault valueOf? loaded options rank error := by
  rcases resolve_cases valueOf? loaded options with ⟨found, isTarget⟩ | ⟨rank, other, first, failed⟩
  · simp only [resolve_of_isTarget isTarget, reduceCtorEq, false_iff]
    rintro ⟨rank, first⟩
    exact isTarget.no_fault first.fault
  · rw [failed, Except.error.injEq]
    constructor
    · rintro rfl
      exact ⟨rank, first⟩
    · rintro ⟨otherRank, other_first⟩
      exact (first.unique other_first).symm

/-- With a connection string among the options the variables do not count, and the settings only for
the schema to fall back on. -/
theorem resolve_congr_of_url (given : options.url ≠ none)
    {other? : String → Option String} {otherLoaded : Except SettingsError Settings}
    (same : options.schema ≠ none ∨
      loaded.map Settings.defaultSchema = otherLoaded.map Settings.defaultSchema) :
    resolve valueOf? loaded options = resolve other? otherLoaded options := by
  rcases Option.ne_none_iff_exists'.mp given with ⟨url, url_eq⟩
  simp only [resolve_of_url url_eq, ofUrl]
  cases schema_eq : options.schema with
  | some schema => rfl
  | none => rw [same.resolve_left fun schema_given => schema_given schema_eq]

/--
There is a target exactly if nothing is wrong, and what it has is taken from the first place that
has it. If several things are wrong, the one of least rank is told: a connection string without a
database, settings that are needed and cannot be loaded, a connection that there is not, a database
that is not known, a connection string that cannot be expanded. A connection string among the
options is taken as it is, and then settings make a difference only by the schema to fall back on
and only where none is given.
-/
theorem resolve_by_rank (valueOf? : String → Option String)
    (loaded : Except SettingsError Settings) (options : TargetOptions) :
    (∀ target, resolve valueOf? loaded options = .ok target ↔
      IsTarget valueOf? loaded options target) ∧
    (∀ error, resolve valueOf? loaded options = .error error ↔
      ∃ rank, Fault valueOf? loaded options rank error ∧
        ∀ earlier < rank, ∀ other, ¬Fault valueOf? loaded options earlier other) ∧
    ∀ (other? : String → Option String) (otherLoaded : Except SettingsError Settings),
      options.url ≠ none →
      (options.schema ≠ none ∨
        loaded.map Settings.defaultSchema = otherLoaded.map Settings.defaultSchema) →
      resolve valueOf? loaded options = resolve other? otherLoaded options := by
  refine ⟨fun target => resolve_eq_ok_iff, ?_, ?_⟩
  · intro error
    rw [resolve_eq_error_iff]
    constructor
    · rintro ⟨rank, first⟩
      exact ⟨rank, first.fault, first.first⟩
    · rintro ⟨rank, fault, first⟩
      exact ⟨rank, fault, first⟩
  · intro other? otherLoaded given same
    exact resolve_congr_of_url given same

/-- Of three connections none of which is called `default`, the one whose name comes first by bytes
is used. One that has no database and cannot be expanded either is told for its database, and a
connection string among the options is kept with its dollar sign whatever the connections are. -/
theorem resolve_by_rank_three_connections :
    let zeta : Connection := { connectionString := "host=db", schema := some "sales" }
    let broken : Connection := { connectionString := "$\x7b\x7d" }
    let settings : Settings := {
      connections := {
        entries := [("alpha", broken), ("Zeta", zeta), ("beta", { connectionString := "host=b" })]
        distinct := by decide }
      defaultSchema := "core" }
    let unset : String → Option String := fun _ => none
    let byDatabase : TargetOptions := { database := some "shop" }
    let byName : TargetOptions := { connection := some "alpha" }
    let byUrl : TargetOptions := { url := some "host=$HOST", database := some "shop" }
    Selects settings none ("Zeta", zeta) ∧
      resolve unset (.ok settings) byDatabase = .ok ⟨"host=db", "shop", "sales"⟩ ∧
      (∃ error, Fault unset (.ok settings) byName 4 error) ∧
      resolve unset (.ok settings) byName = .error (.noDatabase "alpha") ∧
      byUrl.url ≠ none ∧
      (Except.ok settings : Except SettingsError Settings).map Settings.defaultSchema =
        (Except.ok { defaultSchema := "core" }).map Settings.defaultSchema ∧
      resolve unset (.ok settings) byUrl = .ok ⟨"host=$HOST", "shop", "core"⟩ ∧
      resolve unset (.ok settings) byUrl =
        resolve (fun _ => some "x") (.ok { defaultSchema := "core" }) byUrl := by
  intro zeta broken settings unset byDatabase byName byUrl
  have selects : Selects settings none ("Zeta", zeta) :=
    .least (by decide) ⟨by decide, by decide +kernel⟩
  have named : Selects settings (some "alpha") ("alpha", broken) := .named (by decide)
  have expanded : expandTemplate unset zeta.connectionString = .ok "host=db" :=
    expandTemplate_of_no_dollar unset (by decide)
  have unnamed_variable : expandTemplate unset broken.connectionString =
      .error (.emptyReference "$\x7b\x7d") := by cbv
  have not_expanded : Fault unset (.ok settings) byName 4 (.emptyReference "$\x7b\x7d") :=
    .not_expanded rfl rfl named unnamed_variable
  have no_database : Fault unset (.ok settings) byName 3 (.noDatabase "alpha") :=
    .no_database rfl rfl named rfl rfl
  refine ⟨selects, ?_, ⟨_, not_expanded⟩, ?_, by decide, rfl, ?_, ?_⟩
  · exact ((resolve_by_rank unset (.ok settings) byDatabase).1 _).mpr
      (.connection rfl rfl selects expanded rfl)
  · refine ((resolve_by_rank unset (.ok settings) byName).2.1 _).mpr ⟨3, no_database, ?_⟩
    intro earlier earlier_lt other fault
    have := fault.three_le rfl rfl named
    omega
  · exact ((resolve_by_rank unset (.ok settings) byUrl).1 _).mpr
      (.url rfl rfl (.inr ⟨rfl, settings, rfl, rfl⟩))
  · exact (resolve_by_rank unset (.ok settings) byUrl).2.2 _ _ (by decide) (.inr rfl)

end Target

end SchemaLens.Settings
