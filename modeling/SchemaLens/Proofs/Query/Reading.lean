import SchemaLens.Proofs.Query.Values
import SchemaLens.Query.Outcome

/-!
# Reading pairs one at a time

Reading collected values key by key is the same as reading the regrouped pairs one at a time. A
pair whose key addresses a filter is an occurrence of that filter; what an occurrence holds, and
whether it fails, depends on the pair and the kind of query alone and not on the descriptor. So the
reading of a list of pairs is known from its occurrences: the parts of those before the first that
fails are stored in order, and nothing after them.
-/

namespace SchemaLens.Query

instance : (kind : QueryKind) → DecidableEq kind.Descriptor
  | .find => inferInstanceAs (DecidableEq FindQuery)
  | .findOne => inferInstanceAs (DecidableEq FindOneQuery)
  | .findById => inferInstanceAs (DecidableEq FindByIdQuery)
  | .count => inferInstanceAs (DecidableEq CountQuery)
  | .update => inferInstanceAs (DecidableEq UpdateQuery)
  | .destroy => inferInstanceAs (DecidableEq DestroyQuery)

deriving instance DecidableEq for Outcome

namespace Outcome

variable {kind : QueryKind}

@[simp]
theorem start_andThen (descriptor : kind.Descriptor) (next : kind.Descriptor → Outcome kind) :
    ({ descriptor } : Outcome kind).andThen next = next descriptor := rfl

@[simp]
theorem andThen_start (outcome : Outcome kind) :
    (outcome.andThen fun descriptor => { descriptor }) = outcome := by
  rcases outcome with ⟨descriptor, failure, seen⟩
  cases failure with
  | none => simp [andThen]
  | some error => rfl

theorem andThen_of_failure {outcome : Outcome kind} {error : FilterError}
    (failed : outcome.failure = some error) (next : kind.Descriptor → Outcome kind) :
    outcome.andThen next = outcome := by
  simp only [andThen, failed]

theorem andThen_of_no_failure {outcome : Outcome kind} (passed : outcome.failure = none)
    (next : kind.Descriptor → Outcome kind) :
    outcome.andThen next =
      { next outcome.descriptor with
        seen := outcome.seen ++ (next outcome.descriptor).seen } := by
  simp only [andThen, passed]

theorem andThen_assoc (outcome : Outcome kind) (next last : kind.Descriptor → Outcome kind) :
    (outcome.andThen next).andThen last =
      outcome.andThen fun descriptor => (next descriptor).andThen last := by
  rcases outcome with ⟨descriptor, failure, seen⟩
  cases failure with
  | some error => rfl
  | none =>
      simp only [andThen]
      rcases next descriptor with ⟨filled, laterFailure, laterSeen⟩
      cases laterFailure with
      | some error => rfl
      | none => simp

theorem andThen_failure_eq_none_iff (outcome : Outcome kind)
    (next : kind.Descriptor → Outcome kind) :
    (outcome.andThen next).failure = none ↔
      outcome.failure = none ∧ (next outcome.descriptor).failure = none := by
  cases failed : outcome.failure with
  | none => simp [andThen_of_no_failure failed]
  | some error => simp [andThen_of_failure failed, failed]

end Outcome

/-- Whether a key addresses a filter. -/
def FilterKey.isRecognised (key : String) : Bool :=
  (FilterKey.parse? key).isSome

/-- A pair whose key addresses a filter. -/
structure Occurrence where
  /-- What the key says. -/
  filterKey : FilterKey
  /-- The key as it was given. -/
  key : String
  /-- The value as it was given. -/
  value : String
deriving DecidableEq, Repr

namespace Occurrence

/-- The occurrence that a pair is, if its key addresses a filter. -/
def ofPair? (pair : String × String) : Option Occurrence :=
  (FilterKey.parse? pair.1).map fun filterKey => { filterKey, key := pair.1, value := pair.2 }

/-- The occurrences among pairs, in order. -/
def ofPairs (pairs : List (String × String)) : List Occurrence :=
  pairs.filterMap ofPair?

/-- What an occurrence holds for a kind of query. The keyword has to be one that the kind takes,
and the value has to be one that the filter takes. -/
def result (kind : QueryKind) (occurrence : Occurrence) : Except FilterError (Option FilterPart) :=
  match kind.filterType? occurrence.filterKey.keyword with
  | none => .error (.unknownFilter occurrence.filterKey.keyword kind)
  | some filterType =>
    FilterPart.parse filterType occurrence.key occurrence.filterKey.path occurrence.value

/-- Whether an occurrence cannot be read. -/
def Fails (kind : QueryKind) (occurrence : Occurrence) : Prop :=
  ∃ error, occurrence.result kind = .error error

/-- Whether the kind takes the keyword of an occurrence. -/
def isTaken (kind : QueryKind) (occurrence : Occurrence) : Bool :=
  (kind.filterType? occurrence.filterKey.keyword).isSome

/-- The part that an occurrence holds, if it holds one. -/
def part? (kind : QueryKind) (occurrence : Occurrence) : Option FilterPart :=
  match occurrence.result kind with
  | .ok part => part
  | .error _ => none

/-- The error of an occurrence that fails. -/
def error? (kind : QueryKind) (occurrence : Occurrence) : Option FilterError :=
  match occurrence.result kind with
  | .ok _ => none
  | .error error => some error

/-- The record of an occurrence whose value is about to be read. -/
def toSeen (kind : QueryKind) (occurrence : Occurrence) : ValueSeen where
  kind := kind
  key := occurrence.key
  value := occurrence.value

variable {kind : QueryKind} {occurrence : Occurrence}

theorem error?_eq_none_iff : occurrence.error? kind = none ↔ ¬occurrence.Fails kind := by
  unfold error? Fails
  cases occurrence.result kind <;> simp

instance : Decidable (occurrence.Fails kind) :=
  decidable_of_iff (¬occurrence.error? kind = none) (by rw [error?_eq_none_iff, not_not])

theorem error?_of_result {error : FilterError} (failed : occurrence.result kind = .error error) :
    occurrence.error? kind = some error := by
  simp only [error?, failed]

theorem part?_of_result {error : FilterError} (failed : occurrence.result kind = .error error) :
    occurrence.part? kind = none := by
  simp only [part?, failed]

theorem exists_parse_of_part? {part : FilterPart} (holds : occurrence.part? kind = some part) :
    ∃ filterType, kind.filterType? occurrence.filterKey.keyword = some filterType ∧
      FilterPart.parse filterType occurrence.key occurrence.filterKey.path occurrence.value =
        .ok (some part) := by
  simp only [part?, result] at holds
  cases taken : kind.filterType? occurrence.filterKey.keyword with
  | none => simp [taken] at holds
  | some filterType =>
      refine ⟨filterType, rfl, ?_⟩
      simp only [taken] at holds
      cases parsed : FilterPart.parse filterType occurrence.key occurrence.filterKey.path
        occurrence.value with
      | error error => simp [parsed] at holds
      | ok part? =>
          simp only [parsed] at holds
          rw [holds]

theorem isTaken_of_not_fails (passed : ¬occurrence.Fails kind) :
    occurrence.isTaken kind = true := by
  unfold isTaken
  by_contra untaken
  rw [Bool.not_eq_true, Option.isSome_eq_false_iff, Option.isNone_iff_eq_none] at untaken
  apply passed
  exact ⟨.unknownFilter occurrence.filterKey.keyword kind, by simp only [result, untaken]⟩

/-- The parts of the occurrences before the first that fails. -/
def partsBeforeFailure (kind : QueryKind) (occurrences : List Occurrence) : List FilterPart :=
  (occurrences.takeWhile fun occurrence => !decide (occurrence.Fails kind)).filterMap
    (·.part? kind)

theorem partsBeforeFailure_cons_of_fails (fails : occurrence.Fails kind)
    (rest : List Occurrence) : partsBeforeFailure kind (occurrence :: rest) = [] := by
  simp [partsBeforeFailure, fails]

theorem partsBeforeFailure_cons_of_not_fails (passed : ¬occurrence.Fails kind)
    (rest : List Occurrence) :
    partsBeforeFailure kind (occurrence :: rest) =
      (occurrence.part? kind).toList ++ partsBeforeFailure kind rest := by
  cases holds : occurrence.part? kind <;> simp [partsBeforeFailure, passed, holds]

theorem ofPairs_perm {left right : List (String × String)} (permuted : left.Perm right) :
    (ofPairs left).Perm (ofPairs right) :=
  permuted.filterMap ofPair?

theorem ofPairs_filter_isRecognised (pairs : List (String × String)) :
    ofPairs (pairs.filter fun pair => FilterKey.isRecognised pair.1) = ofPairs pairs := by
  rw [ofPairs, List.filterMap_filter]
  apply List.filterMap_congr
  intro pair _
  rw [ofPair?, FilterKey.isRecognised]
  cases FilterKey.parse? pair.1 <;> rfl

end Occurrence

namespace QueryKind

variable {kind : QueryKind}

/-- Reads pairs one at a time, in the order in which they stand. -/
def readInTurn (kind : QueryKind) (descriptor : kind.Descriptor)
    (pairs : List (String × String)) : Outcome kind :=
  kind.readEntries descriptor (pairs.map fun pair => (pair.1, [pair.2]))

/-- Reads one occurrence. -/
def readOccurrence (kind : QueryKind) (descriptor : kind.Descriptor) (occurrence : Occurrence) :
    Outcome kind where
  descriptor := (occurrence.part? kind).toList.foldl kind.apply descriptor
  failure := occurrence.error? kind
  seen := if occurrence.isTaken kind then [occurrence.toSeen kind] else []

/-- Reads occurrences in order. -/
def readOccurrences (kind : QueryKind) (descriptor : kind.Descriptor) :
    List Occurrence → Outcome kind
  | [] => { descriptor }
  | occurrence :: rest =>
    (kind.readOccurrence descriptor occurrence).andThen fun filled =>
      kind.readOccurrences filled rest

/-! ## From entries to pairs -/

/-- Entries are read in two steps: some of them, and the others into what these have filled. -/
theorem readEntries_append (descriptor : kind.Descriptor)
    (earlier later : List (String × List String)) :
    kind.readEntries descriptor (earlier ++ later) =
      (kind.readEntries descriptor earlier).andThen fun filled =>
        kind.readEntries filled later := by
  induction earlier generalizing descriptor with
  | nil => rfl
  | cons entry earlier ih =>
      rcases entry with ⟨key, values⟩
      simp only [List.cons_append, readEntries, ih, Outcome.andThen_assoc]

theorem readInTurn_cons (descriptor : kind.Descriptor) (key value : String)
    (rest : List (String × String)) :
    kind.readInTurn descriptor ((key, value) :: rest) =
      (kind.readEntry descriptor key [value]).andThen fun filled =>
        kind.readInTurn filled rest := rfl

theorem readInTurn_append (descriptor : kind.Descriptor)
    (earlier later : List (String × String)) :
    kind.readInTurn descriptor (earlier ++ later) =
      (kind.readInTurn descriptor earlier).andThen fun filled =>
        kind.readInTurn filled later := by
  simp only [readInTurn, List.map_append, readEntries_append]

theorem readValues_eq_readInTurn {key : String} {filterKey : FilterKey} {filterType : FilterType}
    (recognised : FilterKey.parse? key = some filterKey)
    (taken : kind.filterType? filterKey.keyword = some filterType)
    (descriptor : kind.Descriptor) (values : List String) :
    kind.readValues filterType key filterKey.path descriptor values =
      kind.readInTurn descriptor (values.map fun value => (key, value)) := by
  induction values generalizing descriptor with
  | nil => rfl
  | cons value rest ih =>
      simp only [List.map_cons, readInTurn_cons, readEntry, recognised, taken, readValues,
        Outcome.andThen_start, ih]

theorem readEntry_eq_readInTurn (descriptor : kind.Descriptor) (key : String)
    {values : List String} (nonempty : values ≠ []) :
    kind.readEntry descriptor key values =
      kind.readInTurn descriptor (values.map fun value => (key, value)) := by
  cases recognised : FilterKey.parse? key with
  | none =>
      have passed_over : ∀ others : List String,
          kind.readInTurn descriptor (others.map fun value => (key, value)) = { descriptor } := by
        intro others
        induction others with
        | nil => rfl
        | cons value others ih =>
            simp only [List.map_cons, readInTurn_cons, readEntry, recognised,
              Outcome.start_andThen, ih]
      rw [passed_over values]
      simp only [readEntry, recognised]
  | some filterKey =>
      cases taken : kind.filterType? filterKey.keyword with
      | none =>
          rcases values with _ | ⟨value, rest⟩
          · exact absurd rfl nonempty
          · simp only [List.map_cons, readInTurn_cons, readEntry, recognised, taken]
            rfl
      | some filterType =>
          rw [← readValues_eq_readInTurn recognised taken]
          simp only [readEntry, recognised, taken]

/-- Entries are read as their pairs are if each of them is. -/
theorem readEntries_eq_readInTurn (descriptor : kind.Descriptor)
    {entries : List (String × List String)}
    (each : ∀ entry ∈ entries, ∀ filled : kind.Descriptor,
      kind.readEntry filled entry.1 entry.2 =
        kind.readInTurn filled (entry.2.map fun value => (entry.1, value))) :
    kind.readEntries descriptor entries =
      kind.readInTurn descriptor
        (entries.flatMap fun entry => entry.2.map fun value => (entry.1, value)) := by
  induction entries generalizing descriptor with
  | nil => rfl
  | cons entry rest ih =>
      rw [List.forall_mem_cons] at each
      simp only [readEntries, List.flatMap_cons, readInTurn_append, ih _ each.2, each.1]

/-- Collected values are read as the regrouped pairs are, one at a time. -/
theorem read_ofPairs_eq_readInTurn (kind : QueryKind) (descriptor : kind.Descriptor)
    (pairs : List (String × String)) :
    kind.read descriptor (Values.ofPairs pairs) =
      kind.readInTurn descriptor (regroup pairs) := by
  rw [read, readEntries_eq_readInTurn, Values.flatMap_entries_ofPairs]
  rintro ⟨key, values⟩ entry_mem filled
  exact readEntry_eq_readInTurn filled key (Values.ne_nil_of_mem_entries_ofPairs entry_mem)

/-! ## From pairs to occurrences -/

theorem readEntry_singleton (descriptor : kind.Descriptor) (key value : String) :
    kind.readEntry descriptor key [value] =
      kind.readOccurrences descriptor (Occurrence.ofPairs [(key, value)]) := by
  cases recognised : FilterKey.parse? key with
  | none =>
      simp only [readEntry, recognised, Occurrence.ofPairs, Occurrence.ofPair?,
        List.filterMap_cons, Option.map_none, List.filterMap_nil, readOccurrences]
  | some filterKey =>
      simp only [readEntry, recognised, Occurrence.ofPairs, Occurrence.ofPair?,
        List.filterMap_cons, Option.map_some, List.filterMap_nil, readOccurrences,
        Outcome.andThen_start]
      cases taken : kind.filterType? filterKey.keyword with
      | none =>
          simp only [readOccurrence, Occurrence.part?, Occurrence.error?, Occurrence.isTaken,
            Occurrence.result, taken]
          rfl
      | some filterType =>
          simp only [readValues, Outcome.andThen_start, readValue, readOccurrence,
            Occurrence.part?, Occurrence.error?, Occurrence.isTaken, Occurrence.result, taken]
          rcases FilterPart.parse filterType key filterKey.path value with error | (_ | part) <;>
            rfl

theorem readOccurrences_append (descriptor : kind.Descriptor)
    (earlier later : List Occurrence) :
    kind.readOccurrences descriptor (earlier ++ later) =
      (kind.readOccurrences descriptor earlier).andThen fun filled =>
        kind.readOccurrences filled later := by
  induction earlier generalizing descriptor with
  | nil => rfl
  | cons occurrence earlier ih =>
      simp only [List.cons_append, readOccurrences, ih, Outcome.andThen_assoc]

theorem readInTurn_eq_readOccurrences (descriptor : kind.Descriptor)
    (pairs : List (String × String)) :
    kind.readInTurn descriptor pairs =
      kind.readOccurrences descriptor (Occurrence.ofPairs pairs) := by
  induction pairs generalizing descriptor with
  | nil => rfl
  | cons pair rest ih =>
      rcases pair with ⟨key, value⟩
      have split : Occurrence.ofPairs ((key, value) :: rest) =
          Occurrence.ofPairs [(key, value)] ++ Occurrence.ofPairs rest := by
        rw [Occurrence.ofPairs, ← List.singleton_append, List.filterMap_append]
        rfl
      simp only [readInTurn_cons, readEntry_singleton, ih, split, readOccurrences_append]

/-! ## Runs -/

/-- Occurrences that do not fail are all read, and their parts are stored in order. -/
theorem readOccurrences_of_not_fails (descriptor : kind.Descriptor)
    {occurrences : List Occurrence} (passed : ∀ occurrence ∈ occurrences, ¬occurrence.Fails kind) :
    kind.readOccurrences descriptor occurrences = {
      descriptor := (occurrences.filterMap (·.part? kind)).foldl kind.apply descriptor
      failure := none
      seen := occurrences.map (·.toSeen kind) } := by
  induction occurrences generalizing descriptor with
  | nil => rfl
  | cons occurrence rest ih =>
      have first_passed := passed occurrence List.mem_cons_self
      have no_failure : (kind.readOccurrence descriptor occurrence).failure = none :=
        Occurrence.error?_eq_none_iff.mpr first_passed
      have rest_passed : ∀ later ∈ rest, ¬later.Fails kind := fun later later_mem =>
        passed later (List.mem_cons_of_mem _ later_mem)
      rw [readOccurrences, Outcome.andThen_of_no_failure no_failure, ih _ rest_passed]
      simp only [readOccurrence, Occurrence.isTaken_of_not_fails first_passed, if_true,
        List.filterMap_cons, List.map_cons, List.singleton_append]
      cases occurrence.part? kind <;> rfl

/-- The first occurrence that fails ends the reading; what came before it is stored. -/
theorem readOccurrences_of_fails (descriptor : kind.Descriptor) {passed : List Occurrence}
    {failing : Occurrence} {error : FilterError}
    (all_passed : ∀ occurrence ∈ passed, ¬occurrence.Fails kind)
    (failed : failing.result kind = .error error) (later : List Occurrence) :
    kind.readOccurrences descriptor (passed ++ failing :: later) = {
      descriptor := (passed.filterMap (·.part? kind)).foldl kind.apply descriptor
      failure := some error
      seen := passed.map (·.toSeen kind) ++
        if failing.isTaken kind then [failing.toSeen kind] else [] } := by
  have ended : ∀ filled : kind.Descriptor,
      kind.readOccurrences filled (failing :: later) = {
        descriptor := filled
        failure := some error
        seen := if failing.isTaken kind then [failing.toSeen kind] else [] } := by
    intro filled
    have stopped : (kind.readOccurrence filled failing).failure = some error :=
      Occurrence.error?_of_result failed
    rw [readOccurrences, Outcome.andThen_of_failure stopped]
    simp only [readOccurrence, Occurrence.part?_of_result failed,
      Occurrence.error?_of_result failed, Option.toList_none, List.foldl_nil]
  rw [readOccurrences_append, readOccurrences_of_not_fails descriptor all_passed,
    Outcome.andThen_of_no_failure rfl, ended]

/-- Whether occurrences can be read does not depend on the descriptor or on their order. -/
theorem readOccurrences_failure_eq_none_iff (descriptor : kind.Descriptor)
    (occurrences : List Occurrence) :
    (kind.readOccurrences descriptor occurrences).failure = none ↔
      ∀ occurrence ∈ occurrences, ¬occurrence.Fails kind := by
  induction occurrences generalizing descriptor with
  | nil => simp [readOccurrences]
  | cons occurrence rest ih =>
      rw [readOccurrences, Outcome.andThen_failure_eq_none_iff, ih, List.forall_mem_cons]
      exact and_congr_left fun _ => Occurrence.error?_eq_none_iff

theorem readInTurn_failure_eq_none_iff (descriptor : kind.Descriptor)
    (pairs : List (String × String)) :
    (kind.readInTurn descriptor pairs).failure = none ↔
      ∀ occurrence ∈ Occurrence.ofPairs pairs, ¬occurrence.Fails kind := by
  rw [readInTurn_eq_readOccurrences, readOccurrences_failure_eq_none_iff]

/-- Reading stores the parts before the first failure and does nothing else to the descriptor. -/
theorem readOccurrences_descriptor (descriptor : kind.Descriptor)
    (occurrences : List Occurrence) :
    (kind.readOccurrences descriptor occurrences).descriptor =
      (Occurrence.partsBeforeFailure kind occurrences).foldl kind.apply descriptor := by
  induction occurrences generalizing descriptor with
  | nil => rfl
  | cons occurrence rest ih =>
      rw [readOccurrences]
      by_cases fails : occurrence.Fails kind
      · rcases fails with ⟨error, failed⟩
        have stopped : (kind.readOccurrence descriptor occurrence).failure = some error :=
          Occurrence.error?_of_result failed
        rw [Outcome.andThen_of_failure stopped, Occurrence.partsBeforeFailure_cons_of_fails
          ⟨error, failed⟩]
        simp only [readOccurrence, Occurrence.part?_of_result failed, Option.toList_none]
      · have passed : (kind.readOccurrence descriptor occurrence).failure = none :=
          Occurrence.error?_eq_none_iff.mpr fails
        rw [Outcome.andThen_of_no_failure passed,
          Occurrence.partsBeforeFailure_cons_of_not_fails fails, List.foldl_append]
        exact ih (kind.readOccurrence descriptor occurrence).descriptor

theorem readInTurn_descriptor {descriptor : kind.Descriptor} {pairs : List (String × String)}
    (succeeded : (kind.readInTurn descriptor pairs).failure = none) :
    (kind.readInTurn descriptor pairs).descriptor =
      ((Occurrence.ofPairs pairs).filterMap (·.part? kind)).foldl kind.apply descriptor := by
  rw [readInTurn_failure_eq_none_iff] at succeeded
  rw [readInTurn_eq_readOccurrences, readOccurrences_of_not_fails descriptor succeeded]

/-! ## What reading collected values leaves behind -/

/--
Reading collected pairs stores the parts of all occurrences if none of them fails, and otherwise
the parts of exactly those before the first that fails, with its error. Every value that was about
to be read is recorded, that of the failing occurrence included, unless its keyword was refused.
Entries can be read in two steps.
-/
theorem read_ofPairs (kind : QueryKind) (descriptor : kind.Descriptor)
    (pairs : List (String × String)) :
    let occurrences := Occurrence.ofPairs (regroup pairs)
    let outcome := kind.read descriptor (Values.ofPairs pairs)
    ((∀ occurrence ∈ occurrences, ¬occurrence.Fails kind) →
      outcome = {
        descriptor := (occurrences.filterMap (·.part? kind)).foldl kind.apply descriptor
        failure := none
        seen := occurrences.map (·.toSeen kind) }) ∧
    (∀ passed failing later error,
      occurrences = passed ++ failing :: later →
      (∀ occurrence ∈ passed, ¬occurrence.Fails kind) →
      failing.result kind = .error error →
      outcome = {
        descriptor := (passed.filterMap (·.part? kind)).foldl kind.apply descriptor
        failure := some error
        seen := passed.map (·.toSeen kind) ++
          if failing.isTaken kind then [failing.toSeen kind] else [] }) ∧
    ∀ earlier later : List (String × List String),
      kind.readEntries descriptor (earlier ++ later) =
        (kind.readEntries descriptor earlier).andThen fun filled =>
          kind.readEntries filled later := by
  intro occurrences outcome
  have outcome_eq : outcome = kind.readOccurrences descriptor occurrences := by
    rw [← readInTurn_eq_readOccurrences]
    exact read_ofPairs_eq_readInTurn kind descriptor pairs
  refine ⟨?_, ?_, readEntries_append descriptor⟩
  · intro passed
    rw [outcome_eq]
    exact readOccurrences_of_not_fails descriptor passed
  · intro passed failing later error split all_passed failed
    rw [outcome_eq, split]
    exact readOccurrences_of_fails descriptor all_passed failed later

/-- Two conditions on one field that a page number stands between, and a limit that is given twice,
the second time by no number. -/
theorem read_ofPairs_second_limit_invalid :
    let conditions : List Condition := [⟨"age", .gte, "18"⟩, ⟨"age", .gte, "21"⟩]
    let pairs := [("filter[where][age][gte]", "18"), ("page", "2"), ("filter[limit]", "5"),
      ("filter[where][age][gte]", "21")]
    QueryKind.find.read {} (Values.ofPairs pairs) = {
      descriptor := ({ conditions, limit := some ⟨5⟩ } : FindQuery)
      failure := none
      seen := [⟨.find, "filter[where][age][gte]", "18"⟩, ⟨.find, "filter[where][age][gte]", "21"⟩,
        ⟨.find, "filter[limit]", "5"⟩] } ∧
    QueryKind.find.read {} (Values.ofPairs (pairs ++ [("filter[limit]", "x")])) = {
      descriptor := ({ conditions, limit := some ⟨5⟩ } : FindQuery)
      failure := some (.invalidNumber .limit "x" .invalidDigit)
      seen := [⟨.find, "filter[where][age][gte]", "18"⟩, ⟨.find, "filter[where][age][gte]", "21"⟩,
        ⟨.find, "filter[limit]", "5"⟩, ⟨.find, "filter[limit]", "x"⟩] } := by
  constructor
  · rw [(read_ofPairs .find _ _).1 (by decide +kernel)]
    decide +kernel
  · rw [(read_ofPairs .find _ _).2.1
      [⟨⟨"where", ["age", "gte"]⟩, "filter[where][age][gte]", "18"⟩,
        ⟨⟨"where", ["age", "gte"]⟩, "filter[where][age][gte]", "21"⟩,
        ⟨⟨"limit", []⟩, "filter[limit]", "5"⟩]
      ⟨⟨"limit", []⟩, "filter[limit]", "x"⟩ [] (.invalidNumber .limit "x" .invalidDigit)
      (by decide +kernel) (by decide +kernel) (by decide +kernel)]
    decide +kernel

end QueryKind

end SchemaLens.Query
