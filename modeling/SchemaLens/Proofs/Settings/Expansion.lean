import SchemaLens.Proofs.Data.Traversal
import SchemaLens.Proofs.Settings.TemplateScan
import SchemaLens.Settings.Expansion

/-!
# Expanded templates

What becomes of a template is told by its pieces in turn. If each of them stands for something, the
template stands for all of that in a row, and otherwise the first piece that stands for nothing says
what is wrong. So variables that come up behind that piece do not count, and no value is read as a
template again. Expanding a template while it is read comes to the same as cutting it into pieces
first.
-/

namespace SchemaLens.Settings

/-! ## Pieces -/

namespace TemplatePiece

/-- What a piece stands for, given the variables that are set. -/
inductive StandsFor (valueOf? : String → Option String) : TemplatePiece → List Char → Prop
  | literal (character : Char) : StandsFor valueOf? (.literal character) [character]
  | braced {name : List Char} {value : String} (named : name ≠ [])
      (set : valueOf? (String.ofList name) = some value) :
      StandsFor valueOf? (.braced name) value.toList
  | bare {name : List Char} {value : String} (set : valueOf? (String.ofList name) = some value) :
      StandsFor valueOf? (.bare name) value.toList

/-- What is wrong with a piece of a template, given the variables that are set. -/
inductive Fails (valueOf? : String → Option String) (template : String) :
    TemplatePiece → SettingsError → Prop
  | unnamed : Fails valueOf? template (.braced []) (.emptyReference template)
  | braced {name : List Char} (named : name ≠ []) (unset : valueOf? (String.ofList name) = none) :
      Fails valueOf? template (.braced name) (.missingVariable (String.ofList name))
  | bare {name : List Char} (unset : valueOf? (String.ofList name) = none) :
      Fails valueOf? template (.bare name) (.missingVariable (String.ofList name))

/-- The variable whose value a piece stands for. -/
inductive RefersTo : TemplatePiece → String → Prop
  | braced {name : List Char} (named : name ≠ []) : RefersTo (.braced name) (String.ofList name)
  | bare (name : List Char) : RefersTo (.bare name) (String.ofList name)

variable {valueOf? : String → Option String} {template : String} {piece : TemplatePiece}

theorem expand_braced {name : List Char} (named : name ≠ []) :
    (braced name).expand valueOf? template = (bare name).expand valueOf? template := by
  cases name with
  | nil => exact absurd rfl named
  | cons first others => rfl

theorem StandsFor.expand_eq {text : List Char} (stands : piece.StandsFor valueOf? text) :
    piece.expand valueOf? template = .ok text := by
  cases stands with
  | literal character => rfl
  | braced named set => rw [expand_braced named, TemplatePiece.expand, set]
  | bare set => rw [TemplatePiece.expand, set]

theorem Fails.expand_eq {error : SettingsError} (fails : piece.Fails valueOf? template error) :
    piece.expand valueOf? template = .error error := by
  cases fails with
  | unnamed => rfl
  | braced named unset => rw [expand_braced named, TemplatePiece.expand, unset]
  | bare unset => rw [TemplatePiece.expand, unset]

theorem standsFor_or_fails (valueOf? : String → Option String) (template : String)
    (piece : TemplatePiece) :
    (∃ text, piece.StandsFor valueOf? text) ∨ ∃ error, piece.Fails valueOf? template error := by
  cases piece with
  | literal character => exact .inl ⟨_, .literal character⟩
  | braced name =>
      by_cases named : name = []
      · subst named
        exact .inr ⟨_, .unnamed⟩
      · cases found : valueOf? (String.ofList name) with
        | some value => exact .inl ⟨_, .braced named found⟩
        | none => exact .inr ⟨_, .braced named found⟩
  | bare name =>
      cases found : valueOf? (String.ofList name) with
      | some value => exact .inl ⟨_, .bare found⟩
      | none => exact .inr ⟨_, .bare found⟩

theorem expand_eq_ok_iff {text : List Char} :
    piece.expand valueOf? template = .ok text ↔ piece.StandsFor valueOf? text := by
  constructor
  · intro expanded
    rcases standsFor_or_fails valueOf? template piece with ⟨other, stands⟩ | ⟨error, fails⟩
    · rw [stands.expand_eq] at expanded
      rwa [← Except.ok.inj expanded]
    · rw [fails.expand_eq] at expanded
      contradiction
  · exact StandsFor.expand_eq

theorem expand_eq_error_iff {error : SettingsError} :
    piece.expand valueOf? template = .error error ↔ piece.Fails valueOf? template error := by
  constructor
  · intro refused
    rcases standsFor_or_fails valueOf? template piece with ⟨text, stands⟩ | ⟨other, fails⟩
    · rw [stands.expand_eq] at refused
      contradiction
    · rw [fails.expand_eq] at refused
      rwa [← Except.error.inj refused]
  · exact Fails.expand_eq

/-- A piece is expanded by the value of the variable it refers to and of no other. -/
theorem expand_congr {other? : String → Option String}
    (agree : ∀ name, piece.RefersTo name → valueOf? name = other? name) :
    piece.expand valueOf? template = piece.expand other? template := by
  cases piece with
  | literal character => rfl
  | braced name =>
      by_cases named : name = []
      · subst named
        rfl
      · rw [expand_braced named, expand_braced named, TemplatePiece.expand, TemplatePiece.expand,
          agree _ (.braced named)]
  | bare name =>
      rw [TemplatePiece.expand, TemplatePiece.expand, agree _ (.bare name)]

end TemplatePiece

/-! ## Pieces in turn -/

variable {valueOf? : String → Option String} {template : String} {pieces : List TemplatePiece}

theorem expandTemplate_eq (scans : Scans template.toList pieces []) :
    expandTemplate valueOf? template =
      (pieces.mapM (TemplatePiece.expand valueOf? template)).map
        fun texts => String.ofList texts.flatten := by
  rw [scans_nil_iff.mp scans, expandTemplate]
  cases (templatePieces template.toList).mapM (TemplatePiece.expand valueOf? template) <;> rfl

theorem mapM_expand_eq_ok_iff {texts : List (List Char)} :
    pieces.mapM (TemplatePiece.expand valueOf? template) = .ok texts ↔
      List.Forall₂ (TemplatePiece.StandsFor valueOf?) pieces texts := by
  rw [Traversal.mapM_eq_ok_iff]
  simp only [TemplatePiece.expand_eq_ok_iff]

theorem mapM_expand_eq_error_iff {error : SettingsError} :
    pieces.mapM (TemplatePiece.expand valueOf? template) = .error error ↔
      ∃ before piece after, pieces = before ++ piece :: after ∧
        (∀ earlier ∈ before, ∃ text, earlier.StandsFor valueOf? text) ∧
        piece.Fails valueOf? template error := by
  rw [Traversal.mapM_eq_error_iff]
  simp only [TemplatePiece.expand_eq_ok_iff, TemplatePiece.expand_eq_error_iff]

/-- The pieces of a template stand for what it is expanded to, one after the other. -/
theorem expandTemplate_eq_ok_iff (scans : Scans template.toList pieces []) {expanded : String} :
    expandTemplate valueOf? template = .ok expanded ↔
      ∃ texts, List.Forall₂ (TemplatePiece.StandsFor valueOf?) pieces texts ∧
        expanded = String.ofList texts.flatten := by
  rw [expandTemplate_eq scans]
  constructor
  · intro mapped
    cases traversed : pieces.mapM (TemplatePiece.expand valueOf? template) with
    | error error =>
        rw [traversed] at mapped
        contradiction
    | ok texts =>
        rw [traversed] at mapped
        exact ⟨texts, mapM_expand_eq_ok_iff.mp traversed, (Except.ok.inj mapped).symm⟩
  · rintro ⟨texts, stand, rfl⟩
    rw [mapM_expand_eq_ok_iff.mpr stand]
    rfl

/-- A template fails as the first of its pieces that fails does. -/
theorem expandTemplate_eq_error_iff (scans : Scans template.toList pieces [])
    {error : SettingsError} :
    expandTemplate valueOf? template = .error error ↔
      ∃ before piece after, pieces = before ++ piece :: after ∧
        (∀ earlier ∈ before, ∃ text, earlier.StandsFor valueOf? text) ∧
        piece.Fails valueOf? template error := by
  rw [expandTemplate_eq scans, ← mapM_expand_eq_error_iff]
  cases pieces.mapM (TemplatePiece.expand valueOf? template) <;> simp [Except.map]

theorem expandTemplate_fails_iff (scans : Scans template.toList pieces []) :
    (∃ error, expandTemplate valueOf? template = .error error) ↔
      ∃ piece ∈ pieces, ∃ error, piece.Fails valueOf? template error := by
  simp only [← TemplatePiece.expand_eq_error_iff, ← Traversal.mapM_fails_iff,
    expandTemplate_eq scans]
  cases pieces.mapM (TemplatePiece.expand valueOf? template) <;> simp [Except.map]

/-- Variables behind the first piece that fails do not count. -/
theorem expandTemplate_congr (scans : Scans template.toList pieces [])
    {other? : String → Option String}
    (agree : ∀ before piece after name, pieces = before ++ piece :: after →
      (∀ earlier ∈ before, ∃ text, earlier.StandsFor valueOf? text) → piece.RefersTo name →
      valueOf? name = other? name) :
    expandTemplate valueOf? template = expandTemplate other? template := by
  rw [expandTemplate_eq scans, expandTemplate_eq scans]
  congr 1
  apply Traversal.mapM_congr_until_failure
  intro before piece after split passed
  simp only [TemplatePiece.expand_eq_ok_iff] at passed
  exact TemplatePiece.expand_congr fun name refers =>
    agree before piece after name split passed refers

theorem literals_standFor (text : List Char) :
    List.Forall₂ (TemplatePiece.StandsFor valueOf?) (text.map .literal) (text.map ([·])) := by
  rw [List.forall₂_map_left_iff, List.forall₂_map_right_iff, List.forall₂_same]
  exact fun character _ => .literal character

theorem expandTemplate_of_no_dollar (valueOf? : String → Option String)
    (no_dollar : '$' ∉ template.toList) : expandTemplate valueOf? template = .ok template := by
  have scans := scans_ordinary no_dollar []
  rw [List.append_nil] at scans
  rw [expandTemplate_eq_ok_iff scans]
  refine ⟨template.toList.map ([·]), literals_standFor template.toList, ?_⟩
  rw [← List.flatMap_def, List.flatMap_singleton', String.ofList_toList]

/-! ## One pass -/

namespace Expansion

theorem takeBraced_eq (text : List Char) :
    takeBraced text = (text.takeWhile (· ≠ '\x7d'), (text.dropWhile (· ≠ '\x7d')).drop 1) := by
  induction text with
  | nil => rfl
  | cons character rest ih =>
      rw [takeBraced]
      by_cases closes : character = '\x7d'
      · simp [closes]
      · simp [closes, ih]

theorem takeBare_eq (text : List Char) :
    takeBare text = (text.takeWhile isNameCharacter, text.dropWhile isNameCharacter) := by
  induction text with
  | nil => rfl
  | cons character rest ih =>
      rw [takeBare]
      cases inside : isNameCharacter character
      · simp [inside]
      · simp [inside, ih]

theorem expand_bare (name : List Char) :
    (TemplatePiece.bare name).expand valueOf? template =
      (lookUp valueOf? name).map String.toList := by
  rw [TemplatePiece.expand, lookUp]
  cases valueOf? (String.ofList name) <;> rfl

variable {written text name behind rest : List Char} {piece : TemplatePiece}

theorem run_cons_of_ne {character : Char} (no_dollar : character ≠ '$') :
    run valueOf? template written (character :: behind) =
      run valueOf? template (written ++ [character]) behind := by
  rw [run, if_pos no_dollar]

theorem run_brace {inside : List Char} (taken : takeBraced inside = (name, behind)) :
    run valueOf? template written ('$' :: '\x7b' :: inside) =
      ((TemplatePiece.braced name).expand valueOf? template).bind fun value =>
        run valueOf? template (written ++ value) behind := by
  rw [run, if_neg (by simp), if_pos List.head?_cons, List.tail_cons, taken]
  cases name with
  | nil => rfl
  | cons first others =>
      rw [TemplatePiece.expand_braced (List.cons_ne_nil first others), expand_bare]
      simp only [List.isEmpty_cons, Bool.false_eq_true, if_false]
      cases lookUp valueOf? (first :: others) <;> rfl

theorem run_dollar (no_brace : '\x7b' ∉ text.head?) (taken : takeBare text = (name, behind)) :
    run valueOf? template written ('$' :: text) =
      if name = [] then run valueOf? template (written ++ ['$']) text
      else ((TemplatePiece.bare name).expand valueOf? template).bind fun value =>
        run valueOf? template (written ++ value) behind := by
  have not_opened : ¬text.head? = some '\x7b' := no_brace
  rw [run, if_neg (by simp), if_neg not_opened, taken]
  cases name with
  | nil => rfl
  | cons first others =>
      rw [if_neg (List.cons_ne_nil first others), expand_bare]
      simp only [List.isEmpty_cons, Bool.false_eq_true, if_false]
      cases lookUp valueOf? (first :: others) <;> rfl

/-- A pass writes what the first piece stands for and goes on behind it. -/
theorem run_of_startsWith (first : StartsWith text piece behind) :
    run valueOf? template written text =
      (piece.expand valueOf? template).bind fun value =>
        run valueOf? template (written ++ value) behind := by
  cases first with
  | ordinary no_dollar => exact run_cons_of_ne no_dollar
  | lone no_brace no_name =>
      have taken : takeBare behind = ([], behind) := by
        rw [takeBare_eq]
        exact congrArg₂ Prod.mk (Text.takeWhile_append_of_ended (List.forall_mem_nil _) no_name)
          (Text.dropWhile_append_of_ended (List.forall_mem_nil _) no_name)
      exact (run_dollar no_brace taken).trans (if_pos rfl)
  | closed no_brace =>
      apply run_brace
      rw [takeBraced_eq, takeWhile_of_closed no_brace, dropWhile_of_closed no_brace]
      rfl
  | unclosed no_brace =>
      apply run_brace
      rw [takeBraced_eq, takeWhile_of_unclosed no_brace, dropWhile_of_unclosed no_brace]
      rfl
  | bare not_empty kept longest =>
      rename_i name
      have taken : takeBare (name ++ behind) = (name, behind) := by
        rw [takeBare_eq, Text.takeWhile_append_of_ended kept longest,
          Text.dropWhile_append_of_ended kept longest]
      have no_brace : '\x7b' ∉ (name ++ behind).head? := by
        intro opening
        rw [List.head?_append_of_ne_nil _ not_empty] at opening
        exact brace_ne_of_nameCharacter (kept _ (List.mem_of_mem_head? opening)) rfl
      exact (run_dollar no_brace taken).trans (if_neg not_empty)

/-- A pass comes behind some pieces with what they stand for written, or fails as they do. -/
theorem run_of_scans (scans : Scans text pieces rest) :
    run valueOf? template written text =
      (pieces.mapM (TemplatePiece.expand valueOf? template)).bind fun texts =>
        run valueOf? template (written ++ texts.flatten) rest := by
  induction scans generalizing written with
  | start text => simp [pure, Except.pure, Except.bind]
  | next first others ih =>
      rename_i text behind rest piece pieces
      rw [run_of_startsWith first]
      cases expanded : piece.expand valueOf? template with
      | error error =>
          rw [Traversal.mapM_cons_of_error expanded]
          rfl
      | ok value =>
          rw [Traversal.mapM_cons_of_ok expanded, Except.bind, ih]
          cases pieces.mapM (TemplatePiece.expand valueOf? template) with
          | error error => rfl
          | ok texts => simp [Except.map, Except.bind]

theorem expand_eq_expandTemplate (valueOf? : String → Option String) (template : String) :
    expand valueOf? template = expandTemplate valueOf? template := by
  have scans := scans_templatePieces template.toList
  rw [expand, run_of_scans scans, expandTemplate_eq scans]
  cases (templatePieces template.toList).mapM (TemplatePiece.expand valueOf? template) with
  | error error => rfl
  | ok texts =>
      simp only [Except.bind, Except.map, List.nil_append]
      rw [run]

end Expansion

/--
A template is read in one way only. It is expanded to what its pieces stand for, and fails as the
first of them that fails does. Variables that no piece up to that one refers to make no difference,
and a text without a dollar sign is expanded to itself. One pass over the text comes to the same.
-/
theorem expandTemplate_one_pass (template : String) :
    ∃ pieces, (∀ others, Scans template.toList others [] ↔ others = pieces) ∧
      ∀ valueOf? : String → Option String,
        (∀ expanded, expandTemplate valueOf? template = .ok expanded ↔
          ∃ texts, List.Forall₂ (TemplatePiece.StandsFor valueOf?) pieces texts ∧
            expanded = String.ofList texts.flatten) ∧
        (∀ error, expandTemplate valueOf? template = .error error ↔
          ∃ before piece after, pieces = before ++ piece :: after ∧
            (∀ earlier ∈ before, ∃ text, earlier.StandsFor valueOf? text) ∧
            piece.Fails valueOf? template error) ∧
        (∀ other? : String → Option String,
          (∀ before piece after name, pieces = before ++ piece :: after →
            (∀ earlier ∈ before, ∃ text, earlier.StandsFor valueOf? text) →
            piece.RefersTo name → valueOf? name = other? name) →
          expandTemplate valueOf? template = expandTemplate other? template) ∧
        ('$' ∉ template.toList → expandTemplate valueOf? template = .ok template) ∧
        Expansion.expand valueOf? template = expandTemplate valueOf? template := by
  have scans := scans_templatePieces template.toList
  refine ⟨templatePieces template.toList, fun others => scans_nil_iff, fun valueOf? => ?_⟩
  refine ⟨?_, ?_, ?_, ?_, Expansion.expand_eq_expandTemplate valueOf? template⟩
  · exact fun expanded => expandTemplate_eq_ok_iff scans
  · exact fun error => expandTemplate_eq_error_iff scans
  · exact fun other? agree => expandTemplate_congr scans agree
  · exact expandTemplate_of_no_dollar valueOf?

/-- The value of a variable is not read as a template, dollar signs that follow each other stand
alone, and of two variables that are not set the first is told. -/
theorem expandTemplate_one_pass_dollars :
    let template := "$A-$$$\x7bB\x7dc$"
    let both : String → Option String := fun name =>
      if name = "A" then some "$B" else if name = "B" then some "x" else none
    let second : String → Option String := fun name => if name = "B" then some "x" else none
    Scans template.toList [.bare ['A'], .literal '-', .literal '$', .literal '$', .braced ['B'],
        .literal 'c', .literal '$'] [] ∧
      expandTemplate both template = .ok "$B-$$xc$" ∧
      expandTemplate second template = .error (.missingVariable "A") ∧
      expandTemplate (fun _ => none) template = expandTemplate second template := by
  intro template both second
  have scans : Scans template.toList [.bare ['A'], .literal '-', .literal '$', .literal '$',
      .braced ['B'], .literal 'c', .literal '$'] [] := by
    have text_eq : template.toList =
        '$' :: (['A'] ++ '-' :: '$' :: '$' :: '$' :: '\x7b' ::
          (['B'] ++ '\x7d' :: ['c', '$'])) := by
      decide +kernel
    have kept : ∀ character ∈ ['A'], isNameCharacter character = true :=
      List.all_eq_true.mp (by decide +kernel)
    have dash : isNameCharacter '-' = false := by decide +kernel
    have dollar : isNameCharacter '$' = false := by decide +kernel
    rw [text_eq]
    exact .next (.bare (by decide) kept (by simpa using dash))
      (.next (.ordinary (by decide)) (.next (.lone (by decide) (by simpa using dollar))
      (.next (.lone (by decide) (by simpa using dollar)) (.next (.closed (by decide))
      (.next (.ordinary (by decide)) (.next (.lone (by decide) nofun) (.start [])))))))
  rcases expandTemplate_one_pass template with ⟨pieces, unique, outcome⟩
  rcases (unique _).mp scans with rfl
  have unset : (TemplatePiece.bare ['A']).Fails second template (.missingVariable "A") :=
    .bare (by decide +kernel)
  refine ⟨scans, ?_, ?_, ?_⟩
  · have first_stands : (TemplatePiece.bare ['A']).StandsFor both "$B".toList :=
      .bare (by decide +kernel)
    have second_stands : (TemplatePiece.braced ['B']).StandsFor both "x".toList :=
      .braced (by decide) (by decide +kernel)
    refine ((outcome both).1 _).mpr ⟨_, .cons first_stands (.cons (.literal '-')
      (.cons (.literal '$') (.cons (.literal '$') (.cons second_stands (.cons (.literal 'c')
      (.cons (.literal '$') .nil)))))), by decide +kernel⟩
  · exact ((outcome second).2.1 _).mpr ⟨[], _, _, rfl, by simp, unset⟩
  · apply (outcome fun _ => none).2.2.1
    intro before piece after name split passed refers
    cases before with
    | nil =>
        rcases (List.cons.inj split).1 with rfl
        cases refers
        decide +kernel
    | cons first others =>
        rcases (List.cons.inj split).1 with rfl
        rcases passed _ List.mem_cons_self with ⟨text, ⟨⟩⟩
        contradiction

end SchemaLens.Settings
