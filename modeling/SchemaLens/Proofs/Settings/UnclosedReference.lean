import SchemaLens.Proofs.Settings.Expansion

/-!
# References that are never closed

A name in braces that is never closed reaches to the end of the text, where it is taken as if the
closing brace stood there. So the brace that is missing is not what a template fails for: a template
with such a reference fails only if it would fail with the reference closed, and if the rest of the
text happens to be the name of a variable that is set, it stands for its value.
-/

namespace SchemaLens.Settings

variable {text name : List Char} {pieces : List TemplatePiece} {template : String}
  {valueOf? : String → Option String}

/-! ## Pieces with and without the brace -/

theorem scans_unclosed (reached : Scans text pieces ('$' :: '\x7b' :: name))
    (never_closed : '\x7d' ∉ name) : Scans text (pieces ++ [.braced name]) [] :=
  reached.andThen (.next (.unclosed never_closed) (.start []))

/-- A closing brace at the end of the text makes no other pieces of it. -/
theorem scans_closed (reached : Scans text pieces ('$' :: '\x7b' :: name))
    (never_closed : '\x7d' ∉ name) : Scans (text ++ ['\x7d']) (pieces ++ [.braced name]) [] :=
  (reached.append (List.cons_ne_nil _ _) ['\x7d']).andThen
    (.next (.closed never_closed) (.start []))

theorem TemplatePiece.braced_standsFor_iff {value : List Char} :
    (braced name).StandsFor valueOf? value ↔
      name ≠ [] ∧ ∃ set, valueOf? (String.ofList name) = some set ∧ value = set.toList := by
  constructor
  · rintro ⟨⟩
    exact ⟨‹_›, _, ‹_›, rfl⟩
  · rintro ⟨named, set, found, rfl⟩
    exact .braced named found

theorem TemplatePiece.braced_fails_iff :
    (∃ error, (braced name).Fails valueOf? template error) ↔
      name = [] ∨ valueOf? (String.ofList name) = none := by
  constructor
  · rintro ⟨error, ⟨⟩⟩
    · exact .inl rfl
    · exact .inr ‹_›
  · intro unnamed_or_unset
    by_cases named : name = []
    · subst named
      exact ⟨_, .unnamed⟩
    · exact ⟨_, .braced named (unnamed_or_unset.resolve_left named)⟩

/-! ## Templates with and without the brace -/

theorem expandTemplate_unclosed_fails_iff
    (reached : Scans template.toList pieces ('$' :: '\x7b' :: name))
    (never_closed : '\x7d' ∉ name) :
    (∃ error, expandTemplate valueOf? template = .error error) ↔
      (∃ piece ∈ pieces, ∃ error, piece.Fails valueOf? template error) ∨
        name = [] ∨ valueOf? (String.ofList name) = none := by
  rw [expandTemplate_fails_iff (scans_unclosed reached never_closed),
    ← @TemplatePiece.braced_fails_iff name template]
  simp only [List.mem_append, List.mem_singleton, or_and_right, exists_or, exists_eq_left]

theorem expandTemplate_unclosed_eq_ok_iff
    (reached : Scans template.toList pieces ('$' :: '\x7b' :: name))
    (never_closed : '\x7d' ∉ name) {expanded : String} :
    expandTemplate valueOf? template = .ok expanded ↔
      ∃ texts value, List.Forall₂ (TemplatePiece.StandsFor valueOf?) pieces texts ∧
        name ≠ [] ∧ valueOf? (String.ofList name) = some value ∧
        expanded = String.ofList texts.flatten ++ value := by
  simp only [expandTemplate_eq_ok_iff (scans_unclosed reached never_closed),
    Traversal.forall₂_append_singleton_iff, TemplatePiece.braced_standsFor_iff]
  constructor
  · rintro ⟨_, ⟨front, _, stand, ⟨named, value, set, rfl⟩, rfl⟩, rfl⟩
    exact ⟨front, value, stand, named, set, by simp⟩
  · rintro ⟨front, value, stand, named, set, rfl⟩
    exact ⟨_, ⟨front, _, stand, ⟨named, value, set, rfl⟩, rfl⟩, by simp⟩

/-- The pieces of a template are the same with the closing brace that it lacks. -/
theorem expandTemplate_append_brace
    (reached : Scans template.toList pieces ('$' :: '\x7b' :: name))
    (never_closed : '\x7d' ∉ name) {expanded : String} :
    expandTemplate valueOf? (template ++ "\x7d") = .ok expanded ↔
      expandTemplate valueOf? template = .ok expanded := by
  have with_brace : Scans (template ++ "\x7d").toList (pieces ++ [.braced name]) [] := by
    rw [String.toList_append]
    exact scans_closed reached never_closed
  rw [expandTemplate_eq_ok_iff with_brace,
    expandTemplate_eq_ok_iff (scans_unclosed reached never_closed)]

/--
A template that ends in a reference that is never closed is expanded as if it were closed. It fails
only if a piece before that reference does, or if the rest of the text is empty or the name of no
variable that is set.
-/
theorem expandTemplate_unclosed (reached : Scans template.toList pieces ('$' :: '\x7b' :: name))
    (never_closed : '\x7d' ∉ name) (valueOf? : String → Option String) :
    ((∃ error, expandTemplate valueOf? template = .error error) ↔
        (∃ piece ∈ pieces, ∃ error, piece.Fails valueOf? template error) ∨
          name = [] ∨ valueOf? (String.ofList name) = none) ∧
      (∀ expanded, expandTemplate valueOf? template = .ok expanded ↔
        ∃ texts value, List.Forall₂ (TemplatePiece.StandsFor valueOf?) pieces texts ∧
          name ≠ [] ∧ valueOf? (String.ofList name) = some value ∧
          expanded = String.ofList texts.flatten ++ value) ∧
      ∀ expanded, expandTemplate valueOf? (template ++ "\x7d") = .ok expanded ↔
        expandTemplate valueOf? template = .ok expanded :=
  ⟨expandTemplate_unclosed_fails_iff reached never_closed,
    fun _ => expandTemplate_unclosed_eq_ok_iff reached never_closed,
    fun _ => expandTemplate_append_brace reached never_closed⟩

/-- A password is replaced with the closing brace and without it, and missed if it is not set. -/
theorem expandTemplate_unclosed_password :
    let template := "$USER:$\x7bPASS"
    let pieces : List TemplatePiece := [.bare "USER".toList, .literal ':']
    let both : String → Option String := fun name =>
      if name = "USER" then some "app" else if name = "PASS" then some "$x" else none
    let user : String → Option String := fun name => if name = "USER" then some "app" else none
    Scans template.toList pieces ('$' :: '\x7b' :: "PASS".toList) ∧ '\x7d' ∉ "PASS".toList ∧
      expandTemplate both template = .ok "app:$x" ∧
      expandTemplate both (template ++ "\x7d") = .ok "app:$x" ∧
      ∃ error, expandTemplate user template = .error error := by
  intro template pieces both user
  have reached : Scans template.toList pieces ('$' :: '\x7b' :: "PASS".toList) := by
    have text_eq : template.toList =
        '$' :: ("USER".toList ++ ':' :: '$' :: '\x7b' :: "PASS".toList) := by
      decide +kernel
    have kept : ∀ character ∈ "USER".toList, isNameCharacter character = true :=
      List.all_eq_true.mp (by decide +kernel)
    have colon : isNameCharacter ':' = false := by decide +kernel
    rw [text_eq]
    exact .next (.bare (by decide) kept (by simpa using colon))
      (.next (.ordinary (by decide)) (.start _))
  have never_closed : '\x7d' ∉ "PASS".toList := by decide
  have with_both := expandTemplate_unclosed reached never_closed both
  have with_user := expandTemplate_unclosed reached never_closed user
  have user_stands : (TemplatePiece.bare "USER".toList).StandsFor both "app".toList :=
    .bare (by decide +kernel)
  have expanded : expandTemplate both template = .ok "app:$x" :=
    (with_both.2.1 _).mpr ⟨_, "$x", .cons user_stands (.cons (.literal ':') .nil), by decide,
      by decide +kernel, by decide +kernel⟩
  exact ⟨reached, never_closed, expanded, (with_both.2.2 _).mpr expanded,
    with_user.1.mpr (.inr (.inr (by decide +kernel)))⟩

/-- The host of a connection is replaced although its reference is never closed. -/
theorem expandTemplate_host_never_closed :
    let valueOf? : String → Option String := fun name =>
      if name = "PGHOST" then some "db.internal" else none
    (∃ pieces, Scans "postgres://app@$\x7bPGHOST".toList pieces
        ('$' :: '\x7b' :: "PGHOST".toList)) ∧
      '\x7d' ∉ "PGHOST".toList ∧
      expandTemplate valueOf? "postgres://app@$\x7bPGHOST" = .ok "postgres://app@db.internal" ∧
      ¬∃ error, expandTemplate valueOf? "postgres://app@$\x7bPGHOST" = .error error := by
  intro valueOf?
  have no_dollar : '$' ∉ "postgres://app@".toList := by decide
  have reached : Scans "postgres://app@$\x7bPGHOST".toList ("postgres://app@".toList.map .literal)
      ('$' :: '\x7b' :: "PGHOST".toList) := scans_ordinary no_dollar _
  have never_closed : '\x7d' ∉ "PGHOST".toList := by decide
  have expanded : expandTemplate valueOf? "postgres://app@$\x7bPGHOST" =
      .ok "postgres://app@db.internal" :=
    (expandTemplate_unclosed_eq_ok_iff reached never_closed).mpr
      ⟨_, "db.internal", literals_standFor _, by decide, by decide +kernel, by decide +kernel⟩
  refine ⟨⟨_, reached⟩, never_closed, expanded, ?_⟩
  rintro ⟨error, failed⟩
  exact absurd (failed.symm.trans expanded) nofun

end SchemaLens.Settings
