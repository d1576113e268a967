import Mathlib.Data.List.Forall2

/-!
# Traversals that may fail

The members of a list dealt with one after the other, each of them with a result or a failure. The
first member that fails ends the traversal, so what would become of the members behind it makes no
difference.
-/

namespace SchemaLens.Traversal

universe u v

variable {Source : Type u} {Target Failure : Type v} {act : Source → Except Failure Target}
  {sources : List Source}

theorem forall₂_append_singleton_iff {Related : Source → Target → Prop} {source : Source}
    {targets : List Target} :
    List.Forall₂ Related (sources ++ [source]) targets ↔
      ∃ front last, List.Forall₂ Related sources front ∧ Related source last ∧
        targets = front ++ [last] := by
  induction sources generalizing targets with
  | nil => simp [List.forall₂_cons_left_iff]
  | cons first others ih =>
      simp only [List.cons_append, List.forall₂_cons_left_iff, ih]
      constructor
      · rintro ⟨target, _, given, ⟨front, last, all_given, last_given, rfl⟩, rfl⟩
        exact ⟨target :: front, last, ⟨target, front, given, all_given, rfl⟩, last_given, rfl⟩
      · rintro ⟨_, last, ⟨target, front, given, all_given, rfl⟩, last_given, rfl⟩
        exact ⟨target, front ++ [last], given, ⟨front, last, all_given, last_given, rfl⟩, rfl⟩

theorem mapM_cons_of_ok {source : Source} {target : Target} (given : act source = .ok target)
    (others : List Source) :
    (source :: others).mapM act = (others.mapM act).map (target :: ·) := by
  rw [List.mapM_cons, given]
  cases others.mapM act <;> rfl

theorem mapM_cons_of_error {source : Source} {failure : Failure}
    (refused : act source = .error failure) (others : List Source) :
    (source :: others).mapM act = .error failure := by
  rw [List.mapM_cons, refused]
  rfl

theorem mapM_of_forall₂ {targets : List Target}
    (all_given : List.Forall₂ (fun source target => act source = .ok target) sources targets) :
    sources.mapM act = .ok targets := by
  induction all_given with
  | nil => rfl
  | cons given _ ih => rw [mapM_cons_of_ok given, ih, Except.map]

theorem mapM_of_first_failure {before : List Source} {source : Source} {failure : Failure}
    (passed : ∀ earlier ∈ before, ∃ target, act earlier = .ok target)
    (refused : act source = .error failure) (after : List Source) :
    (before ++ source :: after).mapM act = .error failure := by
  induction before with
  | nil => exact mapM_cons_of_error refused after
  | cons first others ih =>
      rw [List.forall_mem_cons] at passed
      rcases passed.1 with ⟨target, given⟩
      rw [List.cons_append, mapM_cons_of_ok given, ih passed.2, Except.map]

theorem all_given_or_first_failure (act : Source → Except Failure Target)
    (sources : List Source) :
    (∃ targets, List.Forall₂ (fun source target => act source = .ok target) sources targets) ∨
      ∃ before source after failure, sources = before ++ source :: after ∧
        (∀ earlier ∈ before, ∃ target, act earlier = .ok target) ∧
        act source = .error failure := by
  induction sources with
  | nil => exact .inl ⟨[], .nil⟩
  | cons first others ih =>
      cases given : act first with
      | error failure =>
          exact .inr ⟨[], first, others, failure, rfl, List.forall_mem_nil _, given⟩
      | ok target =>
          rcases ih with
            ⟨targets, all_given⟩ | ⟨before, source, after, failure, rfl, passed, refused⟩
          · exact .inl ⟨target :: targets, .cons given all_given⟩
          · refine .inr ⟨first :: before, source, after, failure, rfl, ?_, refused⟩
            exact List.forall_mem_cons.mpr ⟨⟨target, given⟩, passed⟩

theorem mapM_eq_ok_iff {targets : List Target} :
    sources.mapM act = .ok targets ↔
      List.Forall₂ (fun source target => act source = .ok target) sources targets := by
  refine ⟨fun traversed => ?_, mapM_of_forall₂⟩
  rcases all_given_or_first_failure act sources with
    ⟨others, all_given⟩ | ⟨before, source, after, failure, rfl, passed, refused⟩
  · rw [mapM_of_forall₂ all_given] at traversed
    rwa [← Except.ok.inj traversed]
  · rw [mapM_of_first_failure passed refused] at traversed
    contradiction

/-- A traversal fails as the first member that fails does. -/
theorem mapM_eq_error_iff {failure : Failure} :
    sources.mapM act = .error failure ↔
      ∃ before source after, sources = before ++ source :: after ∧
        (∀ earlier ∈ before, ∃ target, act earlier = .ok target) ∧
        act source = .error failure := by
  constructor
  · intro traversed
    rcases all_given_or_first_failure act sources with
      ⟨targets, all_given⟩ | ⟨before, source, after, found, split, passed, refused⟩
    · rw [mapM_of_forall₂ all_given] at traversed
      contradiction
    · rw [split, mapM_of_first_failure passed refused] at traversed
      exact ⟨before, source, after, split, passed, Except.error.inj traversed ▸ refused⟩
  · rintro ⟨before, source, after, rfl, passed, refused⟩
    exact mapM_of_first_failure passed refused after

theorem mapM_fails_iff :
    (∃ failure, sources.mapM act = .error failure) ↔
      ∃ source ∈ sources, ∃ failure, act source = .error failure := by
  constructor
  · rintro ⟨failure, traversed⟩
    rcases mapM_eq_error_iff.mp traversed with ⟨before, source, after, rfl, -, refused⟩
    exact ⟨source, List.mem_append_right before List.mem_cons_self, failure, refused⟩
  · rintro ⟨source, mem, failure, refused⟩
    rcases List.mem_iff_append.mp mem with ⟨before, after, rfl⟩
    cases traversed : (before ++ source :: after).mapM act with
    | error found => exact ⟨found, rfl⟩
    | ok targets =>
        rw [List.mapM_append, List.mapM_cons, refused] at traversed
        cases earlier : before.mapM act <;> rw [earlier] at traversed <;> contradiction

/-- What is done about members behind the first one that fails makes no difference. -/
theorem mapM_congr_until_failure {other : Source → Except Failure Target}
    (agree : ∀ before source after, sources = before ++ source :: after →
      (∀ earlier ∈ before, ∃ target, act earlier = .ok target) → act source = other source) :
    sources.mapM act = sources.mapM other := by
  induction sources with
  | nil => rfl
  | cons first others ih =>
      have first_agrees := agree [] first others rfl (List.forall_mem_nil _)
      cases given : act first with
      | error failure =>
          rw [mapM_cons_of_error given, mapM_cons_of_error (first_agrees.symm.trans given)]
      | ok target =>
          rw [mapM_cons_of_ok given, mapM_cons_of_ok (first_agrees.symm.trans given), ih]
          rintro before source after rfl passed
          exact agree (first :: before) source after rfl
            (List.forall_mem_cons.mpr ⟨⟨target, given⟩, passed⟩)

end SchemaLens.Traversal
