import Mathlib.Data.List.Basic
import Mathlib.Data.List.TakeWhile
import SchemaLens.Proofs.Text.WhiteSpace
import SchemaLens.Settings.Template

/-!
# Scanned templates

How a template is read from left to right, told without saying how a reader does it: what piece a
text starts with, and what stands behind that piece. A name in braces ends at the first closing
brace, a name without braces is as long as it can be, and a dollar sign with neither behind it
stands alone. These leave one way only to read a text, from its start to its end, and the pieces
that a template is cut into are the ones read in this way.
-/

namespace SchemaLens.Settings

/-- The piece that a text starts with, and what stands behind it. -/
inductive StartsWith : List Char → TemplatePiece → List Char → Prop
  | ordinary {character : Char} {behind : List Char} (no_dollar : character ≠ '$') :
      StartsWith (character :: behind) (.literal character) behind
  | lone {behind : List Char} (no_brace : '\x7b' ∉ behind.head?)
      (no_name : ∀ next ∈ behind.head?, isNameCharacter next = false) :
      StartsWith ('$' :: behind) (.literal '$') behind
  | closed {name behind : List Char} (no_brace : '\x7d' ∉ name) :
      StartsWith ('$' :: '\x7b' :: (name ++ '\x7d' :: behind)) (.braced name) behind
  | unclosed {name : List Char} (no_brace : '\x7d' ∉ name) :
      StartsWith ('$' :: '\x7b' :: name) (.braced name) []
  | bare {name behind : List Char} (not_empty : name ≠ [])
      (kept : ∀ character ∈ name, isNameCharacter character = true)
      (longest : ∀ next ∈ behind.head?, isNameCharacter next = false) :
      StartsWith ('$' :: (name ++ behind)) (.bare name) behind

/-- The pieces read of a text one after the other, and what is left of it behind them. -/
inductive Scans : List Char → List TemplatePiece → List Char → Prop
  | start (text : List Char) : Scans text [] text
  | next {text behind rest : List Char} {piece : TemplatePiece} {pieces : List TemplatePiece}
      (first : StartsWith text piece behind) (others : Scans behind pieces rest) :
      Scans text (piece :: pieces) rest

/-! ## Names -/

variable {text name behind rest : List Char} {piece : TemplatePiece}
  {pieces : List TemplatePiece}

theorem ne_brace_of_mem (no_brace : '\x7d' ∉ name) :
    ∀ character ∈ name, decide (character ≠ '\x7d') = true := by
  intro character mem
  rw [decide_eq_true_eq]
  rintro rfl
  exact no_brace mem

theorem takeWhile_of_closed (no_brace : '\x7d' ∉ name) (behind : List Char) :
    (name ++ '\x7d' :: behind).takeWhile (· ≠ '\x7d') = name :=
  Text.takeWhile_append_of_ended (ne_brace_of_mem no_brace) (by simp)

theorem dropWhile_of_closed (no_brace : '\x7d' ∉ name) (behind : List Char) :
    (name ++ '\x7d' :: behind).dropWhile (· ≠ '\x7d') = '\x7d' :: behind :=
  Text.dropWhile_append_of_ended (ne_brace_of_mem no_brace) (by simp)

theorem takeWhile_of_unclosed (no_brace : '\x7d' ∉ name) :
    name.takeWhile (· ≠ '\x7d') = name :=
  List.takeWhile_eq_self_iff.mpr (ne_brace_of_mem no_brace)

theorem dropWhile_of_unclosed (no_brace : '\x7d' ∉ name) :
    name.dropWhile (· ≠ '\x7d') = [] :=
  List.dropWhile_eq_nil_iff.mpr (ne_brace_of_mem no_brace)

theorem notMem_takeWhile (text : List Char) : '\x7d' ∉ text.takeWhile (· ≠ '\x7d') := by
  intro mem
  have kept := Text.kept_takeWhile (· ≠ '\x7d') text _ mem
  simp at kept

theorem brace_ne_of_nameCharacter {next : Char} (inside : isNameCharacter next = true) :
    next ≠ '\x7b' := by
  rintro rfl
  exact absurd inside (by decide +kernel)

/-! ## Steps -/

theorem templatePieces_brace (inside : List Char) :
    templatePieces ('$' :: '\x7b' :: inside) =
      .braced (inside.takeWhile (· ≠ '\x7d')) ::
        templatePieces ((inside.dropWhile (· ≠ '\x7d')).drop 1) := by
  rw [templatePieces]

theorem templatePieces_of_startsWith (first : StartsWith text piece behind) :
    templatePieces text = piece :: templatePieces behind := by
  cases first with
  | ordinary no_dollar =>
      rw [templatePieces]
      · intro rest same
        exact absurd same no_dollar
      · exact no_dollar
  | lone no_brace no_name =>
      have stops : behind.takeWhile isNameCharacter = [] :=
        Text.takeWhile_append_of_ended (List.forall_mem_nil _) no_name
      rw [templatePieces]
      · simp [stops]
      · rintro rest rfl
        exact no_brace rfl
  | closed no_brace =>
      rw [templatePieces_brace, takeWhile_of_closed no_brace, dropWhile_of_closed no_brace]
      rfl
  | unclosed no_brace =>
      rw [templatePieces_brace, takeWhile_of_unclosed no_brace, dropWhile_of_unclosed no_brace]
      rfl
  | bare not_empty kept longest =>
      rename_i name
      rw [templatePieces]
      · simp only [Text.takeWhile_append_of_ended kept longest,
          Text.dropWhile_append_of_ended kept longest]
        simp [not_empty]
      · intro rest same
        cases name with
        | nil => exact not_empty rfl
        | cons character others =>
            have inside := kept character List.mem_cons_self
            exact brace_ne_of_nameCharacter inside (List.cons.inj same).1

theorem startsWith_braced (inside : List Char) :
    StartsWith ('$' :: '\x7b' :: inside) (.braced (inside.takeWhile (· ≠ '\x7d')))
      ((inside.dropWhile (· ≠ '\x7d')).drop 1) := by
  have no_brace := notMem_takeWhile inside
  have split := List.takeWhile_append_dropWhile (p := (· ≠ '\x7d')) (l := inside)
  cases closing : inside.dropWhile (· ≠ '\x7d') with
  | nil =>
      rw [closing, List.append_nil] at split
      rw [split] at no_brace ⊢
      exact .unclosed no_brace
  | cons brace behind =>
      have brace_eq : brace = '\x7d' := by
        have ends := Text.ended_dropWhile (· ≠ '\x7d') inside brace (by rw [closing]; rfl)
        simpa using ends
      have closed : StartsWith
          ('$' :: '\x7b' :: (inside.takeWhile (· ≠ '\x7d') ++ '\x7d' :: behind))
          (.braced (inside.takeWhile (· ≠ '\x7d'))) behind := .closed no_brace
      rw [closing, brace_eq] at split
      rwa [split] at closed

/-- The pieces that a text is cut into are read of it to its end. -/
theorem scans_templatePieces (text : List Char) : Scans text (templatePieces text) [] := by
  fun_induction templatePieces text with
  | case1 => exact .start []
  | case2 inside ih => exact .next (startsWith_braced inside) ih
  | case3 behind no_brace name empty ih =>
      refine .next (.lone ?_ ?_) ih
      · intro opening
        rcases List.head?_eq_some_iff.mp opening with ⟨inside, rfl⟩
        exact no_brace inside rfl
      · have unnamed : behind.takeWhile isNameCharacter = [] := List.isEmpty_iff.mp empty
        have ends := Text.ended_dropWhile isNameCharacter behind
        have split := List.takeWhile_append_dropWhile (p := isNameCharacter) (l := behind)
        rw [unnamed, List.nil_append] at split
        rwa [split] at ends
  | case4 behind no_brace name not_empty ih =>
      have named : behind.takeWhile isNameCharacter ≠ [] := by simpa [name] using not_empty
      have bare := StartsWith.bare named (Text.kept_takeWhile isNameCharacter behind)
        (Text.ended_dropWhile isNameCharacter behind)
      rw [List.takeWhile_append_dropWhile] at bare
      exact .next bare ih
  | case5 character behind no_reference no_dollar ih => exact .next (.ordinary no_dollar) ih

theorem templatePieces_of_scans (scans : Scans text pieces rest) :
    templatePieces text = pieces ++ templatePieces rest := by
  induction scans with
  | start => rfl
  | next first _ ih => rw [templatePieces_of_startsWith first, ih, List.cons_append]

/-- There is one way only to read a text from its start to its end. -/
theorem scans_nil_iff : Scans text pieces [] ↔ pieces = templatePieces text := by
  constructor
  · intro scans
    rw [templatePieces_of_scans scans, templatePieces, List.append_nil]
  · rintro rfl
    exact scans_templatePieces text

/-- Characters that are no dollar signs are read one by one. -/
theorem scans_ordinary {front : List Char} (no_dollar : '$' ∉ front) (rest : List Char) :
    Scans (front ++ rest) (front.map .literal) rest := by
  induction front with
  | nil => exact .start rest
  | cons character others ih =>
      rw [List.mem_cons, not_or] at no_dollar
      exact .next (.ordinary (Ne.symm no_dollar.1)) (ih no_dollar.2)

/-! ## Texts that go on -/

variable {middle : List Char} {others : List TemplatePiece}

theorem StartsWith.ne_nil (first : StartsWith text piece behind) : text ≠ [] := by
  cases first <;> exact List.cons_ne_nil _ _

/-- A text that goes on starts with the same piece, unless that piece was ended by the end of it. -/
theorem StartsWith.append (first : StartsWith text piece behind) (left : behind ≠ [])
    (more : List Char) : StartsWith (text ++ more) piece (behind ++ more) := by
  have head_eq : (behind ++ more).head? = behind.head? := List.head?_append_of_ne_nil behind left
  cases first with
  | ordinary no_dollar => exact .ordinary no_dollar
  | lone no_brace no_name => exact .lone (head_eq ▸ no_brace) (head_eq ▸ no_name)
  | closed no_brace =>
      simp only [List.cons_append, List.append_assoc]
      exact .closed no_brace
  | unclosed => exact absurd rfl left
  | bare not_empty kept longest =>
      rw [List.cons_append, List.append_assoc]
      exact .bare not_empty kept (head_eq ▸ longest)

theorem Scans.ne_nil (scans : Scans text pieces rest) (left : rest ≠ []) : text ≠ [] := by
  cases scans with
  | start => exact left
  | next first _ => exact first.ne_nil

theorem Scans.append (scans : Scans text pieces rest) (left : rest ≠ []) (more : List Char) :
    Scans (text ++ more) pieces (rest ++ more) := by
  induction scans with
  | start text => exact .start (text ++ more)
  | next first others ih => exact .next (first.append (others.ne_nil left) more) (ih left)

theorem Scans.andThen (scans : Scans text pieces middle) (next : Scans middle others rest) :
    Scans text (pieces ++ others) rest := by
  induction scans with
  | start => exact next
  | next first _ ih => exact .next first (ih next)

end SchemaLens.Settings
