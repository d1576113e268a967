/-!
# Sets of code points

A set of characters given by the ranges of code points that make it up. The tables of Unicode
properties are values of this type, and every character class of the library is a test against
one of them. They are those of Unicode 15.0: what a later version assigns counts as unassigned.
-/

namespace SchemaLens.Text

/-- A set of code points, as the inclusive ranges that make it up. -/
abbrev CodePointSet := List (Nat × Nat)

namespace CodePointSet

/-- Whether a character lies in one of the ranges. -/
def includes (codePoints : CodePointSet) (character : Char) : Bool :=
  codePoints.any fun range => range.1 ≤ character.toNat && character.toNat ≤ range.2

theorem includes_iff (codePoints : CodePointSet) (character : Char) :
    codePoints.includes character = true ↔
      ∃ range ∈ codePoints, range.1 ≤ character.toNat ∧ character.toNat ≤ range.2 := by
  simp [includes]

end CodePointSet

end SchemaLens.Text
