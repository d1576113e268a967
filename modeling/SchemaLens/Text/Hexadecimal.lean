/-!
# Hexadecimal digits

Reading and writing numbers in base sixteen. Digits are read in either case and written in the
lower one.
-/

namespace SchemaLens.Text

/-- The value of a hexadecimal digit, in either case. -/
def hexDigit? (character : Char) : Option Nat :=
  if character.isDigit then some (character.toNat - '0'.toNat)
  else if 'a' ≤ character ∧ character ≤ 'f' then some (character.toNat - 'a'.toNat + 10)
  else if 'A' ≤ character ∧ character ≤ 'F' then some (character.toNat - 'A'.toNat + 10)
  else none

/-- The number that hexadecimal digits make. -/
def hexNumber? (digits : List Char) : Option Nat :=
  digits.foldlM (fun number digit => (hexDigit? digit).map (number * 16 + ·)) 0

/-- A number in lower-case hexadecimal, without leading zeros. -/
def hexadecimal (number : Nat) : List Char :=
  Nat.toDigits 16 number

end SchemaLens.Text
