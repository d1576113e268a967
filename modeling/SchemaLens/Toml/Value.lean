/-!
# TOML values

The values of a TOML document. A table remembers how it came about, because that decides what a
later line may still add to it.
-/

namespace SchemaLens.Toml

/-- How a table came about. -/
inductive Origin where
  /-- By a header of its own, or as the whole document. -/
  | header
  /-- On the way to a table with a header. -/
  | path
  /-- On the way to the value of a dotted key. -/
  | dotted
  /-- Between braces; nothing can be added to it. -/
  | inline
deriving DecidableEq, Repr

/-- Whether a table came about without being written itself. -/
def Origin.isImplicit : Origin → Bool
  | .path | .dotted => true
  | .header | .inline => false

/-- The size of a floating-point number: digits times a power of ten, or none if it is written as
infinity or as no number. -/
abbrev Magnitude := Option (Nat × Int)

/-- A value of a TOML document. -/
inductive Value where
  | string (text : List Char)
  | integer (value : Int)
  | float (magnitude : Magnitude)
  | boolean (value : Bool)
  | dateTime (literal : List Char)
  | array (elements : List Value)
  /-- Tables under one repeated header. -/
  | tables (elements : List Value)
  | table (origin : Origin) (members : List (String × Value))
deriving Repr, Inhabited

/-- The names of a table with their values. -/
abbrev Members := List (String × Value)

/-- Whether a number is so large that floating point rounds it to infinity. -/
def overflows : Magnitude → Bool
  | none => false
  | some (digits, exponent) =>
    let bound := Nat.pow 2 1024 - Nat.pow 2 970
    let places := (Nat.toDigits 10 digits).length
    if digits = 0 ∨ exponent + places < 309 then false
    else if 309 < exponent + places then true
    else if 0 ≤ exponent then bound ≤ digits * Nat.pow 10 exponent.toNat
    else bound * Nat.pow 10 (-exponent).toNat ≤ digits

mutual

/-- Whether every number inside a value can be represented: integers in 128 bits, the others in
floating point. -/
def Value.isRepresentable : Value → Bool
  | .integer value => -(Nat.pow 2 127 : Int) ≤ value && value < Nat.pow 2 128
  | .float magnitude => !overflows magnitude
  | .array elements | .tables elements => areRepresentable elements
  | .table _ members => membersRepresentable members
  | .string _ | .boolean _ | .dateTime _ => true

/-- Whether every number inside the elements can be represented. -/
def areRepresentable : List Value → Bool
  | [] => true
  | first :: others => first.isRepresentable && areRepresentable others

/-- Whether every number inside the members can be represented. -/
def membersRepresentable : List (String × Value) → Bool
  | [] => true
  | (_, first) :: others => first.isRepresentable && membersRepresentable others

end

end SchemaLens.Toml
