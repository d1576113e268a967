import SchemaLens.Query.Error
import SchemaLens.Text.Utf8

/-!
# Numerals of counts

Counts read byte by byte with numbers of 64 bits. Every product and every sum is checked, except in
a numeral that is too short to leave these numbers. A numeral may start with a plus sign, but the
value of a count may not: such a value is read as the sign alone.
-/

namespace SchemaLens.Query.Numeral

def plus : UInt8 := 0x2B

def minus : UInt8 := 0x2D

/-- The digit that a byte stands for. -/
def digit? (byte : UInt8) : Option UInt64 :=
  if 0x30 ≤ byte.toNat ∧ byte.toNat ≤ 0x39 then some (UInt64.ofNat (byte.toNat - 0x30)) else none

/-- The product of two numbers, if it has 64 bits. -/
def product? (left right : UInt64) : Option UInt64 :=
  if left.toNat * right.toNat < UInt64.size then some (left * right) else none

/-- The sum of two numbers, if it has 64 bits. -/
def sum? (left right : UInt64) : Option UInt64 :=
  if left.toNat + right.toNat < UInt64.size then some (left + right) else none

/-- Reads digits after a number, which may wrap around. -/
def wrapping (number : UInt64) : List UInt8 → Except CountFault UInt64
  | [] => .ok number
  | byte :: rest =>
    let product := number * 10
    match digit? byte with
    | none => .error .invalidDigit
    | some digit => wrapping (product + digit) rest

/-- Reads digits after a number. Of two faults at one byte, that it is no digit is told. -/
def checked (number : UInt64) : List UInt8 → Except CountFault UInt64
  | [] => .ok number
  | byte :: rest =>
    let product? := product? number 10
    match digit? byte with
    | none => .error .invalidDigit
    | some digit =>
      match product?.bind (sum? · digit) with
      | none => .error .tooLarge
      | some extended => checked extended rest

/-- The greatest number of digits that are read without checks. -/
def uncheckedDigits : Nat := 16

def ofDigits (bytes : List UInt8) : Except CountFault UInt64 :=
  if bytes.length ≤ uncheckedDigits then wrapping 0 bytes else checked 0 bytes

def ofBytes : List UInt8 → Except CountFault UInt64
  | [] => .error .empty
  | first :: rest =>
    if rest.isEmpty && (first == plus || first == minus) then .error .invalidDigit
    else if first == plus then ofDigits rest
    else ofDigits (first :: rest)

/-- Reads the value of a count. -/
def parse (filterType : FilterType) (value : String) : Except FilterError UInt64 :=
  let numeral := if value.toList.head? = some '+' then ['+'] else value.toList
  (ofBytes (Text.Utf8.encode numeral)).mapError (.invalidNumber filterType value)

end SchemaLens.Query.Numeral
