import SchemaLens.Query.Values
import SchemaLens.Text.Hexadecimal
import SchemaLens.Text.Utf8

/-!
# Form encoding

The text form of query values: pairs joined by `&`, halves joined by `=`, spaces as `+` and any
byte as `%` with two hexadecimal digits. Reading never fails: an escape cut short stands for
itself, and bytes that are no UTF-8 are replaced.
-/

namespace SchemaLens.Query.FormEncoding

/-- The byte that two hexadecimal digits stand for. -/
def escapedByte? (high low : Char) : Option UInt8 := do
  let highDigit ← Text.hexDigit? high
  let lowDigit ← Text.hexDigit? low
  return UInt8.ofNat (highDigit * 16 + lowDigit)

/-- The bytes that a text stands for. -/
def bytes : List Char → List UInt8
  | [] => []
  | '+' :: rest => 0x20 :: bytes rest
  | '%' :: high :: low :: rest =>
    match escapedByte? high low with
    | some byte => byte :: bytes rest
    | none => 0x25 :: bytes (high :: low :: rest)
  | character :: rest => String.utf8EncodeChar character ++ bytes rest

/-- The text that one half of a pair stands for. -/
def component (text : List Char) : String :=
  String.ofList (Text.Utf8.decodeLossy (bytes text))

/-- The pair that a piece stands for; without an equals sign the value is empty. -/
def pair (piece : List Char) : String × String :=
  (component (piece.takeWhile (· ≠ '=')), component ((piece.dropWhile (· ≠ '=')).drop 1))

/-- A text without the question mark it may start with. -/
def withoutQuestionMark : List Char → List Char
  | '?' :: rest => rest
  | text => text

/-- The pairs of a query string, in order; empty pieces are passed over. -/
def pairs (text : List Char) : List (String × String) :=
  (((withoutQuestionMark text).splitOn '&').filter (!·.isEmpty)).map pair

end SchemaLens.Query.FormEncoding

namespace SchemaLens.Query

/-- Reads a query string. -/
def Values.parse (query : String) : Values :=
  Values.ofPairs (FormEncoding.pairs query.toList)

end SchemaLens.Query
