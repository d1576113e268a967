import SchemaLens.Toml.Text
import SchemaLens.Toml.Value

/-!
# TOML scalars

Booleans, numbers and dates, each read from one unbroken run of characters. Digits may be grouped
by single underscores, and a decimal number has no leading zero.
-/

namespace SchemaLens.Toml

/-- The digits of a group, without the single underscores between them. -/
def groupedDigits? (isDigit : Char → Bool) (text : List Char) : Option (List Char) :=
  let groups := text.splitOn '_'
  if groups.all fun group => !group.isEmpty && group.all isDigit then some groups.flatten
  else none

/-- The number that decimal digits make. -/
def decimalNumber (digits : List Char) : Nat :=
  digits.foldl (fun number digit => number * 10 + (digit.toNat - '0'.toNat)) 0

/-- A text without its sign, and whether the sign is a minus. -/
def signed : List Char → Bool × List Char
  | '-' :: rest => (true, rest)
  | '+' :: rest => (false, rest)
  | text => (false, text)

/-- The digits of a decimal number without leading zeros. -/
def decimalDigits? (text : List Char) : Option (List Char) := do
  match ← groupedDigits? Char.isDigit text with
  | '0' :: _ :: _ => none
  | digits => some digits

/-- Reads a number in base sixteen, eight or two. -/
def radixInteger? : List Char → Option Int
  | '0' :: 'x' :: rest => do
    let digits ← groupedDigits? (fun digit => (Text.hexDigit? digit).isSome) rest
    return (← Text.hexNumber? digits : Nat)
  | '0' :: 'o' :: rest => radix 8 rest
  | '0' :: 'b' :: rest => radix 2 rest
  | _ => none
where
  /-- Reads digits below a base. -/
  radix (base : Nat) (text : List Char) : Option Int := do
    let digits ← groupedDigits?
      (fun digit => digit.isDigit && digit.toNat - '0'.toNat < base) text
    return (digits.foldl (fun number digit => number * base + (digit.toNat - '0'.toNat)) 0 : Nat)

/-- Reads a whole number in base ten. -/
def decimalInteger? (text : List Char) : Option Int := do
  let (negative, unsigned) := signed text
  let number := decimalNumber (← decimalDigits? unsigned)
  return if negative then -number else number

/-- Reads the exponent of a number; without one it is zero. -/
def exponent? : List Char → Option Int
  | [] => some 0
  | _ :: text => do
    let (negative, unsigned) := signed text
    let number := decimalNumber (← groupedDigits? Char.isDigit unsigned)
    return if negative then -number else number

/-- Reads the digits after the point; without a point there are none. -/
def fraction? : List Char → Option (List Char)
  | [] => some []
  | _ :: digits => groupedDigits? Char.isDigit digits

/-- Reads a floating-point number. -/
def float? (text : List Char) : Option Magnitude := do
  let (_, unsigned) := signed text
  if unsigned = ['i', 'n', 'f'] ∨ unsigned = ['n', 'a', 'n'] then some none
  else
    let isExponentMark := fun character : Char => character = 'e' || character = 'E'
    let mantissa := unsigned.takeWhile (!isExponentMark ·)
    let whole ← decimalDigits? (mantissa.takeWhile (· ≠ '.'))
    let fraction ← fraction? (mantissa.dropWhile (· ≠ '.'))
    let exponent ← exponent? (unsigned.dropWhile (!isExponentMark ·))
    return some (decimalNumber (whole ++ fraction), exponent - fraction.length)

/-- The number of days of a month. -/
def daysOfMonth (year month : Nat) : Nat :=
  if month = 2 then
    if year % 4 = 0 ∧ (year % 100 ≠ 0 ∨ year % 400 = 0) then 29 else 28
  else if month = 4 ∨ month = 6 ∨ month = 9 ∨ month = 11 then 30
  else 31

/-- Reads a given number of digits from the front of a text. -/
def fixedNumber? (count : Nat) (text : List Char) : Option (Nat × List Char) :=
  let digits := text.take count
  if digits.length = count ∧ digits.all Char.isDigit then
    some (decimalNumber digits, text.drop count)
  else none

/-- Reads a number of two digits below a bound, after a mark. -/
def clockNumber? (mark : Char) (bound : Nat) : List Char → Option (List Char)
  | [] => none
  | first :: rest => do
    let (number, rest) ← fixedNumber? 2 rest
    if first = mark ∧ number < bound then some rest else none

/-- The rest of a text after a date. -/
def afterDate? (text : List Char) : Option (List Char) := do
  let (year, text) ← fixedNumber? 4 text
  match text with
  | '-' :: text =>
    let (month, text) ← fixedNumber? 2 text
    match text with
    | '-' :: text =>
      let (day, text) ← fixedNumber? 2 text
      if 1 ≤ month ∧ month ≤ 12 ∧ 1 ≤ day ∧ day ≤ daysOfMonth year month then some text else none
    | _ => none
  | _ => none

/-- The rest of a text after the fraction of a second. -/
def afterFraction? : List Char → Option (List Char)
  | '.' :: text =>
    if (text.takeWhile Char.isDigit).isEmpty then none else some (text.dropWhile Char.isDigit)
  | text => some text

/-- The rest of a text after a time of day. -/
def afterTime? (text : List Char) : Option (List Char) := do
  let (hour, text) ← fixedNumber? 2 text
  let text ← clockNumber? ':' 60 text
  let text ← clockNumber? ':' 61 text
  if hour < 24 then afterFraction? text else none

/-- Whether a text is the offset of a time, or nothing. -/
def isOffset : List Char → Bool
  | [] | ['Z'] | ['z'] => true
  | sign :: text =>
    (sign = '+' || sign = '-') &&
      ((clockNumber? sign 24 (sign :: text)).bind (clockNumber? ':' 60)) == some []

/-- Whether a text is a date, a time of day, or a date and a time. -/
def isDateTime (text : List Char) : Bool :=
  match afterDate? text with
  | none => afterTime? text == some []
  | some [] => true
  | some (mark :: rest) =>
    (mark = 'T' || mark = 't' || mark = ' ') && ((afterTime? rest).map isOffset).getD false

/-- The value that an unbroken run of characters stands for. -/
def scalar? (text : List Char) : Option Value :=
  match text with
  | ['t', 'r', 'u', 'e'] => some (.boolean true)
  | ['f', 'a', 'l', 's', 'e'] => some (.boolean false)
  | _ =>
    if isDateTime text then some (.dateTime text)
    else
      (radixInteger? text <|> decimalInteger? text).map .integer <|> (float? text).map .float

/-- Whether a character may stand in the run of a scalar. -/
def isScalarCharacter (character : Char) : Bool :=
  character.isAlphanum || character = '+' || character = '-' || character = '.' ||
    character = '_' || character = ':'

namespace Reader

/-- Reads a scalar. A date may be set apart from its time by one space. -/
def scalar : Reader Value := do
  let text ← takeRun isScalarCharacter
  match ← get with
  | ' ' :: digit :: _ =>
    if digit.isDigit && afterDate? text == some [] then
      modify (·.drop 1)
      scalar? (text ++ ' ' :: (← takeRun isScalarCharacter))
    else scalar? text
  | _ => scalar? text

end Reader

end SchemaLens.Toml
