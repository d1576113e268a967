/-!
# UTF-8

Reading bytes as characters. The reader keeps the character it is in the middle of; a byte that
cannot continue it ends an ill-formed stretch and is read afresh. So each ill-formed stretch is
the longest start of a character that the bytes contain, or one stray byte.

`decode?` refuses ill-formed bytes and `decodeLossy` puts one replacement character for each
ill-formed stretch.
-/

namespace SchemaLens.Text.Utf8

/-- A character of which some bytes are still to come. -/
structure Unfinished where
  /-- How many bytes are to come. -/
  missing : Nat
  /-- The bits read so far. -/
  bits : Nat
  /-- The least byte that may come next. -/
  least : Nat := 0x80
  /-- The greatest byte that may come next. -/
  greatest : Nat := 0xBF
deriving DecidableEq, Repr

/-- What a byte means where no character is unfinished. -/
inductive Opening where
  /-- The byte is a character by itself. -/
  | single (character : Char)
  /-- The byte starts a longer character. -/
  | lead (unfinished : Unfinished)
  /-- No character starts with the byte. -/
  | stray
deriving DecidableEq, Repr

/-- Reads a byte where no character is unfinished. -/
def Opening.ofByte (byte : UInt8) : Opening :=
  let value := byte.toNat
  if value < 0x80 then .single (Char.ofNat value)
  else if value < 0xC2 then .stray
  else if value < 0xE0 then .lead { missing := 1, bits := value - 0xC0 }
  else if value = 0xE0 then .lead { missing := 2, bits := 0, least := 0xA0 }
  else if value = 0xED then .lead { missing := 2, bits := 0xD, greatest := 0x9F }
  else if value < 0xF0 then .lead { missing := 2, bits := value - 0xE0 }
  else if value = 0xF0 then .lead { missing := 3, bits := 0, least := 0x90 }
  else if value < 0xF4 then .lead { missing := 3, bits := value - 0xF0 }
  else if value = 0xF4 then .lead { missing := 3, bits := 4, greatest := 0x8F }
  else .stray

/-- Characters in the order read, `none` for each ill-formed stretch. -/
abbrev Reading := List (Option Char)

/-- Reads one byte where no character is unfinished. -/
def openWith (byte : UInt8) : Reading × Option Unfinished :=
  match Opening.ofByte byte with
  | .single character => ([some character], none)
  | .lead unfinished => ([], some unfinished)
  | .stray => ([none], none)

/-- Reads one byte, given the unfinished character it may continue. -/
def advance (state : Option Unfinished) (byte : UInt8) : Reading × Option Unfinished :=
  match state with
  | none => openWith byte
  | some unfinished =>
    if unfinished.least ≤ byte.toNat ∧ byte.toNat ≤ unfinished.greatest then
      let bits := unfinished.bits * 64 + (byte.toNat - 0x80)
      if unfinished.missing ≤ 1 then ([some (Char.ofNat bits)], none)
      else ([], some { missing := unfinished.missing - 1, bits := bits })
    else
      let (reading, next) := openWith byte
      (none :: reading, next)

/-- Reads bytes to their end, given the unfinished character they start in. -/
def readFrom (state : Option Unfinished) : List UInt8 → Reading
  | [] => if state.isSome then [none] else []
  | byte :: rest =>
    let (reading, next) := advance state byte
    reading ++ readFrom next rest

/-- Reads bytes from the start of a text. -/
def read (bytes : List UInt8) : Reading :=
  readFrom none bytes

/-- The characters of well-formed bytes. -/
def decode? (bytes : List UInt8) : Option (List Char) :=
  (read bytes).mapM id

/-- The characters of any bytes, each ill-formed stretch replaced by U+FFFD. -/
def decodeLossy (bytes : List UInt8) : List Char :=
  (read bytes).map (·.getD '\uFFFD')

/-- The bytes of a text. -/
def encode (text : List Char) : List UInt8 :=
  text.flatMap String.utf8EncodeChar

@[simp]
theorem decodeLossy_nil : decodeLossy [] = [] := rfl

end SchemaLens.Text.Utf8
