import Mathlib.Tactic.IntervalCases
import Mathlib.Tactic.SplitIfs
import SchemaLens.Text.Utf8

/-!
# Reading written bytes

A text that is written as UTF-8 is read back as it was, whatever bytes come after it. A character is
written as the digits of its number to the base 64; the first byte tells how many bytes there are,
and the bounds it sets on the second one exclude just the numbers that a shorter form has, those of
surrogates and those past the last character.
-/

namespace SchemaLens.Text.Utf8

theorem toNat_ofNat_of_lt {value : Nat} (value_lt : value < 256) :
    (UInt8.ofNat value).toNat = value :=
  UInt8.toNat_ofNat_of_lt' value_lt

/-! ## The first byte -/

theorem readFrom_single {byte : UInt8} {character : Char}
    (opening : Opening.ofByte byte = .single character) (rest : List UInt8) :
    readFrom none (byte :: rest) = some character :: readFrom none rest := by
  simp only [readFrom, advance, openWith, opening]
  rfl

theorem readFrom_lead {byte : UInt8} {unfinished : Unfinished}
    (opening : Opening.ofByte byte = .lead unfinished) (rest : List UInt8) :
    readFrom none (byte :: rest) = readFrom (some unfinished) rest := by
  simp only [readFrom, advance, openWith, opening]
  rfl

theorem ofByte_one {value : Nat} (value_lt : value < 0x80) :
    Opening.ofByte (UInt8.ofNat value) = .single (Char.ofNat value) := by
  simp only [Opening.ofByte, toNat_ofNat_of_lt (show value < 256 by omega)]
  rw [if_pos value_lt]

theorem ofByte_two {value : Nat} (least : 0xC2 ≤ value) (greatest : value < 0xE0) :
    Opening.ofByte (UInt8.ofNat value) = .lead { missing := 1, bits := value - 0xC0 } := by
  simp only [Opening.ofByte, toNat_ofNat_of_lt (show value < 256 by omega)]
  rw [if_neg (by omega), if_neg (by omega), if_pos greatest]

theorem ofByte_three {value : Nat} (least : 0xE0 ≤ value) (greatest : value < 0xF0) :
    Opening.ofByte (UInt8.ofNat value) = .lead {
      missing := 2
      bits := value - 0xE0
      least := if value = 0xE0 then 0xA0 else 0x80
      greatest := if value = 0xED then 0x9F else 0xBF } := by
  interval_cases value <;> rfl

theorem ofByte_four {value : Nat} (least : 0xF0 ≤ value) (greatest : value ≤ 0xF4) :
    Opening.ofByte (UInt8.ofNat value) = .lead {
      missing := 3
      bits := value - 0xF0
      least := if value = 0xF0 then 0x90 else 0x80
      greatest := if value = 0xF4 then 0x8F else 0xBF } := by
  interval_cases value <;> rfl

/-! ## The bytes after it -/

/-- Whether a byte of six bits may come next in an unfinished character. -/
def Unfinished.Takes (unfinished : Unfinished) (digit : Nat) : Prop :=
  digit < 64 ∧ unfinished.least ≤ digit + 0x80 ∧ digit + 0x80 ≤ unfinished.greatest

theorem readFrom_last {unfinished : Unfinished} {digit : Nat} (takes : unfinished.Takes digit)
    (last : unfinished.missing ≤ 1) (rest : List UInt8) :
    readFrom (some unfinished) (UInt8.ofNat (digit + 128) :: rest) =
      some (Char.ofNat (unfinished.bits * 64 + digit)) :: readFrom none rest := by
  rcases takes with ⟨digit_lt, least, greatest⟩
  have byte_eq := toNat_ofNat_of_lt (show digit + 128 < 256 by omega)
  simp only [readFrom, advance, byte_eq]
  rw [if_pos ⟨least, greatest⟩, if_pos last, Nat.add_sub_cancel]
  rfl

theorem readFrom_next {unfinished : Unfinished} {digit : Nat} (takes : unfinished.Takes digit)
    (more : 1 < unfinished.missing) (rest : List UInt8) :
    readFrom (some unfinished) (UInt8.ofNat (digit + 128) :: rest) =
      readFrom (some {
        missing := unfinished.missing - 1
        bits := unfinished.bits * 64 + digit }) rest := by
  rcases takes with ⟨digit_lt, least, greatest⟩
  have byte_eq := toNat_ofNat_of_lt (show digit + 128 < 256 by omega)
  simp only [readFrom, advance, byte_eq]
  rw [if_pos ⟨least, greatest⟩, if_neg (by omega), Nat.add_sub_cancel]
  rfl

theorem takes_of_lt {missing bits digit : Nat} (digit_lt : digit < 64) :
    Unfinished.Takes { missing, bits } digit :=
  ⟨digit_lt, by simp, by simp; omega⟩

/-! ## Characters and texts -/

theorem encode_cons (character : Char) (rest : List Char) :
    encode (character :: rest) = String.utf8EncodeChar character ++ encode rest :=
  List.flatMap_cons

theorem utf8EncodeChar_of_ascii {character : Char} (ascii : character.toNat < 0x80) :
    String.utf8EncodeChar character = [UInt8.ofNat character.toNat] := by
  have one : character.val.toNat ≤ 0x7F := Nat.le_of_lt_succ ascii
  simp only [String.utf8EncodeChar]
  rw [if_pos one]
  rfl

/-- Outside ASCII the first byte is none of ASCII either. -/
theorem exists_utf8EncodeChar_eq_cons {character : Char} (beyond : 0x80 ≤ character.toNat) :
    ∃ lead rest, String.utf8EncodeChar character = lead :: rest ∧ 0x80 ≤ lead.toNat := by
  have more : ¬character.val.toNat ≤ 0x7F := Nat.not_le_of_lt beyond
  simp only [String.utf8EncodeChar]
  split_ifs
  all_goals
    refine ⟨_, _, rfl, ?_⟩
    rw [toNat_ofNat_of_lt (by omega)]
    omega

theorem ofNat_eq_of_eq {character : Char} {number : Nat} (equal : number = character.val.toNat) :
    Char.ofNat number = character := by
  rw [equal]
  exact Char.ofNat_toNat character

/-- A written character is read as itself. -/
theorem readFrom_utf8EncodeChar (character : Char) (rest : List UInt8) :
    readFrom none (String.utf8EncodeChar character ++ rest) =
      some character :: readFrom none rest := by
  have valid : character.val.toNat < 0xD800 ∨
      0xDFFF < character.val.toNat ∧ character.val.toNat < 0x110000 := character.valid
  simp only [String.utf8EncodeChar]
  split_ifs with one two three
  · rw [List.singleton_append, readFrom_single (ofByte_one (by omega)), ofNat_eq_of_eq rfl]
  · simp only [List.cons_append, List.nil_append]
    rw [readFrom_lead (ofByte_two (by omega) (by omega)),
      readFrom_last (takes_of_lt (by omega)) (by simp), ofNat_eq_of_eq]
    simp only
    omega
  · simp only [List.cons_append, List.nil_append]
    rw [readFrom_lead (ofByte_three (by omega) (by omega)), readFrom_next,
      readFrom_last (takes_of_lt (by omega)) (by simp), ofNat_eq_of_eq]
    · simp only
      omega
    · refine ⟨by omega, ?_, ?_⟩
      · simp only
        split_ifs <;> omega
      · simp only
        split_ifs <;> omega
    · simp
  · simp only [List.cons_append, List.nil_append]
    rw [readFrom_lead (ofByte_four (by omega) (by omega)), readFrom_next,
      readFrom_next (takes_of_lt (by omega)), readFrom_last (takes_of_lt (by omega)) (by simp),
      ofNat_eq_of_eq]
    · simp only
      omega
    · simp
    · refine ⟨by omega, ?_, ?_⟩
      · simp only
        split_ifs <;> omega
      · simp only
        split_ifs <;> omega
    · simp

theorem read_encode (text : List Char) : read (encode text) = text.map some := by
  unfold read encode
  induction text with
  | nil => rfl
  | cons character rest ih =>
      rw [List.flatMap_cons, readFrom_utf8EncodeChar, ih]
      rfl

/-- Nothing of a written text is replaced when it is read. -/
theorem decodeLossy_encode (text : List Char) : decodeLossy (encode text) = text := by
  unfold decodeLossy
  rw [read_encode, List.map_map]
  exact List.map_id text

end SchemaLens.Text.Utf8
