import Mathlib.Data.List.Basic
import Mathlib.Data.List.Forall2
import Mathlib.Tactic.IntervalCases
import SchemaLens.Proofs.Text.LowerCase
import SchemaLens.Proofs.Text.Utf8
import SchemaLens.Query.FormEncoding

/-!
# Spelled query strings

A query string can be spelled in many ways: each character as itself where it stands for nothing
else, a space as a plus sign, any character as the escapes of its bytes. However it is spelled, it
is read as the pairs it was spelled for. No spelling of a half has a separator in it, so the text is
cut where it was joined, and each half is read back character by character. What an escape stands
for is not looked at again.
-/

namespace SchemaLens.Query.FormEncoding

/-- Which half of a pair a text is. -/
inductive Half where
  | key
  | value

/-- The characters that stand for something else in a half of a pair. -/
def Half.reserved : Half → List Char
  | .key => ['%', '&', '+', '=']
  | .value => ['%', '&', '+']

/-- Whether a text is the escape of a byte, its digits in either case. -/
def IsEscape (byte : UInt8) (text : List Char) : Prop :=
  ∃ high low, text = ['%', high, low] ∧ high.toLower = Nat.digitChar (byte.toNat / 16) ∧
    low.toLower = Nat.digitChar (byte.toNat % 16)

/-- The ways to spell a character in a half of a pair. -/
inductive SpellsCharacter (half : Half) : Char → List Char → Prop
  | literal {character : Char} (free : character ∉ half.reserved) :
      SpellsCharacter half character [character]
  | plus : SpellsCharacter half ' ' ['+']
  | escaped {character : Char} {escapes : List (List Char)}
      (each : List.Forall₂ IsEscape (String.utf8EncodeChar character) escapes) :
      SpellsCharacter half character escapes.flatten

/-- The ways to spell a half of a pair. -/
inductive Spells (half : Half) : List Char → List Char → Prop
  | nil : Spells half [] []
  | cons {character : Char} {rest spelled others : List Char}
      (first : SpellsCharacter half character spelled) (behind : Spells half rest others) :
      Spells half (character :: rest) (spelled ++ others)

/-- The ways to spell a pair. -/
inductive SpellsPair (pair : String × String) : List Char → Prop
  | intro {key value : List Char} (spells_key : Spells .key pair.1.toList key)
      (spells_value : Spells .value pair.2.toList value) : SpellsPair pair (key ++ '=' :: value)

/-- The ways to spell pairs as pieces, any of them empty. -/
inductive SpellsPieces : List (String × String) → List (List Char) → Prop
  | nil : SpellsPieces [] []
  | empty {pairs : List (String × String)} {pieces : List (List Char)}
      (behind : SpellsPieces pairs pieces) : SpellsPieces pairs ([] :: pieces)
  | pair {pair : String × String} {piece : List Char} {pairs : List (String × String)}
      {pieces : List (List Char)} (first : SpellsPair pair piece)
      (behind : SpellsPieces pairs pieces) : SpellsPieces (pair :: pairs) (piece :: pieces)

/-- The ways to spell a query string. The question mark before it can be left out unless another
one would be taken for it. -/
inductive SpellsQuery (pairs : List (String × String)) : List Char → Prop
  | marked {pieces : List (List Char)} (spelled : SpellsPieces pairs pieces) :
      SpellsQuery pairs ('?' :: ['&'].intercalate pieces)
  | unmarked {pieces : List (List Char)} (spelled : SpellsPieces pairs pieces)
      (no_mark : (['&'].intercalate pieces).head? ≠ some '?') :
      SpellsQuery pairs (['&'].intercalate pieces)

/-! ## Escapes -/

theorem hexDigit?_toLower (character : Char) :
    Text.hexDigit? character.toLower = Text.hexDigit? character := by
  rcases Text.toLower_eq_self_or_ascii character with unchanged | ascii
  · rw [unchanged]
  · apply Text.forall_of_forall_codePoint_lt
      (motive := fun other => Text.hexDigit? other.toLower = Text.hexDigit? other) _ ascii
    decide +kernel

theorem hexDigit?_of_toLower_eq {digit : Char} {number : Nat} (number_lt : number < 16)
    (spelled : digit.toLower = Nat.digitChar number) : Text.hexDigit? digit = some number := by
  rw [← hexDigit?_toLower, spelled]
  interval_cases number <;> rfl

namespace IsEscape

variable {byte : UInt8} {text : List Char}

theorem bytes_append (escape : IsEscape byte text) (rest : List Char) :
    bytes (text ++ rest) = byte :: bytes rest := by
  rcases escape with ⟨high, low, rfl, high_eq, low_eq⟩
  have byte_lt := byte.toNat_lt
  have whole : byte.toNat / 16 * 16 + byte.toNat % 16 = byte.toNat := by omega
  have read : escapedByte? high low = some byte := by
    simp only [escapedByte?, hexDigit?_of_toLower_eq (show byte.toNat / 16 < 16 by omega) high_eq,
      hexDigit?_of_toLower_eq (show byte.toNat % 16 < 16 by omega) low_eq, Option.bind_eq_bind,
      Option.bind_some, whole, UInt8.ofNat_toNat]
    rfl
  simp only [List.cons_append, List.nil_append, bytes, read]

/-- An escape is made of a percent sign and hexadecimal digits. -/
theorem not_mem (escape : IsEscape byte text) {character : Char} (no_percent : character ≠ '%')
    (no_digit : Text.hexDigit? character = none) : character ∉ text := by
  rcases escape with ⟨high, low, rfl, high_eq, low_eq⟩
  have byte_lt := byte.toNat_lt
  simp only [List.mem_cons, List.not_mem_nil, or_false]
  rintro (rfl | rfl | rfl)
  · exact no_percent rfl
  · rw [hexDigit?_of_toLower_eq (by omega) high_eq] at no_digit
    contradiction
  · rw [hexDigit?_of_toLower_eq (by omega) low_eq] at no_digit
    contradiction

end IsEscape

theorem bytes_flatten_append {encoded : List UInt8} {escapes : List (List Char)}
    (each : List.Forall₂ IsEscape encoded escapes) (rest : List Char) :
    bytes (escapes.flatten ++ rest) = encoded ++ bytes rest := by
  induction each with
  | nil => rfl
  | cons escape _ ih =>
      rw [List.flatten_cons, List.append_assoc, escape.bytes_append, ih, List.cons_append]

theorem not_mem_flatten {encoded : List UInt8} {escapes : List (List Char)}
    (each : List.Forall₂ IsEscape encoded escapes) {character : Char}
    (no_percent : character ≠ '%') (no_digit : Text.hexDigit? character = none) :
    character ∉ escapes.flatten := by
  induction each with
  | nil => exact List.not_mem_nil
  | cons escape _ ih =>
      rw [List.flatten_cons, List.mem_append, not_or]
      exact ⟨escape.not_mem no_percent no_digit, ih⟩

/-! ## Halves -/

variable {half : Half}

theorem bytes_cons_of_not_reserved {character : Char} (free : character ∉ half.reserved)
    (rest : List Char) :
    bytes (character :: rest) = String.utf8EncodeChar character ++ bytes rest := by
  have no_plus : character ≠ '+' := by
    rintro rfl
    cases half <;> exact free (by decide)
  have no_percent : character ≠ '%' := by
    rintro rfl
    cases half <;> exact free (by decide)
  rw [bytes]
  · exact no_plus
  · intro high low others same
    exact absurd same no_percent

theorem SpellsCharacter.bytes_append {character : Char} {spelled : List Char}
    (spells : SpellsCharacter half character spelled) (rest : List Char) :
    bytes (spelled ++ rest) = String.utf8EncodeChar character ++ bytes rest := by
  cases spells with
  | literal free => exact bytes_cons_of_not_reserved free rest
  | plus => rfl
  | escaped each => exact bytes_flatten_append each rest

theorem SpellsCharacter.not_mem {character reserved : Char} {spelled : List Char}
    (spells : SpellsCharacter half character spelled) (mem : reserved ∈ half.reserved)
    (no_percent : reserved ≠ '%') (no_plus : reserved ≠ '+')
    (no_digit : Text.hexDigit? reserved = none) : reserved ∉ spelled := by
  cases spells with
  | literal free =>
      rw [List.mem_singleton]
      rintro rfl
      exact free mem
  | plus =>
      rw [List.mem_singleton]
      exact no_plus
  | escaped each => exact not_mem_flatten each no_percent no_digit

namespace Spells

variable {text spelled : List Char}

theorem bytes_eq (spells : Spells half text spelled) :
    bytes spelled = Text.Utf8.encode text := by
  induction spells with
  | nil => rfl
  | cons first _ ih => rw [first.bytes_append, ih, Text.Utf8.encode_cons]

theorem component_eq (spells : Spells half text spelled) :
    component spelled = String.ofList text := by
  rw [component, spells.bytes_eq, Text.Utf8.decodeLossy_encode]

theorem not_mem {reserved : Char} (spells : Spells half text spelled)
    (mem : reserved ∈ half.reserved) (no_percent : reserved ≠ '%') (no_plus : reserved ≠ '+')
    (no_digit : Text.hexDigit? reserved = none) : reserved ∉ spelled := by
  induction spells with
  | nil => exact List.not_mem_nil
  | cons first _ ih =>
      rw [List.mem_append, not_or]
      exact ⟨first.not_mem mem no_percent no_plus no_digit, ih⟩

end Spells

/-! ## Pairs -/

namespace SpellsPair

variable {pair : String × String} {piece : List Char}

theorem ne_nil (spells : SpellsPair pair piece) : piece ≠ [] := by
  rcases spells with ⟨-, -⟩
  exact List.append_ne_nil_of_right_ne_nil _ (List.cons_ne_nil _ _)

theorem not_mem_ampersand (spells : SpellsPair pair piece) : '&' ∉ piece := by
  rcases spells with ⟨spells_key, spells_value⟩
  rw [List.mem_append, List.mem_cons]
  rintro (key_mem | equals | value_mem)
  · exact spells_key.not_mem (by decide) (by decide) (by decide) (by decide) key_mem
  · exact absurd equals (by decide)
  · exact spells_value.not_mem (by decide) (by decide) (by decide) (by decide) value_mem

theorem pair_eq (spells : SpellsPair pair piece) : FormEncoding.pair piece = pair := by
  rcases spells with ⟨spells_key, spells_value⟩
  rename_i key value
  have before : ∀ character ∈ key, decide (character ≠ '=') = true := by
    intro character mem
    rw [decide_eq_true_eq]
    rintro rfl
    exact spells_key.not_mem (by decide) (by decide) (by decide) (by decide) mem
  have key_eq : (key ++ '=' :: value).takeWhile (· ≠ '=') = key := by
    rw [List.takeWhile_append_of_pos before]
    simp
  have value_eq : ((key ++ '=' :: value).dropWhile (· ≠ '=')).drop 1 = value := by
    rw [List.dropWhile_append_of_pos before]
    simp
  rw [FormEncoding.pair, key_eq, value_eq, spells_key.component_eq, spells_value.component_eq,
    String.ofList_toList, String.ofList_toList]

end SpellsPair

/-! ## Query strings -/

theorem SpellsPieces.not_mem_ampersand {written : List (String × String)}
    {pieces : List (List Char)} (spells : SpellsPieces written pieces) :
    ∀ piece ∈ pieces, '&' ∉ piece := by
  induction spells with
  | nil => exact List.forall_mem_nil _
  | empty _ ih => exact List.forall_mem_cons.mpr ⟨List.not_mem_nil, ih⟩
  | pair first _ ih => exact List.forall_mem_cons.mpr ⟨first.not_mem_ampersand, ih⟩

theorem SpellsPieces.map_pair {written : List (String × String)} {pieces : List (List Char)}
    (spells : SpellsPieces written pieces) :
    (pieces.filter (!·.isEmpty)).map FormEncoding.pair = written := by
  induction spells with
  | nil => rfl
  | empty _ ih => exact ih
  | pair first _ ih =>
      rw [List.filter_cons_of_pos (by simpa using first.ne_nil), List.map_cons, first.pair_eq, ih]

/-- Joined pieces are read as what they were spelled for. -/
theorem SpellsPieces.map_pair_splitOn {written : List (String × String)}
    {pieces : List (List Char)} (spells : SpellsPieces written pieces) :
    (((['&'].intercalate pieces).splitOn '&').filter (!·.isEmpty)).map FormEncoding.pair =
      written := by
  by_cases none : pieces = []
  · -- Nothing is joined to the same text as one empty piece.
    subst none
    exact spells.map_pair
  · rw [List.splitOn_intercalate '&' spells.not_mem_ampersand none, spells.map_pair]

theorem withoutQuestionMark_of_head?_ne {text : List Char} (no_mark : text.head? ≠ some '?') :
    withoutQuestionMark text = text := by
  unfold withoutQuestionMark
  split
  · exact absurd rfl no_mark
  · rfl

theorem pairs_of_spellsQuery {written : List (String × String)} {text : List Char}
    (spells : SpellsQuery written text) : pairs text = written := by
  cases spells with
  | marked spelled => exact spelled.map_pair_splitOn
  | unmarked spelled no_mark =>
      rw [pairs, withoutQuestionMark_of_head?_ne no_mark, spelled.map_pair_splitOn]

/-! ## Escaping every byte -/

/-- The hexadecimal digit of a number below sixteen, as a capital. -/
def escapeDigit (number : Nat) : Char :=
  (Nat.digitChar number).toUpper

/-- The escape of a byte. -/
def escape (byte : UInt8) : List Char :=
  ['%', escapeDigit (byte.toNat / 16), escapeDigit (byte.toNat % 16)]

/-- A text with each of its bytes escaped. -/
def escapeText (text : String) : List Char :=
  (Text.Utf8.encode text.toList).flatMap escape

/-- A pair with both halves escaped. -/
def escapePair (pair : String × String) : List Char :=
  escapeText pair.1 ++ '=' :: escapeText pair.2

/-- The query string of pairs, each of them escaped. -/
def escapePairs (pairs : List (String × String)) : String :=
  String.ofList (['&'].intercalate (pairs.map escapePair))

theorem toLower_escapeDigit {number : Nat} (number_lt : number < 16) :
    (escapeDigit number).toLower = Nat.digitChar number := by
  interval_cases number <;> rfl

theorem isEscape_escape (byte : UInt8) : IsEscape byte (escape byte) := by
  have byte_lt := byte.toNat_lt
  exact ⟨_, _, rfl, toLower_escapeDigit (by omega), toLower_escapeDigit (by omega)⟩

theorem spellsCharacter_flatMap_escape (character : Char) :
    SpellsCharacter half character ((String.utf8EncodeChar character).flatMap escape) := by
  rw [List.flatMap_def]
  apply SpellsCharacter.escaped
  rw [List.forall₂_map_right_iff, List.forall₂_same]
  exact fun byte _ => isEscape_escape byte

theorem spells_escapeText (text : String) : Spells half text.toList (escapeText text) := by
  unfold escapeText
  induction text.toList with
  | nil => exact .nil
  | cons character rest ih =>
      rw [Text.Utf8.encode_cons, List.flatMap_append]
      exact .cons (spellsCharacter_flatMap_escape character) ih

theorem spellsPieces_map_escapePair (written : List (String × String)) :
    SpellsPieces written (written.map escapePair) := by
  induction written with
  | nil => exact .nil
  | cons pair others ih =>
      exact .pair ⟨spells_escapeText pair.1, spells_escapeText pair.2⟩ ih

theorem head?_escapePair_append (pair : String × String) (rest : List Char) :
    (escapePair pair ++ rest).head? ≠ some '?' := by
  unfold escapePair escapeText
  cases Text.Utf8.encode pair.1.toList <;> simp [escape]

/-- Escaping every byte is one way to spell a query string. -/
theorem spellsQuery_escapePairs (written : List (String × String)) :
    SpellsQuery written (escapePairs written).toList := by
  rw [escapePairs, String.toList_ofList]
  apply SpellsQuery.unmarked (spellsPieces_map_escapePair written)
  rcases written with _ | ⟨first, _ | ⟨second, others⟩⟩
  · simp
  · simpa using head?_escapePair_append first []
  · rw [List.map_cons, List.map_cons, List.intercalate_cons_cons, List.append_assoc]
    exact head?_escapePair_append first _

example : escapePairs [("a", "é"), ("b", "")] = "%61=%C3%A9&%62=" := by decide +kernel

end SchemaLens.Query.FormEncoding

namespace SchemaLens.Query

open FormEncoding

namespace Values

theorem parse_escapePairs (pairs : List (String × String)) :
    parse (escapePairs pairs) = ofPairs pairs := by
  rw [parse, pairs_of_spellsQuery (spellsQuery_escapePairs pairs)]

/-- A query string is read as the values of the pairs it was spelled for, however it is spelled. -/
theorem parse_of_spellsQuery {pairs : List (String × String)} {query : String}
    (spells : SpellsQuery pairs query.toList) :
    parse query = ofPairs pairs := by
  rw [parse, pairs_of_spellsQuery spells]

/-- An escaped percent sign and an escaped separator stand for themselves, and so does a question
mark behind the first one. -/
theorem parse_of_spellsQuery_escaped_percent :
    parse "??+%26=%2541=&&=&%c3%A9=" = ofPairs [("? &", "%41="), ("", ""), ("é", "")] := by
  have ampersand : SpellsCharacter .key '&' ['%', '2', '6'] :=
    @SpellsCharacter.escaped _ '&' [['%', '2', '6']] (.cons ⟨_, _, rfl, rfl, rfl⟩ .nil)
  have percent : SpellsCharacter .value '%' ['%', '2', '5'] :=
    @SpellsCharacter.escaped _ '%' [['%', '2', '5']] (.cons ⟨_, _, rfl, rfl, rfl⟩ .nil)
  have accented : SpellsCharacter .key 'é' ['%', 'c', '3', '%', 'A', '9'] :=
    @SpellsCharacter.escaped _ 'é' [['%', 'c', '3'], ['%', 'A', '9']]
      (.cons ⟨_, _, rfl, rfl, rfl⟩ (.cons ⟨_, _, rfl, rfl, rfl⟩ .nil))
  have key : Spells .key ['?', ' ', '&'] ['?', '+', '%', '2', '6'] :=
    .cons (.literal (by decide)) (.cons .plus (.cons ampersand .nil))
  have value : Spells .value ['%', '4', '1', '='] ['%', '2', '5', '4', '1', '='] :=
    .cons percent (.cons (.literal (by decide)) (.cons (.literal (by decide))
      (.cons (.literal (by decide)) .nil)))
  have first : SpellsPair ("? &", "%41=") _ := ⟨key, value⟩
  have second : SpellsPair ("", "") _ := ⟨.nil, .nil⟩
  have third : SpellsPair ("é", "") _ := ⟨.cons accented .nil, .nil⟩
  exact parse_of_spellsQuery (.marked (.pair first (.empty (.pair second (.pair third .nil)))))

end Values

end SchemaLens.Query
