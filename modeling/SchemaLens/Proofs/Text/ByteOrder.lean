import Mathlib.Tactic.ByContra
import Mathlib.Tactic.SplitIfs
import Mathlib.Tactic.Tauto
import SchemaLens.Text.Utf8

/-!
# The order of texts by their bytes

Texts are compared by their code points. UTF-8 keeps that order: of two characters the smaller one
has the smaller encoding, and neither encoding starts the other, so the first character in which two
texts differ decides over their bytes as well.
-/

namespace SchemaLens.Text

/-- The bytes of a text. -/
def utf8Bytes (text : String) : List UInt8 :=
  text.toList.flatMap String.utf8EncodeChar

theorem ofNat_lt_ofNat_iff {left right : Nat} (left_lt : left < 256) (right_lt : right < 256) :
    UInt8.ofNat left < UInt8.ofNat right ↔ left < right := by
  rw [UInt8.lt_iff_toNat_lt, UInt8.toNat_ofNat_of_lt' left_lt, UInt8.toNat_ofNat_of_lt' right_lt]

theorem ofNat_eq_ofNat_iff {left right : Nat} (left_lt : left < 256) (right_lt : right < 256) :
    UInt8.ofNat left = UInt8.ofNat right ↔ left = right := by
  rw [← UInt8.toNat_inj, UInt8.toNat_ofNat_of_lt' left_lt, UInt8.toNat_ofNat_of_lt' right_lt]

theorem lt_iff_digit_lt (left right : Nat) :
    left < right ↔ left / 64 < right / 64 ∨ left / 64 = right / 64 ∧ left % 64 < right % 64 := by
  omega

theorem eq_iff_digit_eq (left right : Nat) :
    left = right ↔ left / 64 = right / 64 ∧ left % 64 = right % 64 := by
  omega

/-- The four digits to the base 64 compare as the numbers do. -/
theorem lt_iff_digits_lt (left right : Nat) :
    left < right ↔
      left / 262144 < right / 262144 ∨ left / 262144 = right / 262144 ∧
        (left / 4096 % 64 < right / 4096 % 64 ∨ left / 4096 % 64 = right / 4096 % 64 ∧
          (left / 64 % 64 < right / 64 % 64 ∨ left / 64 % 64 = right / 64 % 64 ∧
            left % 64 < right % 64)) := by
  have second : ∀ number : Nat, number / 64 / 64 = number / 4096 := fun number =>
    Nat.div_div_eq_div_mul number 64 64
  have third : ∀ number : Nat, number / 4096 / 64 = number / 262144 := fun number =>
    Nat.div_div_eq_div_mul number 4096 64
  rw [lt_iff_digit_lt left right, lt_iff_digit_lt (left / 64), eq_iff_digit_eq (left / 64),
    second, second, lt_iff_digit_lt (left / 4096), eq_iff_digit_eq (left / 4096), third, third]
  tauto

/-- Of two characters the smaller one has the smaller bytes, whatever comes after them. -/
theorem utf8EncodeChar_append_lt {left right : Char} (lt : left < right)
    (leftRest rightRest : List UInt8) :
    String.utf8EncodeChar left ++ leftRest < String.utf8EncodeChar right ++ rightRest := by
  have number_lt : left.val.toNat < right.val.toNat := lt
  have right_bound : right.val.toNat < 0x110000 := by
    rcases right.valid with small | large
    · omega
    · exact large.2
  have digits_lt := (lt_iff_digits_lt _ _).mp number_lt
  have left_first : left.val.toNat / 262144 % 8 = left.val.toNat / 262144 :=
    Nat.mod_eq_of_lt (by omega)
  have right_first : right.val.toNat / 262144 % 8 = right.val.toNat / 262144 :=
    Nat.mod_eq_of_lt (by omega)
  simp only [String.utf8EncodeChar, left_first, right_first]
  split_ifs <;>
    simp (disch := omega) only [List.cons_append, List.nil_append, List.cons_lt_cons_iff,
      ofNat_lt_ofNat_iff, ofNat_eq_ofNat_iff] <;>
    omega

theorem flatMap_utf8EncodeChar_lt {left right : List Char} (lt : left < right) :
    left.flatMap String.utf8EncodeChar < right.flatMap String.utf8EncodeChar := by
  induction left generalizing right with
  | nil =>
      rcases right with _ | ⟨first, rest⟩
      · exact absurd lt (List.not_lt_nil [])
      · rw [List.flatMap_nil, List.flatMap_cons]
        rcases encoded : String.utf8EncodeChar first with _ | ⟨byte, bytes⟩
        · exact absurd encoded String.utf8EncodeChar_ne_nil
        · exact List.nil_lt_cons byte _
  | cons leftFirst leftRest ih =>
      rcases right with _ | ⟨rightFirst, rightRest⟩
      · exact absurd lt (List.not_lt_nil _)
      · rw [List.flatMap_cons, List.flatMap_cons]
        rcases List.cons_lt_cons_iff.mp lt with first_lt | ⟨rfl, rest_lt⟩
        · exact utf8EncodeChar_append_lt first_lt _ _
        · exact List.append_left_lt (ih rest_lt)

/-- Comparing texts is comparing their bytes. -/
theorem utf8Bytes_lt_utf8Bytes_iff {left right : String} :
    utf8Bytes left < utf8Bytes right ↔ left < right := by
  constructor
  · intro bytes_lt
    by_contra not_lt
    have le : right ≤ left := String.not_lt.mp not_lt
    by_cases gt : right < left
    · exact List.lt_asymm bytes_lt (flatMap_utf8EncodeChar_lt gt)
    · have equal : left = right := String.le_antisymm (String.not_lt.mp gt) le
      rw [equal] at bytes_lt
      exact List.lt_irrefl _ bytes_lt
  · exact flatMap_utf8EncodeChar_lt

theorem compare_eq_lt_iff {left right : String} :
    compare left right = .lt ↔ utf8Bytes left < utf8Bytes right := by
  rw [utf8Bytes_lt_utf8Bytes_iff]
  exact compareOfLessAndEq_eq_lt

end SchemaLens.Text
