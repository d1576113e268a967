import Mathlib.Tactic.SplitIfs
import SchemaLens.Proofs.Query.Filter
import SchemaLens.Proofs.Text.Utf8
import SchemaLens.Query.Numeral

/-!
# Counts

A count is what its digits make, and what is wrong with a value that is no count is told by the
number that the value starts with. The number only grows from digit to digit, so it exceeds 64 bits
at some digit exactly if it does at the last one before anything else comes. In numbers of 64 bits
the same is found out by checking every step, and sixteen digits cannot go wrong.
-/

namespace SchemaLens.Query

/-! ## Digits -/

/-- Whether a text is made of decimal digits, and of those of a number. -/
structure IsNumeral (text : List Char) (number : Nat) : Prop where
  not_empty : text ≠ []
  digits : ∀ character ∈ text, character.isDigit = true
  number_eq : Nat.ofDigitChars 10 text 0 = number

/-- The number that the digits at the start of a text make. -/
def leadingNumber (text : List Char) : Nat :=
  Nat.ofDigitChars 10 (text.takeWhile Char.isDigit) 0

/-- Whether a fault is what is wrong with a value. -/
def CountFault.IsOf (value : String) : CountFault → Prop
  | .empty => value = ""
  | .tooLarge => UInt64.size ≤ leadingNumber value.toList
  | .invalidDigit =>
    value ≠ "" ∧ leadingNumber value.toList < UInt64.size ∧
      ¬∃ count : UInt64, IsNumeral value.toList count.toNat

theorem le_ofDigitChars (digits : List Char) (number : Nat) :
    number ≤ Nat.ofDigitChars 10 digits number := by
  induction digits generalizing number with
  | nil => exact Nat.le_refl number
  | cons digit rest ih =>
      rw [Nat.ofDigitChars_cons]
      have longer := ih (10 * number + (digit.toNat - '0'.toNat))
      omega

/-- Digits are added up until they exceed 64 bits, and only if they do not is the rest looked at. -/
theorem countFrom_eq_ite {number : Nat} (fits : number < UInt64.size) (text : List Char) :
    countFrom number text =
      if UInt64.size ≤ Nat.ofDigitChars 10 (text.takeWhile Char.isDigit) number then
        .error .tooLarge
      else if text.all Char.isDigit = true then .ok (Nat.ofDigitChars 10 text number)
      else .error .invalidDigit := by
  induction text generalizing number with
  | nil =>
      rw [List.takeWhile_nil, Nat.ofDigitChars_nil, if_neg (Nat.not_le_of_lt fits),
        if_pos List.all_nil]
      rfl
  | cons first rest ih =>
      cases digit : first.isDigit with
      | false =>
          rw [List.takeWhile_cons_of_neg (by simp [digit]), Nat.ofDigitChars_nil,
            if_neg (Nat.not_le_of_lt fits), if_neg (by simp [digit]), countFrom, digit]
          rfl
      | true =>
          have extended_eq : number * 10 + (first.toNat - '0'.toNat) =
              10 * number + (first.toNat - '0'.toNat) := by omega
          rw [List.takeWhile_cons_of_pos digit, Nat.ofDigitChars_cons, Nat.ofDigitChars_cons,
            List.all_cons, digit, Bool.true_and]
          simp only [countFrom, digit, if_true, extended_eq]
          by_cases extended_fits : 10 * number + (first.toNat - '0'.toNat) < UInt64.size
          · rw [if_pos extended_fits, ih extended_fits]
          · have exceeds := le_ofDigitChars (rest.takeWhile Char.isDigit)
              (10 * number + (first.toNat - '0'.toNat))
            rw [if_neg extended_fits, if_pos (by omega)]

/-! ## Bytes in numbers of 64 bits -/

theorem readCount_eq (filterType : FilterType) (value : String) :
    readCount filterType value =
      (if value.toList = [] then .error .empty
        else (countFrom 0 value.toList).map UInt64.ofNat).mapError
          (.invalidNumber filterType value) := by
  have empty_iff : value.isEmpty = true ↔ value.toList = [] := by
    rw [String.isEmpty_iff, String.toList_eq_nil_iff]
  simp only [readCount, empty_iff]
  split_ifs
  · rfl
  · cases countFrom 0 value.toList <;> rfl

namespace Numeral

theorem toNat_mul_ten_add {number digit : UInt64}
    (fits : number.toNat * 10 + digit.toNat < UInt64.size) :
    (number * 10 + digit).toNat = number.toNat * 10 + digit.toNat := by
  have ten : (10 : UInt64).toNat = 10 := rfl
  rw [UInt64.toNat_add, UInt64.toNat_mul, ten, Nat.mod_add_mod]
  exact Nat.mod_eq_of_lt fits

theorem bind_product?_sum? (number digit : UInt64) :
    (product? number 10).bind (sum? · digit) =
      if number.toNat * 10 + digit.toNat < UInt64.size then some (number * 10 + digit)
      else none := by
  have ten : (10 : UInt64).toNat = 10 := rfl
  unfold product? sum?
  rw [ten]
  by_cases product_fits : number.toNat * 10 < UInt64.size
  · have product_eq : (number * 10).toNat = number.toNat * 10 := by
      rw [UInt64.toNat_mul, ten]
      exact Nat.mod_eq_of_lt product_fits
    rw [if_pos product_fits, Option.bind_some, product_eq]
  · rw [if_neg product_fits, if_neg (by omega)]
    rfl

theorem digit?_eq_some_iff {byte : UInt8} {digit : UInt64} :
    digit? byte = some digit ↔
      (0x30 ≤ byte.toNat ∧ byte.toNat ≤ 0x39) ∧ UInt64.ofNat (byte.toNat - 0x30) = digit := by
  rw [digit?, Option.ite_none_right_eq_some, Option.some_inj]

/-- Ten digits do not make a number longer than one digit more. -/
theorem toNat_digit_lt {byte : UInt8} {digit : UInt64} (read : digit? byte = some digit) :
    digit.toNat < 10 := by
  rcases digit?_eq_some_iff.mp read with ⟨bounds, rfl⟩
  rw [UInt64.toNat_ofNat_of_lt' (by rw [UInt64.size]; omega)]
  omega

theorem isDigit_iff {character : Char} :
    character.isDigit = true ↔ 0x30 ≤ character.toNat ∧ character.toNat ≤ 0x39 := by
  rw [Char.isDigit, Bool.and_eq_true, decide_eq_true_eq, decide_eq_true_eq]
  rfl

/-- The first byte of a character is a digit exactly if the character is one. -/
theorem encode_cons_of_isDigit {character : Char} (digit : character.isDigit = true) :
    ∃ byte, String.utf8EncodeChar character = [byte] ∧
      digit? byte = some (UInt64.ofNat (character.toNat - '0'.toNat)) := by
  have bounds := isDigit_iff.mp digit
  refine ⟨_, Text.Utf8.utf8EncodeChar_of_ascii (by omega), ?_⟩
  rw [digit?_eq_some_iff, Text.Utf8.toNat_ofNat_of_lt (by omega)]
  exact ⟨bounds, rfl⟩

theorem encode_cons_of_not_isDigit {character : Char} (no_digit : character.isDigit = false) :
    ∃ lead rest, String.utf8EncodeChar character = lead :: rest ∧ digit? lead = none := by
  by_cases ascii : character.toNat < 0x80
  · refine ⟨_, _, Text.Utf8.utf8EncodeChar_of_ascii ascii, ?_⟩
    rw [digit?, Text.Utf8.toNat_ofNat_of_lt (by omega), if_neg]
    rwa [← isDigit_iff, Bool.not_eq_true]
  · rcases Text.Utf8.exists_utf8EncodeChar_eq_cons (Nat.le_of_not_lt ascii) with
      ⟨lead, rest, encoded, beyond⟩
    refine ⟨lead, rest, encoded, ?_⟩
    rw [digit?, if_neg (by omega)]

/-- The bytes of a text are read as its characters are. -/
theorem checked_encode (number : UInt64) (text : List Char) :
    checked number (Text.Utf8.encode text) =
      (countFrom number.toNat text).map UInt64.ofNat := by
  induction text generalizing number with
  | nil =>
      rw [countFrom, Except.map, UInt64.ofNat_toNat]
      rfl
  | cons first rest ih =>
      rw [Text.Utf8.encode_cons, countFrom]
      cases digit : first.isDigit with
      | false =>
          rcases encode_cons_of_not_isDigit digit with ⟨lead, others, encoded, not_read⟩
          rw [encoded, List.cons_append, checked, not_read]
          rfl
      | true =>
          rcases encode_cons_of_isDigit digit with ⟨byte, encoded, read⟩
          have bounds := isDigit_iff.mp digit
          have digit_eq : (UInt64.ofNat (first.toNat - '0'.toNat)).toNat =
              first.toNat - '0'.toNat := by
            apply UInt64.toNat_ofNat_of_lt'
            rw [UInt64.size]
            omega
          rw [encoded, List.singleton_append, checked, read]
          simp only [bind_product?_sum?, digit_eq, if_true]
          split_ifs with fits
          · simp only
            rw [ih, toNat_mul_ten_add (digit_eq.symm ▸ fits), digit_eq]
          · rfl

/-- Digits that cannot leave 64 bits need no checks. -/
theorem wrapping_eq_checked {number : UInt64} {bytes : List UInt8}
    (short : (number.toNat + 1) * Nat.pow 10 bytes.length ≤ UInt64.size) :
    wrapping number bytes = checked number bytes := by
  induction bytes generalizing number with
  | nil => rfl
  | cons byte rest ih =>
      rw [wrapping, checked]
      cases read : digit? byte with
      | none => rfl
      | some digit =>
          have digit_lt := toNat_digit_lt read
          have power_pos : 0 < Nat.pow 10 rest.length := Nat.pow_pos (by decide)
          have still_short : (number.toNat * 10 + digit.toNat + 1) * Nat.pow 10 rest.length ≤
              UInt64.size :=
            calc (number.toNat * 10 + digit.toNat + 1) * Nat.pow 10 rest.length
                ≤ (number.toNat + 1) * 10 * Nat.pow 10 rest.length :=
                  Nat.mul_le_mul_right _ (by omega)
              _ = (number.toNat + 1) * (Nat.pow 10 rest.length * 10) := by
                  rw [Nat.mul_assoc, Nat.mul_comm 10]
              _ ≤ UInt64.size := short
          have fits : number.toNat * 10 + digit.toNat < UInt64.size :=
            Nat.lt_of_succ_le (Nat.le_trans (Nat.le_mul_of_pos_right _ power_pos) still_short)
          simp only [bind_product?_sum?, if_pos fits]
          exact ih (by rwa [toNat_mul_ten_add fits])

theorem ofDigits_encode (text : List Char) :
    ofDigits (Text.Utf8.encode text) = (countFrom 0 text).map UInt64.ofNat := by
  have checked_eq := checked_encode 0 text
  rw [ofDigits]
  split_ifs with few
  · rw [wrapping_eq_checked, checked_eq]
    · rfl
    · calc ((0 : UInt64).toNat + 1) * Nat.pow 10 (Text.Utf8.encode text).length
          = Nat.pow 10 (Text.Utf8.encode text).length := Nat.one_mul _
        _ ≤ Nat.pow 10 16 := Nat.pow_le_pow_right (by decide) few
        _ ≤ UInt64.size := by decide
  · rw [checked_eq]
    rfl

theorem ofBytes_of_ne_plus {first : UInt8} (unsigned : first ≠ plus) (rest : List UInt8) :
    ofBytes (first :: rest) = ofDigits (first :: rest) := by
  have not_plus : (first == plus) = false := beq_eq_false_iff_ne.mpr unsigned
  rw [ofBytes, not_plus, Bool.false_or, if_neg Bool.false_ne_true]
  split_ifs with sign_alone
  · rw [Bool.and_eq_true, List.isEmpty_iff, beq_iff_eq] at sign_alone
    rw [sign_alone.1, sign_alone.2]
    rfl
  · rfl

/-- Only a plus sign starts with the byte of one. -/
theorem exists_encode_eq_cons {first : Char} (unsigned : first ≠ '+') (rest : List Char) :
    ∃ lead bytes, Text.Utf8.encode (first :: rest) = lead :: bytes ∧ lead ≠ plus := by
  by_cases ascii : first.toNat < 0x80
  · refine ⟨UInt8.ofNat first.toNat, Text.Utf8.encode rest, ?_, ?_⟩
    · rw [Text.Utf8.encode_cons, Text.Utf8.utf8EncodeChar_of_ascii ascii]
      rfl
    · intro is_plus
      have number_eq := congrArg UInt8.toNat is_plus
      rw [Text.Utf8.toNat_ofNat_of_lt (by omega)] at number_eq
      exact unsigned (Char.toNat_inj.mp number_eq)
  · rcases Text.Utf8.exists_utf8EncodeChar_eq_cons (Nat.le_of_not_lt ascii) with
      ⟨lead, others, encoded, beyond⟩
    refine ⟨lead, others ++ Text.Utf8.encode rest, ?_, ?_⟩
    · rw [Text.Utf8.encode_cons, encoded, List.cons_append]
    · rintro rfl
      exact absurd beyond (by decide)

theorem parse_eq_readCount (filterType : FilterType) (value : String) :
    parse filterType value = readCount filterType value := by
  rw [parse, readCount_eq]
  cases value.toList with
  | nil => rfl
  | cons first rest =>
      rw [if_neg (List.cons_ne_nil first rest)]
      simp only [List.head?_cons, Option.some_inj]
      by_cases signed : first = '+'
      · subst signed
        rfl
      · rcases exists_encode_eq_cons signed rest with ⟨lead, bytes, encoded, not_plus⟩
        rw [if_neg signed, encoded, ofBytes_of_ne_plus not_plus, ← encoded, ofDigits_encode]

end Numeral

/-! ## Values -/

variable {filterType : FilterType} {value : String}

theorem leadingNumber_eq {text : List Char} (digits : text.all Char.isDigit = true) :
    leadingNumber text = Nat.ofDigitChars 10 text 0 := by
  have all_taken : text.takeWhile Char.isDigit = text := by
    rw [← List.append_nil text, List.takeWhile_append_of_pos (List.all_eq_true.mp digits)]
    simp
  rw [leadingNumber, all_taken]

/-- What a value is read as, told by the number that it starts with. -/
theorem readCount_eq_ite :
    readCount filterType value =
      if value = "" then .error (.invalidNumber filterType value .empty)
      else if UInt64.size ≤ leadingNumber value.toList then
        .error (.invalidNumber filterType value .tooLarge)
      else if value.toList.all Char.isDigit = true then
        .ok (UInt64.ofNat (leadingNumber value.toList))
      else .error (.invalidNumber filterType value .invalidDigit) := by
  rw [readCount_eq, countFrom_eq_ite (by decide), ← leadingNumber]
  simp only [String.toList_eq_nil_iff]
  by_cases empty : value = ""
  · simp only [if_pos empty, Except.mapError]
  · by_cases exceeds : UInt64.size ≤ leadingNumber value.toList
    · simp only [if_neg empty, if_pos exceeds, Except.map, Except.mapError]
    · by_cases digits : value.toList.all Char.isDigit = true
      · rw [leadingNumber_eq digits] at exceeds ⊢
        simp only [if_neg empty, if_neg exceeds, if_pos digits, Except.map, Except.mapError]
      · simp only [if_neg empty, if_neg exceeds, if_neg digits, Except.map, Except.mapError]

theorem isNumeral_iff {count : UInt64} :
    IsNumeral value.toList count.toNat ↔
      value ≠ "" ∧ value.toList.all Char.isDigit = true ∧
        leadingNumber value.toList = count.toNat := by
  rw [List.all_eq_true]
  constructor
  · intro numeral
    refine ⟨fun empty => numeral.not_empty (String.toList_eq_nil_iff.mpr empty), numeral.digits, ?_⟩
    rw [leadingNumber_eq (List.all_eq_true.mpr numeral.digits), numeral.number_eq]
  · rintro ⟨not_empty, digits, number_eq⟩
    rw [leadingNumber_eq (List.all_eq_true.mpr digits)] at number_eq
    exact ⟨fun empty => not_empty (String.toList_eq_nil_iff.mp empty), digits, number_eq⟩

theorem ofNat_eq_iff {number : Nat} (fits : number < UInt64.size) {count : UInt64} :
    UInt64.ofNat number = count ↔ number = count.toNat := by
  rw [← UInt64.toNat_inj, UInt64.toNat_ofNat_of_lt' fits]

theorem readCount_eq_ok_iff {count : UInt64} :
    readCount filterType value = .ok count ↔ IsNumeral value.toList count.toNat := by
  rw [readCount_eq_ite, isNumeral_iff]
  split_ifs with empty exceeds digits
  · simp [empty]
  · have too_large : leadingNumber value.toList ≠ count.toNat :=
      Nat.ne_of_gt (Nat.lt_of_lt_of_le count.toNat_lt_size exceeds)
    simp [too_large]
  · simp [empty, digits, ofNat_eq_iff (Nat.lt_of_not_le exceeds)]
  · simp [digits]

theorem readCount_of_isOf {fault : CountFault} (is_fault : fault.IsOf value) :
    readCount filterType value = .error (.invalidNumber filterType value fault) := by
  rw [readCount_eq_ite]
  cases fault with
  | empty =>
      have empty : value = "" := is_fault
      rw [if_pos empty]
  | tooLarge =>
      have exceeds : UInt64.size ≤ leadingNumber value.toList := is_fault
      have not_empty : value ≠ "" := by
        rintro rfl
        exact absurd exceeds (by decide)
      rw [if_neg not_empty, if_pos exceeds]
  | invalidDigit =>
      rcases is_fault with ⟨not_empty, fits, no_count⟩
      have not_digits : ¬value.toList.all Char.isDigit = true := fun digits =>
        no_count ⟨UInt64.ofNat (leadingNumber value.toList),
          isNumeral_iff.mpr ⟨not_empty, digits, (ofNat_eq_iff fits).mp rfl⟩⟩
      rw [if_neg not_empty, if_neg (Nat.not_le_of_lt fits), if_neg not_digits]

theorem readCount_eq_error_iff {error : FilterError} :
    readCount filterType value = .error error ↔
      ∃ fault : CountFault, fault.IsOf value ∧ error = .invalidNumber filterType value fault := by
  constructor
  · intro read
    have no_count : ¬∃ count : UInt64, IsNumeral value.toList count.toNat := by
      rintro ⟨count, numeral⟩
      rw [readCount_eq_ok_iff.mpr numeral] at read
      contradiction
    rw [readCount_eq_ite] at read
    split_ifs at read with empty exceeds digits
    · exact ⟨.empty, empty, (Except.error.inj read).symm⟩
    · exact ⟨.tooLarge, exceeds, (Except.error.inj read).symm⟩
    · exact ⟨.invalidDigit, ⟨empty, Nat.lt_of_not_le exceeds, no_count⟩,
        (Except.error.inj read).symm⟩
  · rintro ⟨fault, is_fault, rfl⟩
    exact readCount_of_isOf is_fault

theorem Limit.parse_eq_ok_iff {limit : Limit} :
    Limit.parse value = .ok limit ↔ readCount .limit value = .ok limit.count := by
  rw [Limit.parse, map_eq_ok_iff]
  constructor
  · rintro ⟨count, read, rfl⟩
    exact read
  · exact fun read => ⟨limit.count, read, rfl⟩

theorem Skip.parse_eq_ok_iff {skip : Skip} :
    Skip.parse value = .ok skip ↔ readCount .skip value = .ok skip.count := by
  rw [Skip.parse, map_eq_ok_iff]
  constructor
  · rintro ⟨count, read, rfl⟩
    exact read
  · exact fun read => ⟨skip.count, read, rfl⟩

/--
A limit or a skip is read from the digits of a number of 64 bits and from nothing else. Any other
value has one fault, which is told with the filter and the value: it is empty, the digits it starts
with make too large a number, or it is neither of these. Reading the bytes of the value, with checks
or without where it is short, comes to the same.
-/
theorem parse_count_iff (value : String) :
    (∀ limit : Limit, Limit.parse value = .ok limit ↔
      IsNumeral value.toList limit.count.toNat) ∧
    (∀ skip : Skip, Skip.parse value = .ok skip ↔ IsNumeral value.toList skip.count.toNat) ∧
    (∀ error, Limit.parse value = .error error ↔
      ∃ fault : CountFault, fault.IsOf value ∧ error = .invalidNumber .limit value fault) ∧
    (∀ error, Skip.parse value = .error error ↔
      ∃ fault : CountFault, fault.IsOf value ∧ error = .invalidNumber .skip value fault) ∧
    ∀ filterType, Numeral.parse filterType value = readCount filterType value := by
  refine ⟨?_, ?_, ?_, ?_, fun filterType => Numeral.parse_eq_readCount filterType value⟩
  · intro limit
    rw [Limit.parse_eq_ok_iff, readCount_eq_ok_iff]
  · intro skip
    rw [Skip.parse_eq_ok_iff, readCount_eq_ok_iff]
  · intro error
    rw [Limit.parse, map_eq_error_iff, readCount_eq_error_iff]
  · intro error
    rw [Skip.parse, map_eq_error_iff, readCount_eq_error_iff]

example : readCount .limit "018446744073709551615" = .ok 18446744073709551615 ∧
    readCount .limit "18446744073709551615x" =
      .error (.invalidNumber .limit "18446744073709551615x" .invalidDigit) ∧
    readCount .limit "18446744073709551616x" =
      .error (.invalidNumber .limit "18446744073709551616x" .tooLarge) := by
  decide +kernel

end SchemaLens.Query
