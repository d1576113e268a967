import SchemaLens.Query.Descriptor
import SchemaLens.Query.Error
import SchemaLens.Text.Fields
import SchemaLens.Text.WhiteSpace

/-!
# Filter values

How the value of a filter parameter is read, by the type of the filter and the path of its key.
A value may hold no part at all: an order without entries and a list without fields say nothing.
-/

namespace SchemaLens.Query

/-- Reads the rest of a count, given the number that the digits so far make. -/
def countFrom (number : Nat) : List Char → Except CountFault Nat
  | [] => .ok number
  | character :: rest =>
    if character.isDigit then
      let extended := number * 10 + (character.toNat - '0'.toNat)
      if extended < UInt64.size then countFrom extended rest else .error .tooLarge
    else .error .invalidDigit

/-- Reads a count: ASCII digits only, without a sign. -/
def readCount (filterType : FilterType) (value : String) : Except FilterError UInt64 :=
  let result := if value.isEmpty then .error .empty else countFrom 0 value.toList
  match result with
  | .ok number => .ok (UInt64.ofNat number)
  | .error fault => .error (.invalidNumber filterType value fault)

/-- Reads the value of a limit. -/
def Limit.parse (value : String) : Except FilterError Limit :=
  (readCount .limit value).map Limit.mk

/-- Reads the value of a skip. -/
def Skip.parse (value : String) : Except FilterError Skip :=
  (readCount .skip value).map Skip.mk

/-- The entries of an order: a word, blanks, and a direction as a word of its own. A word that no
direction follows is passed over. -/
def orderEntries (text : List Char) : List OrderEntry :=
  match _start : text.dropWhile (!Text.isAsciiWord ·) with
  | [] => []
  | first :: others =>
    let word := first :: others.takeWhile Text.isAsciiWord
    let afterWord := others.dropWhile Text.isAsciiWord
    let next := afterWord.dropWhile Text.isAsciiBlank
    let direction? :=
      if (afterWord.takeWhile Text.isAsciiBlank).isEmpty then none
      else SortDirection.ofWord? (next.takeWhile Text.isAsciiWord)
    match direction? with
    | some direction =>
      { fieldName := String.ofList word, direction } ::
        orderEntries (next.dropWhile Text.isAsciiWord)
    | none => orderEntries afterWord
termination_by text.length
decreasing_by
  all_goals
    have start_le := (List.dropWhile_sublist (!Text.isAsciiWord ·) (l := text)).length_le
    have afterWord_le := (List.dropWhile_sublist Text.isAsciiWord (l := others)).length_le
    rw [_start] at start_le
    simp only [List.length_cons] at start_le
  · have next_le := (List.dropWhile_sublist Text.isAsciiBlank
      (l := others.dropWhile Text.isAsciiWord)).length_le
    have rest_le := (List.dropWhile_sublist Text.isAsciiWord (l := (others.dropWhile
      Text.isAsciiWord).dropWhile Text.isAsciiBlank)).length_le
    omega
  · omega

/-- Reads the value of an order; `none` if it has no entry. -/
def SortOrder.parse? (value : String) : Option SortOrder :=
  match orderEntries value.toList with
  | [] => none
  | first :: others => some { entries := first :: others }

/-- Reads the name of an operator. -/
def Operator.parse (word : String) : Except FilterError Operator :=
  match Operator.ofWord? word with
  | some operator => .ok operator
  | none => .error (.unknownOperator word)

/-- Reads the value of a condition. The path has to name a field and an operator. -/
def Condition.parse (key : String) (path : List String) (value : String) :
    Except FilterError Condition :=
  match path with
  | [] => .error .bareCondition
  | [fieldName, word] =>
    if fieldName.isEmpty then .error (.invalidPath key)
    else (Operator.parse word).map fun operator => { fieldName, operator, value }
  | _ => .error (.invalidPath key)

/-- The truth value that a flag states, if it states one. -/
def flagValue? (value : String) : Option Bool :=
  match String.ofList (Text.asciiLower (Text.trim value.toList)) with
  | "true" | "1" => some true
  | "false" | "0" => some false
  | _ => none

/-- Whether a character separates the names of a field list. -/
def separatesFields (character : Char) : Bool :=
  character = ',' || Text.isWhiteSpace character

/-- Reads the value of a projection: a list of fields, or the flag of the one field that the path
names. `none` if the list is empty. -/
def Projection.parse (key : String) (path : List String) (value : String) :
    Except FilterError (Option Projection) :=
  match path with
  | [] =>
    match Text.fields separatesFields value.toList with
    | [] => .ok none
    | names => .ok (some { included := names.map String.ofList })
  | [fieldName] =>
    if fieldName.isEmpty then .error (.invalidPath key)
    else
      match flagValue? value with
      | some true => .ok (some { included := [fieldName] })
      | some false => .ok (some { excluded := [fieldName] })
      | none => .error (.invalidFlag key value)
  | _ => .error (.invalidPath key)

/-- Reads one value of a filter whose key is `key` with the path `path`. -/
def FilterPart.parse (filterType : FilterType) (key : String) (path : List String)
    (value : String) : Except FilterError (Option FilterPart) :=
  match filterType with
  | .fields => (Projection.parse key path value).map (Option.map .fields)
  | .condition => (Condition.parse key path value).map (some ∘ .condition)
  | .order =>
    if path.isEmpty then .ok ((SortOrder.parse? value).map .order)
    else .error (.invalidPath key)
  | .limit =>
    if path.isEmpty then (Limit.parse value).map (some ∘ .limit)
    else .error (.invalidPath key)
  | .skip =>
    if path.isEmpty then (Skip.parse value).map (some ∘ .skip)
    else .error (.invalidPath key)

end SchemaLens.Query
