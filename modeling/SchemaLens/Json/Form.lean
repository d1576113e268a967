import SchemaLens.Data.Named
import SchemaLens.Data.OrderedMap
import SchemaLens.Json.Value

/-!
# JSON forms

Types that can be written as JSON and read back. Reading is strict: a value of one JSON type is
never taken for another, a number has to be a whole one within the range of its type, and a
member that is asked for may be absent only where it is optional and may never be given twice.
-/

namespace SchemaLens

universe u

/-- A type with a JSON form. -/
class JsonForm (Value : Type u) where
  /-- The JSON form of a value. -/
  toJson : Value → Json
  /-- The value of a JSON form. -/
  ofJson? : Json → Option Value

export JsonForm (toJson ofJson?)

namespace Json

variable {Value : Type u} [JsonForm Value]

/-- The members of an object. -/
def members? : Json → Option (List (String × Json))
  | .object members => some members
  | _ => none

/-- The elements of an array. -/
def elements? : Json → Option (List Json)
  | .array elements => some elements
  | _ => none

/-- The form of an optional value; none is written as null. -/
def ofOption (value : Option Value) : Json :=
  match value with
  | none => .null
  | some value => toJson value

/-- The optional value of a form; null is none. -/
def toOption? : Json → Option (Option Value)
  | .null => some none
  | form => (ofJson? form).map some

/-- The forms that members give for a name. -/
def given (members : List (String × Json)) (name : String) : List Json :=
  (members.filter (·.1 == name)).map Prod.snd

theorem given_of_mem {members : List (String × Json)} {member : String × Json}
    (distinct : (members.map Prod.fst).Nodup) (member_mem : member ∈ members) :
    given members member.1 = [member.2] := by
  induction members with
  | nil => contradiction
  | cons first rest ih =>
    simp only [List.map_cons, List.nodup_cons, List.mem_map, not_exists, not_and] at distinct
    rcases List.mem_cons.mp member_mem with rfl | member_mem
    · have given_once : rest.filter (·.1 == member.1) = [] := by
        simpa using distinct.1
      simp [given, given_once]
    · have differs : ¬first.1 = member.1 := fun same => distinct.1 member member_mem same.symm
      simpa [given, List.filter_cons, differs] using ih distinct.2 member_mem

/-- The value of a member that has to be there. -/
def required? (members : List (String × Json)) (name : String) : Option Value :=
  match given members name with
  | [form] => ofJson? form
  | _ => none

/-- The value of a member that may be absent or null. -/
def optional? (members : List (String × Json)) (name : String) : Option (Option Value) :=
  match given members name with
  | [] => some none
  | [form] => toOption? form
  | _ => none

end Json

namespace JsonForm

instance : JsonForm String where
  toJson text := .string text
  ofJson?
    | .string text => some text
    | _ => none

instance : JsonForm Bool where
  toJson value := .bool value
  ofJson?
    | .bool value => some value
    | _ => none

instance : JsonForm UInt64 where
  toJson number := .integer number.toNat
  ofJson?
    | .integer value =>
      if 0 ≤ value ∧ value.toNat < UInt64.size then some (.ofNat value.toNat) else none
    | _ => none

instance : JsonForm Int32 where
  toJson number := .integer number.toInt
  ofJson?
    | .integer value =>
      if Int32.minValue.toInt ≤ value ∧ value ≤ Int32.maxValue.toInt then some (.ofInt value)
      else none
    | _ => none

instance : JsonForm Int64 where
  toJson number := .integer number.toInt
  ofJson?
    | .integer value =>
      if Int64.minValue.toInt ≤ value ∧ value ≤ Int64.maxValue.toInt then some (.ofInt value)
      else none
    | _ => none

/-- A named member is written as its name. It may be read from an object, too, that gives its name
and nothing more. -/
instance {Member : Type} [Named Member] : JsonForm Member where
  toJson member := .string (Named.name member)
  ofJson?
    | .string text => Named.ofName? text
    | .object [(text, .null)] => Named.ofName? text
    | _ => none

instance {Value : Type u} [JsonForm Value] : JsonForm (List Value) where
  toJson values := .array (values.map toJson)
  ofJson?
    | .array elements => elements.mapM ofJson?
    | _ => none

/-- A map is written as an object with its keys in order. -/
instance {Value : Type u} [JsonForm Value] : JsonForm (OrderedMap Value) where
  toJson map := .object (map.entries.map fun (key, value) => (key, toJson value))
  ofJson?
    | .object members => do
      let entries ← members.mapM fun (key, form) => (ofJson? form).map (key, ·)
      return .ofList entries
    | _ => none

end JsonForm

end SchemaLens
