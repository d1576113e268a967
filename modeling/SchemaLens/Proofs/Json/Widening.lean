import Mathlib.Data.List.Nodup
import SchemaLens.Json.Record

/-!
# Widened JSON forms

A form says the same when the objects of its records get members that are no fields, and when a
member that may be absent is written as null instead, at any depth.
-/

namespace SchemaLens

structure JsonField where
  name : String
  isOptional : Bool
  Value : Type
  [form : JsonForm Value]

attribute [instance] JsonField.form

namespace Json

@[simp]
theorem given_append (before after : List (String × Json)) (name : String) :
    given (before ++ after) name = given before name ++ given after name := by
  simp [given]

@[simp]
theorem given_cons_self (name : String) (form : Json) (rest : List (String × Json)) :
    given ((name, form) :: rest) name = form :: given rest name := by
  simp [given]

theorem given_cons_of_ne {name other : String} (form : Json) (rest : List (String × Json))
    (differs : other ≠ name) : given ((other, form) :: rest) name = given rest name := by
  simp [given, differs]

theorem given_eq_nil {members : List (String × Json)} {name : String}
    (absent : ∀ member ∈ members, member.1 ≠ name) : given members name = [] := by
  simpa [given] using absent

theorem toOption?_of_ne_null {Value : Type} [JsonForm Value] {form : Json}
    (not_null : form ≠ .null) :
    (toOption? form : Option (Option Value)) = (ofJson? form).map some := by
  cases form with
  | null => contradiction
  | _ => rfl

theorem toOption?_congr {Value : Type} [JsonForm Value] {form other : Json}
    (read_alike : (ofJson? form : Option Value) = ofJson? other)
    (null_iff : form = .null ↔ other = .null) :
    (toOption? form : Option (Option Value)) = toOption? other := by
  by_cases is_null : form = .null
  · rw [is_null, null_iff.mp is_null]
  · rw [toOption?_of_ne_null is_null, toOption?_of_ne_null (mt null_iff.mpr is_null), read_alike]

end Json

namespace JsonField

variable {field : JsonField} {members others : List (String × Json)}

/-- Whether a field is read alike from two lists of members. -/
def ReadsAlike (field : JsonField) (members others : List (String × Json)) : Prop :=
  if field.isOptional then
    (Json.optional? members field.name : Option (Option field.Value)) =
      Json.optional? others field.name
  else
    (Json.required? members field.name : Option field.Value) = Json.required? others field.name

theorem readsAlike_of_given_eq
    (given_eq : Json.given members field.name = Json.given others field.name) :
    field.ReadsAlike members others := by
  simp [ReadsAlike, Json.optional?, Json.required?, given_eq]

/-- An optional field is read alike whether it is absent or null. -/
theorem readsAlike_null (is_optional : field.isOptional = true)
    (absent : Json.given members field.name = [])
    (is_null : Json.given others field.name = [.null]) : field.ReadsAlike members others := by
  simp [ReadsAlike, is_optional, Json.optional?, absent, is_null, Json.toOption?]

theorem readsAlike_replaced {form other : Json} {earlier later : List Json}
    (given_form : Json.given members field.name = earlier ++ form :: later)
    (given_other : Json.given others field.name = earlier ++ other :: later)
    (read_alike : (ofJson? form : Option field.Value) = ofJson? other)
    (null_iff : form = .null ↔ other = .null) : field.ReadsAlike members others := by
  have opened_alike := Json.toOption?_congr read_alike null_iff
  -- Given more than once, a field is refused either way.
  rcases earlier with - | ⟨_, - | _⟩ <;> rcases later with - | _ <;>
    simp_all [ReadsAlike, Json.optional?, Json.required?]

end JsonField

namespace RecordFields

variable {Record Maker : Type}

def list {Maker : Type} : RecordFields Record Maker → List JsonField
  | .done => []
  | @required _ Value _ _ _ name _ rest => ⟨name, false, Value⟩ :: rest.list
  | @optional _ Value _ _ _ name _ rest => ⟨name, true, Value⟩ :: rest.list

@[simp]
theorem map_name_list (fields : RecordFields Record Maker) :
    fields.list.map JsonField.name = fields.names := by
  induction fields with
  | done => rfl
  | required name get rest ih => simp [list, names, ih]
  | optional name get rest ih => simp [list, names, ih]

theorem ofMembers?_congr {fields : RecordFields Record Maker} {make : Maker}
    {members others : List (String × Json)}
    (read_alike : ∀ field ∈ fields.list, field.ReadsAlike members others) :
    fields.ofMembers? make members = fields.ofMembers? make others := by
  induction fields with
  | done => rfl
  | required name get rest ih =>
    simp only [list, List.forall_mem_cons] at read_alike
    have first_alike : Json.required? members name = Json.required? others name := read_alike.1
    simp [ofMembers?, first_alike, ih read_alike.2]
  | optional name get rest ih =>
    simp only [list, List.forall_mem_cons] at read_alike
    have first_alike : Json.optional? members name = Json.optional? others name := read_alike.1
    simp [ofMembers?, first_alike, ih read_alike.2]

theorem ofElements?_replaced {fields : RecordFields Record Maker} {make : Maker}
    {field : JsonField} {form other : Json} {before after : List Json}
    (field_at : fields.list[before.length]? = some field)
    (read_alike : (ofJson? form : Option field.Value) = ofJson? other)
    (null_iff : form = .null ↔ other = .null) :
    fields.ofElements? make (before ++ form :: after) =
      fields.ofElements? make (before ++ other :: after) := by
  induction fields generalizing before with
  | done => simp [list] at field_at
  | required name get rest ih =>
    cases before with
    | nil =>
      simp only [list, List.length_nil, List.getElem?_cons_zero, Option.some.injEq] at field_at
      subst field_at
      simp [ofElements?, read_alike]
    | cons first before => simp [ofElements?, ih (by simpa [list] using field_at)]
  | optional name get rest ih =>
    cases before with
    | nil =>
      simp only [list, List.length_nil, List.getElem?_cons_zero, Option.some.injEq] at field_at
      subst field_at
      simp [ofElements?, Json.toOption?_congr read_alike null_iff]
    | cons first before => simp [ofElements?, ih (by simpa [list] using field_at)]

end RecordFields

namespace JsonRecord

def fieldsOf (Record : Type) [JsonRecord Record] : List JsonField :=
  (fields : RecordFields Record _).list

theorem field_eq_of_name_eq {Record : Type} [JsonRecord Record] {field other : JsonField}
    (field_mem : field ∈ fieldsOf Record) (other_mem : other ∈ fieldsOf Record)
    (same_name : field.name = other.name) : field = other := by
  apply List.inj_on_of_nodup_map _ field_mem other_mem same_name
  rw [fieldsOf, RecordFields.map_name_list]
  exact distinct

end JsonRecord

open JsonRecord (fieldsOf)

/-- A form of a type of values and one that says the same with more members. -/
inductive Widens : (Value : Type) → [JsonForm Value] → Json → Json → Prop where
  | refl {Value : Type} [JsonForm Value] (form : Json) : Widens Value form form
  | trans {Value : Type} [JsonForm Value] {form middle widened : Json} :
      Widens Value form middle → Widens Value middle widened → Widens Value form widened
  /-- An object of a record gets a member that is no field. -/
  | unknown {Record : Type} [JsonRecord Record] {name : String} (extra : Json)
      (before after : List (String × Json))
      (no_field : ∀ field ∈ fieldsOf Record, field.name ≠ name) :
      Widens Record (.object (before ++ after)) (.object (before ++ (name, extra) :: after))
  /-- An absent member becomes null. -/
  | null {Record : Type} [JsonRecord Record] {field : JsonField}
      (before after : List (String × Json)) (field_mem : field ∈ fieldsOf Record)
      (is_optional : field.isOptional = true)
      (absent : ∀ member ∈ before ++ after, member.1 ≠ field.name) :
      Widens Record (.object (before ++ after))
        (.object (before ++ (field.name, .null) :: after))
  /-- A member of a record is widened. -/
  | member {Record : Type} [JsonRecord Record] {field : JsonField} {form widened : Json}
      (before after : List (String × Json)) (field_mem : field ∈ fieldsOf Record) :
      Widens field.Value form widened →
      Widens Record (.object (before ++ (field.name, form) :: after))
        (.object (before ++ (field.name, widened) :: after))
  /-- A record written as an array is widened at one of its fields. -/
  | element {Record : Type} [JsonRecord Record] {field : JsonField} {form widened : Json}
      (before after : List Json) (field_at : (fieldsOf Record)[before.length]? = some field) :
      Widens field.Value form widened →
      Widens Record (.array (before ++ form :: after)) (.array (before ++ widened :: after))
  /-- A list is widened at one of its elements. -/
  | listElement {Value : Type} [JsonForm Value] {form widened : Json} (before after : List Json) :
      Widens Value form widened →
      Widens (List Value) (.array (before ++ form :: after)) (.array (before ++ widened :: after))
  /-- A map is widened at the value of a key. -/
  | mapValue {Value : Type} [JsonForm Value] {key : String} {form widened : Json}
      (before after : List (String × Json)) :
      Widens Value form widened →
      Widens (OrderedMap Value) (.object (before ++ (key, form) :: after))
        (.object (before ++ (key, widened) :: after))

namespace Widens

theorem eq_null_iff {Value : Type} [JsonForm Value] {form widened : Json}
    (widens : Widens Value form widened) : form = .null ↔ widened = .null := by
  induction widens with
  | trans _ _ ih_middle ih_widened => exact ih_middle.trans ih_widened
  | _ => simp

/-- A widened form is read as before. -/
theorem ofJson?_eq {Value : Type} [JsonForm Value] {form widened : Json}
    (widens : Widens Value form widened) :
    (ofJson? form : Option Value) = ofJson? widened := by
  induction widens with
  | refl => rfl
  | trans _ _ ih_middle ih_widened => exact ih_middle.trans ih_widened
  | unknown extra before after no_field =>
    apply RecordFields.ofMembers?_congr
    intro field field_mem
    apply JsonField.readsAlike_of_given_eq
    simp [Json.given_cons_of_ne _ _ (no_field field field_mem).symm]
  | @null _ _ field before after field_mem is_optional absent =>
    apply RecordFields.ofMembers?_congr
    intro other other_mem
    by_cases same_name : field.name = other.name
    · cases JsonRecord.field_eq_of_name_eq field_mem other_mem same_name
      simp only [List.forall_mem_append] at absent
      apply JsonField.readsAlike_null is_optional <;>
        simp [Json.given_eq_nil absent.1, Json.given_eq_nil absent.2]
    · apply JsonField.readsAlike_of_given_eq
      simp [Json.given_cons_of_ne _ _ same_name]
  | @member _ _ field _ _ before after field_mem widens read_alike =>
    apply RecordFields.ofMembers?_congr
    intro other other_mem
    by_cases same_name : field.name = other.name
    · cases JsonRecord.field_eq_of_name_eq field_mem other_mem same_name
      apply JsonField.readsAlike_replaced _ _ read_alike widens.eq_null_iff
      · exact Json.given before field.name
      · exact Json.given after field.name
      · simp
      · simp
    · apply JsonField.readsAlike_of_given_eq
      simp [Json.given_cons_of_ne _ _ same_name]
  | element before after field_at widens read_alike =>
    exact RecordFields.ofElements?_replaced field_at read_alike widens.eq_null_iff
  | listElement before after _ read_alike =>
    simp [ofJson?, read_alike]
  | mapValue before after _ read_alike =>
    simp [ofJson?, read_alike]

end Widens

end SchemaLens
