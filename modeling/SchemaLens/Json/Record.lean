import SchemaLens.Json.Lawful

/-!
# Records

A record is written as an object with one member for each of its fields, in the order in which the
fields are declared. It is read from an object, where the members may stand in any order and those
that are no fields are passed over, or from an array of all its fields in order.
-/

namespace SchemaLens

/-- The fields of a record from one of them on, where `Maker` makes the record of their values. -/
inductive RecordFields (Record : Type) : Type → Type 1 where
  /-- The record is made. -/
  | done : RecordFields Record Record
  /-- A field that has to be there. -/
  | required {Value Maker : Type} [JsonForm Value] [LawfulJsonForm Value] (name : String)
      (get : Record → Value) (rest : RecordFields Record Maker) :
      RecordFields Record (Value → Maker)
  /-- A field that may be absent or null. -/
  | optional {Value Maker : Type} [JsonForm Value] [LawfulJsonForm Value] (name : String)
      (get : Record → Option Value) (rest : RecordFields Record Maker) :
      RecordFields Record (Option Value → Maker)

namespace RecordFields

variable {Record : Type}

def names {Maker : Type} : RecordFields Record Maker → List String
  | .done => []
  | @required _ _ _ _ _ name _ rest => name :: rest.names
  | @optional _ _ _ _ _ name _ rest => name :: rest.names

/-- The members that the fields of a record are written as. -/
def members {Maker : Type} : RecordFields Record Maker → Record → List (String × Json)
  | .done, _ => []
  | @required _ _ _ _ _ name get rest, record =>
    (name, toJson (get record)) :: rest.members record
  | @optional _ _ _ _ _ name get rest, record =>
    (name, Json.ofOption (get record)) :: rest.members record

/-- The record that is made of the fields of a record. -/
def remake {Maker : Type} : RecordFields Record Maker → Maker → Record → Record
  | .done, made, _ => made
  | @required _ _ _ _ _ _ get rest, make, record => rest.remake (make (get record)) record
  | @optional _ _ _ _ _ _ get rest, make, record => rest.remake (make (get record)) record

/-- The record of fields that are given as members. -/
def ofMembers? {Maker : Type} :
    RecordFields Record Maker → Maker → List (String × Json) → Option Record
  | .done, made, _ => some made
  | @required _ _ _ _ _ name _ rest, make, members =>
    (Json.required? members name).bind fun value => rest.ofMembers? (make value) members
  | @optional _ _ _ _ _ name _ rest, make, members =>
    (Json.optional? members name).bind fun value => rest.ofMembers? (make value) members

/-- The record of fields that are given in order. -/
def ofElements? {Maker : Type} : RecordFields Record Maker → Maker → List Json → Option Record
  | .done, made, [] => some made
  | @required _ _ _ _ _ _ _ rest, make, form :: others =>
    (ofJson? form).bind fun value => rest.ofElements? (make value) others
  | @optional _ _ _ _ _ _ _ rest, make, form :: others =>
    (Json.toOption? form).bind fun value => rest.ofElements? (make value) others
  | _, _, _ => none

@[simp]
theorem map_fst_members {Maker : Type} (fields : RecordFields Record Maker) (record : Record) :
    (fields.members record).map Prod.fst = fields.names := by
  induction fields with
  | done => rfl
  | required name get rest ih => simp [members, names, ih]
  | optional name get rest ih => simp [members, names, ih]

/-- A record is read from its members wherever they stand, as long as each is given once. -/
theorem ofMembers?_of_given {Maker : Type} {fields : RecordFields Record Maker} {make : Maker}
    {record : Record} {members : List (String × Json)}
    (given : ∀ member ∈ fields.members record, Json.given members member.1 = [member.2]) :
    fields.ofMembers? make members = some (fields.remake make record) := by
  induction fields with
  | done => rfl
  | required name get rest ih =>
    simp only [RecordFields.members, List.forall_mem_cons] at given
    simp [ofMembers?, remake, Json.required?, given.1, ih given.2]
  | optional name get rest ih =>
    simp only [RecordFields.members, List.forall_mem_cons] at given
    simp [ofMembers?, remake, Json.optional?, given.1, ih given.2]

end RecordFields

class JsonRecord (Record : Type) where
  /-- The type of the function that makes a record. -/
  {Maker : Type}
  /-- Makes a record of the values of its fields. -/
  make : Maker
  /-- The fields in the order in which they are declared. -/
  fields : RecordFields Record Maker
  /-- No two fields have one name. -/
  distinct : fields.names.Nodup := by decide
  /-- A record is made of its own fields. -/
  remake_eq : ∀ record, fields.remake make record = record := by exact fun _ => rfl

namespace JsonRecord

variable {Record : Type} [JsonRecord Record]

instance : JsonForm Record where
  toJson record := .object ((fields : RecordFields Record _).members record)
  ofJson?
    | .object members => (fields : RecordFields Record _).ofMembers? make members
    | .array elements => (fields : RecordFields Record _).ofElements? make elements
    | _ => none

instance : LawfulJsonForm Record where
  ofJson?_toJson record := by
    have distinct_members : (((fields : RecordFields Record _).members record).map
        Prod.fst).Nodup := by
      simp [distinct]
    have remade : (fields : RecordFields Record _).ofMembers? make (fields.members record) =
        some (fields.remake make record) :=
      RecordFields.ofMembers?_of_given fun _ => Json.given_of_mem distinct_members
    rwa [remake_eq] at remade
  toJson_ne_null _ := nofun

end JsonRecord

end SchemaLens
