import SchemaLens.Proofs.Json.Widening
import SchemaLens.Query.JsonForm
import SchemaLens.Schema.JsonForm

/-!
# The JSON form of the data model

Every type of the metamodel, every catalog row, every part of a query and every descriptor is read
back from its JSON form. A form that can be read is brought by reading and writing into a form that
stays as it is, and widening it makes no difference.
-/

namespace SchemaLens

/-- A type whose values are read back from their JSON forms. -/
structure JsonType where
  Value : Type
  [form : JsonForm Value]
  [lawful : LawfulJsonForm Value]

attribute [instance] JsonType.form JsonType.lawful

namespace JsonType

/-- The form that a value read from a form is written as. -/
def rewritten? (type : JsonType) (form : Json) : Option Json :=
  (ofJson? form : Option type.Value).map toJson

variable {type : JsonType} {form written : Json}

theorem rewritten?_toJson (value : type.Value) :
    type.rewritten? (toJson value) = some (toJson value) := by
  simp [rewritten?]

/-- What is written is written again as it is. -/
theorem rewritten?_of_rewritten? (is_written : type.rewritten? form = some written) :
    type.rewritten? written = some written := by
  simp only [rewritten?, Option.map_eq_some_iff] at is_written
  rcases is_written with ⟨value, -, rfl⟩
  exact rewritten?_toJson value

theorem rewritten?_of_widens {widened : Json} (widens : Widens type.Value form widened) :
    type.rewritten? widened = type.rewritten? form := by
  rw [rewritten?, rewritten?, widens.ofJson?_eq]

end JsonType

open Schema Query Naming

inductive ModelType where
  | table
  | column
  | foreignKey
  | autoIncrementKey
  | autoIncrementType
  | fieldType
  | tableRow
  | columnRow
  | keyUsageRow
  | foreignKeyRow
  | projection
  | condition
  | operator
  | sortOrder
  | orderEntry
  | sortDirection
  | limit
  | skip
  | findQuery
  | findOneQuery
  | findByIdQuery
  | countQuery
  | existsQuery
  | insertQuery
  | updateByIdQuery
  | updateQuery
  | destroyByIdQuery
  | destroyQuery
deriving DecidableEq, Repr

namespace ModelType

/-- A type of the data model with its JSON form. -/
def jsonType : ModelType → JsonType
  | table => ⟨Table⟩
  | column => ⟨Column⟩
  | foreignKey => ⟨ForeignKey⟩
  | autoIncrementKey => ⟨AutoIncrementKey⟩
  | autoIncrementType => ⟨AutoIncrementType⟩
  | fieldType => ⟨FieldType⟩
  | tableRow => ⟨TableRow⟩
  | columnRow => ⟨ColumnRow⟩
  | keyUsageRow => ⟨KeyUsageRow⟩
  | foreignKeyRow => ⟨ForeignKeyRow⟩
  | projection => ⟨Projection⟩
  | condition => ⟨Condition⟩
  | operator => ⟨Operator⟩
  | sortOrder => ⟨SortOrder⟩
  | orderEntry => ⟨OrderEntry⟩
  | sortDirection => ⟨SortDirection⟩
  | limit => ⟨Limit⟩
  | skip => ⟨Skip⟩
  | findQuery => ⟨FindQuery⟩
  | findOneQuery => ⟨FindOneQuery⟩
  | findByIdQuery => ⟨FindByIdQuery⟩
  | countQuery => ⟨CountQuery⟩
  | existsQuery => ⟨ExistsQuery⟩
  | insertQuery => ⟨InsertQuery⟩
  | updateByIdQuery => ⟨UpdateByIdQuery⟩
  | updateQuery => ⟨UpdateQuery⟩
  | destroyByIdQuery => ⟨DestroyByIdQuery⟩
  | destroyQuery => ⟨DestroyQuery⟩

/--
A value of the data model is read back from its JSON form. A form that is read is written in a form
that reading and writing no longer change, and members that are no fields of a record or nulls for
its absent optional fields, at any depth, change nothing of what is read and written.
-/
theorem jsonForm_lossless (type : ModelType) :
    (∀ value : type.jsonType.Value, ofJson? (toJson value) = some value) ∧
      ∀ form written, type.jsonType.rewritten? form = some written →
        type.jsonType.rewritten? written = some written ∧
          ∀ widened, Widens type.jsonType.Value form widened →
            (ofJson? widened : Option type.jsonType.Value) = ofJson? form ∧
              type.jsonType.rewritten? widened = some written := by
  refine ⟨ofJson?_toJson, ?_⟩
  intro form written is_written
  refine ⟨JsonType.rewritten?_of_rewritten? is_written, ?_⟩
  intro widened widens
  exact ⟨widens.ofJson?_eq.symm, (JsonType.rewritten?_of_widens widens).trans is_written⟩

/-- A query whose condition carries a remark and whose limit is null is written as the query
without them. -/
theorem jsonForm_lossless_remark :
    let condition := [("field_name", Json.string "age"), ("operator", .string "gte"),
      ("value", .string "18")]
    let remarked := ("remark", .bool true) :: condition
    let written := Json.object [("fields", .null), ("where_parts", .array [.object condition]),
      ("order_by", .null), ("limit", .null), ("skip", .null)]
    findQuery.jsonType.rewritten? written = some written ∧
      findQuery.jsonType.rewritten?
        (.object [("limit", .null), ("where_parts", .array [.object remarked])]) =
          some written := by
  intro condition remarked written
  have plain : findQuery.jsonType.rewritten?
      (.object [("where_parts", .array [.object condition])]) = some written := rfl
  have remark : Widens Condition (.object condition) (.object remarked) :=
    .unknown (.bool true) [] condition (by decide +kernel)
  have conditions_mem : ⟨"where_parts", false, List Condition⟩ ∈ JsonRecord.fieldsOf FindQuery :=
    List.mem_of_getElem? (i := 1) rfl
  have limit_mem : ⟨"limit", true, Limit⟩ ∈ JsonRecord.fieldsOf FindQuery :=
    List.mem_of_getElem? (i := 3) rfl
  have query_remark : Widens FindQuery (.object [("where_parts", .array [.object condition])])
      (.object [("where_parts", .array [.object remarked])]) :=
    .member [] [] conditions_mem (.listElement [] [] remark)
  have query_limit : Widens FindQuery (.object [("where_parts", .array [.object remarked])])
      (.object [("limit", .null), ("where_parts", .array [.object remarked])]) :=
    .null [] _ limit_mem rfl (by simp)
  rcases (jsonForm_lossless findQuery).2 _ _ plain with ⟨fixed, unaffected⟩
  exact ⟨fixed, (unaffected _ (query_remark.trans query_limit)).2⟩

end ModelType

end SchemaLens
