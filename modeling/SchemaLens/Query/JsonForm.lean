import SchemaLens.Json.Record
import SchemaLens.Query.Descriptor

/-!
# JSON forms of query parts and descriptors

Every part and every descriptor is a record with one member for each of its fields.
-/

namespace SchemaLens.Query

instance : JsonRecord Condition where
  make := Condition.mk
  fields :=
    .required "field_name" Condition.fieldName <|
    .required "operator" Condition.operator <|
    .required "value" Condition.value .done

instance : JsonRecord OrderEntry where
  make := OrderEntry.mk
  fields :=
    .required "field_name" OrderEntry.fieldName <|
    .required "direction" OrderEntry.direction .done

instance : JsonRecord SortOrder where
  make := SortOrder.mk
  fields :=
    .required "order_by" SortOrder.entries .done

instance : JsonRecord Limit where
  make := Limit.mk
  fields :=
    .required "limit_to" Limit.count .done

instance : JsonRecord Skip where
  make := Skip.mk
  fields :=
    .required "skip_over" Skip.count .done

instance : JsonRecord Projection where
  make := Projection.mk
  fields :=
    .required "included" Projection.included <|
    .required "excluded" Projection.excluded .done

instance : JsonRecord FindQuery where
  make := FindQuery.mk
  fields :=
    .optional "fields" FindQuery.projection <|
    .required "where_parts" FindQuery.conditions <|
    .optional "order_by" FindQuery.order <|
    .optional "limit" FindQuery.limit <|
    .optional "skip" FindQuery.skip .done

instance : JsonRecord FindOneQuery where
  make := FindOneQuery.mk
  fields :=
    .optional "fields" FindOneQuery.projection <|
    .required "where_parts" FindOneQuery.conditions <|
    .optional "order_by" FindOneQuery.order <|
    .optional "skip" FindOneQuery.skip .done

instance : JsonRecord FindByIdQuery where
  make := FindByIdQuery.mk
  fields :=
    .required "model_id" FindByIdQuery.modelId <|
    .optional "fields" FindByIdQuery.projection .done

instance : JsonRecord CountQuery where
  make := CountQuery.mk
  fields :=
    .required "where_parts" CountQuery.conditions .done

instance : JsonRecord ExistsQuery where
  make := ExistsQuery.mk
  fields :=
    .required "model_id" ExistsQuery.modelId .done

instance : JsonRecord InsertQuery where
  make := InsertQuery.mk
  fields :=
    .required "data" InsertQuery.data .done

instance : JsonRecord UpdateByIdQuery where
  make := UpdateByIdQuery.mk
  fields :=
    .required "model_id" UpdateByIdQuery.modelId <|
    .required "data" UpdateByIdQuery.data .done

instance : JsonRecord UpdateQuery where
  make := UpdateQuery.mk
  fields :=
    .required "data" UpdateQuery.data <|
    .required "where_parts" UpdateQuery.conditions .done

instance : JsonRecord DestroyByIdQuery where
  make := DestroyByIdQuery.mk
  fields :=
    .required "model_id" DestroyByIdQuery.modelId .done

instance : JsonRecord DestroyQuery where
  make := DestroyQuery.mk
  fields :=
    .required "where_parts" DestroyQuery.conditions .done

/-- The descriptors of every kind have a JSON form. -/
instance (kind : QueryKind) : JsonForm kind.Descriptor :=
  match kind with
  | .find => inferInstanceAs (JsonForm FindQuery)
  | .findOne => inferInstanceAs (JsonForm FindOneQuery)
  | .findById => inferInstanceAs (JsonForm FindByIdQuery)
  | .count => inferInstanceAs (JsonForm CountQuery)
  | .update => inferInstanceAs (JsonForm UpdateQuery)
  | .destroy => inferInstanceAs (JsonForm DestroyQuery)

end SchemaLens.Query
