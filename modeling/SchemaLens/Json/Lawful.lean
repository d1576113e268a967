import SchemaLens.Json.Form

/-!
# Lawful JSON forms

Nothing is lost by writing a value as JSON: its form is read as the same value, and is never null,
so that null is left to optional values.
-/

namespace SchemaLens

universe u

/-- A JSON form that values can be read back from. -/
class LawfulJsonForm (Value : Type u) [JsonForm Value] : Prop where
  /-- The form of a value is read as the value. -/
  ofJson?_toJson (value : Value) : ofJson? (toJson value) = some value
  /-- No value is written as null. -/
  toJson_ne_null (value : Value) : toJson value ≠ .null

export LawfulJsonForm (ofJson?_toJson toJson_ne_null)

attribute [simp] LawfulJsonForm.ofJson?_toJson LawfulJsonForm.toJson_ne_null

namespace OrderedMap

variable {Value : Type u}

theorem alterEntries_of_not_mem {key : String} (change : Option Value → Value)
    {entries : List (String × Value)} (absent : key ∉ entries.map Prod.fst) :
    alterEntries key change entries = entries ++ [(key, change none)] := by
  induction entries with
  | nil => rfl
  | cons entry rest ih =>
    simp only [List.map_cons, List.mem_cons, not_or] at absent
    simp [alterEntries, Ne.symm absent.1, ih absent.2]

theorem entries_foldl_insert {entries : List (String × Value)} {map : OrderedMap Value}
    (distinct : ((map.entries ++ entries).map Prod.fst).Nodup) :
    (entries.foldl (fun map entry => map.insert entry.1 entry.2) map).entries =
      map.entries ++ entries := by
  induction entries generalizing map with
  | nil => simp
  | cons entry rest ih =>
    have absent : entry.1 ∉ map.entries.map Prod.fst := by
      simp only [List.map_append, List.nodup_append, List.map_cons] at distinct
      exact fun present => distinct.2.2 _ present _ List.mem_cons_self rfl
    have inserted : (map.insert entry.1 entry.2).entries = map.entries ++ [entry] :=
      alterEntries_of_not_mem _ absent
    simp only [List.foldl_cons]
    rw [ih (by simpa [inserted] using distinct), inserted]
    simp

/-- A map is the map of its entries. -/
@[simp]
theorem ofList_entries (map : OrderedMap Value) : ofList map.entries = map := by
  have entries_eq : (ofList map.entries).entries = map.entries :=
    entries_foldl_insert (by simpa [empty] using map.distinct)
  cases map
  cases made : ofList _
  simp_all

end OrderedMap

namespace JsonForm

theorem mapM_ofJson?_map_toJson {Value : Type u} [JsonForm Value] [LawfulJsonForm Value]
    (values : List Value) : (values.map toJson).mapM ofJson? = some values := by
  induction values with
  | nil => rfl
  | cons value rest ih => simp [ih]

instance : LawfulJsonForm String where
  ofJson?_toJson _ := rfl
  toJson_ne_null _ := nofun

instance : LawfulJsonForm Bool where
  ofJson?_toJson _ := rfl
  toJson_ne_null _ := nofun

instance : LawfulJsonForm UInt64 where
  ofJson?_toJson number := by
    simp [toJson, ofJson?, number.toNat_lt_size]
  toJson_ne_null _ := nofun

instance : LawfulJsonForm Int32 where
  ofJson?_toJson number := by
    have within := And.intro number.minValue_le_toInt number.toInt_le
    simp only [toJson, ofJson?, within, and_self, if_true, Int32.ofInt_toInt]
  toJson_ne_null _ := nofun

instance : LawfulJsonForm Int64 where
  ofJson?_toJson number := by
    have within := And.intro number.minValue_le_toInt number.toInt_le
    simp only [toJson, ofJson?, within, and_self, if_true, Int64.ofInt_toInt]
  toJson_ne_null _ := nofun

instance {Member : Type} [Named Member] : LawfulJsonForm Member where
  ofJson?_toJson member := Named.ofName?_name member
  toJson_ne_null _ := nofun

instance {Value : Type u} [JsonForm Value] [LawfulJsonForm Value] :
    LawfulJsonForm (List Value) where
  ofJson?_toJson values := mapM_ofJson?_map_toJson values
  toJson_ne_null _ := nofun

instance {Value : Type u} [JsonForm Value] [LawfulJsonForm Value] :
    LawfulJsonForm (OrderedMap Value) where
  ofJson?_toJson map := by
    have entries_read : (map.entries.map fun (key, value) => (key, toJson value)).mapM
        (fun (key, form) => (ofJson? form).map (key, ·)) =
          some map.entries := by
      induction map.entries with
      | nil => rfl
      | cons entry rest ih => simp_all
    simp [toJson, ofJson?, entries_read]
  toJson_ne_null _ := nofun

end JsonForm

namespace Json

variable {Value : Type u} [JsonForm Value] [LawfulJsonForm Value]

@[simp]
theorem toOption?_ofOption (value : Option Value) : toOption? (ofOption value) = some value := by
  cases value with
  | none => rfl
  | some value =>
    have form_ne_null := toJson_ne_null value
    have form_read := ofJson?_toJson value
    simp only [ofOption]
    cases form : toJson value <;> simp_all [toOption?]

end Json

end SchemaLens
