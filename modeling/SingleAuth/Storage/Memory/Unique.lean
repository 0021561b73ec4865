import SingleAuth.Lib.Table
import SingleAuth.Storage.Memory.Codec

open dict fallible singleauth.storage table

namespace singleauth.memory

section

variable {ω : Type}

abbrev Tables : Type := Dict (List Record)

def uniqueFields (table : ModelSchema ω) : List String :=
  "id" :: (table.fields.entries.filter fun (_, field) => field.unique).map fun (canonical, field) =>
    field.physical canonical

/-- The value of a row in a field, unless it is missing or null. -/
def heldValue (field : String) (row : Record) : Option Value :=
  match row.get? field with
  | some .null => none
  | found => found

def validateUniqueRows (library : Library) (model : ResolvedModel ω) (rows : List Record) : Except StorageError Unit :=
  (uniqueFields model.schema).forM fun field =>
    match findDuplicate (heldValue field) Value.deepEqual rows with
    | some value =>
      .error (Sentinel.uniqueConstraint.error (model.canonical ++ "." ++ field ++ "=" ++ value.format library))
    | none => .ok ()

def validateUniqueTables (library : Library) (schema : Schema ω) (tables : Tables) : Except StorageError Unit :=
  schema.models.entries.forM fun (canonical, table) =>
    let physical := schema.tableName canonical table
    validateUniqueRows library { canonical, physical, schema := table } ((tables.get? physical).getD [])

/-- No two rows hold equal non-null values in one of the fields. -/
def UniqueRows (fields : List String) (rows : List Record) : Prop :=
  ∀ field ∈ fields, Distinct (heldValue field) Value.deepEqual rows

variable {library : Library}

theorem validateUniqueRows_ok_iff {model : ResolvedModel ω} {rows : List Record} :
    validateUniqueRows library model rows = .ok () ↔ UniqueRows (uniqueFields model.schema) rows := by
  unfold validateUniqueRows UniqueRows
  rw [forM_eq_ok_iff]
  refine forall₂_congr fun field _ => ?_
  rw [← findDuplicate_eq_none_iff]
  cases findDuplicate (heldValue field) Value.deepEqual rows <;> simp

end

end singleauth.memory
