import SingleAuth.Lib.Fallible
import SingleAuth.Lib.Text
import SingleAuth.Storage.Value

open dict fallible ieee text

namespace singleauth.storage

/-! ## Errors -/

inductive Sentinel where
  | modelNotFound | fieldNotFound | invalidQuery | invalidIncrement | uniqueConstraint
  deriving DecidableEq

def Sentinel.text : Sentinel → String
  | .modelNotFound => "storage: model not found"
  | .fieldNotFound => "storage: field not found"
  | .invalidQuery => "storage: invalid query"
  | .invalidIncrement => "storage: invalid increment"
  | .uniqueConstraint => "storage: unique constraint violation"

/-- An error with the sentinel that it wraps, if any. -/
structure StorageError where
  sentinel : Option Sentinel
  text : String
  deriving DecidableEq

def Sentinel.error (sentinel : Sentinel) (detail : String) : StorageError :=
  ⟨some sentinel, sentinel.text ++ ": " ++ detail⟩

/-- The error with a text in front of it. -/
def StorageError.under (failure : StorageError) (context : String) : StorageError :=
  { failure with text := context ++ ": " ++ failure.text }

/-- The functions of the standard library that the package calls. -/
structure Library where
  quote : String → String
  /-- The text of a value that is no string, boolean or integer. -/
  format : Value → String
  equalFold : String → String → Bool
  toLower : String → String
  parseFloat : String → Option (Number binary64)
  floatOfInt : Int → Number binary64
  widen : Number binary32 → Number binary64
  narrow : Number binary64 → Number binary32
  add64 : Number binary64 → Number binary64 → Number binary64
  add32 : Number binary32 → Number binary32 → Number binary32
  /-- The conversion of a number to an integer kind. -/
  truncate : IntKind → Number binary64 → Int
  parseTime : String → Except String Time
  formatTime : Time → String
  marshal : Value → Except String String
  unmarshalAny : String → Except String Value
  unmarshalStrings : String → Except String (List String)
  unmarshalNumbers : String → Except String (List (Number binary64))

def Value.typeName : Value → String
  | .null => "<nil>"
  | .string _ => "string"
  | .bool _ => "bool"
  | .int kind _ => kind.name
  | .float32 _ => "float32"
  | .float64 _ => "float64"
  | .time _ => "time.Time"
  | .slice .any _ => "[]interface \x7b\x7d"
  | .slice .string _ => "[]string"
  | .slice .float64 _ => "[]float64"
  | .object _ => "map[string]interface \x7b\x7d"

def Value.format (library : Library) : Value → String
  | .null => "<nil>"
  | .string text => text
  | .bool value => if value then "true" else "false"
  | .int _ value => toString value
  | other => library.format other

/-! ## Schemas -/

/-- A field type; `invalid` is any text that is none of the declared types. -/
inductive FieldType where
  | string | number | boolean | date | json | stringArray | numberArray | enum
  | invalid (text : String)
  deriving DecidableEq

def FieldType.text : FieldType → String
  | .string => "string"
  | .number => "number"
  | .boolean => "boolean"
  | .date => "date"
  | .json => "json"
  | .stringArray => "string[]"
  | .numberArray => "number[]"
  | .enum => "enum"
  | .invalid text => text

structure Reference where
  (model field : String)

section

variable {ω : Type}

/-- The attributes of a field. Its functions may read the world `ω` at the moment
of the call: the clock, random numbers, the state of the application. -/
structure FieldAttribute (ω : Type) where
  type : FieldType
  enum : List String := []
  required : Option Bool := none
  defaultValue : Option (ω → Except String Value) := none
  onUpdate : Option (ω → Except String Value) := none
  input : Option (ω → Value → Except String Value) := none
  output : Option (ω → Value → Except String Value) := none
  references : Option Reference := none
  unique : Bool := false
  fieldName : String := ""

def FieldAttribute.isRequired (field : FieldAttribute ω) : Bool := field.required.getD true

def FieldAttribute.physical (canonical : String) (field : FieldAttribute ω) : String :=
  if field.fieldName = "" then canonical else field.fieldName

structure ModelSchema (ω : Type) where
  modelName : String
  fields : Dict (FieldAttribute ω)

def ModelSchema.physical (canonical : String) (table : ModelSchema ω) : String :=
  if table.modelName = "" then canonical else table.modelName

structure Schema (ω : Type) where
  models : Dict (ModelSchema ω)
  usePlural : Bool

def Schema.tableName (schema : Schema ω) (canonical : String) (table : ModelSchema ω) : String :=
  if schema.usePlural then table.physical canonical ++ "s" else table.physical canonical

def normalizeModel (canonical : String) (table : ModelSchema ω) : ModelSchema ω :=
  { table with modelName := table.physical canonical }

def normalizeField (canonical : String) (field : FieldAttribute ω) : FieldAttribute ω :=
  { field with fieldName := field.physical canonical }

/-- A canonical name, a configured one or, with plurals, its plural. Exact
canonical names come first. -/
def Schema.resolveModel (library : Library) (schema : Schema ω) (candidate : String) :
    Except StorageError (ModelSchema ω × String) :=
  match schema.models.get? candidate with
  | some table => .ok (normalizeModel candidate table, candidate)
  | none =>
    let lookup := if schema.usePlural then trimSuffix candidate "s" else candidate
    match schema.models.entries.find? fun (canonical, table) => table.physical canonical = lookup with
    | some (canonical, table) => .ok (normalizeModel canonical table, canonical)
    | none => .error (Sentinel.modelNotFound.error (library.quote candidate))

/-- Every model has the field `id`. -/
def Schema.resolveField (library : Library) (schema : Schema ω) (modelName candidate : String) :
    Except StorageError (FieldAttribute ω × String) := do
  let (table, canonicalModel) ← schema.resolveModel library modelName
  if candidate = "id" ∨ candidate = "_id" then .ok ({ type := .string, fieldName := "id" }, "id")
  else
    match table.fields.get? candidate with
    | some field => .ok (normalizeField candidate field, candidate)
    | none =>
      match table.fields.entries.find? fun (_, field) => field.fieldName = candidate with
      | some (canonical, field) => .ok (normalizeField canonical field, canonical)
      | none => .error (Sentinel.fieldNotFound.error (canonicalModel ++ "." ++ candidate))

def validFieldType (field : FieldAttribute ω) : Bool :=
  match field.type with
  | .enum => field.enum ≠ []
  | .invalid _ => false
  | _ => field.enum = []

/-- The field names and types of one model. No two fields have the same physical
name, and none but `id` itself is called `id`. -/
def validateFields (library : Library) (model : String) :
    List (String × FieldAttribute ω) → Dict String → Except StorageError Unit
  | [], _ => .ok ()
  | (fieldName, field) :: rest, physicalFields => do
    require (fieldName ≠ "")
      (Sentinel.invalidQuery.error ("model " ++ library.quote model ++ " contains an empty field name"))
    require (validFieldType field)
      (Sentinel.invalidQuery.error ("model " ++ library.quote model ++ " field " ++ library.quote fieldName ++
        " has invalid type " ++ library.quote field.type.text))
    let physicalField := field.physical fieldName
    let prior := (physicalFields.get? physicalField).getD fieldName
    require (prior = fieldName)
      (Sentinel.invalidQuery.error ("model " ++ library.quote model ++ " fields " ++ library.quote prior ++ " and " ++
        library.quote fieldName ++ " resolve to " ++ library.quote physicalField))
    validateFields library model rest (physicalFields.set physicalField fieldName)

/-- The models one after the other; no two have the same table. -/
def Schema.validateModels (library : Library) (schema : Schema ω) :
    List (String × ModelSchema ω) → Dict String → Except StorageError Unit
  | [], _ => .ok ()
  | (name, table) :: rest, physicalModels => do
    require (name ≠ "") (Sentinel.invalidQuery.error "schema contains an empty model name")
    let physical := schema.tableName name table
    let prior := (physicalModels.get? physical).getD name
    require (prior = name)
      (Sentinel.invalidQuery.error ("models " ++ library.quote prior ++ " and " ++ library.quote name ++
        " resolve to " ++ library.quote physical))
    validateFields library name table.fields.entries (Dict.ofEntries [("id", "id")])
    schema.validateModels library rest (physicalModels.set physical name)

def Schema.validateReference (library : Library) (schema : Schema ω) (modelName fieldName : String)
    (reference : Reference) : Except StorageError Unit :=
  match schema.resolveModel library reference.model with
  | .error failure =>
    .error (failure.under ("model " ++ library.quote modelName ++ " field " ++ library.quote fieldName ++ " reference"))
  | .ok (target, _) =>
    if reference.field = "id" ∨ (target.fields.get? reference.field).isSome then .ok ()
    else
      .error (Sentinel.fieldNotFound.error
        ("reference target " ++ library.quote reference.model ++ "." ++ library.quote reference.field))

/-- Names, field types, physical names and references. -/
def Schema.validate (library : Library) (schema : Schema ω) : Except StorageError Unit := do
  schema.validateModels library schema.models.entries .empty
  schema.models.entries.forM fun (modelName, table) =>
    table.fields.entries.forM fun (fieldName, field) =>
      match field.references with
      | none => .ok ()
      | some reference => schema.validateReference library modelName fieldName reference

/-! ## Values -/

/-- What a backend stores as it is. -/
structure Capabilities where
  (json dates booleans arrays : Bool)

/-- An error of a function that the application supplies, or of the standard
library. -/
def external {α : Type} (result : Except String α) : Except StorageError α :=
  result.mapError fun text => ⟨none, text⟩

def encodeValue (library : Library) (capabilities : Capabilities) (world : ω) (field : FieldAttribute ω)
    (value : Value) : Except StorageError Value := do
  match value with
  | .null => .ok .null
  | value =>
    let value ← match field.input with
      | some transform => external (transform world value)
      | none => .ok value
    -- A date that arrives as a text is parsed, if it can be.
    let value := match field.type, value with
      | .date, .string encoded => ((library.parseTime encoded).toOption.map Value.time).getD value
      | _, _ => value
    match field.type, value with
    | .json, value =>
      if capabilities.json then .ok value
      else ((external (library.marshal value)).map Value.string).mapError (·.under "encode JSON field")
    | .stringArray, value | .numberArray, value =>
      if capabilities.arrays then .ok value
      else ((external (library.marshal value)).map Value.string).mapError (·.under "encode array field")
    | .date, .time date => .ok (if capabilities.dates then .time date else .string (library.formatTime date))
    | .boolean, .bool boolean => .ok (if capabilities.booleans then .bool boolean else .int .int64 boolean.toInt)
    | _, value => .ok value

/-- The integer of a stored boolean. -/
def isOne : Value → Option Bool
  | .int .int value | .int .int64 value => some (value = 1)
  | .float64 value => some (equal value (0x3ff0000000000000 : Number binary64))
  | _ => none

def decodeStored (library : Library) (capabilities : Capabilities) (field : FieldAttribute ω) (value : Value) :
    Except StorageError Value :=
  match field.type, value with
  | .json, .string encoded =>
    if capabilities.json then .ok value
    else (external (library.unmarshalAny encoded)).mapError (·.under "decode json field")
  | .stringArray, .string encoded =>
    if capabilities.arrays then .ok value
    else ((external (library.unmarshalStrings encoded)).map fun items => .slice .string (items.map .string)).mapError
      (·.under "decode string[] field")
  | .numberArray, .string encoded =>
    if capabilities.arrays then .ok value
    else ((external (library.unmarshalNumbers encoded)).map fun items => .slice .float64 (items.map .float64)).mapError
      (·.under "decode number[] field")
  | .date, .string encoded =>
    if capabilities.dates then .ok value
    else ((external (library.parseTime encoded)).map Value.time).mapError (·.under "decode date field")
  | .boolean, value => .ok (if capabilities.booleans then value else ((isOne value).map Value.bool).getD value)
  | _, value => .ok value

def decodeValue (library : Library) (capabilities : Capabilities) (world : ω) (field : FieldAttribute ω)
    (value : Value) : Except StorageError Value := do
  let value ← decodeStored library capabilities field value
  match field.output with
  | some transform => external (transform world value)
  | none => .ok value

end

end singleauth.storage
