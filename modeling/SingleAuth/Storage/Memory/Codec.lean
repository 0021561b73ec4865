import SingleAuth.Storage.Memory.Query

open dict ieee singleauth.storage

namespace singleauth.memory

section

variable {ω : Type}

/-- The configuration of an adapter. Its schema has been validated. -/
structure Config (ω : Type) where
  library : Library
  schema : Schema ω
  valid : schema.validate library = .ok ()
  capabilities : Capabilities
  idGenerator : String → ω → Except String Value

structure ResolvedModel (ω : Type) where
  (canonical physical : String)
  schema : ModelSchema ω

structure ResolvedField (ω : Type) where
  (canonical physical : String)
  attributes : FieldAttribute ω

/-- The entries of a map in the order in which they are visited. -/
abbrev Assignments : Type := List (String × Value)

variable (config : Config ω) (model : ResolvedModel ω) (world : ω)

def resolveModel (name : String) : Except StorageError (ResolvedModel ω) := do
  let (table, canonical) ← config.schema.resolveModel config.library name
  let physical := if config.schema.usePlural then table.modelName ++ "s" else table.modelName
  return { canonical, physical, schema := table }

def resolveField (name : String) :
    Except StorageError (ResolvedField ω) := do
  let (attributes, canonical) ← config.schema.resolveField config.library model.canonical name
  return { canonical, physical := attributes.physical canonical, attributes }

/-- The data under canonical names. What names no field is dropped. -/
def normalizeInput (data : Assignments) : Except StorageError Record :=
  data.foldlM (fun normalized (name, value) =>
    match resolveField config model name with
    | .ok field => .ok (normalized.set field.canonical value)
    | .error failure => if failure.sentinel = some .fieldNotFound then .ok normalized else .error failure) .empty

/-- The value to store in a field: the one given, or what the schema supplies. -/
def suppliedValue (create : Bool) (canonical : String)
    (attributes : FieldAttribute ω) (given : Option Value) : Except StorageError (Option Value) :=
  let path := model.canonical ++ "." ++ canonical
  let missing := match given with
    | none => true
    | some .null => create && attributes.isRequired
    | some _ => false
  match missing, if create then attributes.defaultValue else attributes.onUpdate with
  | true, some factory =>
    (external (factory world)).map some |>.mapError
      (·.under ((if create then "memory: default " else "memory: on-update ") ++ path))
  | _, _ => .ok given

def encodeNormalized (normalized : Record) (create : Bool) :
    Except StorageError Record :=
  let encoded : Record := match normalized.get? "id" with
    | some id => Dict.empty.set "id" id
    | none => .empty
  model.schema.fields.entries.foldlM (fun encoded (canonical, attributes) => do
    match ← suppliedValue model world create canonical attributes (normalized.get? canonical) with
    | none => return encoded
    | some value =>
      let field := normalizeField canonical attributes
      let value ← (encodeValue config.library config.capabilities world field value).mapError
        (·.under ("memory: encode " ++ model.canonical ++ "." ++ canonical))
      return encoded.set field.fieldName value) encoded

def encodeCreate (data : Assignments) (forceAllowID : Bool) :
    Except StorageError Record := do
  let normalized ← normalizeInput config model data
  let normalized := if forceAllowID then normalized else normalized.erase "id"
  let normalized ← match normalized.get? "id" with
    | some _ => pure normalized
    | none => do
      let generated ← external (config.idGenerator model.canonical world)
      pure (normalized.set "id" generated)
  encodeNormalized config model world normalized true

def encodeUpdate (data : Assignments) :
    Except StorageError Record := do
  let normalized ← normalizeInput config model data
  encodeNormalized config model world normalized false

/-- A clause on physical names and stored values. -/
def encodeClause (raw : Where) :
    Except StorageError Clause := do
  let clause ← raw.normalize config.library
  let field ← resolveField config model clause.field
  let encode (value : Value) := (encodeValue config.library config.capabilities world field.attributes value).mapError
    (·.under ("memory: encode where " ++ model.canonical ++ "." ++ field.canonical))
  let value ← match clause.operator with
    | .isIn | .notIn => do
      let items ← sliceValues clause.value
      let converted ← items.mapM encode
      pure (Value.slice .any converted)
    | _ => encode clause.value
  return { clause with field := field.physical, value }

def encodeWhere (clauses : List Where) :
    Except StorageError (List Clause) :=
  clauses.mapM (encodeClause config model world)

/-- The canonical names of a selection. None when everything is selected. -/
def selectedFields (fields : List String) :
    Except StorageError (Option (List String)) :=
  if fields = [] then .ok none
  else do
    let selected ← fields.mapM (resolveField config model)
    return some (selected.map ResolvedField.canonical)

def decodeRecord (raw : Record) (selectFields : List String) :
    Except StorageError Record := do
  let selected ← selectedFields config model selectFields
  raw.entries.foldlM (fun decoded (physical, value) =>
    match resolveField config model physical with
    | .error failure =>
      if failure.sentinel ≠ some .fieldNotFound then .error failure
      else .ok (if selected.isNone then decoded.set physical value else decoded)
    | .ok field =>
      if selected.any fun names => !names.contains field.canonical then .ok decoded
      else if field.canonical = "id" then
        .ok (decoded.set "id" (match value with
          | .null => .null
          | id => .string (id.format config.library)))
      else do
        let value ← (decodeValue config.library config.capabilities world field.attributes value).mapError
          (·.under ("memory: decode " ++ model.canonical ++ "." ++ field.canonical))
        return decoded.set field.canonical value) .empty

/-! ## Increments -/

def isIntegral (library : Library) (number : Number binary64) : Bool :=
  equal number (library.floatOfInt (library.truncate .int64 number))

/-- A value plus a number. Integers wrap around; an unsigned one takes a negative
number as a floating-point sum. -/
def addNumeric (library : Library) (current : Value) (delta : Number binary64) : Except StorageError Value :=
  match current with
  | .null => .ok (.float64 delta)
  | .int kind value =>
    if isIntegral library delta && (kind.signed || !less delta 0) then
      .ok (.int kind (kind.wrap (value + library.truncate kind delta)))
    else .ok (.float64 (library.add64 (library.floatOfInt value) delta))
  | .float32 value => .ok (.float32 (library.add32 value (library.narrow delta)))
  | .float64 value => .ok (.float64 (library.add64 value delta))
  | .string text =>
    match library.parseFloat text with
    | some parsed => .ok (.float64 (library.add64 parsed delta))
    | none => .error (Sentinel.invalidIncrement.error (library.quote text ++ " is not numeric"))
  | other => .error (Sentinel.invalidIncrement.error (other.typeName ++ " is not numeric"))

end

/-- The standard library as far as texts go, for runs without numbers, dates and
documents. -/
def textLibrary : Library where
  quote := fun text => "\"" ++ text ++ "\""
  format := fun _ => ""
  equalFold := fun left right => left = right
  toLower := id
  parseFloat := fun _ => none
  floatOfInt := fun _ => 0
  widen := fun _ => 0
  narrow := fun _ => 0
  add64 := fun left _ => left
  add32 := fun left _ => left
  truncate := fun _ _ => 0
  parseTime := fun _ => .error "no time"
  formatTime := fun time => time.representation
  marshal := fun _ => .error "no text"
  unmarshalAny := fun _ => .error "no value"
  unmarshalStrings := fun _ => .error "no value"
  unmarshalNumbers := fun _ => .error "no value"

end singleauth.memory
