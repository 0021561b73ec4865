import SingleAuth.Lib.Expiring
import SingleAuth.Lib.Fallible
import SingleAuth.Lib.Table
import SingleAuth.Lib.Text
import SingleAuth.Core.Secondary.Time

open expiring fallible singleauth.secondary

namespace singleauth.verification

/-! ## Identifiers -/

inductive IdentifierStrategy where
  | unset | plain | hashed
  deriving DecidableEq

/-- How an identifier is stored. `hash` is a function of the application. -/
structure IdentifierRule where
  strategy : IdentifierStrategy := .unset
  hash : Option (String → Except String String) := none

structure IdentifierOverride extends IdentifierRule where
  identifierPrefix : String

def validateVerificationIdentifierRule (label : String) (rule : IdentifierRule) : Except String Unit :=
  require (rule.hash.isNone ∨ rule.strategy = .unset)
    ("single-auth: verification store identifier " ++ label ++ " cannot set both strategy and hash")

def validateVerificationIdentifierStorage (default : IdentifierRule) (overrides : List IdentifierOverride) :
    Except String Unit := do
  validateVerificationIdentifierRule "default" default
  overrides.zipIdx.forM fun (override, index) =>
    validateVerificationIdentifierRule ("override " ++ toString index) override.toIdentifierRule

structure IdentifierStorage where
  default : IdentifierRule
  overrides : List IdentifierOverride
  valid : validateVerificationIdentifierStorage default overrides = .ok ()

/-- The rule of the first override whose prefix the identifier has. -/
def IdentifierStorage.rule (config : IdentifierStorage) (identifier : String) : IdentifierRule :=
  match config.overrides.find? fun override => text.hasPrefix identifier override.identifierPrefix with
  | some override => override.toIdentifierRule
  | none => config.default

/-- The digest is that of SHA-256 in unpadded base64url. -/
def processVerificationIdentifier (digest : String → String) (config : IdentifierStorage) (identifier : String) :
    Except String (String × Bool) :=
  let rule := config.rule identifier
  match rule.hash with
  | some hash =>
    match hash identifier with
    | .error failure => .error ("single-auth: hash verification identifier: " ++ failure)
    | .ok stored => .ok (stored, true)
  | none => if rule.strategy = .hashed then .ok (digest identifier, true) else .ok (identifier, false)

/-- The stored form, and the plain one for values from before a change of the
configuration. -/
def verificationIdentifiersToTry (digest : String → String) (config : IdentifierStorage) (identifier : String) :
    Except String (List String) := do
  let (stored, nonPlain) ← processVerificationIdentifier digest config identifier
  return if nonPlain && stored ≠ identifier then [stored, identifier] else [stored]

/-! ## Records -/

/-- A stored verification value. Hooks may remove its expiry. -/
structure Verification where
  id : Option String
  (identifier value : String)
  expiresAt : Option Int
  createdAt : Int

def normalizeSecondaryRecord (record : Verification) : Verification :=
  { record with expiresAt := record.expiresAt.map toMillisecond, createdAt := toMillisecond record.createdAt }

def verificationPrefix : String := "verification:"

def latestVerification (identifier : String) (rows : List Verification) : Option Verification :=
  table.latest Verification.identifier Verification.createdAt identifier rows

def consumeOne (id : String) (rows : List Verification) : Option (Verification × List Verification) :=
  table.consumeFirst (fun row => row.id = some id) rows

/-! ## Storage -/

/-- Whether there is a secondary storage, and whether the database is used beside it. -/
structure Mode where
  (secondary storeInDatabase : Bool)

def Mode.usesDatabase (mode : Mode) : Bool := !mode.secondary || mode.storeInDatabase

structure State where
  rows : List Verification
  cache : Store Verification

/-- What a call meets besides its parameters: the time, the ids that are generated,
failures of the two storages, and what the database hooks do. A `none` of a hook
before a create, and `true` of one before a delete, cancel the operation. -/
structure Call where
  now : Int
  generatedID : Except String (Option String) := .ok none
  randomID : Except String String := .ok ""
  databaseID : String := ""
  databaseError : Option String := none
  secondaryError : String → Option String := fun _ => none
  beforeCreate : Verification → Except String (Option Verification) := fun record => .ok (some record)
  afterCreate : Verification → Except String Unit := fun _ => .ok ()
  beforeDelete : Verification → Except String Bool := fun _ => .ok false
  afterDelete : Verification → Except String Unit := fun _ => .ok ()

section

variable (mode : Mode) (digest : String → String) (call : Call) (config : IdentifierStorage)

/-- An operation on a key of the secondary storage, which may fail without effect. -/
def onKey (key : String) (cache changed : Store Verification) : Store Verification × Except String Unit :=
  match call.secondaryError key with
  | some failure => (cache, .error failure)
  | none => (changed, .ok ())

/-- The time to live of a record in the secondary storage, if it is to be stored there. -/
def cachedTTL (identifier : String) (record : Verification) : Option Int :=
  if !mode.secondary || identifier = "" then none
  else
    match record.expiresAt with
    | none => none
    | some expiresAt => if secondaryTTL expiresAt call.now ≤ 0 then none else some (secondaryTTL expiresAt call.now)

def storeSecondaryVerificationAt (identifier : String) (record : Verification) (cache : Store Verification) :
    Store Verification × Except String Unit :=
  match cachedTTL mode call identifier record with
  | none => (cache, .ok ())
  | some ttl =>
    let key := verificationPrefix ++ identifier
    onKey call key cache (set cache call.now key (normalizeSecondaryRecord record) ttl)

/-- The stored identifier and the record that the hooks leave, unless one cancels. -/
def prepareCreate (identifier value : String) (expiresAt : Int) : Except String (Option (String × Verification)) := do
  let (stored, _) ← processVerificationIdentifier digest config identifier
  let generated ← call.generatedID
  let id ← (match generated with
    | some id => .ok (some id)
    | none => if mode.usesDatabase then .ok none else call.randomID.map some)
  let data ← call.beforeCreate { id, identifier := stored, value, expiresAt := some expiresAt, createdAt := call.now }
  return data.map fun data => (stored, data)

/-- The row that the database makes of a record. -/
def databaseRow (data : Verification) : Verification := { data with id := some (data.id.getD call.databaseID) }

/-- A created record goes into the secondary storage as well, then the hooks run. -/
def storeCreated (state : State) (stored : String) (created : Verification) :
    State × Except String (Option Verification) :=
  match storeSecondaryVerificationAt mode call stored created state.cache with
  | (cache, .error failure) => ({ state with cache }, .error failure)
  | (cache, .ok ()) => ({ state with cache }, (call.afterCreate created).map fun () => some created)

def createStoredVerification (state : State) (identifier value : String) (expiresAt : Int) :
    State × Except String (Option Verification) :=
  match prepareCreate mode digest call config identifier value expiresAt with
  | .error failure => (state, .error failure)
  | .ok none => (state, .ok none)
  | .ok (some (stored, data)) =>
    if mode.usesDatabase then
      match call.databaseError with
      | some failure => (state, .error failure)
      | none =>
        let created := databaseRow call data
        storeCreated mode call { state with rows := state.rows ++ [created] } stored created
    else storeCreated mode call state stored data

/-- The rows after the newest row of the first identifier that has one is taken, with
all rows of that identifier. A row that a hook keeps is passed over. -/
def consumeRows (rows : List Verification) : List String → Except String (List Verification × Option Verification)
  | [] => .ok (rows, none)
  | stored :: rest =>
    match latestVerification stored rows with
    | none => consumeRows rows rest
    | some latest => do
      if ← call.beforeDelete latest then consumeRows rows rest
      else
        match consumeOne (latest.id.getD "") rows with
        | none => consumeRows rows rest
        | some (winner, left) => return (left.filter fun row => row.identifier ≠ stored, some winner)

def deleteKeys (cache : Store Verification) : List String → Store Verification × Except String Unit
  | [] => (cache, .ok ())
  | identifier :: rest =>
    match onKey call (verificationPrefix ++ identifier) cache (delete cache (verificationPrefix ++ identifier)) with
    | (cache, .error failure) => (cache, .error failure)
    | (cache, .ok ()) => deleteKeys cache rest

def unexpired (record : Verification) : Option Verification :=
  match record.expiresAt with
  | none => none
  | some expiresAt => if expiresAt < call.now then none else some record

def consumeSecondaryVerification (cache : Store Verification) (identifier : String) :
    Store Verification × Except String (Option Verification) :=
  let key := verificationPrefix ++ identifier
  match call.secondaryError key with
  | some failure => (cache, .error failure)
  | none => (delete cache key, .ok ((get cache key).bind (unexpired call)))

/-- The first identifier that has a value is consumed; the keys of the others are
deleted. -/
def consumeSecondaryVerifications (identifiers : List String) (cache : Store Verification) :
    List String → Store Verification × Except String (Option Verification)
  | [] => (cache, .ok none)
  | identifier :: rest =>
    match consumeSecondaryVerification call cache identifier with
    | (cache, .error failure) => (cache, .error failure)
    | (cache, .ok none) => consumeSecondaryVerifications identifiers cache rest
    | (cache, .ok (some consumed)) =>
      match deleteKeys call cache (identifiers.filter fun alternative => alternative ≠ identifier) with
      | (cache, .error failure) => (cache, .error failure)
      | (cache, .ok ()) => (cache, .ok (some consumed))

/-- The end of a consumption in the database: the hooks run, then the keys in the
secondary storage are deleted. -/
def finishConsume (state : State) (identifiers : List String) (consumed : Verification) :
    State × Except String (Option Verification) :=
  match call.afterDelete consumed with
  | .error failure => (state, .error failure)
  | .ok () =>
    if mode.secondary then
      match deleteKeys call state.cache identifiers with
      | (cache, .error failure) => ({ state with cache }, .error failure)
      | (cache, .ok ()) => ({ state with cache }, .ok (unexpired call consumed))
    else (state, .ok (unexpired call consumed))

def consumeStoredVerification (state : State) (identifier : String) : State × Except String (Option Verification) :=
  match verificationIdentifiersToTry digest config identifier with
  | .error failure => (state, .error failure)
  | .ok identifiers =>
    if mode.usesDatabase then
      match call.databaseError, consumeRows call state.rows identifiers with
      | some failure, _ => (state, .error failure)
      | none, .error failure => (state, .error failure)
      | none, .ok (_, none) => (state, .ok none)
      | none, .ok (rows, some consumed) => finishConsume mode call { state with rows } identifiers consumed
    else
      let (cache, result) := consumeSecondaryVerifications call identifiers state.cache identifiers
      ({ state with cache }, result)

end

/-! ## Runs -/

/-- A call with the identifier configuration that is in force. -/
inductive Event where
  | create (call : Call) (config : IdentifierStorage) (identifier value : String) (expiresAt : Int)
  | consume (call : Call) (config : IdentifierStorage) (identifier : String)

def Event.now : Event → Int
  | .create call _ _ _ _ => call.now
  | .consume call _ _ => call.now

/-- The secondary storage has dropped what has expired by the time of the call. -/
def State.advance (state : State) (now : Int) : State := { state with cache := expiring.advance state.cache now }

def step (mode : Mode) (digest : String → String) (state : State) (event : Event) : State :=
  let state := state.advance event.now
  match event with
  | .create call config identifier value expiresAt =>
    (createStoredVerification mode digest call config state identifier value expiresAt).1
  | .consume call config identifier => (consumeStoredVerification mode digest call config state identifier).1

end singleauth.verification
