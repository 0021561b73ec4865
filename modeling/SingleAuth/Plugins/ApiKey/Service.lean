import SingleAuth.Core.Contract
import SingleAuth.Lib.Dict
import SingleAuth.Lib.Int64
import SingleAuth.Lib.Text

open dict singleauth.contract

namespace singleauth.apikey

/-! ## Keys, configurations and errors -/

inductive ErrorCode where
  | keyNotFound
  | keyDisabled
  | keyExpired
  | invalidAPIKey
  | usageExceeded
  | rateLimited
  | noDefaultAPIKeyConfigurationFound
  deriving DecidableEq

def ErrorCode.text : ErrorCode → String
  | .keyNotFound => "KEY_NOT_FOUND"
  | .keyDisabled => "KEY_DISABLED"
  | .keyExpired => "KEY_EXPIRED"
  | .invalidAPIKey => "INVALID_API_KEY"
  | .usageExceeded => "USAGE_EXCEEDED"
  | .rateLimited => "RATE_LIMITED"
  | .noDefaultAPIKeyConfigurationFound => "NO_DEFAULT_API_KEY_CONFIGURATION_FOUND"

def errorMessages : ErrorCode → String
  | .keyNotFound => "API Key not found"
  | .keyDisabled => "API Key is disabled"
  | .keyExpired => "API Key has expired"
  | .invalidAPIKey => "Invalid API key."
  | .usageExceeded => "API Key has reached its usage limit"
  | .rateLimited => "Rate limit exceeded."
  | .noDefaultAPIKeyConfigurationFound => "No default api-key configuration found."

def apiError (status : Nat) (code : ErrorCode) : APIError :=
  { status, code := code.text, message := errorMessages code }

/-- What verifications read of a configuration. -/
structure Configuration where
  configID : String
  disableKeyHashing : Bool := false
  rateLimitEnabled : Option Bool := some true
  deriving DecidableEq

/-- The compiled configurations. Without one named `default`, the default has no name. -/
structure Service where
  configurations : List Configuration
  byID : Dict Configuration
  defaultConfig : Configuration
  /-- The digest that keys are stored under. -/
  hashKey : String → String

/-- A row of the table, which is indexed by id. Times are nanoseconds. -/
structure Record where
  key : String
  configID : Option String
  enabled : Option Bool := some true
  expiresAt : Option Int := none
  permissions : Dict (List String) := Dict.empty
  remaining : Option Int := none
  refillInterval : Option Int := none
  refillAmount : Option Int := none
  lastRefillAt : Option Int := none
  rateLimitEnabled : Option Bool := some true
  rateLimitTimeWindow : Option Int := some 86400000
  rateLimitMax : Option Int := some 10
  requestCount : Option Int := some 0
  lastRequest : Option Int := none
  (createdAt updatedAt : Int)

abbrev Table : Type := Dict Record

/-- A row as the service reads it. -/
structure APIKey where
  (id configID key : String)
  enabled : Bool
  expiresAt : Option Int
  permissions : Dict (List String)
  (remaining refillInterval refillAmount lastRefillAt : Option Int)
  rateLimitEnabled : Bool
  (rateLimitTimeWindow rateLimitMax : Option Int)
  requestCount : Int
  lastRequest : Option Int
  (createdAt updatedAt : Int)

def apiKeyFromRecord (id : String) (record : Record) : APIKey :=
  { id, key := record.key
    configID := if record.configID.getD "" = "" then "default" else record.configID.getD ""
    enabled := record.enabled.getD true
    expiresAt := record.expiresAt
    permissions := record.permissions
    remaining := record.remaining
    refillInterval := record.refillInterval
    refillAmount := record.refillAmount
    lastRefillAt := record.lastRefillAt
    rateLimitEnabled := record.rateLimitEnabled.getD true
    rateLimitTimeWindow := record.rateLimitTimeWindow
    rateLimitMax := record.rateLimitMax
    requestCount := record.requestCount.getD 0
    lastRequest := record.lastRequest
    createdAt := record.createdAt
    updatedAt := record.updatedAt }

variable (service : Service) (now : Int) (config : Configuration) (input : VerifyInput) (record : Record)
  (key : APIKey)

def withoutSecret : APIKey := { key with key := "" }

structure VerifyInput where
  key : String
  configID : String := ""
  permissions : Dict (List String) := Dict.empty

structure ErrorBody where
  (message code : String)
  deriving DecidableEq

structure VerifyResult where
  valid : Bool
  error : Option ErrorBody
  key : Option APIKey

def verifyFailure (error : APIError) : VerifyResult :=
  { valid := false, error := some { message := error.message, code := error.code }, key := none }

def normalizeConfigID (value : String) : String := if text.trimSpace value = "" then "default" else value

def resolveConfiguration (configID : String) : Except APIError Configuration :=
  let missing := apiError statusBadRequest .noDefaultAPIKeyConfigurationFound
  if text.trimSpace configID = "" then
    if service.defaultConfig.configID = "" then .error missing else .ok service.defaultConfig
  else
    match service.byID.get? (normalizeConfigID configID) with
    | none => .error missing
    | some config => .ok config

/-! ## Times and permissions -/

def milliseconds (count : Int) : Int := int64.wrap (count * 1000000)

def sub (earlier : Int) : Int := int64.saturate (now - earlier)

def windowStart (window : Int) : Int := now + int64.wrap (-window)

/-- Each requested resource has to be granted with all of its actions, of which there is one
at least. -/
def apiKeyPermissionsAuthorize (granted requested : Dict (List String)) : Bool :=
  requested.entries.all (fun request =>
    match granted.get? request.1 with
    | none => false
    | some allowed => !request.2.isEmpty && request.2.all fun action => decide (action ∈ allowed)) &&
  !requested.entries.isEmpty

def expired : Bool := key.expiresAt.any fun expiresAt => decide (expiresAt < now)

def permitted : Bool :=
  input.permissions.entries.isEmpty ||
    (!key.permissions.entries.isEmpty && apiKeyPermissionsAuthorize key.permissions input.permissions)

/-- Nothing is left of the key, and nothing is to come. -/
def exhausted : Bool := decide (key.remaining = some 0) && key.refillAmount.isNone

/-! ## Verifications, one storage call after the other -/

/-- The storage calls that a verification makes after it has read the clock. -/
inductive Call where
  /-- Delete the key, then answer with an error. -/
  | delete (id : String) (status : Nat) (code : ErrorCode)
  /-- Fill up the allowance, if the last refill is still the observed one. -/
  | refill (id : String) (observed : Option Int) (amount : Int)
  | decrement (id : String)
  /-- Record a request of a key without rate limit. -/
  | recordRequest (id : String)
  /-- Count the first request of a key. -/
  | startWindow (id : String)
  | resetWindow (id : String) (start : Int)
  | countRequest (id : String) (start max : Int)
  | reload (id : String)
  | touch (id : String)

/-- How far a verification has come. -/
inductive Phase where
  /-- The configurations under which the key is still to be looked up. -/
  | find (input : VerifyInput) (configs : List Configuration)
  /-- The key was found, and the clock is read next. -/
  | found (input : VerifyInput) (config : Configuration) (key : APIKey)
  | pending (config : Configuration) (now : Int) (call : Call)
  | done (result : VerifyResult)

def refuse (status : Nat) (code : ErrorCode) : Phase := .done (verifyFailure (apiError status code))

/-- The call that claims a request of a key with a window and a limit. It is chosen by the key as
read, and guarded by what is stored. -/
def claimWindow (now : Int) (key : APIKey) (window max : Int) : Phase :=
  match key.lastRequest with
  | none => .pending config now (.startWindow key.id)
  | some lastRequest =>
    if window < sub now lastRequest then .pending config now (.resetWindow key.id (windowStart now window))
    else if max ≤ key.requestCount then refuse statusTooManyRequests .rateLimited
    else .pending config now (.countRequest key.id (windowStart now window) max)

def claimRateLimit (now : Int) (key : APIKey) : Phase :=
  if config.rateLimitEnabled = some false ∨ key.rateLimitEnabled = false then
    .pending config now (.recordRequest key.id)
  else
    match key.rateLimitTimeWindow, key.rateLimitMax with
    | some count, some max => claimWindow config now key (milliseconds count) max
    | _, _ => .pending config now (.touch key.id)

def refillDue : Option Int :=
  match key.refillInterval, key.refillAmount with
  | some interval, some amount =>
    if 0 < interval ∧ 0 < amount ∧ milliseconds interval < sub now (key.lastRefillAt.getD key.createdAt) then some amount
    else none
  | _, _ => none

def claimRemaining (now : Int) (key : APIKey) : Phase :=
  match refillDue now key with
  | some amount => .pending config now (.refill key.id key.lastRefillAt amount)
  | none => .pending config now (.decrement key.id)

/-- The checks of a key that was found, up to the next storage call. -/
def examine (config : Configuration) (now : Int) (key : APIKey) : Phase :=
  if !key.enabled then refuse statusUnauthorized .keyDisabled
  else if expired now key then .pending config now (.delete key.id statusUnauthorized .keyExpired)
  else if !permitted input key then refuse statusUnauthorized .keyNotFound
  else if exhausted key then .pending config now (.delete key.id statusTooManyRequests .usageExceeded)
  else if key.remaining.isSome then claimRemaining config now key
  else claimRateLimit config now key

/-! ### What the calls require and write -/

/-- The last refill is still the observed one. -/
def Record.refillable (observed : Option Int) (record : Record) : Bool := decide (record.lastRefillAt = observed)

def Record.claimable : Bool := record.remaining.any fun remaining => decide (0 < remaining)

def Record.refilled (amount : Int) (record : Record) : Record :=
  { record with remaining := some (amount - 1), lastRefillAt := some now }

def Record.decremented : Record := { record with remaining := record.remaining.map (· - 1) }

def Record.requested : Record := { record with lastRequest := some now }

def Record.restarted : Record :=
  { record with requestCount := some 1, lastRequest := some now }

def Record.counted : Record :=
  { record with requestCount := record.requestCount.map (· + 1), lastRequest := some now }

def Record.touched : Record := { record with updatedAt := now }

def incrementOne (table : Table) (id : String) (guard : Record → Bool) (change : Record → Record) :
    Option (Record × Table) :=
  match table.get? id with
  | none => none
  | some record => if guard record then some (change record, table.set id (change record)) else none

def update (table : Table) (id : String) (change : Record → Record) : Option (Record × Table) :=
  incrementOne table id (fun _ => true) change

def findKey (config : Configuration) (table : Table) : Option (String × Record) :=
  let lookup := if config.disableKeyHashing then input.key else service.hashKey input.key
  table.entries.find? fun row => decide (row.2.key = lookup) && decide (row.2.configID = some config.configID)

def granted (id : String) (record : Record) : VerifyResult :=
  { valid := true, error := none, key := some (withoutSecret (apiKeyFromRecord id record)) }

/-- A storage call, and what the verification does with its answer. -/
def perform (now : Int) (call : Call) (table : Table) : Phase × Table :=
  match call with
  | .delete id status code => (refuse status code, table.erase id)
  | .refill id observed amount =>
    match incrementOne table id (Record.refillable observed) (Record.refilled now amount) with
    | some (refilled, table) => (claimRateLimit config now (apiKeyFromRecord id refilled), table)
    | none => (.pending config now (.decrement id), table)
  | .decrement id =>
    match incrementOne table id Record.claimable Record.decremented with
    | some (decremented, table) => (claimRateLimit config now (apiKeyFromRecord id decremented), table)
    | none => (refuse statusTooManyRequests .usageExceeded, table)
  | .recordRequest id =>
    match update table id (Record.requested now) with
    | some (_, table) => (.pending config now (.touch id), table)
    | none => (refuse statusUnauthorized .invalidAPIKey, table)
  | .startWindow id =>
    match incrementOne table id (fun record => record.lastRequest.isNone) (Record.restarted now) with
    | some (_, table) => (.pending config now (.touch id), table)
    | none => (.pending config now (.reload id), table)
  | .resetWindow id start =>
    match incrementOne table id (fun record => record.lastRequest.any fun lastRequest => decide (lastRequest ≤ start))
        (Record.restarted now) with
    | some (_, table) => (.pending config now (.touch id), table)
    | none => (.pending config now (.reload id), table)
  | .countRequest id start max =>
    match incrementOne table id
        (fun record => (record.lastRequest.any fun lastRequest => decide (start < lastRequest)) &&
          record.requestCount.any fun requestCount => decide (requestCount < max))
        (Record.counted now) with
    | some (_, table) => (.pending config now (.touch id), table)
    | none => (.pending config now (.reload id), table)
  | .reload id =>
    match table.get? id with
    | some record => (claimRateLimit config now (apiKeyFromRecord id record), table)
    | none => (refuse statusUnauthorized .invalidAPIKey, table)
  | .touch id =>
    match update table id (Record.touched now) with
    | some (updated, table) => (.done (granted id updated), table)
    | none => (refuse statusUnauthorized .invalidAPIKey, table)

/-- The next step of a verification when the clock shows `now`. -/
def step (phase : Phase) (table : Table) : Phase × Table :=
  match phase with
  | .find _ [] => (refuse statusUnauthorized .invalidAPIKey, table)
  | .find input (config :: rest) =>
    match findKey service input config table with
    | none => (.find input rest, table)
    | some (id, record) => (.found input config (apiKeyFromRecord id record), table)
  | .found input config key => (examine input config now key, table)
  | .pending config now call => perform config now call table
  | .done result => (.done result, table)

def verify : Phase :=
  if input.configID = "" then .find input service.configurations
  else
    match resolveConfiguration service input.configID with
    | .error error => .done (verifyFailure error)
    | .ok config => .find input [config]

def outcome : Phase → Option VerifyResult
  | .done result => some result
  | _ => none

end singleauth.apikey
