import SingleAuth.Core.Contract
import SingleAuth.Lib.Decimal
import SingleAuth.Lib.Fallible
import SingleAuth.Lib.Program
import SingleAuth.Lib.Table
import SingleAuth.Lib.Text

open decimal fallible program text
open singleauth.contract (APIError Failure statusBadRequest statusUnauthorized statusInternalServerError)

namespace singleauth.twofactor

def defaultAllowedAttempts : Int := 5

def defaultRandomAlphabet : String := "abcdefghijklmnopqrstuvwxyz0123456789ABCDEFGHIJKLMNOPQRSTUVWXYZ-_"

/-! ## Errors -/

def codeOTPHasExpired : String := "OTP_HAS_EXPIRED"
def codeTOTPNotEnabled : String := "TOTP_NOT_ENABLED"
def codeTwoFactorNotEnabled : String := "TWO_FACTOR_NOT_ENABLED"
def codeBackupCodesNotEnabled : String := "BACKUP_CODES_NOT_ENABLED"
def codeInvalidBackupCode : String := "INVALID_BACKUP_CODE"
def codeInvalidCode : String := "INVALID_CODE"
def codeTooManyAttempts : String := "TOO_MANY_ATTEMPTS_REQUEST_NEW_CODE"
def codeInvalidTwoFactorCookie : String := "INVALID_TWO_FACTOR_COOKIE"
def codeOTPNotConfigured : String := "OTP_NOT_CONFIGURED"
def codeTOTPNotConfigured : String := "TOTP_NOT_CONFIGURED"

def errorMessages : List (String × String) :=
  [(codeOTPHasExpired, "OTP has expired"),
    (codeTOTPNotEnabled, "TOTP not enabled"),
    (codeTwoFactorNotEnabled, "Two factor isn't enabled"),
    (codeBackupCodesNotEnabled, "Backup codes aren't enabled"),
    (codeInvalidBackupCode, "Invalid backup code"),
    (codeInvalidCode, "Invalid code"),
    (codeTooManyAttempts, "Too many attempts. Please request a new code."),
    (codeInvalidTwoFactorCookie, "Invalid two factor cookie")]

def twoFactorError (status : Nat) (code : String) : Failure :=
  let message :=
    if code = codeTOTPNotConfigured then "totp isn't configured"
    else if code = codeOTPNotConfigured then "otp isn't configured"
    else (errorMessages.lookup code).getD ""
  .api ⟨status, code, message, []⟩

def internalError : Failure := .api ⟨statusInternalServerError, "INTERNAL_SERVER_ERROR", "Internal Server Error", []⟩

def invalidCookie : Failure := twoFactorError statusUnauthorized codeInvalidTwoFactorCookie

/-- The error of a challenge whose user has not enabled two factors. -/
def sessionRequired : Failure := .api ⟨statusBadRequest, "FAILED_TO_CREATE_SESSION", "Failed to create session", []⟩

def sessionFailed : Failure :=
  .api ⟨statusInternalServerError, "FAILED_TO_CREATE_SESSION", "failed to create session", []⟩

def backupCodeConflict : Failure := .api ⟨409, "CONFLICT", "Failed to verify backup code. Please try again.", []⟩

/-! ## Options -/

inductive OTPStorageMode where
  | plain
  | encrypted
  | hashed
  deriving DecidableEq

/-- How codes are stored: in a mode, or by functions of the host. `none` is an
error of such a function. -/
structure OTPStorage where
  mode : Option OTPStorageMode := none
  hash : Option (String → Option String) := none
  encrypt : Option (String → Option String) := none
  decrypt : Option (String → Option String) := none

/-- The storage with its default mode, or `none` for an error. -/
def normalizeOTPStorage (storage : OTPStorage) (fallback : OTPStorageMode) (allowHash : Bool) : Option OTPStorage :=
  let storage :=
    if storage.mode.isNone && storage.hash.isNone && storage.encrypt.isNone && storage.decrypt.isNone then
      { storage with mode := some fallback }
    else storage
  if storage.hash.isSome then
    if !allowHash || storage.mode.isSome || storage.encrypt.isSome || storage.decrypt.isSome then none else some storage
  else if storage.encrypt.isSome || storage.decrypt.isSome then
    if storage.mode.isSome || storage.encrypt.isNone || storage.decrypt.isNone then none else some storage
  else
    match storage.mode with
    | some .plain | some .encrypted => some storage
    | some .hashed => if allowHash then some storage else none
    | none => none

/-- The options as they are after their checks, with account lockout disabled,
and the functions of the host. Times are nanoseconds. -/
structure Plugin where
  totpDisable : Bool := false
  totpDigits : Nat := 6
  totpPeriod : Int := 30 * 1000000000
  hasSendOTP : Bool := true
  otpPeriod : Int := 180 * 1000000000
  allowedAttempts : Int := defaultAllowedAttempts
  otpStorage : OTPStorage := { mode := some .plain }
  backupStorage : OTPStorage := { mode := some .encrypted }
  twoFactorCookieMaxAge : Int := 600 * 1000000000
  trustDeviceMaxAge : Int := 2592000 * 1000000000
  /-- The truncated digest of a secret and a counter. -/
  truncated : String → Nat → Nat
  hashOTP : String → String
  encryptSecret : String → Option String
  decryptSecret : String → Option String
  marshalCodes : List String → String
  unmarshalCodes : String → Option (List String)
  totpDigits_eq : totpDigits = 6 ∨ totpDigits = 8
  allowedAttempts_pos : 1 ≤ allowedAttempts
  allowedAttempts_fits : allowedAttempts < 2 ^ 63
  otpStorage_eq : normalizeOTPStorage otpStorage .plain true = some otpStorage
  backupStorage_eq : normalizeOTPStorage backupStorage .encrypted false = some backupStorage

namespace Plugin

variable (plugin : Plugin)

def storedOTP (otp : String) : Option String :=
  match plugin.otpStorage.hash, plugin.otpStorage.encrypt, plugin.otpStorage.mode with
  | some hash, _, _ => hash otp
  | none, some encrypt, _ => encrypt otp
  | none, none, some .hashed => some (plugin.hashOTP otp)
  | none, none, some .encrypted => plugin.encryptSecret otp
  | none, none, _ => some otp

def compareStoredOTP (stored input : String) : Option Bool :=
  match plugin.otpStorage.hash, plugin.otpStorage.decrypt, plugin.otpStorage.mode with
  | some hash, _, _ => (hash input).map fun right => stored = right
  | none, some decrypt, _ => (decrypt stored).map fun left => left = input
  | none, none, some .hashed => some (stored = plugin.hashOTP input)
  | none, none, some .encrypted => (plugin.decryptSecret stored).map fun left => left = input
  | none, none, _ => some (stored = input)

def encodeBackupCodes (codes : List String) : Option String :=
  let raw := plugin.marshalCodes codes
  match plugin.backupStorage.encrypt, plugin.backupStorage.mode with
  | some encrypt, _ => encrypt raw
  | none, some .encrypted => plugin.encryptSecret raw
  | none, _ => some raw

/-- A text that is no list of codes has no codes. -/
def decodeBackupCodes (value : String) : Option (List String) :=
  let raw :=
    match plugin.backupStorage.decrypt, plugin.backupStorage.mode with
    | some decrypt, _ => decrypt value
    | none, some .encrypted => plugin.decryptSecret value
    | none, _ => some value
  raw.map fun raw => (plugin.unmarshalCodes raw).getD []

/-- A code of a counter, filled with zeros from the left. -/
def generateHOTP (secret : String) (counter digits : Nat) : Option String :=
  if digits < 1 ∨ 8 < digits then none
  else some (String.ofList ((toString (plugin.truncated secret counter % 10 ^ digits)).toList.leftpad digits '0'))

/-- The code of the period before, of this one or of the next one. -/
def VerifyTOTP (secret input : String) (now : Int) : Option Bool :=
  let base := (now / 1000000).tdiv (plugin.totpPeriod / 1000000)
  [-1, 0, 1].foldlM
    (fun matched offset =>
      if base + offset < 0 then some matched
      else (plugin.generateHOTP secret (base + offset).toNat plugin.totpDigits).map fun code => input = code || matched)
    false

end Plugin

def removeBackupCode (codes : List String) (code : String) : List String × Bool :=
  (codes.filter fun candidate => candidate ≠ code, codes.contains code)

/-! ## State -/

/-- A verification. `sent` is the number of the OTP that the row counts attempts
for; the code does not store it and does not read it. -/
structure Verification where
  (identifier value : String)
  (expiresAt createdAt : Int)
  sent : Option Nat := none
  deriving DecidableEq

structure User where
  id : String
  twoFactorEnabled : Bool

structure TwoFactor where
  (id userID secret backupCodes : String)
  verified : Option Bool

/-- What the properties are about: a wrong TOTP or backup code was compared,
with a challenge or in a session; a wrong code was compared with a sent OTP; a
session was issued, for a challenge or in place of another session. -/
inductive Event where
  | guessed (signIn : Bool)
  | mistyped (sent : Option Nat)
  | issued (userID : String) (signIn : Bool)
  deriving DecidableEq

/-- What the requests share. `sends` and `log` only record what has happened. -/
structure Store where
  verifications : List Verification
  users : List User
  twoFactors : List TwoFactor
  now : Int
  sends : Nat := 0
  log : List Event := []

namespace Store

variable (identifier : String)

/-- Read the newest row of an identifier, then delete what has expired. -/
def findVerification (store : Store) : Option Verification × Store :=
  let (latest, verifications) := table.findLatest Verification.identifier Verification.createdAt
    Verification.expiresAt store.now identifier store.verifications
  (latest, { store with verifications })

/-- Take the rows of an identifier. The newest of them is returned, unless it
has expired. -/
def consumeVerification (store : Store) : Option Verification × Store :=
  let (taken, verifications) := table.consumeLatest Verification.identifier Verification.createdAt
    Verification.expiresAt store.now identifier store.verifications
  (taken, { store with verifications })

def createVerification (value : String) (expiresAt : Int) (sent : Option Nat) (store : Store) :
    Unit × Store :=
  ((), { store with verifications := store.verifications ++ [⟨identifier, value, expiresAt, store.now, sent⟩] })

def record (event : Event) (store : Store) : Unit × Store := ((), { store with log := store.log ++ [event] })

def findUser (id : String) (store : Store) : Option User × Store := (store.users.find? fun user => user.id = id, store)

def findTwoFactor (userID : String) (store : Store) : Option TwoFactor × Store :=
  (store.twoFactors.find? fun twoFactor => twoFactor.userID = userID, store)

/-- Update the first matching user, and return what it is then. -/
def enableTwoFactor (id : String) (store : Store) : Option User × Store :=
  match table.updateFirst (fun user => user.id = id) (fun user => { user with twoFactorEnabled := true })
    store.users with
  | none => (none, store)
  | some users => (users.find? fun user => user.id = id, { store with users })

def setVerified (id : String) (store : Store) : Unit × Store :=
  let updated := table.updateFirst (fun twoFactor => twoFactor.id = id)
    (fun twoFactor => { twoFactor with verified := some true }) store.twoFactors
  ((), { store with twoFactors := updated.getD store.twoFactors })

/-- Replace the backup codes, if they are still those that were read. -/
def replaceBackupCodes (id raw encoded : String) (store : Store) : Bool × Store :=
  match table.updateFirst (fun twoFactor => twoFactor.id = id && twoFactor.backupCodes = raw)
    (fun twoFactor => { twoFactor with backupCodes := encoded }) store.twoFactors with
  | none => (false, store)
  | some twoFactors => (true, { store with twoFactors })

/-- Store a new OTP, under the next number. -/
def createOTP (value : String) (period : Int) (store : Store) : Unit × Store :=
  let created := (createVerification identifier value (store.now + period) (some store.sends) store).2
  ((), { created with sends := store.sends + 1 })

end Store

/-! ## Requests -/

structure SessionState where
  user : User
  (id token : String)

inductive Site where
  | findChallenge
  | findUser
  | findTwoFactor
  | consumeAttempts
  | consumeChallenge
  | consumeOTP
  | createAttempts
  | createOTP
  | createTrustedDevice
  | updateUser
  | updateTwoFactor
  | issueSession
  | deleteSession
  deriving DecidableEq

/-- A call succeeds, or it fails before or after its effect. -/
inductive Fault where
  | none
  | before
  | after

/-- What a request meets besides the shared state. -/
structure Env where
  session : Option SessionState := none
  faults : Site → Fault := fun _ => .none
  /-- The random part of the identifier of a trusted device. -/
  random : Option String := some "r"
  /-- What the delivery of an OTP answers. -/
  delivery : Except Failure Unit := .ok ()

abbrev Handler (α : Type) : Type := Calls Store Failure α

section

variable {σ α : Type}

def refuse (failure : Failure) : Calls σ Failure α := monadLift (Except.error failure : Except Failure α)

def Fault.call (fault : Fault) (failure : Failure) (access : σ → α × σ) : Calls σ Failure α :=
  match fault with
  | .none => Calls.update fun shared => .ok (access shared)
  | .before => refuse failure
  | .after => do
    let _ ← Calls.update fun shared => .ok (access shared)
    refuse failure

abbrev Env.call (env : Env) (site : Site) : Failure → (σ → α × σ) → Calls σ Failure α := (env.faults site).call

end

inductive Response where
  /-- A new session of the user. -/
  | signedIn (userID : String)
  /-- The session that the request came with. -/
  | verified (token : String) (userID : String)
  /-- No new session was asked for. -/
  | accepted (userID : String)
  /-- The session in place of the one that the request came with. -/
  | enabled (userID : String)
  | sent

structure VerificationContext where
  user : User
  session : Option SessionState
  key : String
  challenge : Option Verification

variable (plugin : Plugin) (env : Env) (challengeKey : String) (context : VerificationContext)

/-- The session decides where there is one. The challenge is not looked at then. -/
def verifyTwoFactor : Handler VerificationContext :=
  match env.session with
  | some session => do
    require (session.user.id ≠ "") internalError
    return ⟨session.user, some session, session.user.id ++ "!" ++ session.id, none⟩
  | none => do
    require (challengeKey ≠ "") invalidCookie
    let challenge ← env.call .findChallenge internalError (Store.findVerification challengeKey)
    let challenge ← expect challenge invalidCookie
    require (challenge.value ≠ "") invalidCookie
    let user ← env.call .findUser internalError (Store.findUser challenge.value)
    let user ← expect user invalidCookie
    return ⟨user, none, challengeKey, some challenge⟩

/-! ## Attempts -/

def attemptsIdentifier (key : String) : String := "2fa-attempts-" ++ key

def otpIdentifier (key : String) : String := "2fa-otp-" ++ key

structure Attempt where
  identifier : String
  (attempts expiresAt : Int)

/-- What a stored counter is taken for. -/
def countedAttempts (allowed : Int) (raw : String) : Int :=
  let (attempts, parsed) := atoi raw
  if parsed = false ∨ attempts < 0 then allowed else attempts

/-- There is no counter in a session. -/
def beginAttempt (allowed : Int) : Handler (Option Attempt) :=
  match context.challenge with
  | none => return none
  | some challenge => do
    let consumed ← env.call .consumeAttempts invalidCookie
      (Store.consumeVerification (attemptsIdentifier context.key))
    let consumed ← expect consumed invalidCookie
    let attempts := countedAttempts allowed consumed.value
    if allowed ≤ attempts then
      let _ ← (env.call .consumeChallenge invalidCookie (Store.consumeVerification context.key)).attempt
      refuse (twoFactorError statusBadRequest codeTooManyAttempts)
    else
      return some ⟨attemptsIdentifier context.key, attempts, challenge.expiresAt⟩

def rearm (attempt : Attempt) (value : Int) : Handler Unit :=
  env.call .createAttempts internalError
    (Store.createVerification attempt.identifier (toString value) attempt.expiresAt none)

def recordFailure : Option Attempt → Handler Unit
  | none => return ()
  | some attempt => rearm env attempt (attempt.attempts + 1)

def restore : Option Attempt → Handler Unit
  | none => return ()
  | some attempt => rearm env attempt attempt.attempts

/-- A wrong TOTP or backup code. -/
def failedGuess (attempt : Option Attempt) : Handler Unit := do
  -- the comparison is a step of its own, so that it counts also when the request goes no further
  Calls.update fun store => .ok (store.record (.guessed context.challenge.isSome))
  recordFailure env attempt

/-- The code in front of the first colon, and the number behind it. An error of
the number is ignored. -/
def splitOTPValue (value : String) : String × Int :=
  match cut ':' value with
  | none => (value, 0)
  | some (code, counter) => (code, (atoi counter).1)

def otpValue (stored : String) (attempts : Int) : String := stored ++ ":" ++ toString attempts

/-! ## Success -/

/-- Remember the device, if that is asked for. -/
def setTrustedDevice (trustDevice : Bool) (userID : String) : Handler Unit :=
  if trustDevice then do
    let random ← expect env.random internalError
    env.call .createTrustedDevice internalError fun store =>
      store.createVerification ("trust-device-" ++ random) userID (store.now + plugin.trustDeviceMaxAge) none
  else return ()

def valid (trustDevice : Bool) : Handler Response :=
  match context.challenge with
  | none => return .verified ((context.session.map SessionState.token).getD "") context.user.id
  | some _ => do
    let consumed ← env.call .consumeChallenge invalidCookie (Store.consumeVerification context.key)
    let consumed ← expect consumed invalidCookie
    require (consumed.value ≠ "" ∧ consumed.value = context.user.id) invalidCookie
    env.call .issueSession sessionFailed (Store.record (.issued consumed.value true))
    setTrustedDevice plugin env trustDevice consumed.value
    return .signedIn consumed.value

/-- Enable two factors for the user of a session. A challenge has no session. -/
def enableUser : Handler User :=
  match context.session with
  | none => refuse sessionRequired
  | some session => do
    let updated ← env.call .updateUser internalError (Store.enableTwoFactor context.user.id)
    let updated ← expect updated internalError
    env.call .issueSession internalError (Store.record (.issued context.user.id false))
    require (session.token ≠ "") internalError
    -- sessions are not part of the state
    env.call .deleteSession internalError fun store => ((), store)
    return updated

/-! ## Factors -/

/-- The first right code makes the factor a verified one. -/
def confirmTOTP (twoFactor : TwoFactor) : Handler VerificationContext :=
  if twoFactor.verified = some true then return context
  else do
    let user ← if context.user.twoFactorEnabled then pure context.user else enableUser env context
    env.call .updateTwoFactor internalError (Store.setVerified twoFactor.id)
    return { context with user }

def sendTwoFactorOTP (env : Env) (otp : Option String) :
    Handler Response := do
  require (plugin.hasSendOTP = true) (twoFactorError statusBadRequest codeOTPNotConfigured)
  let context ← verifyTwoFactor env challengeKey
  let code ← expect otp internalError
  let stored ← expect (plugin.storedOTP code) internalError
  env.call .createOTP internalError (Store.createOTP (otpIdentifier context.key) (otpValue stored 0) plugin.otpPeriod)
  env.delivery
  return .sent

/-- A wrong OTP: its row comes back with the next number. -/
def failedOTP (identifier : String) (consumed : Verification) (stored : String) (attempts : Int) :
    Handler Unit := do
  Calls.update fun store => .ok (store.record (.mistyped consumed.sent))
  env.call .createOTP internalError
    (Store.createVerification identifier (otpValue stored (attempts + 1)) consumed.expiresAt consumed.sent)

/-! ## Challenges -/

/-- A challenge of a sign-in: its random text and the user who has signed in. -/
structure Challenge where
  (random userID : String)
  random_mem : ∀ c ∈ random.toList, c ∈ defaultRandomAlphabet.toList

namespace Challenge

def key (challenge : Challenge) : String := "2fa-" ++ challenge.random

/-- The rows that a sign-in stores for its challenge. -/
def begin (plugin : Plugin) (challenge : Challenge) (store : Store) : Store :=
  let expiresAt := store.now + plugin.twoFactorCookieMaxAge
  let (_, store) := store.createVerification challenge.key challenge.userID expiresAt none
  (store.createVerification (attemptsIdentifier challenge.key) "0" expiresAt none).2

/-- A row that neither belongs to the challenge nor counts for a sent OTP. -/
def foreign (challenge : Challenge) (row : Verification) : Bool :=
  row.identifier ≠ challenge.key && row.identifier ≠ attemptsIdentifier challenge.key && row.sent = none

end Challenge

end singleauth.twofactor
