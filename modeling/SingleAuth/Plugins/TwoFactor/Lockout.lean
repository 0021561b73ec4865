import SingleAuth.Plugins.TwoFactor.Factors

open fallible program text
open singleauth.contract (Failure statusBadRequest statusUnauthorized)

namespace singleauth.twofactor

def codeAccountTemporarilyLocked : String := "ACCOUNT_TEMPORARILY_LOCKED"

def accountLocked : Failure :=
  .api ⟨429, codeAccountTemporarilyLocked,
    "Too many failed verification attempts. Your account is temporarily locked. Please try again later.", []⟩

/-- The options of the account lockout as they are after their checks. -/
structure Lockout where
  enabled : Option Bool := none
  maxFailedAttempts : Int := 10
  duration : Int := 900 * 1000000000
  maxFailedAttempts_pos : 1 ≤ maxFailedAttempts
  duration_pos : 1000000000 ≤ duration

def Lockout.accountLockoutEnabled (lockout : Lockout) : Bool := lockout.enabled.getD true

/-! ## State -/

/-- The fields of a factor that the lockout reads and writes. A missing count is
counted from zero. -/
structure Lock where
  failedVerificationCount : Int := 0
  lockedUntil : Option Int := none
  deriving DecidableEq

structure Comparison where
  factor : String
  time : Int
  right : Bool
  deriving DecidableEq

/-- What the requests share, with the lock of each factor. `compared` only
records what has happened. -/
structure Accounts where
  store : Store
  locks : String → Lock
  compared : List Comparison := []

namespace Accounts

variable (id : String) (accounts : Accounts)

def withStore (store : Store) : Accounts := { accounts with store }

def has : Bool := accounts.store.twoFactors.any fun twoFactor => twoFactor.id = id

def setLock (lock : Lock) (accounts : Accounts) : Accounts :=
  if accounts.has id then { accounts with locks := Function.update accounts.locks id lock } else accounts

def findTwoFactor (userID : String) (accounts : Accounts) : Option (TwoFactor × Lock) × Accounts :=
  ((accounts.store.findTwoFactor userID).1.map fun twoFactor => (twoFactor, accounts.locks twoFactor.id), accounts)

/-- Take a lock away whose time has passed. -/
def unlock : Unit × Accounts :=
  ((), if (accounts.locks id).lockedUntil.any fun lockedUntil => lockedUntil ≤ accounts.store.now then
    accounts.setLock id {} else accounts)

/-- The count after one more failure, if the factor is there. -/
def countFailure : Option Int × Accounts :=
  let lock := accounts.locks id
  let count := lock.failedVerificationCount + 1
  (if accounts.has id then some count else none, accounts.setLock id { lock with failedVerificationCount := count })

def lock (duration : Int) (accounts : Accounts) : Unit × Accounts :=
  ((), accounts.setLock id { accounts.locks id with lockedUntil := some (accounts.store.now + duration) })

def reset : Unit × Accounts := ((), accounts.setLock id {})

def record (comparison : Int → Comparison) (accounts : Accounts) : Unit × Accounts :=
  ((), { accounts with compared := accounts.compared ++ [comparison accounts.store.now] })

end Accounts

inductive LockSite where
  | unlock
  | countFailure
  | lock
  | reset
  deriving DecidableEq

structure LockEnv extends Env where
  lockFaults : LockSite → Fault := fun _ => .none

abbrev Guarded (α : Type) : Type := Calls Accounts Failure α

/-- A handler that does not touch the locks. -/
def unguarded {α : Type} (handler : Handler α) : Guarded α := handler.within Accounts.store Accounts.withStore

/-! ## The lock of a factor -/

namespace Lockout

variable (lockout : Lockout) (env : LockEnv)

/-- There is no factor to lock in a session. -/
def factorOf (context : VerificationContext) (twoFactor : TwoFactor) : Option String :=
  if context.challenge.isSome then some twoFactor.id else none

/-- The lock is the one that was read with the factor. -/
def assertNotLocked (lock : Lock) : Option String → Guarded Unit
  | none => return ()
  | some id =>
    match lockout.accountLockoutEnabled, lock.lockedUntil with
    | true, some lockedUntil => do
      let now ← Calls.query fun accounts => .ok accounts.store.now
      require (¬ now < lockedUntil) accountLocked
      require (id ≠ "") internalError
      (env.lockFaults .unlock).call internalError (Accounts.unlock id)
    | _, _ => return ()

def recordFailure : Option String → Guarded Unit
  | none => return ()
  | some id =>
    if lockout.accountLockoutEnabled then do
      require (id ≠ "") internalError
      let count ← (env.lockFaults .countFailure).call internalError (Accounts.countFailure id)
      if count.any fun count => lockout.maxFailedAttempts ≤ count then
        (env.lockFaults .lock).call internalError (Accounts.lock id lockout.duration)
      else return ()
    else return ()

def resetFailures : Option String → Guarded Unit
  | none => return ()
  | some id =>
    if lockout.accountLockoutEnabled then do
      require (id ≠ "") internalError
      (env.lockFaults .reset).call internalError (Accounts.reset id)
    else return ()

/-- The comparison is a step of its own, so that it counts also when the
request goes no further. -/
def compared (right : Bool) : Option String → Guarded Unit
  | none => return ()
  | some id => Calls.update fun accounts => .ok (accounts.record fun time => ⟨id, time, right⟩)

def accept (factor : Option String) : Guarded Unit := do
  compared true factor
  resetFailures lockout env factor

/-- A wrong code, with what else is to be done about it. -/
def reject (factor : Option String) (counted : Handler Unit) : Guarded Unit := do
  compared false factor
  unguarded counted
  recordFailure lockout env factor

/-! ## Factors -/

variable (plugin : Plugin) (challengeKey : String)

def verifyTOTP (code : String) (trustDevice : Bool) : Guarded Response := do
  require (plugin.totpDisable = false) (twoFactorError statusBadRequest codeTOTPNotConfigured)
  let context ← unguarded (verifyTwoFactor env.toEnv challengeKey)
  require (context.user.id ≠ "") internalError
  let found ← env.call .findTwoFactor internalError (Accounts.findTwoFactor context.user.id)
  let (twoFactor, lock) ← expect found (twoFactorError statusBadRequest codeTOTPNotEnabled)
  require (¬ (context.challenge.isSome ∧ twoFactor.verified = some false))
    (twoFactorError statusBadRequest codeTOTPNotEnabled)
  assertNotLocked lockout env lock (factorOf context twoFactor)
  let attempt ← unguarded (beginAttempt env.toEnv context defaultAllowedAttempts)
  match plugin.decryptSecret twoFactor.secret with
  | none => do
    unguarded (restore env.toEnv attempt)
    refuse .unknown
  | some secret => do
    let now ← Calls.query fun accounts => .ok accounts.store.now
    match plugin.VerifyTOTP secret code now with
    | none => do
      unguarded (restore env.toEnv attempt)
      refuse internalError
    | some false => do
      reject lockout env (factorOf context twoFactor) (failedGuess env.toEnv context attempt)
      refuse (twoFactorError statusUnauthorized codeInvalidCode)
    | some true => do
      accept lockout env (factorOf context twoFactor)
      let context ← unguarded (confirmTOTP env.toEnv context twoFactor)
      unguarded (valid plugin env.toEnv context trustDevice)

/-- A challenge needs a second factor of its user, and one that is not locked. -/
def signInFactor (context : VerificationContext) : Guarded (Option String) :=
  match context.challenge with
  | none => return none
  | some _ => do
    let found ← env.call .findTwoFactor internalError (Accounts.findTwoFactor context.user.id)
    let (twoFactor, lock) ← expect found (twoFactorError statusBadRequest codeTwoFactorNotEnabled)
    assertNotLocked lockout env lock (some twoFactor.id)
    return some twoFactor.id

def verifyTwoFactorOTP (code : String) (trustDevice : Bool) : Guarded Response := do
  let context ← unguarded (verifyTwoFactor env.toEnv challengeKey)
  require (context.user.id ≠ "") internalError
  let factor ← signInFactor lockout env context
  let consumed ← unguarded
    (env.call .consumeOTP internalError (Store.consumeVerification (otpIdentifier context.key)))
  let consumed ← expect consumed (twoFactorError statusBadRequest codeOTPHasExpired)
  let (stored, attempts) := splitOTPValue consumed.value
  require (attempts < plugin.allowedAttempts) (twoFactorError statusBadRequest codeTooManyAttempts)
  match plugin.compareStoredOTP stored code with
  | none => refuse internalError
  | some false => do
    reject lockout env factor (failedOTP env.toEnv (otpIdentifier context.key) consumed stored attempts)
    refuse (twoFactorError statusUnauthorized codeInvalidCode)
  | some true => do
    accept lockout env factor
    if context.user.twoFactorEnabled then
      unguarded (valid plugin env.toEnv context trustDevice)
    else do
      let user ← unguarded (enableUser env.toEnv context)
      return .enabled user.id

/-- Take a code out of the list that was read, unless another request has
changed it. -/
def redeemBackupCode (code : String) (disableSession trustDevice : Bool) (context : VerificationContext)
    (twoFactor : TwoFactor) (attempt : Option Attempt) : Guarded Response :=
  match plugin.decodeBackupCodes twoFactor.backupCodes with
  | none => do
    unguarded (restore env.toEnv attempt)
    refuse internalError
  | some codes =>
    match removeBackupCode codes code with
    | (_, false) => do
      reject lockout env (factorOf context twoFactor) (failedGuess env.toEnv context attempt)
      refuse (twoFactorError statusUnauthorized codeInvalidBackupCode)
    | (remaining, true) =>
      match plugin.encodeBackupCodes remaining with
      | none => do
        unguarded (restore env.toEnv attempt)
        refuse internalError
      | some encoded => do
        let replaced ← unguarded (env.call .updateTwoFactor internalError
          (Store.replaceBackupCodes twoFactor.id twoFactor.backupCodes encoded))
        require (replaced = true) backupCodeConflict
        accept lockout env (factorOf context twoFactor)
        if disableSession then return .accepted context.user.id
        else unguarded (valid plugin env.toEnv context trustDevice)

def verifyBackupCode (code : String) (disableSession trustDevice : Bool) : Guarded Response := do
  let context ← unguarded (verifyTwoFactor env.toEnv challengeKey)
  require (context.user.id ≠ "") internalError
  let found ← env.call .findTwoFactor internalError (Accounts.findTwoFactor context.user.id)
  let (twoFactor, lock) ← expect found (twoFactorError statusBadRequest codeBackupCodesNotEnabled)
  assertNotLocked lockout env lock (factorOf context twoFactor)
  let attempt ← unguarded (beginAttempt env.toEnv context defaultAllowedAttempts)
  redeemBackupCode lockout env plugin code disableSession trustDevice context twoFactor attempt

end Lockout

/-! ## Requests -/

/-- What other requests do in the meantime: users, factors with their locks and
rows of others become any, rows may be deleted, and the clock shows any time. -/
structure Elsewhere where
  users : List User
  twoFactors : List TwoFactor
  locks : String → Lock
  kept : Verification → Bool
  added : List Verification
  now : Int

def Elsewhere.apply (elsewhere : Elsewhere) (challenge : Challenge) (accounts : Accounts) : Accounts :=
  { accounts with
    locks := elsewhere.locks
    store := { accounts.store with
      verifications := accounts.store.verifications.filter elsewhere.kept ++ elsewhere.added.filter challenge.foreign
      users := elsewhere.users
      twoFactors := elsewhere.twoFactors
      now := elsewhere.now } }

inductive Request where
  | verifyTOTP (env : LockEnv) (code : String) (trustDevice : Bool)
  | verifyBackupCode (env : LockEnv) (code : String) (disableSession trustDevice : Bool)
  | verifyTwoFactorOTP (env : LockEnv) (code : String) (trustDevice : Bool)
  | sendTwoFactorOTP (env : Env) (otp : Option String)
  | elsewhere (effect : Elsewhere)

/-- A request that presents the cookie of the challenge. -/
def handle (lockout : Lockout) (plugin : Plugin) (challenge : Challenge) : Request → Guarded Response
  | .verifyTOTP env code trustDevice => lockout.verifyTOTP env plugin challenge.key code trustDevice
  | .verifyBackupCode env code disableSession trustDevice =>
    lockout.verifyBackupCode env plugin challenge.key code disableSession trustDevice
  | .verifyTwoFactorOTP env code trustDevice => lockout.verifyTwoFactorOTP env plugin challenge.key code trustDevice
  | .sendTwoFactorOTP env otp => unguarded (sendTwoFactorOTP plugin challenge.key env otp)
  | .elsewhere effect => do
    Calls.update fun accounts => .ok ((), effect.apply challenge accounts)
    return .sent

/-! ## What the lockout leaves alone -/

section

variable {α κ : Type} {lockout : Lockout} {env : LockEnv} {view : Accounts → κ} {factor : Option String}

/-- Nothing is seen of the lock of the factor and of its comparisons. -/
structure Blind (view : Accounts → κ) (factor : Option String) : Prop where
  setLock : ∀ id, factor = some id → ∀ accounts lock, view (accounts.setLock id lock) = view accounts
  record : ∀ id, factor = some id → ∀ accounts right,
    view (accounts.record fun time => ⟨id, time, right⟩).2 = view accounts

theorem store_setLock (accounts : Accounts) (id : String) (lock : Lock) :
    (accounts.setLock id lock).store = accounts.store := by
  unfold Accounts.setLock
  split <;> rfl

theorem call_steady {σ : Type} {view : σ → κ} {access : σ → α × σ} {fault : Fault} {failure : Failure}
    (h : ∀ shared, view (access shared).2 = view shared) :
    Steady view (fun _ => True) (fault.call failure access) := by
  unfold Fault.call
  split
  · exact .access h
  · exact .fails
  · exact .bind (.access h) fun _ _ => .fails

section

variable (hblind : Blind view factor)
include hblind

theorem assertNotLocked_steady (lock : Lock) :
    Steady view (fun _ => True) (lockout.assertNotLocked env lock factor) := by
  unfold Lockout.assertNotLocked
  split
  · exact .pure trivial
  rename_i id
  split
  · have hnow : Steady view (fun _ => True)
        (Calls.query fun accounts => .ok accounts.store.now : Guarded Int) := fun _ => ⟨rfl, fun _ _ => trivial⟩
    refine .bind hnow fun _ _ => .bind .checks fun _ _ => .bind .checks fun _ _ => call_steady fun accounts => ?_
    unfold Accounts.unlock
    split
    · exact hblind.setLock id rfl _ _
    · rfl
  · exact .pure trivial

theorem compared_steady (right : Bool) : Steady view (fun _ => True) (Lockout.compared right factor) := by
  cases factor with
  | none => exact .pure trivial
  | some id => exact .access fun accounts => hblind.record id rfl accounts right

theorem accept_steady : Steady view (fun _ => True) (lockout.accept env factor) := by
  refine .bind (compared_steady hblind true) fun _ _ => ?_
  unfold Lockout.resetFailures
  split
  · exact .pure trivial
  · split
    · exact .bind .checks fun _ _ => call_steady fun accounts => hblind.setLock _ rfl accounts _
    · exact .pure trivial

theorem recordFailure_steady : Steady view (fun _ => True) (lockout.recordFailure env factor) := by
  unfold Lockout.recordFailure
  split
  · exact .pure trivial
  rename_i id
  split
  · refine .bind .checks fun _ _ => .bind (call_steady fun accounts => hblind.setLock id rfl accounts _) fun _ _ => ?_
    split
    · exact call_steady fun accounts => hblind.setLock id rfl accounts _
    · exact .pure trivial
  · exact .pure trivial

theorem reject_steady {counted : Handler Unit} (h : Steady view (fun _ => True) (unguarded counted)) :
    Steady view (fun _ => True) (lockout.reject env factor counted) :=
  .bind (compared_steady hblind false) fun _ _ => .bind h fun _ _ => recordFailure_steady hblind

end

end

end singleauth.twofactor
