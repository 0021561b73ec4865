import SingleAuth.Lib.Limiter
import SingleAuth.Plugins.TwoFactor.SingleUse

open fallible limiter program transition
open singleauth.contract (Failure)

namespace singleauth.twofactor

/-! ## Histories -/

inductive FactorRequest where
  | totp (env : LockEnv) (challengeKey code : String) (trustDevice : Bool)
  | otp (env : LockEnv) (challengeKey code : String) (trustDevice : Bool)
  | backupCode (env : LockEnv) (challengeKey code : String) (disableSession trustDevice : Bool)

namespace FactorRequest

def env : FactorRequest → LockEnv
  | totp env _ _ _ | otp env _ _ _ | backupCode env _ _ _ _ => env

def challengeKey : FactorRequest → String
  | totp _ challengeKey _ _ | otp _ challengeKey _ _ | backupCode _ challengeKey _ _ _ => challengeKey

def handle (lockout : Lockout) (plugin : Plugin) : FactorRequest → Guarded Response
  | totp env challengeKey code trustDevice => lockout.verifyTOTP env plugin challengeKey code trustDevice
  | otp env challengeKey code trustDevice => lockout.verifyTwoFactorOTP env plugin challengeKey code trustDevice
  | backupCode env challengeKey code disableSession trustDevice =>
    lockout.verifyBackupCode env plugin challengeKey code disableSession trustDevice

/-- The attempt is a sign-in of the user of the factor. -/
structure SignsIn (id : String) (request : FactorRequest) (accounts : Accounts) : Prop where
  session : request.env.session = none
  factor : ∀ context found, (verifyTwoFactor request.env.toEnv request.challengeKey).run accounts.store =
    (.ok context, found) → found.factorID context.user.id = some id

end FactorRequest

/-- An attempt is made, or other requests change anything but the locks. -/
inductive Moment where
  | attempt (request : FactorRequest)
  | elsewhere (store : Store)

def Moment.step (lockout : Lockout) (plugin : Plugin) (accounts : Accounts) : Moment → Accounts
  | .attempt request => ((request.handle lockout plugin).run accounts).2
  | .elsewhere store => accounts.withStore store

/-- No call of an attempt fails, and time does not go back. -/
def Moment.Allowed (accounts : Accounts) : Moment → Prop
  | .attempt request => request.env.Sound
  | .elsewhere store => accounts.store.now ≤ store.now

/-- The lock of a factor and the codes that were compared for it. -/
def limiterOf (id : String) (accounts : Accounts) : Limiter where
  count := (accounts.locks id).failedVerificationCount
  lockedUntil := (accounts.locks id).lockedUntil
  now := accounts.store.now
  guesses := (accounts.compared.filter fun comparison => comparison.factor = id).map fun comparison =>
    ⟨comparison.time, comparison.right⟩

/-! ## One attempt -/

variable {context : VerificationContext}

theorem enableUser_steady {env : Env} : Steady Store.kept (fun _ => True) (enableUser env context) := by
  have hupdate : ∀ store : Store, (store.enableTwoFactor context.user.id).2.kept = store.kept := by
    intro store
    unfold Store.enableTwoFactor
    split <;> rfl
  unfold enableUser
  split
  · exact .fails
  · refine .bind (call_steady hupdate) fun _ _ => .bind .checks fun _ _ => .bind (call_steady fun _ => rfl) fun _ _ => ?_
    refine .bind .checks fun _ _ => .bind (call_steady fun _ => rfl) fun _ _ => ?_
    exact .pure trivial

theorem confirmTOTP_steady {env : Env} {twoFactor : TwoFactor} :
    Steady Store.kept (fun _ => True) (confirmTOTP env context twoFactor) := by
  have hverified : ∀ store : Store, (store.setVerified twoFactor.id).2.kept = store.kept := by
    intro store
    unfold Store.setVerified
    cases hupdate : table.updateFirst (fun other => other.id = twoFactor.id)
        (fun other => { other with verified := some true }) store.twoFactors with
    | none => rfl
    | some updated => exact congrArg (Prod.mk store.now) (table.map_updateFirst hupdate fun _ => rfl)
  have hconfirmed : ∀ user, Steady Store.kept (fun _ => True)
      (env.call .updateTwoFactor internalError (Store.setVerified twoFactor.id) >>= fun _ =>
        pure { context with user } : Handler VerificationContext) :=
    fun user => .bind (call_steady hverified) fun _ _ => .pure trivial
  unfold confirmTOTP
  split
  · exact .pure trivial
  split
  · exact hconfirmed context.user
  · exact .bind enableUser_steady fun user _ => hconfirmed user

/-- All that the limiters see. -/
def Accounts.seen (accounts : Accounts) : (String → Lock) × List Comparison × Int × List (String × String × String) :=
  (accounts.locks, accounts.compared, accounts.store.kept)

variable {accounts : Accounts} {later : Accounts}

theorem limiterOf_of_seen (h : later.seen = accounts.seen) (id : String) :
    limiterOf id later = limiterOf id accounts := by
  simp only [Accounts.seen, Store.kept, Prod.mk.injEq] at h
  obtain ⟨hlocks, hcompared, hnow, -⟩ := h
  unfold limiterOf
  rw [hlocks, hcompared, hnow]

theorem has_of_kept (h : later.kept = accounts.kept) (id : String) : later.has id = accounts.has id := by
  have hids := congrArg (fun kept => (kept.2.map Prod.fst).any fun other => other = id) h
  simp only [Accounts.kept, Store.kept, List.map_map, List.any_map] at hids
  exact hids

theorem unguarded_view {α κ : Type} {view : Accounts → κ}
    (hview : ∀ accounts later : Accounts, later.seen = accounts.seen → view later = view accounts) {post : α → Prop}
    {handler : Handler α} (h : Steady Store.kept post handler) : Steady view post (unguarded handler) := by
  have hput : ∀ (accounts : Accounts) (store : Store), store.kept = accounts.store.kept →
      view (accounts.withStore store) = view accounts := by
    intro accounts store hkept
    apply hview
    unfold Accounts.seen Accounts.withStore
    rw [hkept]
  exact h.within hput

/-- A factor that is watched from some state on, with the lockout enabled. -/
structure Watch where
  lockout : Lockout
  id : String
  start : Accounts
  enabled : lockout.accountLockoutEnabled = true
  id_ne : id ≠ ""

namespace Watch

variable (watch : Watch)

/-- What has happened so far are steps of the limiter. -/
def Idle (accounts : Accounts) : Prop :=
  Relation.ReflTransGen (Step watch.lockout.maxFailedAttempts watch.lockout.duration) (limiterOf watch.id watch.start)
    (limiterOf watch.id accounts)

/-- An attempt at the factor goes on, so there is no lock. -/
def Open (factor : Option String) (accounts : Accounts) : Prop :=
  watch.Idle accounts ∧
    (factor = some watch.id → accounts.has watch.id = true ∧ (accounts.locks watch.id).lockedUntil = none)

/-- The factor was read with its lock. -/
def Found (entry : TwoFactor × Lock) (accounts : Accounts) : Prop :=
  watch.Idle accounts ∧ accounts.has entry.1.id = true ∧ accounts.locks entry.1.id = entry.2

end Watch

theorem blind_limiterOf {f : String} {factor : Option String} (h : factor ≠ some f) : Blind (limiterOf f) factor := by
  constructor
  · rintro id rfl accounts lock
    have hne : f ≠ id := fun heq => h (congrArg some heq.symm)
    unfold Accounts.setLock limiterOf
    split
    · simp [Function.update_of_ne hne]
    · rfl
  · rintro id rfl accounts right
    have hne : id ≠ f := fun heq => h (congrArg some heq)
    simp [Accounts.record, limiterOf, List.filter_append, hne]

section

variable {lockout : Lockout} {f : String} {accounts : Accounts} {env : LockEnv} {α : Type}

theorem setLock_of_has (hhas : accounts.has f = true) (lock : Lock) :
    accounts.setLock f lock = { accounts with locks := Function.update accounts.locks f lock } := by
  unfold Accounts.setLock
  rw [if_pos hhas]

/-- A lock whose time has passed is taken away, and stops nobody. -/
theorem run_assertNotLocked (henabled : lockout.accountLockoutEnabled = true) (hsound : env.Sound) (hf : f ≠ "") :
    (lockout.assertNotLocked env (accounts.locks f) (some f)).run accounts =
      (accounts.locks f).lockedUntil.elim (.ok (), accounts) fun lockedUntil =>
        if lockedUntil ≤ accounts.store.now then (.ok (), accounts.setLock f {}) else (.error accountLocked, accounts) := by
  unfold Lockout.assertNotLocked
  rw [henabled]
  cases hlocked : (accounts.locks f).lockedUntil with
  | none => rfl
  | some lockedUntil =>
    have hnow : (Calls.query fun accounts => .ok accounts.store.now : Guarded Int).run accounts =
        (.ok accounts.store.now, accounts) := rfl
    rw [Option.elim_some, Calls.run_bind_ok hnow]
    split
    · next hpassed =>
      rw [Calls.run_bind_ok (run_require (Int.not_lt.mpr hpassed) _), Calls.run_bind_ok (run_require hf _),
        run_call (hsound.lockFaults _)]
      simp [Accounts.unlock, hlocked, hpassed]
    · next hpassed =>
      have hrefused : require (¬ accounts.store.now < lockedUntil) accountLocked = .error accountLocked :=
        require_eq_error_iff.mpr ⟨not_not.mpr (Int.not_le.mp hpassed), rfl⟩
      rw [hrefused]
      rfl

end

section

variable {watch : Watch} {accounts : Accounts} {env : LockEnv} {factor : Option String} {α : Type}
  {calls : Guarded α} {post : α → Prop} {failure : Failure} {pre : Accounts → Prop} {handler : Handler α}
  {result : Except Failure α} {attempt : Option Attempt}

theorem idle_steady (h : Steady (limiterOf watch.id) post calls) :
    calls.Leads watch.Idle watch.Idle fun value after =>
      post value ∧ watch.Idle after := by
  refine .steady (fun _ later hsame hidle => ?_) (fun _ h => h) h
  unfold Watch.Idle
  rw [hsame]
  exact hidle

/-- What is done to another factor does not show. -/
theorem blind_leads (hpre : ∀ accounts, pre accounts → watch.Idle accounts)
    (h : Steady (limiterOf watch.id) post calls) :
    calls.Leads watch.Idle pre fun _ => watch.Idle := by
  intro accounts hidle result after hrun
  obtain ⟨hok, herror⟩ := idle_steady h accounts (hpre accounts hidle) result after hrun
  exact ⟨fun value hvalue => (hok value hvalue).2, herror⟩

theorem open_steady (h : Steady Accounts.seen post calls) :
    calls.Leads watch.Idle (watch.Open factor)
      fun value after => post value ∧ watch.Open factor after := by
  refine .steady (fun accounts later hseen hopen => ⟨?_, fun hfactor => ?_⟩) (fun _ hopen => hopen.1) h
  · unfold Watch.Idle
    rw [limiterOf_of_seen hseen]
    exact hopen.1
  obtain ⟨hhas, hlock⟩ := hopen.2 hfactor
  have hkept : later.kept = accounts.kept := congrArg (fun seen => seen.2.2) hseen
  have hlocks : later.locks = accounts.locks := congrArg Prod.fst hseen
  exact ⟨(has_of_kept hkept watch.id).trans hhas, hlocks ▸ hlock⟩

section

variable (hsound : env.Sound)
include hsound

/-- The lock that is read with the factor is its lock. -/
theorem findTwoFactor_leads (userID : String) :
    (env.call .findTwoFactor internalError (Accounts.findTwoFactor userID)).Leads watch.Idle
      watch.Idle fun found after => watch.Idle after ∧
        ∀ entry, found = some entry → after.has entry.1.id = true ∧ after.locks entry.1.id = entry.2 := by
  refine .of_run fun accounts hidle => ⟨_, _, run_call (hsound.faults _), hidle, fun entry hentry => ?_⟩
  obtain ⟨twoFactor, hfound, rfl⟩ := Option.map_eq_some_iff.mp hentry
  exact ⟨List.any_eq_true.mpr ⟨twoFactor, List.mem_of_find?_eq_some hfound, by simp⟩, rfl⟩

theorem assertNotLocked_leads (lock : Lock) :
    (watch.lockout.assertNotLocked env lock factor).Leads watch.Idle
      (fun accounts => watch.Idle accounts ∧
        (factor = some watch.id → accounts.has watch.id = true ∧ accounts.locks watch.id = lock))
      fun _ => watch.Open factor := by
  by_cases hfactor : factor = some watch.id
  · subst hfactor
    rintro accounts ⟨hidle, hlock⟩ result after hrun
    obtain ⟨hhas, rfl⟩ := hlock rfl
    rw [run_assertNotLocked watch.enabled hsound watch.id_ne] at hrun
    cases hlocked : (accounts.locks watch.id).lockedUntil with
    | none =>
      rw [hlocked] at hrun
      cases hrun
      exact ⟨fun _ _ => ⟨hidle, fun _ => ⟨hhas, hlocked⟩⟩, fun _ _ => hidle⟩
    | some lockedUntil =>
      rw [hlocked, Option.elim_some, setLock_of_has hhas] at hrun
      split at hrun
      · next hpassed =>
        cases hrun
        have hlift : watch.Idle { accounts with locks := Function.update accounts.locks watch.id {} } := by
          have hstep : Step watch.lockout.maxFailedAttempts watch.lockout.duration (limiterOf watch.id accounts) _ :=
            .lift hlocked hpassed
          refine hidle.tail ?_
          simpa [limiterOf] using hstep
        exact ⟨fun _ _ => ⟨hlift, fun _ => ⟨hhas, by simp⟩⟩, fun _ _ => hlift⟩
      · cases hrun
        exact ⟨fun _ hvalue => (by cases hvalue), fun _ _ => hidle⟩
  · exact (blind_leads (fun _ hpre => hpre.1) (assertNotLocked_steady (blind_limiterOf hfactor) lock)).imp
      fun _ _ hidle => ⟨hidle, fun h => absurd h hfactor⟩

theorem accept_leads :
    (watch.lockout.accept env factor).Leads watch.Idle (watch.Open factor) fun _ => watch.Idle := by
  by_cases hfactor : factor = some watch.id
  · subst hfactor
    refine .of_run fun accounts hopen => ?_
    obtain ⟨hhas, hlock⟩ := hopen.2 rfl
    have hcompared : (Lockout.compared true (some watch.id)).run accounts =
        (.ok (), (accounts.record fun time => ⟨watch.id, time, true⟩).2) := rfl
    unfold Lockout.accept Lockout.resetFailures
    rw [Calls.run_bind_ok hcompared]
    dsimp only
    rw [if_pos watch.enabled, Calls.run_bind_ok (run_require watch.id_ne _), run_call (hsound.lockFaults _)]
    refine ⟨_, _, rfl, ?_⟩
    have hstep : Step watch.lockout.maxFailedAttempts watch.lockout.duration (limiterOf watch.id accounts) _ := .succeed hlock
    refine hopen.1.tail ?_
    have hrecorded : (accounts.record fun time => ⟨watch.id, time, true⟩).2.has watch.id = true := hhas
    dsimp only [Accounts.reset]
    rw [setLock_of_has hrecorded]
    simpa [limiterOf, Accounts.record, List.filter_append, hlock] using hstep
  · exact blind_leads (fun _ hopen => hopen.1) (accept_steady (blind_limiterOf hfactor))

/-- A wrong code is counted, and the last one that is allowed locks. -/
theorem reject_leads {counted : Handler Unit} (hsteady : Steady Store.kept (fun _ => True) counted)
    (hcounts : ∀ store, (counted.run store).1 = .ok ()) :
    (watch.lockout.reject env factor counted).Leads watch.Idle (watch.Open factor) fun _ => watch.Idle := by
  by_cases hfactor : factor = some watch.id
  · subst hfactor
    refine .of_run fun accounts hopen => ?_
    obtain ⟨hhas, hlock⟩ := hopen.2 rfl
    have hcompared : (Lockout.compared false (some watch.id)).run accounts =
        (.ok (), (accounts.record fun time => ⟨watch.id, time, false⟩).2) := rfl
    obtain ⟨store, hcounted, hkept⟩ : ∃ store : Store, counted.run accounts.store = (.ok (), store) ∧
        store.kept = accounts.store.kept :=
      ⟨_, Prod.ext (hcounts accounts.store) rfl, (hsteady.run accounts.store).1⟩
    have hnow : store.now = accounts.store.now := congrArg Prod.fst hkept
    let recorded := (accounts.record fun time => ⟨watch.id, time, false⟩).2.withStore store
    let lock : Lock := { failedVerificationCount := (accounts.locks watch.id).failedVerificationCount + 1 }
    have hrecorded : recorded.has watch.id = true := by
      have hsame : recorded.kept = accounts.kept := hkept
      rw [has_of_kept hsame, hhas]
    have hrun : (unguarded counted).run (accounts.record fun time => ⟨watch.id, time, false⟩).2 = (.ok (), recorded) :=
      run_unguarded_ok hcounted
    have hcount : recorded.countFailure watch.id =
        (some lock.failedVerificationCount, { recorded with locks := Function.update recorded.locks watch.id lock }) := by
      have hlocks : { recorded.locks watch.id with
          failedVerificationCount := (recorded.locks watch.id).failedVerificationCount + 1 } = lock := by
        change Lock.mk _ (accounts.locks watch.id).lockedUntil = _
        rw [hlock]
        rfl
      unfold Accounts.countFailure
      dsimp only
      rw [if_pos hrecorded, setLock_of_has hrecorded, hlocks]
      rfl
    have hstep : Step watch.lockout.maxFailedAttempts watch.lockout.duration (limiterOf watch.id accounts) _ := .fail hlock
    unfold Lockout.reject Lockout.recordFailure
    rw [Calls.run_bind_ok hcompared, Calls.run_bind_ok hrun]
    dsimp only
    rw [if_pos watch.enabled, Calls.run_bind_ok (run_require watch.id_ne _),
      Calls.run_bind_ok (run_call (hsound.lockFaults _)), hcount, Option.any_some]
    split
    · next hlimit =>
      rw [run_call (hsound.lockFaults _)]
      refine ⟨_, _, rfl, hopen.1.tail ?_⟩
      dsimp only [Accounts.lock]
      rw [setLock_of_has (by exact hrecorded)]
      simp only [decide_eq_true_eq, lock] at hlimit
      simpa [limiterOf, recorded, lock, Accounts.record, Accounts.withStore, List.filter_append, hlimit, hnow] using hstep
    rename_i hlimit
    refine ⟨_, _, rfl, hopen.1.tail ?_⟩
    simp only [decide_eq_true_eq, lock] at hlimit
    simpa [limiterOf, recorded, lock, Accounts.record, Accounts.withStore, List.filter_append, hlimit, hnow, hlock]
      using hstep
  · have hcounted : Steady (limiterOf watch.id) (fun _ => True) (unguarded counted) :=
      unguarded_view (fun _ _ hseen => limiterOf_of_seen hseen watch.id) hsteady
    exact blind_leads (fun _ hopen => hopen.1) (reject_steady (blind_limiterOf hfactor) hcounted)

end

/-! ### Every kind of attempt -/

theorem refuse_leads (h : ∀ accounts, pre accounts → watch.Idle accounts) :
    (refuse failure : Guarded α).Leads watch.Idle pre fun _ => watch.Idle :=
  Calls.Leads.imp (.checks h) fun _ _ hafter => h _ hafter.2

theorem idle_tail (h : Steady Store.kept post handler) :
    (unguarded handler).Leads watch.Idle watch.Idle fun _ => watch.Idle :=
  (idle_steady (unguarded_view (fun _ _ hseen => limiterOf_of_seen hseen watch.id) h)).imp fun _ _ hafter => hafter.2

theorem open_tail (h : Steady Store.kept post handler) :
    (unguarded handler).Leads watch.Idle (watch.Open factor) fun _ => watch.Open factor :=
  (open_steady (unguarded_view (fun _ _ hseen => hseen) h)).imp fun _ _ hafter => hafter.2

theorem checks_leads (h : ∀ accounts, pre accounts → watch.Idle accounts) :
    (monadLift result : Guarded α).Leads watch.Idle pre fun _ => pre :=
  Calls.Leads.imp (.checks h) fun _ _ hafter => hafter.2

theorem idle_checks : (monadLift result : Guarded α).Leads watch.Idle watch.Idle fun _ => watch.Idle :=
  checks_leads fun _ h => h

theorem found_leads (hsound : env.Sound) (userID : String) (failure : Failure) {next : TwoFactor × Lock → Guarded α}
    {post : α → Accounts → Prop}
    (hnext : ∀ entry, (next entry).Leads watch.Idle (watch.Found entry) post) :
    (env.call .findTwoFactor internalError (Accounts.findTwoFactor userID) >>= fun found =>
      (monadLift (expect found failure) : Guarded (TwoFactor × Lock)) >>= next).Leads watch.Idle
        watch.Idle post := by
  refine .bind (findTwoFactor_leads hsound userID) fun found => .bind (.checks fun _ h => h.1) fun entry => ?_
  rintro accounts ⟨hentry, hidle, hlocks⟩
  exact hnext entry accounts ⟨hidle, hlocks entry (expect_eq_ok_iff.mp hentry)⟩

theorem unlocked_leads (hsound : env.Sound)
    {entry : TwoFactor × Lock} (hfactor : factor = some watch.id → entry.1.id = watch.id) :
    (watch.lockout.assertNotLocked env entry.2 factor).Leads watch.Idle (watch.Found entry)
      fun _ => watch.Open factor := by
  rintro accounts ⟨hidle, hhas, hlock⟩
  refine assertNotLocked_leads hsound entry.2 accounts ⟨hidle, fun hf => ?_⟩
  rw [← hfactor hf]
  exact ⟨hhas, hlock⟩

theorem fails_after {calls : Guarded Unit} (h : calls.Leads watch.Idle pre fun _ => watch.Idle) :
    (calls >>= fun _ => (refuse failure : Guarded α)).Leads watch.Idle pre fun _ => watch.Idle :=
  .bind h fun _ => refuse_leads fun _ hidle => hidle

theorem restored_leads :
    (unguarded (restore env.toEnv attempt)).Leads watch.Idle (watch.Open factor) fun _ => watch.Idle :=
  (open_tail restore_steady).imp fun _ _ hopen => hopen.1

section

variable (hsound : env.Sound)
include hsound

theorem failedGuess_leads :
    (watch.lockout.reject env factor (failedGuess env.toEnv context attempt)).Leads watch.Idle
      (watch.Open factor) fun _ => watch.Idle := by
  refine reject_leads hsound failedGuess_steady fun store => ?_
  unfold failedGuess recordFailure rearm Env.call
  rw [hsound.faults]
  cases attempt <;> rfl

theorem verifyTOTP_leads (plugin : Plugin) (key code : String) (trustDevice : Bool) :
    (watch.lockout.verifyTOTP env plugin key code trustDevice).Leads watch.Idle watch.Idle fun _ => watch.Idle := by
  refine .bind idle_checks fun _ => .bind (idle_tail (verifyTwoFactor_steady _ _)) fun context => ?_
  refine .bind idle_checks fun _ => found_leads hsound context.user.id _ fun ⟨twoFactor, lock⟩ => ?_
  refine .bind (checks_leads fun _ h => h.1) fun _ => ?_
  refine .bind (unlocked_leads hsound (factorOf_eq twoFactor)) fun _ => ?_
  refine .bind (open_tail beginAttempt_steady) fun attempt => ?_
  split
  · exact fails_after restored_leads
  rename_i secret _
  have hnow : Steady Accounts.seen (fun _ => True) (Calls.query fun accounts => .ok accounts.store.now : Guarded Int) :=
    fun _ => ⟨rfl, fun _ _ => trivial⟩
  refine .bind ((open_steady hnow).imp fun _ _ hafter => hafter.2) fun now => ?_
  split
  · exact fails_after restored_leads
  · exact fails_after (failedGuess_leads hsound)
  · refine .bind (accept_leads hsound) fun _ => .bind (idle_tail confirmTOTP_steady) fun _ => ?_
    exact idle_tail (valid_steady _ _ _ _)

theorem replaced_leads (id raw encoded : String) :
    (unguarded (env.toEnv.call .updateTwoFactor internalError (Store.replaceBackupCodes id raw encoded))).Leads
      watch.Idle (watch.Open factor) fun _ => watch.Open factor := by
  refine .of_run fun accounts hopen => ⟨_, _, run_unguarded_ok (run_call (hsound.faults _)), ?_⟩
  unfold Store.replaceBackupCodes
  split
  · exact hopen
  rename_i updated hupdate
  refine ⟨hopen.1, fun hfactor => ⟨?_, (hopen.2 hfactor).2⟩⟩
  have hids : updated.map TwoFactor.id = accounts.store.twoFactors.map TwoFactor.id :=
    table.map_updateFirst hupdate fun _ => rfl
  have hany := congrArg (fun ids => ids.any fun id => id = watch.id) hids
  simp only [List.any_map] at hany
  exact hany.trans (hopen.2 hfactor).1

theorem verifyBackupCode_leads (plugin : Plugin) (key code : String) (disableSession trustDevice : Bool) :
    (watch.lockout.verifyBackupCode env plugin key code disableSession trustDevice).Leads watch.Idle
      watch.Idle fun _ => watch.Idle := by
  refine .bind (idle_tail (verifyTwoFactor_steady _ _)) fun context => .bind idle_checks fun _ => ?_
  refine found_leads hsound context.user.id _ fun ⟨twoFactor, lock⟩ => ?_
  refine .bind (unlocked_leads hsound (factorOf_eq twoFactor)) fun _ => ?_
  refine .bind (open_tail beginAttempt_steady) fun attempt => ?_
  unfold Lockout.redeemBackupCode
  split
  · exact fails_after restored_leads
  split
  · exact fails_after (failedGuess_leads hsound)
  split
  · exact fails_after restored_leads
  refine .bind (replaced_leads hsound _ _ _) fun replaced => .bind (checks_leads fun _ h => h.1) fun _ => ?_
  refine .bind (accept_leads hsound) fun _ => ?_
  split
  · exact .of_run fun accounts hidle => ⟨_, accounts, rfl, hidle⟩
  · exact idle_tail (valid_steady _ _ _ _)

/-- An OTP is taken out of the store before it is compared. -/
theorem verifyTwoFactorOTP_leads (plugin : Plugin) (key code : String) (trustDevice : Bool) :
    (watch.lockout.verifyTwoFactorOTP env plugin key code trustDevice).Leads watch.Idle watch.Idle
      fun _ => watch.Idle := by
  refine .bind (idle_tail (verifyTwoFactor_steady _ _)) fun context => .bind idle_checks fun _ => ?_
  have hfactor : (watch.lockout.signInFactor env context).Leads watch.Idle watch.Idle
      fun factor => watch.Open factor := by
    unfold Lockout.signInFactor
    split
    · exact .of_run fun accounts hidle => ⟨none, accounts, rfl, hidle, fun h => by cases h⟩
    · refine found_leads hsound context.user.id _ fun ⟨twoFactor, lock⟩ => ?_
      refine .bind (unlocked_leads hsound Option.some.inj) fun _ => ?_
      exact .of_run fun accounts hopen => ⟨_, accounts, rfl, hopen⟩
  refine .bind hfactor fun factor => .bind (open_tail (call_steady (kept_consumeVerification _))) fun consumed => ?_
  refine .bind (checks_leads fun _ h => h.1) fun consumed => .bind (checks_leads fun _ h => h.1) fun _ => ?_
  split
  · exact refuse_leads fun _ hopen => hopen.1
  · refine fails_after (reject_leads hsound ?_ fun store => ?_)
    · exact .bind (.access fun _ => rfl) fun _ _ => call_steady fun _ => rfl
    · unfold failedOTP Env.call
      rw [hsound.faults]
      rfl
  refine .bind (accept_leads hsound) fun _ => ?_
  split
  · exact idle_tail (valid_steady _ _ _ _)
  · refine .bind (idle_tail enableUser_steady) fun _ => ?_
    exact .of_run fun accounts hidle => ⟨_, accounts, rfl, hidle⟩

end

theorem handle_leads {request : FactorRequest} (hsound : request.env.Sound) (plugin : Plugin) :
    (request.handle watch.lockout plugin).Leads watch.Idle watch.Idle fun _ => watch.Idle := by
  cases request with
  | totp env key code trustDevice => exact verifyTOTP_leads hsound plugin key code trustDevice
  | otp env key code trustDevice => exact verifyTwoFactorOTP_leads hsound plugin key code trustDevice
  | backupCode env key code disableSession trustDevice =>
    exact verifyBackupCode_leads hsound plugin key code disableSession trustDevice

end

section

variable {lockout : Lockout} {f : String} {accounts : Accounts} {env : LockEnv} {α : Type}

/-! ## After the lock -/

theorem answer_of_check {β : Type} {check : Except Failure β} {next other : β → Guarded α} {later : Accounts}
    (hnext : ∀ value, ((next value).run accounts).1 = ((other value).run later).1) :
    ((monadLift check >>= next : Guarded α).run accounts).1 = ((monadLift check >>= other : Guarded α).run later).1 := by
  cases check with
  | error failure => rfl
  | ok value => exact hnext value

/-- Nothing but the lock is different. -/
theorem answer_of_context {key : String} {call : Guarded Response} {next : VerificationContext → Guarded Response}
    (hcall : call = unguarded (verifyTwoFactor env.toEnv key) >>= fun context =>
      (monadLift (require (context.user.id ≠ "") internalError) : Guarded Unit) >>= fun _ => next context)
    (hnext : ∀ context found, (verifyTwoFactor env.toEnv key).run accounts.store = (.ok context, found) →
      ((next context).run (accounts.withStore found)).1 =
        ((next context).run ((accounts.setLock f {}).withStore found)).1) :
    (call.run accounts).1 = (call.run (accounts.setLock f {})).1 := by
  rw [hcall, Calls.run_bind, Calls.run_bind, run_unguarded, run_unguarded, store_setLock]
  cases hcontext : (verifyTwoFactor env.toEnv key).run accounts.store with
  | mk result found =>
    cases result with
    | error failure => rfl
    | ok context => exact answer_of_check fun _ => hnext context found hcontext

variable {found : Store} {lockedUntil : Int}

/-- The factor is found with its lock, and without it the lock is gone. -/
theorem answer_of_found {β : Type} (see : Except Failure α × Accounts → β) (hsound : env.Sound)
    (hkept : found.kept = accounts.store.kept) {userID : String} (hid : found.factorID userID = some f)
    {failure : Failure} {call : Guarded α} {next : TwoFactor × Lock → Guarded α}
    (hcall : call = env.call .findTwoFactor internalError (Accounts.findTwoFactor userID) >>= fun found =>
      (monadLift (expect found failure) : Guarded (TwoFactor × Lock)) >>= next)
    (hnext : ∀ twoFactor, twoFactor.id = f → accounts.has f = true →
      see ((next (twoFactor, accounts.locks f)).run (accounts.withStore found)) =
        see ((next (twoFactor, {})).run ((accounts.setLock f {}).withStore found))) :
    see (call.run (accounts.withStore found)) = see (call.run ((accounts.setLock f {}).withStore found)) := by
  obtain ⟨twoFactor, hfound, hf⟩ := Option.map_eq_some_iff.mp hid
  have hhas : accounts.has f = true := by
    rw [← has_of_kept (show (accounts.withStore found).kept = accounts.kept from hkept)]
    exact List.any_eq_true.mpr ⟨twoFactor, List.mem_of_find?_eq_some hfound, by simpa using hf⟩
  have hfind : ∀ other : Accounts, (env.call .findTwoFactor internalError (Accounts.findTwoFactor userID)).run
      (other.withStore found) = (.ok (some (twoFactor, other.locks f)), other.withStore found) := by
    intro other
    rw [run_call (hsound.faults _)]
    have hentry : ((other.withStore found).findTwoFactor userID).1 = some (twoFactor, other.locks f) := by
      unfold Accounts.findTwoFactor Accounts.withStore
      rw [hfound, Option.map_some, hf]
    exact congrArg (fun entry => (Except.ok entry, other.withStore found)) hentry
  have hexpect : ∀ (entry : TwoFactor × Lock) (other : Accounts),
      (monadLift (expect (some entry) failure) : Guarded (TwoFactor × Lock)).run other = (.ok entry, other) :=
    fun _ _ => rfl
  have hlock : (accounts.setLock f {}).locks f = {} := by
    rw [setLock_of_has hhas]
    exact Function.update_self f _ _
  rw [hcall, Calls.run_bind_ok (hfind _), Calls.run_bind_ok (hexpect _ _), Calls.run_bind_ok (hfind _),
    Calls.run_bind_ok (hexpect _ _), hlock]
  exact hnext twoFactor hf hhas

/-- The lock is taken away, so from then on nothing is different. -/
theorem answer_of_unlocked (henabled : lockout.accountLockoutEnabled = true) (hsound : env.Sound) (hf : f ≠ "")
    (hlocked : (accounts.locks f).lockedUntil = some lockedUntil)
    (hpassed : lockedUntil ≤ accounts.store.now) (hkept : found.kept = accounts.store.kept)
    (hhas : accounts.has f = true) {next : Unit → Guarded α} :
    (lockout.assertNotLocked env (accounts.locks f) (some f) >>= next).run (accounts.withStore found) =
      (lockout.assertNotLocked env {} (some f) >>= next).run ((accounts.setLock f {}).withStore found) := by
  have hnow : lockedUntil ≤ (accounts.withStore found).store.now :=
    hpassed.trans_eq (congrArg Prod.fst hkept).symm
  have hlocks : ((accounts.withStore found).locks f).lockedUntil = some lockedUntil := hlocked
  have hfound : (accounts.withStore found).has f = true := by
    rw [has_of_kept (show (accounts.withStore found).kept = accounts.kept from hkept), hhas]
  have hsame : (accounts.withStore found).setLock f {} = (accounts.setLock f {}).withStore found := by
    rw [setLock_of_has hhas, setLock_of_has hfound]
    rfl
  have hfirst : (lockout.assertNotLocked env (accounts.locks f) (some f)).run (accounts.withStore found) =
      (.ok (), (accounts.setLock f {}).withStore found) := by
    have hrun : (lockout.assertNotLocked env ((accounts.withStore found).locks f) (some f)).run _ = _ :=
      run_assertNotLocked henabled hsound hf
    rw [hlocks, Option.elim_some, if_pos hnow, hsame] at hrun
    exact hrun
  have hsecond : (lockout.assertNotLocked env {} (some f)).run ((accounts.setLock f {}).withStore found) =
      (.ok (), (accounts.setLock f {}).withStore found) := by
    unfold Lockout.assertNotLocked
    rw [henabled]
    rfl
  rw [Calls.run_bind_ok hfirst, Calls.run_bind_ok hsecond]

theorem answer_after_lock (henabled : lockout.accountLockoutEnabled = true) (hf : f ≠ "") (plugin : Plugin)
    {request : FactorRequest} (hsound : request.env.Sound) (hsigns : request.SignsIn f accounts)
    (hlocked : (accounts.locks f).lockedUntil = some lockedUntil) (hpassed : lockedUntil ≤ accounts.store.now) :
    ((request.handle lockout plugin).run accounts).1 =
      ((request.handle lockout plugin).run (accounts.setLock f {})).1 := by
  have hchallenge : ∀ {context found}, (verifyTwoFactor request.env.toEnv request.challengeKey).run accounts.store =
      (.ok context, found) → context.challenge.isSome = true ∧ found.kept = accounts.store.kept := by
    intro context found hcontext
    obtain ⟨hkept, hpost⟩ := (verifyTwoFactor_steady request.env.toEnv request.challengeKey).run accounts.store
    rw [hcontext] at hkept hpost
    exact ⟨(hpost context rfl).mp hsigns.session, hkept⟩
  cases request with
  | totp env key code trustDevice =>
    refine answer_of_check fun _ => answer_of_context rfl fun context found hcontext => ?_
    obtain ⟨hsome, hkept⟩ := hchallenge hcontext
    refine answer_of_found Prod.fst hsound hkept (hsigns.factor context found hcontext) rfl fun twoFactor hid hhas => ?_
    dsimp only
    refine answer_of_check fun _ => ?_
    rw [show Lockout.factorOf context twoFactor = some f by rw [Lockout.factorOf, if_pos hsome, hid]]
    exact congrArg Prod.fst (answer_of_unlocked henabled hsound hf hlocked hpassed hkept hhas)
  | otp env key code trustDevice =>
    refine answer_of_context rfl fun context found hcontext => ?_
    obtain ⟨hsome, hkept⟩ := hchallenge hcontext
    obtain ⟨challenge, hsome⟩ := Option.isSome_iff_exists.mp hsome
    have hfactor : (lockout.signInFactor env context).run (accounts.withStore found) =
        (lockout.signInFactor env context).run ((accounts.setLock f {}).withStore found) := by
      unfold Lockout.signInFactor
      rw [hsome]
      refine answer_of_found id hsound hkept (hsigns.factor context found hcontext) rfl fun twoFactor hid hhas => ?_
      dsimp only
      rw [hid]
      exact answer_of_unlocked henabled hsound hf hlocked hpassed hkept hhas
    rw [Calls.run_bind, Calls.run_bind, hfactor]
  | backupCode env key code disableSession trustDevice =>
    refine answer_of_context rfl fun context found hcontext => ?_
    obtain ⟨hsome, hkept⟩ := hchallenge hcontext
    refine answer_of_found Prod.fst hsound hkept (hsigns.factor context found hcontext) rfl fun twoFactor hid hhas => ?_
    have hfactor : Lockout.factorOf context twoFactor = some f := by rw [Lockout.factorOf, if_pos hsome, hid]
    dsimp only
    rw [hfactor]
    exact congrArg Prod.fst (answer_of_unlocked henabled hsound hf hlocked hpassed hkept hhas)

end

/-! ## Histories -/

/-- What the lockout achieves for a factor. -/
structure Limits (lockout : Lockout) (plugin : Plugin) (f : String) (accounts : Accounts) : Prop where
  bounded : limiter.Bounded lockout.maxFailedAttempts lockout.duration (limiterOf f accounts).guesses
  again : ∀ (request : FactorRequest) (lockedUntil : Int), request.env.Sound → request.SignsIn f accounts →
    (accounts.locks f).lockedUntil = some lockedUntil → lockedUntil ≤ accounts.store.now →
      ((request.handle lockout plugin).run accounts).1 = ((request.handle lockout plugin).run (accounts.setLock f {})).1

/-- In every history of attempts the wrong codes are bounded in every time that
is shorter than a lock, and a lock that has passed is as good as none. -/
theorem lockout_bounds_guessing {lockout : Lockout} {plugin : Plugin} {f : String} {start accounts : Accounts}
    (henabled : lockout.accountLockoutEnabled = true) (hf : f ≠ "") (hcompared : start.compared = [])
    (hcount : 0 ≤ (start.locks f).failedVerificationCount)
    (hreached : Reached (Moment.step lockout plugin) (fun accounts moment => moment.Allowed accounts) start accounts) :
    Limits lockout plugin f accounts := by
  have hstart : Watched lockout.maxFailedAttempts lockout.duration (limiterOf f start) := by
    unfold limiterOf
    rw [hcompared]
    exact watched_init lockout.maxFailedAttempts_pos hcount _
  let watch : Watch := ⟨lockout, f, start, henabled, hf⟩
  have hidle : watch.Idle accounts := by
    refine hreached.invariant watch.Idle .refl ?_
    rintro accounts (request | store) hidle hallowed
    · exact (handle_leads hallowed plugin).after hidle
    · exact hidle.tail (.wait hallowed)
  have hwatched := hstart.steps lockout.maxFailedAttempts_pos hidle
  exact ⟨hwatched.bounded, fun request lockedUntil hsound hsigns hlocked hpassed =>
    answer_after_lock henabled hf plugin hsound hsigns hlocked hpassed⟩

/-! ## A lock -/

def strictLockout : Lockout :=
  { defaultLockout with maxFailedAttempts := 1, maxFailedAttempts_pos := le_rfl }

def wrongCode : Moment := .attempt (.backupCode {} aliceKey "no" false false)

/-- Two wrong codes, of which the second meets the lock. -/
def lockedOut : Accounts := [wrongCode, wrongCode].foldl (Moment.step strictLockout dottedCodes) aliceAccounts

theorem lockout_bounds_guessing_alice :
    lockedOut.compared = [⟨"1", 0, false⟩] ∧ Limits strictLockout dottedCodes "1" lockedOut := by
  have hallowed : ∀ moment ∈ [wrongCode, wrongCode], ∀ accounts : Accounts, moment.Allowed accounts := by
    intro moment hmoment accounts
    obtain rfl : moment = wrongCode := by simpa using hmoment
    exact ⟨fun _ => rfl, fun _ => rfl⟩
  exact ⟨by decide, lockout_bounds_guessing rfl (by decide) rfl (by decide) (Reached.start.foldl hallowed)⟩

end singleauth.twofactor
