import SingleAuth.Plugins.TwoFactor.Attempts
import SingleAuth.Plugins.TwoFactor.CodeUse

open fallible program process transition
open singleauth.contract (Failure)

namespace singleauth.twofactor

/-- Each factor has its own id. -/
structure Store.Proper (store : Store) : Prop where
  ids : (store.twoFactors.map TwoFactor.id).Nodup
  ids_ne : "" ∉ store.twoFactors.map TwoFactor.id

theorem Store.Proper.of_ids {store other : Store} (h : store.Proper)
    (hids : other.twoFactors.map TwoFactor.id = store.twoFactors.map TwoFactor.id) : other.Proper :=
  ⟨hids ▸ h.ids, hids ▸ h.ids_ne⟩

/-! ## A request of its own -/

section

variable {env : LockEnv} {store : Store} {accounts : Accounts} {α : Type}

theorem run_call {σ : Type} {shared : σ} {access : σ → α × σ} {fault : Fault} {failure : Failure} (h : fault = .none) :
    (fault.call failure access).run shared = (.ok (access shared).1, (access shared).2) := by
  rw [h]
  rfl

theorem run_unguarded (handler : Handler α) :
    (unguarded handler).run accounts =
      ((handler.run accounts.store).1, accounts.withStore (handler.run accounts.store).2) :=
  Calls.run_within Accounts.store Accounts.withStore (fun _ _ => rfl) (fun _ _ _ => rfl) (fun _ => rfl) handler accounts

theorem run_unguarded_ok {handler : Handler α} {value : α} {after : Store}
    (h : handler.run accounts.store = (.ok value, after)) :
    (unguarded handler).run accounts = (.ok value, accounts.withStore after) := by
  rw [run_unguarded, h]

theorem run_require {condition : Prop} [Decidable condition] (h : condition) (failure : Failure) :
    (monadLift (require condition failure) : Guarded Unit).run accounts = (.ok (), accounts) := by
  rw [Calls.run_lift, require_eq_ok_iff.mpr h]

theorem run_accept (lockout : Lockout) (hsound : env.Sound) {factor : Option String}
    (hfactor : ∀ id, factor = some id → id ≠ "") :
    ∃ after, (lockout.accept env factor).run accounts = (.ok (), after) ∧ after.store = accounts.store := by
  cases factor with
  | none => exact ⟨accounts, rfl, rfl⟩
  | some id =>
    have hcompared : (Lockout.compared true (some id)).run accounts =
        (.ok (), (accounts.record fun time => ⟨id, time, true⟩).2) := rfl
    unfold Lockout.accept
    rw [Calls.run_bind_ok hcompared]
    unfold Lockout.resetFailures
    dsimp only
    split
    · rw [Calls.run_bind_ok (run_require (hfactor id rfl) _)]
      exact ⟨_, run_call (hsound.lockFaults _), store_setLock _ _ _⟩
    · exact ⟨_, rfl, rfl⟩

variable {twoFactor : TwoFactor}

/-- With nobody else at the factor the codes that were read are replaced. -/
theorem run_replaceBackupCodes {plugin : Plugin} {userID encoded code : String} {codes : List String}
    (hids : (store.twoFactors.map TwoFactor.id).Nodup) (hfound : (store.findTwoFactor userID).1 = some twoFactor)
    (hcodes : plugin.decodeBackupCodes twoFactor.backupCodes = some codes) (hcode : code ∈ codes)
    (hencoded : plugin.decodeBackupCodes encoded = some (codes.filter fun candidate => candidate ≠ code)) :
    ∃ twoFactors, store.replaceBackupCodes twoFactor.id twoFactor.backupCodes encoded =
        (true, { store with twoFactors }) ∧
      plugin.codesOf userID { store with twoFactors } =
        (plugin.codesOf userID store).filter fun candidate => candidate ≠ code := by
  have hid : store.factorID userID = some twoFactor.id := by rw [Store.factorID, hfound, Option.map_some]
  obtain ⟨updated, hupdate, -⟩ := table.exists_change_mem_updateFirst
    (fun other => other.id = twoFactor.id && other.backupCodes = twoFactor.backupCodes)
    (fun other => { other with backupCodes := encoded }) (List.mem_of_find?_eq_some hfound) (by simp)
  have hreplace : store.replaceBackupCodes twoFactor.id twoFactor.backupCodes encoded =
      (true, { store with twoFactors := updated }) := by
    unfold Store.replaceBackupCodes
    rw [hupdate]
  have hspend := Owned.init.spend hids hid hcodes hcode hencoded
  rw [hreplace] at hspend
  exact ⟨updated, hreplace, (hspend.codes userID).trans (by simp)⟩

variable {lockout : Lockout} {plugin : Plugin} {presented : Presented} {userID : String}

/-- Everything but the code lets the request through: it gets as far as the
codes of the user, and nothing is in the way of its response. -/
structure Presented.Passes (lockout : Lockout) (plugin : Plugin) (userID : String) (presented : Presented)
    (accounts : Accounts) : Prop where
  sound : presented.env.Sound
  encrypts : ∀ text, (presented.encryptSecret text).isSome = true
  redeems : ∃ context twoFactor attempt begun, context.user.id = userID ∧
    (begun.store.findTwoFactor userID).1 = some twoFactor ∧ begun.kept = accounts.kept ∧
    ((BackupRequest.verify presented).handle lockout plugin).run accounts =
      (lockout.redeemBackupCode presented.env (presented.encrypting plugin) presented.code presented.disableSession
        presented.trustDevice context twoFactor attempt).run begun ∧
    ∀ twoFactors, ∃ response after, (valid (presented.encrypting plugin) presented.env.toEnv context
      presented.trustDevice).run { begun.store with twoFactors } = (.ok response, after)

/-- In a session nothing but the code is in the way. -/
theorem Presented.passes_of_session (hsound : presented.env.Sound)
    (hencrypts : ∀ text, (presented.encryptSecret text).isSome = true) (session : SessionState)
    (hsession : presented.env.session = some session) (huser : session.user.id ≠ "")
    (hfound : (accounts.store.findTwoFactor session.user.id).1 = some twoFactor) :
    presented.Passes lockout plugin session.user.id accounts := by
  let context : VerificationContext := ⟨session.user, some session, session.user.id ++ "!" ++ session.id, none⟩
  have hcontext : (unguarded (verifyTwoFactor presented.env.toEnv presented.challengeKey)).run accounts =
      (.ok context, accounts) := by
    refine run_unguarded_ok ?_
    unfold verifyTwoFactor
    rw [hsession]
    dsimp only
    rw [require, if_pos huser]
    rfl
  have hfactor : (presented.env.call .findTwoFactor internalError (Accounts.findTwoFactor session.user.id)).run accounts =
      (.ok (some (twoFactor, accounts.locks twoFactor.id)), accounts) := by
    rw [run_call (hsound.faults _)]
    exact congrArg (fun found => (Except.ok (Option.map (fun row => (row, accounts.locks row.id)) found), accounts)) hfound
  refine ⟨hsound, hencrypts, context, twoFactor, none, accounts, rfl, hfound, rfl, ?_, fun _ => ⟨_, _, rfl⟩⟩
  unfold BackupRequest.handle Lockout.verifyBackupCode
  dsimp only
  rw [Calls.run_bind_ok hcontext, Calls.run_bind_ok (run_require huser _), Calls.run_bind_ok hfactor]
  rfl

theorem exists_of_mem_codesOf {code : String} (h : code ∈ plugin.codesOf userID store)
    (hfound : (store.findTwoFactor userID).1 = some twoFactor) :
    ∃ codes, plugin.decodeBackupCodes twoFactor.backupCodes = some codes ∧ code ∈ codes := by
  unfold Plugin.codesOf at h
  rw [hfound, Option.bind_some] at h
  cases hcodes : plugin.decodeBackupCodes twoFactor.backupCodes with
  | none => simp [hcodes] at h
  | some codes => exact ⟨codes, rfl, by simpa [hcodes] using h⟩

/-- A code that is stored is accepted, and then only this code is gone. -/
theorem run_verifyBackupCode (hproper : accounts.store.Proper) (hbuiltIn : plugin.BuiltIn)
    (hgenuine : presented.Genuine plugin) (hpasses : presented.Passes lockout plugin userID accounts)
    (hcode : presented.code ∈ plugin.codesOf userID accounts.store) :
    ∃ response after, ((BackupRequest.verify presented).handle lockout plugin).run accounts = (.ok response, after) ∧
      response.userID = some userID ∧
      plugin.codesOf userID after.store =
        (plugin.codesOf userID accounts.store).filter fun candidate => candidate ≠ presented.code := by
  obtain ⟨context, twoFactor, attempt, begun, rfl, hfound, hkept, hrun, hvalid⟩ := hpasses.redeems
  have hcodesOf : plugin.codesOf context.user.id accounts.store = plugin.codesOf context.user.id begun.store := by
    rw [codesOf_eq, codesOf_eq, show begun.store.kept = accounts.store.kept from hkept]
  have hbegun : begun.store.Proper := by
    refine hproper.of_ids ?_
    have hids := congrArg (fun kept => kept.2.map Prod.fst) hkept
    simp only [Accounts.kept, Store.kept, List.map_map] at hids
    exact hids
  rw [hcodesOf] at hcode ⊢
  rw [hrun]
  obtain ⟨codes, hcodes, hmem⟩ := exists_of_mem_codesOf hcode hfound
  obtain ⟨encoded, hencoded⟩ : ∃ encoded, (presented.encrypting plugin).encodeBackupCodes
        (codes.filter fun candidate => candidate ≠ presented.code) = some encoded := by
    unfold Plugin.encodeBackupCodes Presented.encrypting
    dsimp only
    rw [hbuiltIn.encrypt]
    split
    · next h => cases h
    · exact Option.isSome_iff_exists.mp (hpasses.encrypts _)
    · exact ⟨_, rfl⟩
  obtain ⟨twoFactors, hreplace, hleft⟩ := run_replaceBackupCodes hbegun.ids hfound hcodes hmem
    (decode_of_encode hbuiltIn hgenuine hencoded)
  have hcall : (unguarded (presented.env.toEnv.call .updateTwoFactor internalError
      (Store.replaceBackupCodes twoFactor.id twoFactor.backupCodes encoded))).run begun =
        (.ok true, begun.withStore { begun.store with twoFactors }) := by
    refine run_unguarded_ok ?_
    rw [run_call (hpasses.sound.faults _), hreplace]
  have hid : twoFactor.id ≠ "" := fun hempty =>
    hbegun.ids_ne (hempty ▸ List.mem_map_of_mem (List.mem_of_find?_eq_some hfound))
  obtain ⟨after, haccept, hstore⟩ : ∃ after, (lockout.accept presented.env (Lockout.factorOf context twoFactor)).run
      (begun.withStore { begun.store with twoFactors }) = (.ok (), after) ∧
        after.store = { begun.store with twoFactors } :=
          run_accept lockout hpasses.sound fun id hfactor => factorOf_eq twoFactor hfactor ▸ hid
  have hdecode : (presented.encrypting plugin).decodeBackupCodes twoFactor.backupCodes = some codes := hcodes
  unfold Lockout.redeemBackupCode
  rw [hdecode]
  dsimp only [removeBackupCode]
  rw [List.contains_iff_mem.mpr hmem]
  dsimp only
  rw [hencoded]
  rw [Calls.run_bind_ok hcall, Calls.run_bind_ok (run_require rfl _), Calls.run_bind_ok haccept]
  split
  · exact ⟨_, _, rfl, rfl, hstore ▸ hleft⟩
  obtain ⟨response, final, hissued⟩ := hvalid twoFactors
  rw [← hstore] at hissued
  obtain ⟨hsame, huser⟩ := (valid_steady (presented.encrypting plugin) presented.env.toEnv context
    presented.trustDevice).run after.store
  rw [hissued] at hsame huser
  refine ⟨response, after.withStore final, run_unguarded_ok hissued, huser response rfl, hleft ▸ ?_⟩
  have hsame : (after.withStore final).store.kept = after.store.kept := hsame
  rw [codesOf_eq, codesOf_eq, ← hstore, hsame]

end

/-! ## Runs -/

abbrev Redemptions : Type := System Accounts (Thread BackupRequest Accounts Failure Response)

/-- The request has succeeded with the code, for the user. -/
def accepts (userID code : String) (thread : Thread BackupRequest Accounts Failure Response) : Bool :=
  match thread.request, thread.answer with
  | .verify presented, some (.ok response) => presented.code = code && response.userID = some userID
  | _, _ => false

/-- Only requests that a client can make are made. -/
def GenuineTurn (plugin : Plugin) : Turn BackupRequest → Prop
  | .start (.verify presented) => presented.Genuine plugin
  | _ => True

/-- What holds of the codes of a user in the middle of requests: each code is good for one success and is gone then;
a code is gone only with the request that has taken it out, which is still under way, has succeeded, or has failed
as a request may that has taken its code; and every code that is there is accepted from a request that nothing else
is in the way of, which takes out this code only. -/
structure SingleUse (lockout : Lockout) (plugin : Plugin) (userID : String) (start : Store) (system : Redemptions) : Prop where
  once : ∀ code, system.threads.countP (accepts userID code) ≤ 1
  gone : ∀ thread ∈ system.threads, ∀ code, accepts userID code thread = true →
    code ∈ plugin.codesOf userID start ∧ code ∉ plugin.codesOf userID system.shared.store
  kept : plugin.codesOf userID system.shared.store =
    (plugin.codesOf userID start).filter fun code => code ∈ plugin.codesOf userID system.shared.store
  taken : ∀ code ∈ plugin.codesOf userID start, code ∉ plugin.codesOf userID system.shared.store →
    ∃ thread ∈ system.threads, ∃ presented, thread.request = .verify presented ∧ presented.code = code ∧
      (thread.answer = none ∨ accepts userID code thread = true ∨
        ∃ failure, thread.answer = some (.error failure) ∧ presented.Loses failure)
  accepted : ∀ presented : Presented, presented.Genuine plugin → presented.Passes lockout plugin userID system.shared →
    presented.code ∈ plugin.codesOf userID system.shared.store →
      ∃ response after, ((BackupRequest.verify presented).handle lockout plugin).run system.shared =
          (.ok response, after) ∧
        response.userID = some userID ∧
        plugin.codesOf userID after.store =
          (plugin.codesOf userID system.shared.store).filter fun candidate => candidate ≠ presented.code

section

variable {lockout : Lockout} {plugin : Plugin} {userID : String} {start : Accounts} {system : Redemptions}

/-- What a request owns at any time. -/
def BackupRequest.Always : BackupRequest → Multiset (String × String) → Prop
  | .verify presented, own => ∀ entry ∈ own, entry.2 = presented.code
  | .wait _, own => own = 0

def BackupRequest.Post : BackupRequest → Response → Multiset (String × String) → Prop
  | .verify presented, response, own => ∃ userID, response.userID = some userID ∧ own = {(userID, presented.code)}
  | .wait _, _, _ => True

def BackupRequest.Lost : BackupRequest → Failure → Multiset (String × String) → Prop
  | .verify presented, failure, own => own ≠ 0 → presented.Loses failure
  | .wait _, _, _ => True

theorem handle_owns (hproper : start.store.Proper) (hbuiltIn : plugin.BuiltIn) {request : BackupRequest}
    (hgenuine : GenuineTurn plugin (.start request)) :
    Owns (fun accounts => Owned plugin start.store accounts.store) request.Always request.Post request.Lost 0
      (request.handle lockout plugin) := by
  cases request with
  | verify presented => exact verifyBackupCode_guards lockout hproper.ids hproper.ids_ne hbuiltIn hgenuine
  | wait time =>
    refine ⟨rfl, fun accounts frame howned => ⟨0, ?_, Owns.pure rfl trivial⟩⟩
    exact ⟨howned.owners, howned.codes, howned.once, howned.stored⟩

variable {own : Multiset (String × String)} {thread : Thread BackupRequest Accounts Failure Response} {code : String}
  (howns : Owns (fun accounts => Owned plugin start.store accounts.store) thread.request.Always thread.request.Post
    thread.request.Lost own thread.calls)

include howns in
theorem mem_of_accepts (haccepts : accepts userID code thread = true) : (userID, code) ∈ own := by
  obtain ⟨request, calls⟩ := thread
  unfold accepts at haccepts
  split at haccepts
  · next presented response hrequest hanswer =>
    subst hrequest
    cases calls with
    | call effect next => cases hanswer
    | done result =>
      cases hanswer
      obtain ⟨hcode, huser⟩ : presented.code = code ∧ response.userID = some userID := by simpa using haccepts
      obtain ⟨someone, hsomeone, rfl⟩ := howns.2.1 response rfl
      cases hsomeone.symm.trans huser
      exact hcode ▸ Multiset.mem_singleton_self _
  · cases haccepts

include howns in
/-- How far the request has come that has taken the code out. -/
theorem taker_of_mem (hmem : (userID, code) ∈ own) :
    ∃ presented, thread.request = .verify presented ∧ presented.code = code ∧
      (thread.answer = none ∨ accepts userID code thread = true ∨
        ∃ failure, thread.answer = some (.error failure) ∧ presented.Loses failure) := by
  obtain ⟨request, calls⟩ := thread
  have halways := howns.always_own
  cases request with
  | wait time =>
    rw [show own = 0 from halways] at hmem
    simp at hmem
  | verify presented =>
    have hcode : presented.code = code := (halways _ hmem).symm
    refine ⟨presented, rfl, hcode, ?_⟩
    match calls with
    | .call effect next => exact .inl rfl
    | .done (.error failure) =>
      refine .inr (.inr ⟨failure, rfl, howns.2.2 failure rfl ?_⟩)
      rintro rfl
      simp at hmem
    | .done (.ok response) =>
      obtain ⟨someone, hsomeone, rfl⟩ := howns.2.1 response rfl
      obtain rfl : userID = someone := (Prod.mk.inj (Multiset.mem_singleton.mp hmem)).1
      refine .inr (.inl ?_)
      change (decide (presented.code = code) && decide (response.userID = some userID)) = true
      rw [hsomeone]
      simp [hcode]

theorem mem_sum_iff {β : Type} {owned : List (Multiset (String × String) × β)} {entry : String × String} :
    entry ∈ (owned.map Prod.fst).sum ↔ ∃ share ∈ owned, entry ∈ share.1 := by
  induction owned with
  | nil => simp
  | cons own rest ih => rw [List.map_cons, List.sum_cons, Multiset.mem_add, ih, List.exists_mem_cons_iff]

end

/-! ## Two requests with one code -/

/-- Each character after a dot, and a semicolon after each code. -/
def dotted (codes : List String) : String :=
  String.ofList (codes.flatMap fun code => code.toList.flatMap (fun c => ['.', c]) ++ [';'])

def readDotted (current : List Char) : List Char → Option (List String)
  | [] => some []
  | ';' :: rest => (readDotted [] rest).map (String.ofList current :: ·)
  | _ :: c :: rest => readDotted (current ++ [c]) rest
  | [_] => none

theorem readDotted_code (code current rest : List Char) :
    readDotted current (code.flatMap (fun c => ['.', c]) ++ ';' :: rest) =
      (readDotted [] rest).map (String.ofList (current ++ code) :: ·) := by
  induction code generalizing current with
  | nil => simp [readDotted]
  | cons c code ih =>
    have hnext := ih (current ++ [c])
    simpa [readDotted] using hnext

theorem readDotted_dotted (codes : List String) : readDotted [] (dotted codes).toList = some codes := by
  unfold dotted
  rw [String.toList_ofList]
  induction codes with
  | nil => rfl
  | cons code codes ih =>
    rw [List.flatMap_cons, List.append_assoc, List.singleton_append, readDotted_code, ih]
    simp

/-- Codes are encrypted, by an encryption that does nothing. -/
def dottedCodes : Plugin :=
  { plainOnce with
    allowedAttempts := defaultAllowedAttempts
    marshalCodes := dotted
    unmarshalCodes := fun text => readDotted [] text.toList
    allowedAttempts_pos := by decide
    allowedAttempts_fits := by decide }

theorem dottedCodes_builtIn : dottedCodes.BuiltIn := ⟨rfl, readDotted_dotted⟩

def aliceKey : String := aliceChallenge.key

/-- A user with two codes who has signed in once. -/
def aliceAccounts : Accounts :=
  aliceAccount.withStore
    { aliceStore with
      verifications := [⟨aliceKey, "alice", 600, 0, none⟩, ⟨attemptsIdentifier aliceKey, "0", 600, 0, none⟩]
      twoFactors := [⟨"1", "alice", "secret", dotted ["a-1", "b-2"], some true⟩] }

theorem aliceAccounts_proper : aliceAccounts.store.Proper := ⟨by decide, by decide⟩

def withChallenge : Presented := { challengeKey := aliceKey, code := "a-1" }

def inSession (code : String) : Presented := { env := { session := some ⟨⟨"alice", true⟩, "s", "t"⟩ }, code }

theorem dottedCodes_genuine {presented : Presented} (h : presented.encryptSecret = some) :
    presented.Genuine dottedCodes := by
  intro text encrypted hencrypted
  rw [h] at hencrypted
  exact congrArg some (Option.some.inj hencrypted).symm

/-- Both requests read the codes before one of them replaces them. -/
def codeRace : List (Turn BackupRequest) :=
  [.start (.verify withChallenge), .start (.verify (inSession "a-1"))] ++ List.replicate 4 (.step 0) ++
    [.step 1, .step 0] ++ List.replicate 4 (.step 0) ++ [.step 1]

def afterCodes (turns : List (Turn BackupRequest)) : Redemptions :=
  turns.foldl (advance (BackupRequest.handle defaultLockout dottedCodes)) ⟨aliceAccounts, []⟩

theorem codeRace_genuine : ∀ turn ∈ codeRace, ∀ _ : Redemptions, GenuineTurn dottedCodes turn := by
  intro turn hturn _
  simp only [codeRace, List.cons_append, List.nil_append, List.mem_cons, List.mem_append, List.mem_replicate,
    List.not_mem_nil, or_false] at hturn
  rcases hturn with rfl | rfl | ((⟨-, rfl⟩ | rfl | rfl) | ⟨-, rfl⟩) | rfl
  · exact dottedCodes_genuine rfl
  · exact dottedCodes_genuine rfl
  all_goals trivial

/-- The challenge expires after its request has taken the code out; then the other code is presented in a session. -/
def codeLoss : List (Turn BackupRequest) :=
  .start (.verify withChallenge) :: List.replicate 5 (.step 0) ++ [.start (.wait 601), .step 1] ++
    List.replicate 3 (.step 0) ++ [.start (.verify (inSession "b-2")), .step 2, .step 2]

end singleauth.twofactor
