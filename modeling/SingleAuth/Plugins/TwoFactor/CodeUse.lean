import SingleAuth.Lib.Resource
import SingleAuth.Plugins.TwoFactor.Lockout

open fallible program
open singleauth.contract (Failure)

namespace singleauth.twofactor

/-! ## Requests -/

def Response.userID : Response → Option String
  | .signedIn userID | .verified _ userID | .accepted userID | .enabled userID => some userID
  | .sent => none

structure Presented where
  env : LockEnv := {}
  challengeKey : String := ""
  code : String
  disableSession : Bool := false
  trustDevice : Bool := false
  /-- The encryption with the random bytes that the request draws. -/
  encryptSecret : String → Option String := some

/-- The plugin with the encryption of the request. -/
def Presented.encrypting (presented : Presented) (plugin : Plugin) : Plugin :=
  { plugin with encryptSecret := presented.encryptSecret }

/-- What is encrypted can be decrypted. -/
def Presented.Genuine (plugin : Plugin) (presented : Presented) : Prop :=
  ∀ text encrypted, presented.encryptSecret text = some encrypted → plugin.decryptSecret encrypted = some text

/-- No call fails. -/
structure LockEnv.Sound (env : LockEnv) : Prop where
  faults : ∀ site, env.faults site = .none
  lockFaults : ∀ site, env.lockFaults site = .none

/-- How a request may fail that has taken its code out of the list: unless one of its calls fails or it
can draw no random number, only a sign-in that asks for a session, whose challenge is not there any more. -/
def Presented.Loses (presented : Presented) (failure : Failure) : Prop :=
  presented.env.Sound → (presented.trustDevice = true → presented.env.random.isSome = true) →
    presented.env.session = none ∧ presented.disableSession = false ∧ failure = invalidCookie

/-- A backup code is presented, or time passes. -/
inductive BackupRequest where
  | verify (presented : Presented)
  | wait (time : Nat)

def BackupRequest.handle (lockout : Lockout) (plugin : Plugin) : BackupRequest → Guarded Response
  | .verify presented =>
    lockout.verifyBackupCode presented.env (presented.encrypting plugin)
      presented.challengeKey presented.code presented.disableSession presented.trustDevice
  | .wait time => do
    Calls.update fun accounts => .ok ((), accounts.withStore { accounts.store with now := accounts.store.now + time })
    return .sent

/-- Codes are stored in plain text or encrypted, and not by functions of the
host. -/
structure Plugin.BuiltIn (plugin : Plugin) : Prop where
  encrypt : plugin.backupStorage.encrypt = none
  marshal : ∀ codes, plugin.unmarshalCodes (plugin.marshalCodes codes) = some codes

def Plugin.codesOf (plugin : Plugin) (userID : String) (store : Store) : List String :=
  ((store.findTwoFactor userID).1.bind fun twoFactor => plugin.decodeBackupCodes twoFactor.backupCodes).getD []

theorem Plugin.BuiltIn.decrypt {plugin : Plugin} (h : plugin.BuiltIn) : plugin.backupStorage.decrypt = none := by
  have hnormal := plugin.backupStorage_eq
  cases hdecrypt : plugin.backupStorage.decrypt with
  | none => rfl
  | some decrypt =>
    exfalso
    unfold normalizeOTPStorage at hnormal
    simp only [h.encrypt, hdecrypt, Option.isNone_some, Bool.and_false, Bool.false_eq_true, if_false,
      Option.isSome_some, Bool.or_true, if_true, Option.isNone_none, Bool.true_or] at hnormal
    split at hnormal <;> simp_all

variable {codes : List String} {encoded : String}

/-- What is stored is read back. -/
theorem decode_of_encode {plugin : Plugin} (hbuiltIn : plugin.BuiltIn) {presented : Presented}
    (hgenuine : presented.Genuine plugin)
    (h : (presented.encrypting plugin).encodeBackupCodes codes = some encoded) :
    plugin.decodeBackupCodes encoded = some codes := by
  unfold Plugin.encodeBackupCodes Presented.encrypting at h
  unfold Plugin.decodeBackupCodes
  simp only [hbuiltIn.encrypt] at h
  simp only [hbuiltIn.decrypt]
  split at h
  · next hmode => simp_all
  · next hmode =>
    rw [hgenuine _ _ h, Option.map_some, hbuiltIn.marshal, Option.getD_some]
  · next hmode =>
    cases h
    rw [Option.map_some, hbuiltIn.marshal, Option.getD_some]

/-! ## What the handlers leave alone -/

/-- The time, and the factors with their users and codes. -/
def Store.kept (store : Store) : Int × List (String × String × String) :=
  (store.now, store.twoFactors.map fun twoFactor => (twoFactor.id, twoFactor.userID, twoFactor.backupCodes))

section

theorem kept_consumeVerification (identifier : String) (store : Store) :
    (store.consumeVerification identifier).2.kept = store.kept := rfl

theorem verifyTwoFactor_steady (env : Env) (key : String) :
    Steady Store.kept (fun context => env.session = none ↔ context.challenge.isSome = true)
      (verifyTwoFactor env key) := by
  unfold verifyTwoFactor
  split
  · next hsession => exact .bind .checks fun _ _ => .pure (by simp [hsession])
  · next hsession =>
    refine .bind .checks fun _ _ => .bind (call_steady fun _ => rfl) fun _ _ => .bind .checks fun _ _ => ?_
    refine .bind .checks fun _ _ => .bind (call_steady fun _ => rfl) fun _ _ => .bind .checks fun _ _ => ?_
    exact .pure (by simp [hsession])

variable {env : Env} {context : VerificationContext} {attempt : Option Attempt}

theorem beginAttempt_steady {allowed : Int} : Steady Store.kept (fun _ => True) (beginAttempt env context allowed) := by
  unfold beginAttempt
  split
  · exact .pure trivial
  refine .bind (call_steady (kept_consumeVerification _)) fun _ _ => .bind .checks fun _ _ => ?_
  dsimp only
  split
  · exact .bind (Steady.attempt (call_steady (kept_consumeVerification _))) fun _ _ => .fails
  · exact .pure trivial

theorem restore_steady : Steady Store.kept (fun _ => True) (restore env attempt) := by
  cases attempt with
  | none => exact .pure trivial
  | some attempt => exact call_steady fun _ => rfl

theorem failedGuess_steady : Steady Store.kept (fun _ => True) (failedGuess env context attempt) := by
  refine .bind (.access fun _ => rfl) fun _ _ => ?_
  cases attempt with
  | none => exact .pure trivial
  | some attempt => exact call_steady fun _ => rfl

theorem valid_steady (plugin : Plugin) (env : Env) (context : VerificationContext) (trustDevice : Bool) :
    Steady Store.kept (fun response => response.userID = some context.user.id)
      (valid plugin env context trustDevice) := by
  unfold valid
  split
  · exact .pure rfl
  refine .bind (call_steady (kept_consumeVerification _)) fun _ _ => .bind .checks fun consumed _ => ?_
  refine .bind .checks fun _ hvalue => .bind (call_steady fun _ => rfl) fun _ _ => ?_
  have htrusted : Steady Store.kept (fun _ => True) (setTrustedDevice plugin env trustDevice consumed.value) := by
    unfold setTrustedDevice
    split
    · exact .bind .checks fun _ _ => call_steady fun _ => rfl
    · exact .pure trivial
  exact .bind htrusted fun _ _ => .pure (congrArg some (require_eq_ok_iff.mp hvalue).2)

end

/-! ### With the locks -/

def Accounts.kept (accounts : Accounts) : Int × List (String × String × String) := accounts.store.kept

theorem unguarded_steady {α : Type} {post : α → Prop} {handler : Handler α} (h : Steady Store.kept post handler) :
    Steady Accounts.kept post (unguarded handler) := by
  have hput : ∀ (accounts : Accounts) (store : Store), store.kept = accounts.store.kept →
      (accounts.withStore store).kept = accounts.kept := fun _ _ h => h
  exact h.within hput

theorem blind_kept (factor : Option String) : Blind Accounts.kept factor :=
  ⟨fun id _ accounts lock => congrArg Store.kept (store_setLock accounts id lock), fun _ _ _ _ => rfl⟩

/-! ### How a success can fail -/

theorem factorOf_eq {context : VerificationContext} {f : String} (twoFactor : TwoFactor)
    (h : Lockout.factorOf context twoFactor = some f) : twoFactor.id = f := by
  unfold Lockout.factorOf at h
  split at h
  · exact Option.some.inj h
  · cases h

section

variable {α : Type} {env : LockEnv} {lockout : Lockout} {factor : Option String} {failure : Failure}

theorem call_fails {σ : Type} {access : σ → α × σ} {fault : Fault} (h : env.Sound → fault = .none) :
    FailsWith (fun _ => ¬ env.Sound) (fault.call failure access) := by
  unfold Fault.call
  split
  · exact .access
  all_goals exact .of_all fun _ hsound => by cases h hsound

theorem accept_fails (hfactor : ∀ id, factor = some id → id ≠ "") :
    FailsWith (fun _ => ¬ env.Sound) (lockout.accept env factor) := by
  cases factor with
  | none => exact .bind .pure fun _ => .pure
  | some id =>
    refine .bind .access fun _ => ?_
    unfold Lockout.resetFailures
    dsimp only
    split
    · refine .bind (fun failure hfailure => ?_) fun _ => ?_
      · exact absurd (hfactor id rfl) (require_eq_error_iff.mp hfailure).1
      exact call_fails fun hsound => hsound.lockFaults .reset
    · exact .pure

theorem valid_fails (plugin : Plugin) (context : VerificationContext) {trustDevice : Bool}
    (hrandom : trustDevice = true → env.random.isSome = true) :
    FailsWith (fun failure => env.Sound → context.challenge.isSome = true ∧ failure = invalidCookie)
      (valid plugin env.toEnv context trustDevice) := by
  have hcall : ∀ {α : Type} {site : Site} {failure : Failure} {access : Store → α × Store},
      FailsWith (fun failure => env.Sound → context.challenge.isSome = true ∧ failure = invalidCookie)
        (env.toEnv.call site failure access) :=
    (call_fails fun hsound => hsound.faults _).imp fun _ hfaulty hsound => absurd hsound hfaulty
  unfold valid
  split
  · exact .pure
  next challenge hchallenge =>
  have hgone : context.challenge.isSome = true := by rw [hchallenge]; rfl
  refine .bind hcall fun consumed => .bind (fun failure hfailure _ => ?_) fun row =>
    .bind (fun failure hfailure _ => ?_) fun _ => .bind hcall fun _ => .bind ?_ fun _ => .pure
  · exact ⟨hgone, (expect_eq_error_iff.mp hfailure).2.symm⟩
  · exact ⟨hgone, (require_eq_error_iff.mp hfailure).2.symm⟩
  · unfold setTrustedDevice
    split
    · next htrust =>
      refine .bind (fun failure hfailure => ?_) fun _ => hcall
      have hdrawn := hrandom htrust
      rw [(expect_eq_error_iff.mp hfailure).1] at hdrawn
      cases hdrawn
    · exact .pure

end

/-! ## What the requests own -/

def TwoFactor.owner (twoFactor : TwoFactor) : String × String := (twoFactor.id, twoFactor.userID)

/-- How the store belongs together with the codes that requests have taken, each
with its user. -/
structure Owned (plugin : Plugin) (start store : Store) (taken : Multiset (String × String)) : Prop where
  owners : store.twoFactors.map TwoFactor.owner = start.twoFactors.map TwoFactor.owner
  codes : ∀ userID, plugin.codesOf userID store =
    (plugin.codesOf userID start).filter fun code => (userID, code) ∉ taken
  once : taken.Nodup
  stored : ∀ entry ∈ taken, entry.2 ∈ plugin.codesOf entry.1 start

def Store.factorID (userID : String) (store : Store) : Option String :=
  (store.findTwoFactor userID).1.map TwoFactor.id

theorem codesOf_eq (plugin : Plugin) (userID : String) (store : Store) :
    plugin.codesOf userID store = ((store.kept.2.find? fun factor => factor.2.1 = userID).bind fun factor =>
      plugin.decodeBackupCodes factor.2.2).getD [] := by
  unfold Plugin.codesOf Store.findTwoFactor Store.kept
  rw [List.find?_map, Option.bind_map]
  rfl

namespace Owned

variable {plugin : Plugin} {start store : Store} {taken : Multiset (String × String)}

theorem init : Owned plugin start start 0 := ⟨rfl, by simp, Multiset.nodup_zero, by simp⟩

theorem of_kept {later : Store} (hkept : later.kept = store.kept) (h : Owned plugin start store taken) :
    Owned plugin start later taken := by
  refine ⟨?_, fun userID => ?_, h.once, h.stored⟩
  · have howners := congrArg (fun kept => kept.2.map fun factor => (factor.1, factor.2.1)) hkept
    simp only [Store.kept, List.map_map] at howners
    exact howners.trans h.owners
  · rw [← h.codes, codesOf_eq, codesOf_eq, hkept]

section

variable (h : Owned plugin start store taken)
include h

theorem factorID_eq (userID : String) : store.factorID userID = start.factorID userID := by
  have hfind : ∀ rows : List TwoFactor, (rows.find? fun twoFactor => twoFactor.userID = userID).map TwoFactor.id =
      ((rows.map TwoFactor.owner).find? fun pair => pair.2 = userID).map Prod.fst := by
    intro rows
    rw [List.find?_map, Option.map_map]
    rfl
  unfold Store.factorID Store.findTwoFactor
  rw [hfind, hfind, h.owners]

theorem ids_eq : store.twoFactors.map TwoFactor.id = start.twoFactors.map TwoFactor.id := by
  have howners := congrArg (List.map Prod.fst) h.owners
  rw [List.map_map, List.map_map] at howners
  exact howners

/-- Only who replaces the codes that are stored then takes a code out. -/
theorem spend (hids : (start.twoFactors.map TwoFactor.id).Nodup)
    {userID id raw code : String} (hid : start.factorID userID = some id)
    (hraw : plugin.decodeBackupCodes raw = some codes) (hcode : code ∈ codes)
    (hencoded : plugin.decodeBackupCodes encoded = some (codes.filter fun candidate => candidate ≠ code)) :
    Owned plugin start (store.replaceBackupCodes id raw encoded).2
      (if (store.replaceBackupCodes id raw encoded).1 then (userID, code) ::ₘ taken else taken) := by
  rw [← h.ids_eq] at hids
  rw [← h.factorID_eq] at hid
  obtain ⟨twoFactor, hfound, rfl⟩ := Option.map_eq_some_iff.mp hid
  have hfound : store.twoFactors.find? (fun row => row.userID = userID) = some twoFactor := hfound
  unfold Store.replaceBackupCodes
  cases hupdate : table.updateFirst (fun row => row.id = twoFactor.id && row.backupCodes = raw)
      (fun row => { row with backupCodes := encoded }) store.twoFactors with
  | none => exact h
  | some updated =>
    -- the row that was updated is the one of the user
    have hmatching : ∀ row ∈ store.twoFactors, (row.id = twoFactor.id && row.backupCodes = raw) = true →
        row = twoFactor := by
      intro row hrow hmatching
      refine List.inj_on_of_nodup_map hids hrow (List.mem_of_find?_eq_some hfound) ?_
      simpa using (Bool.and_eq_true_iff.mp hmatching).1
    obtain ⟨other, hother, hboth⟩ := table.exists_of_updateFirst hupdate
    obtain rfl := hmatching other hother hboth
    have hcodes : ∀ someone, plugin.codesOf someone { store with twoFactors := updated } =
        (plugin.codesOf someone store).filter fun candidate => (someone, candidate) ≠ (userID, code) := by
      intro someone
      have hafter := table.find?_updateFirst (fun row => row.userID = someone) hupdate hids
        (fun row hrow => by simpa using (Bool.and_eq_true_iff.mp hrow).1) fun _ => rfl
      unfold Plugin.codesOf Store.findTwoFactor
      rw [hafter]
      by_cases heq : someone = userID
      · subst heq
        rw [hfound, Option.map_some, if_pos hboth, Option.bind_some, Option.bind_some, hencoded,
          (by simpa using hboth : other.backupCodes = raw), hraw]
        simp
      have hsame : (store.twoFactors.find? fun row => row.userID = someone).map
          (fun row => if row.id = other.id && row.backupCodes = raw then { row with backupCodes := encoded } else row) =
            store.twoFactors.find? fun row => row.userID = someone := by
        cases hfind : store.twoFactors.find? fun row => row.userID = someone with
        | none => rfl
        | some row =>
          rw [Option.map_some, if_neg]
          intro hrow
          obtain rfl := hmatching row (List.mem_of_find?_eq_some hfind) hrow
          have hsomeone : row.userID = someone := by simpa using List.find?_some hfind
          have huser : row.userID = userID := by simpa using List.find?_some hfound
          exact heq (hsomeone.symm.trans huser)
      rw [hsame, List.filter_eq_self.mpr fun candidate _ => by simp [heq]]
    have hstored : code ∈ plugin.codesOf userID store := by
      unfold Plugin.codesOf Store.findTwoFactor
      rw [hfound, Option.bind_some, (by simpa using hboth : other.backupCodes = raw), hraw]
      exact hcode
    rw [h.codes] at hstored
    obtain ⟨hstored, hnew⟩ := List.mem_filter.mp hstored
    refine ⟨?_, fun someone => ?_, Multiset.nodup_cons.mpr ⟨by simpa using hnew, h.once⟩, fun entry hentry => ?_⟩
    · rw [← h.owners]
      exact table.map_updateFirst hupdate fun _ => rfl
    · rw [hcodes, h.codes, List.filter_filter]
      congr 1
      funext candidate
      simp [Multiset.mem_cons]
    · rcases Multiset.mem_cons.mp hentry with rfl | hold
      · exact hstored
      · exact h.stored entry hold

end

end Owned

/-! ## A request -/

section

variable {plugin : Plugin} {start : Store} {presented : Presented} {own : Multiset (String × String)} {α : Type}

/-- What a program owns that a request with the code runs: at most the code, and with it the request fails only
as it may. -/
def Guards (plugin : Plugin) (start : Store) (presented : Presented) (post : α → Multiset (String × String) → Prop) :
    Multiset (String × String) → Guarded α → Prop :=
  Owns (fun accounts => Owned plugin start accounts.store) (fun own => ∀ entry ∈ own, entry.2 = presented.code) post
    fun failure own => own ≠ 0 → presented.Loses failure

theorem guards_steady {post : α → Prop} {calls : Guarded α} (honly : ∀ entry ∈ own, entry.2 = presented.code)
    (hfails : FailsWith (fun failure => own ≠ 0 → presented.Loses failure) calls)
    (h : Steady Accounts.kept post calls) :
    Guards plugin start presented (fun value left => post value ∧ left = own) own calls :=
  Owns.steady (fun _ _ _ hkept howned => howned.of_kept hkept) honly hfails h

/-- Before the code is taken out every failure is harmless. -/
theorem guards_before {β : Type} {final : β → Multiset (String × String) → Prop} {post : α → Prop} {calls : Guarded α}
    {next : α → Guarded β} (h : Steady Accounts.kept post calls)
    (hnext : ∀ value, post value → Guards plugin start presented final 0 (next value)) :
    Guards plugin start presented final 0 (calls >>= next) := by
  refine Owns.bind (guards_steady (by simp) (.of_all fun _ hown => absurd rfl hown) h) ?_
  rintro value _ - ⟨hvalue, rfl⟩
  exact hnext value hvalue

theorem guards_refuse {post : α → Multiset (String × String) → Prop} {failure : Failure} :
    Guards plugin start presented post 0 (refuse failure : Guarded α) :=
  Owns.fails (by simp) fun hown => absurd rfl hown

theorem guards_findTwoFactor (fault : Fault) (userID : String) :
    Guards plugin start presented (fun found left =>
        (∀ entry, found = some entry → start.factorID userID = some entry.1.id) ∧ left = 0) 0
      (fault.call internalError (Accounts.findTwoFactor userID)) := by
  have hnone : ∀ entry ∈ (0 : Multiset (String × String)), entry.2 = presented.code := by simp
  have hfind : Guards plugin start presented (fun found left =>
      (∀ entry, found = some entry → start.factorID userID = some entry.1.id) ∧ left = 0) 0
      (Calls.update fun accounts => .ok (accounts.findTwoFactor userID)) := by
    refine Owns.access hnone fun accounts frame howned => ⟨0, howned, hnone, fun entry hentry => ?_, rfl⟩
    obtain ⟨twoFactor, hfound, rfl⟩ := Option.map_eq_some_iff.mp hentry
    rw [← howned.factorID_eq, Store.factorID, hfound]
    rfl
  unfold Fault.call
  split
  · exact hfind
  · exact guards_refuse
  · refine Owns.bind hfind ?_
    rintro _ _ - ⟨-, rfl⟩
    exact guards_refuse

/-- The codes of the factor are replaced by those without the code. -/
theorem guards_replace (hids : (start.twoFactors.map TwoFactor.id).Nodup) {userID id raw : String}
    (hid : start.factorID userID = some id) (hraw : plugin.decodeBackupCodes raw = some codes)
    (hcode : presented.code ∈ codes)
    (hencoded : plugin.decodeBackupCodes encoded = some (codes.filter fun candidate => candidate ≠ presented.code)) :
    Guards plugin start presented (fun replaced left => left = if replaced then {(userID, presented.code)} else 0) 0
      (unguarded (presented.env.toEnv.call .updateTwoFactor internalError (Store.replaceBackupCodes id raw encoded))) := by
  have hnone : ∀ entry ∈ (0 : Multiset (String × String)), entry.2 = presented.code := by simp
  have hspend : ∀ (accounts : Accounts) (frame : Multiset (String × String)),
      Owned plugin start accounts.store (0 + frame) → ∃ left,
        Owned plugin start (accounts.store.replaceBackupCodes id raw encoded).2 (left + frame) ∧
        (∀ entry ∈ left, entry.2 = presented.code) ∧
        left = if (accounts.store.replaceBackupCodes id raw encoded).1 then {(userID, presented.code)} else 0 := by
    intro accounts frame howned
    rw [zero_add] at howned
    have hspent := howned.spend hids hid hraw hcode hencoded
    cases hreplaced : (accounts.store.replaceBackupCodes id raw encoded).1 with
    | false => exact ⟨0, by simpa [hreplaced] using hspent, hnone, rfl⟩
    | true => exact ⟨{(userID, presented.code)}, by simpa [hreplaced] using hspent, by simp, rfl⟩
  unfold Env.call Fault.call
  split
  · refine ⟨hnone, fun accounts frame howned => ?_⟩
    obtain ⟨left, hleft, honly, heq⟩ := hspend accounts frame howned
    exact ⟨left, hleft, Owns.pure honly heq⟩
  · exact Owns.fails hnone fun hown => absurd rfl hown
  · next hfault =>
    refine ⟨hnone, fun accounts frame howned => ?_⟩
    obtain ⟨left, hleft, honly, -⟩ := hspend accounts frame howned
    refine ⟨left, hleft, Owns.fails honly fun _ hsound => ?_⟩
    cases (hsound.faults .updateTwoFactor).symm.trans hfault

/-- A request that has taken its code out succeeds for its user, or fails as it may. -/
theorem guards_taken (lockout : Lockout) {context : VerificationContext} {twoFactor : TwoFactor}
    (hsession : presented.env.session = none ↔ context.challenge.isSome = true) (hid : twoFactor.id ≠ "") :
    Guards plugin start presented
      (fun response left => ∃ userID, response.userID = some userID ∧ left = {(userID, presented.code)})
      {(context.user.id, presented.code)} (do
        lockout.accept presented.env (Lockout.factorOf context twoFactor)
        if presented.disableSession then return .accepted context.user.id
        else unguarded (valid (presented.encrypting plugin) presented.env.toEnv context presented.trustDevice)) := by
  have honly : ∀ entry ∈ ({(context.user.id, presented.code)} : Multiset (String × String)),
      entry.2 = presented.code := by simp
  have hnamed : ∀ id, Lockout.factorOf context twoFactor = some id → id ≠ "" :=
    fun id hfactor => factorOf_eq twoFactor hfactor ▸ hid
  refine Owns.bind (guards_steady honly ((accept_fails hnamed).imp fun _ hfaulty _ hsound => absurd hsound hfaulty)
    (accept_steady (blind_kept _))) ?_
  rintro _ _ - ⟨-, rfl⟩
  split
  · exact Owns.pure honly ⟨_, rfl, rfl⟩
  next hdisable =>
  refine (guards_steady honly ?_ (unguarded_steady (valid_steady _ _ _ _))).imp fun response _ hwon => ?_
  · by_cases hrandom : presented.trustDevice = true → presented.env.random.isSome = true
    · refine (valid_fails _ context hrandom).within.imp fun failure hlate _ hsound _ => ?_
      exact ⟨hsession.mpr (hlate hsound).1, by simpa using hdisable, (hlate hsound).2⟩
    · exact .of_all fun _ _ _ hdrawn => absurd hdrawn hrandom
  · obtain ⟨huser, rfl⟩ := hwon
    exact ⟨_, huser, rfl⟩

/-- A request that answers for a user has taken its code out, and one that fails has taken it only if it may. -/
theorem verifyBackupCode_guards (lockout : Lockout) (hids : (start.twoFactors.map TwoFactor.id).Nodup)
    (hempty : "" ∉ start.twoFactors.map TwoFactor.id) (hbuiltIn : plugin.BuiltIn)
    (hgenuine : presented.Genuine plugin) :
    Guards plugin start presented
      (fun response left => ∃ userID, response.userID = some userID ∧ left = {(userID, presented.code)}) 0
      ((BackupRequest.verify presented).handle lockout plugin) := by
  unfold BackupRequest.handle Lockout.verifyBackupCode
  refine guards_before (unguarded_steady (verifyTwoFactor_steady _ _)) fun context hsession => ?_
  refine guards_before .checks fun _ _ => ?_
  refine Owns.bind (guards_findTwoFactor _ _) ?_
  rintro found _ - ⟨hfound, rfl⟩
  refine guards_before .checks fun ⟨twoFactor, lock⟩ hentry => ?_
  have hfactor := hfound _ (expect_eq_ok_iff.mp hentry)
  refine guards_before (assertNotLocked_steady (blind_kept _) _) fun _ _ => ?_
  refine guards_before (unguarded_steady beginAttempt_steady) fun attempt _ => ?_
  unfold Lockout.redeemBackupCode
  split
  · exact guards_before (unguarded_steady restore_steady) fun _ _ => guards_refuse
  rename_i codes hcodes
  split
  · exact guards_before (reject_steady (blind_kept _) (unguarded_steady failedGuess_steady)) fun _ _ => guards_refuse
  rename_i remaining hremaining
  obtain ⟨rfl, hcontains⟩ := Prod.mk.inj hremaining
  split
  · exact guards_before (unguarded_steady restore_steady) fun _ _ => guards_refuse
  rename_i encoded hencoded
  refine Owns.bind (guards_replace hids hfactor hcodes (List.contains_iff_mem.mp hcontains)
    (decode_of_encode hbuiltIn hgenuine hencoded)) ?_
  rintro replaced _ honly rfl
  refine Owns.bind (guards_steady honly (fun _ hconflict hown => ?_) .checks) ?_
  · exact absurd (if_neg (require_eq_error_iff.mp hconflict).1) hown
  rintro _ _ - ⟨hreplaced, rfl⟩
  obtain rfl : replaced = true := require_eq_ok_iff.mp hreplaced
  rw [if_pos rfl]
  obtain ⟨row, hrow, hrowID⟩ := Option.map_eq_some_iff.mp hfactor
  refine guards_taken lockout hsession fun heq => hempty ?_
  exact heq ▸ hrowID ▸ List.mem_map_of_mem (List.mem_of_find?_eq_some hrow)

end

end singleauth.twofactor
