import SingleAuth.Plugins.TwoFactor.Factors

open process text transition

namespace singleauth.twofactor

/-! ## Trusted devices -/

/-- The record that a cookie names, if it is signed for the user. -/
def presentedDevice (makeURLSignature : String → String) (userID value : String) : Option String :=
  match cut '!' value with
  | none => none
  | some (token, identifier) =>
    if token ≠ "" ∧ identifier ≠ "" ∧ token = makeURLSignature (userID ++ "!" ++ identifier) then some identifier
    else none

def Store.deleteVerification (identifier : String) (store : Store) : Store :=
  { store with verifications := store.verifications.filter fun row => row.identifier ≠ identifier }

/-- The next storage call of a sign-in with a cookie, or how it has ended: the second factor is
skipped, with a new record in place of the old one, or a challenge has to be answered. A choice to
trust the device is a `create` in place of no record. -/
inductive DevicePhase where
  | find (identifier : String)
  | check (identifier : String) (record : Option Verification)
  | delete (identifier : String)
  | create (replaced : Option String)
  | created (replaced : Option String)
  | challenged

structure DeviceThread where
  userID : String
  /-- The identifier of the record that is created. -/
  drawn : String
  phase : DevicePhase

namespace DeviceThread

/-- One storage call, or one reading of the clock, of `rotateTrustedDevice` and
`setTrustedDevice`. -/
def rotateTrustedDevice (maxAge : Int) (thread : DeviceThread) (store : Store) : DeviceThread × Store :=
  match thread.phase with
  | .find identifier =>
    let (record, store) := store.findVerification identifier
    ({ thread with phase := .check identifier record }, store)
  | .check identifier record =>
    let trusted := record.any fun row => row.value = thread.userID && store.now < row.expiresAt
    ({ thread with phase := if trusted then .delete identifier else .challenged }, store)
  | .delete identifier => ({ thread with phase := .create identifier }, store.deleteVerification identifier)
  | .create replaced =>
    ({ thread with phase := .created replaced },
      (store.createVerification thread.drawn thread.userID (store.now + maxAge) none).2)
  | .created _ | .challenged => (thread, store)

/-- The record whose cookie the sign-in came with, until it has ended. -/
def presented (thread : DeviceThread) : Option String :=
  match thread.phase with
  | .find identifier | .check identifier _ | .delete identifier => some identifier
  | .create replaced => replaced
  | .created _ | .challenged => none

/-- The record for whose cookie the second factor was skipped. -/
def skipped (thread : DeviceThread) : Option String :=
  match thread.phase with
  | .created replaced => replaced
  | _ => none

def trusts (userID : String) (thread : DeviceThread) : Bool :=
  match thread.phase with
  | .created none => thread.userID = userID
  | _ => false

end DeviceThread

abbrev Devices : Type := System Store DeviceThread

inductive DeviceTurn where
  /-- The user trusts the device. -/
  | trust (userID random : String)
  /-- The password was right, and a cookie came along. -/
  | signIn (userID value random : String)
  | step (number : Nat)
  | wait (time : Nat)

def trustDevice (random : String) : String := "trust-device-" ++ random

section

variable (makeURLSignature : String → String) (maxAge : Int)

def advanceDevices (devices : Devices) : DeviceTurn → Devices
  | .trust userID random => spawn ⟨userID, trustDevice random, .create none⟩ devices
  | .signIn userID value random =>
    match presentedDevice makeURLSignature userID value with
    | none => devices
    | some identifier => spawn ⟨userID, trustDevice random, .find identifier⟩ devices
  | .step number => turn (DeviceThread.rotateTrustedDevice maxAge) number devices
  | .wait time => { devices with shared := { devices.shared with now := devices.shared.now + time } }

/-- No identifier is drawn twice, and no two sign-ins with one cookie overlap. -/
def keepsApart (devices : Devices) : DeviceTurn → Bool
  | .trust _ random => devices.threads.all fun thread => thread.drawn ≠ trustDevice random
  | .signIn userID value random => devices.threads.all fun thread => thread.drawn ≠ trustDevice random &&
    (thread.presented.isNone || thread.presented ≠ presentedDevice makeURLSignature userID value)
  | .step _ | .wait _ => true

end

/-- A cookie is good for one sign-in, and a user has not more live records than
there were choices to trust a device. -/
structure DeviceUse (devices : Devices) : Prop where
  once : (devices.threads.filterMap DeviceThread.skipped).Nodup
  live : ∀ userID, (devices.shared.verifications.countP fun row => row.value = userID &&
    devices.shared.now < row.expiresAt) ≤ devices.threads.countP (DeviceThread.trusts userID)

/-! ## Sign-ins that do not overlap -/

namespace DeviceThread

/-- The record that the sign-in has read and not given up. It may have expired and be gone since. -/
def claims (thread : DeviceThread) : Option String :=
  match thread.phase with
  | .check identifier (some row) => if row.value = thread.userID then some identifier else none
  | .delete identifier => some identifier
  | .create replaced | .created replaced => replaced
  | _ => none

/-- The record that the sign-in has deleted. -/
def spent (thread : DeviceThread) : Option String :=
  match thread.phase with
  | .create replaced | .created replaced => replaced
  | _ => none

/-- The new record was created. -/
def created (thread : DeviceThread) : Bool :=
  match thread.phase with
  | .created _ => true
  | _ => false

/-- Two requests draw different identifiers, are not under way with one cookie, and claim different records. -/
structure Apart (thread other : DeviceThread) : Prop where
  drawn : thread.drawn ≠ other.drawn
  presented : ∀ identifier, thread.presented = some identifier → other.presented ≠ some identifier
  claims : ∀ identifier, thread.claims = some identifier → other.claims ≠ some identifier

variable {thread other : DeviceThread} {identifier : String}

theorem Apart.symm (h : thread.Apart other) : other.Apart thread where
  drawn := h.drawn.symm
  presented identifier hother hthread := h.presented identifier hthread hother
  claims identifier hother hthread := h.claims identifier hthread hother

theorem presented_or_spent (h : thread.claims = some identifier) :
    thread.presented = some identifier ∨ thread.spent = some identifier := by
  unfold claims at h
  unfold presented spent
  split at h <;> rename_i hphase <;> try rw [hphase]
  · exact .inl (Option.ite_none_right_eq_some.mp h).2
  · exact .inl h
  · exact .inr h
  · exact .inr h
  · cases h

theorem claims_of_spent (h : thread.spent = some identifier) : thread.claims = some identifier := by
  obtain ⟨userID, drawn, phase⟩ := thread
  cases phase <;> first | exact h | cases h

theorem spent_of_skipped (h : thread.skipped = some identifier) :
    thread.spent = some identifier ∧ thread.claims = some identifier := by
  obtain ⟨userID, drawn, phase⟩ := thread
  cases phase <;> first | exact ⟨h, h⟩ | cases h

theorem countP_created (userID : String) (threads : List DeviceThread) :
    (threads.countP fun thread => thread.created && thread.userID = userID) = threads.countP (trusts userID) +
      ((threads.filter (·.userID = userID)).filterMap skipped).length := by
  induction threads with
  | nil => rfl
  | cons thread rest ih =>
    obtain ⟨owner, drawn, phase⟩ := thread
    rcases phase with _ | _ | _ | _ | (_ | _) | _ <;> by_cases huser : owner = userID <;>
      simp [created, trusts, skipped, huser, List.filterMap_cons] at ih ⊢ <;> omega

end DeviceThread

/-- The record was created by a request, for the user. -/
def Known (threads : List DeviceThread) (identifier userID : String) : Prop :=
  ∃ thread ∈ threads, thread.created = true ∧ thread.drawn = identifier ∧ thread.userID = userID

/-- No record is claimed twice, and one that a sign-in has deleted does not come back. -/
structure Rotations (store : Store) (threads : List DeviceThread) : Prop where
  apart : threads.Pairwise DeviceThread.Apart
  rows : (store.verifications.map Verification.identifier).Nodup
  gone : ∀ thread ∈ threads, ∀ row ∈ store.verifications, thread.spent ≠ some row.identifier
  stored : ∀ row ∈ store.verifications, Known threads row.identifier row.value
  claimed : ∀ thread ∈ threads, ∀ identifier, thread.claims = some identifier →
    Known threads identifier thread.userID

variable {store after : Store} {threads rest : List DeviceThread} {thread : DeviceThread} {identifier userID : String}

theorem Known.of_cons (h : Known (thread :: rest) identifier userID) (hcreated : thread.created = false) :
    Known rest identifier userID := by
  obtain ⟨other, hmem, hdone, hsame⟩ := h
  rcases List.mem_cons.mp hmem with rfl | hmem
  · rw [hcreated] at hdone
    cases hdone
  · exact ⟨other, hmem, hdone, hsame⟩

theorem Known.cons (h : Known rest identifier userID) : Known (thread :: rest) identifier userID :=
  h.imp fun _ ⟨hmem, hsame⟩ => ⟨.tail _ hmem, hsame⟩

namespace Rotations

/-- The records that were created for a user are those of the choices and those in place of others, which are gone. -/
theorem deviceUse (h : Rotations store threads) : DeviceUse ⟨store, threads⟩ := by
  have hskipped : (threads.filterMap DeviceThread.skipped).Nodup := by
    refine List.pairwise_filterMap.mpr (h.apart.imp fun hapart identifier hfirst _ hsecond hsame => ?_)
    exact hapart.claims identifier (DeviceThread.spent_of_skipped hfirst).2
      (DeviceThread.spent_of_skipped (hsame ▸ hsecond)).2
  refine ⟨hskipped, fun userID => ?_⟩
  let live := (store.verifications.filter fun row => row.value = userID && store.now < row.expiresAt).map
    Verification.identifier
  let replaced := (threads.filter (·.userID = userID)).filterMap DeviceThread.skipped
  have hnodup : (live ++ replaced).Nodup := by
    refine List.nodup_append.mpr ⟨h.rows.sublist (List.filter_sublist.map _),
      hskipped.sublist (List.filter_sublist.filterMap _), fun identifier hlive _ hreplaced hsame => ?_⟩
    obtain ⟨row, hrow, rfl⟩ := List.mem_map.mp hlive
    obtain ⟨thread, hthread, hskips⟩ := List.mem_filterMap.mp (hsame ▸ hreplaced)
    exact h.gone thread (List.mem_of_mem_filter hthread) row (List.mem_of_mem_filter hrow)
      (DeviceThread.spent_of_skipped hskips).1
  have hknown : live ++ replaced ⊆
      (threads.filter fun thread => thread.created && thread.userID = userID).map DeviceThread.drawn := by
    intro identifier hidentifier
    have hknown : Known threads identifier userID := by
      rcases List.mem_append.mp hidentifier with hlive | hreplaced
      · obtain ⟨row, hrow, rfl⟩ := List.mem_map.mp hlive
        obtain ⟨hmem, hrow⟩ := List.mem_filter.mp hrow
        exact of_decide_eq_true (Bool.and_eq_true_iff.mp hrow).1 ▸ h.stored row hmem
      · obtain ⟨thread, hthread, hskips⟩ := List.mem_filterMap.mp hreplaced
        obtain ⟨hmem, huser⟩ := List.mem_filter.mp hthread
        exact of_decide_eq_true huser ▸ h.claimed thread hmem identifier (DeviceThread.spent_of_skipped hskips).2
    obtain ⟨thread, hmem, hcreated, rfl, rfl⟩ := hknown
    exact List.mem_map.mpr ⟨thread, List.mem_filter.mpr ⟨hmem, by simp [hcreated]⟩, rfl⟩
  have hlength := (List.subperm_of_subset hnodup hknown).length_le
  rw [List.length_append, List.length_map, List.length_map, ← List.countP_eq_length_filter,
    ← List.countP_eq_length_filter, DeviceThread.countP_created] at hlength
  exact Nat.le_of_add_le_add_right hlength

theorem perm {others : List DeviceThread} (h : Rotations store threads) (hperm : threads.Perm others) :
    Rotations store others where
  apart := (hperm.pairwise_iff DeviceThread.Apart.symm).mp h.apart
  rows := h.rows
  gone := by simpa only [hperm.mem_iff] using h.gone
  stored := by simpa only [Known, hperm.mem_iff] using h.stored
  claimed := by simpa only [Known, hperm.mem_iff] using h.claimed

/-- A request begins or goes on. -/
theorem put (h : Rotations store rest) (hapart : ∀ other ∈ rest, thread.Apart other)
    (hgone : ∀ row ∈ store.verifications, thread.spent ≠ some row.identifier)
    (hclaimed : ∀ identifier, thread.claims = some identifier → Known rest identifier thread.userID) :
    Rotations store (thread :: rest) where
  apart := List.pairwise_cons.mpr ⟨hapart, h.apart⟩
  rows := h.rows
  gone := List.forall_mem_cons.mpr ⟨hgone, h.gone⟩
  stored row hrow := (h.stored row hrow).cons
  claimed := List.forall_mem_cons.mpr ⟨fun identifier hclaims => (hclaimed identifier hclaims).cons,
    fun other hmem identifier hclaims => (h.claimed other hmem identifier hclaims).cons⟩

section

variable (h : Rotations store (thread :: rest)) (hold : thread.created = false)
include h hold

theorem known (hclaims : thread.claims = some identifier) :
    (∀ other ∈ rest, other.claims ≠ some identifier) ∧ Known rest identifier thread.userID :=
  ⟨fun other hmem => ((List.pairwise_cons.mp h.apart).1 other hmem).claims identifier hclaims,
    (h.claimed thread List.mem_cons_self identifier hclaims).of_cons hold⟩

/-- A request goes on, and records may go. -/
theorem goOn (phase : DevicePhase) (hrows : after.verifications.Sublist store.verifications)
    (hpresented : DeviceThread.presented { thread with phase } = none ∨
      DeviceThread.presented { thread with phase } = thread.presented)
    (hgone : ∀ row ∈ after.verifications, DeviceThread.spent { thread with phase } ≠ some row.identifier)
    (hclaims : ∀ identifier, DeviceThread.claims { thread with phase } = some identifier →
      (∀ other ∈ rest, other.claims ≠ some identifier) ∧ Known rest identifier thread.userID) :
    Rotations after ({ thread with phase } :: rest) := by
  obtain ⟨hapart, hothers⟩ := List.pairwise_cons.mp h.apart
  have hrest : Rotations after rest :=
    ⟨hothers, h.rows.sublist (hrows.map _),
      fun other hmem row hrow => h.gone other (.tail _ hmem) row (hrows.subset hrow),
      fun row hrow => (h.stored row (hrows.subset hrow)).of_cons hold,
      fun other hmem identifier hclaim => (h.claimed other (.tail _ hmem) identifier hclaim).of_cons hold⟩
  refine hrest.put (fun other hmem => ⟨(hapart other hmem).drawn, fun identifier hsame => ?_,
    fun identifier hclaim => (hclaims identifier hclaim).1 other hmem⟩) hgone
    fun identifier hclaim => (hclaims identifier hclaim).2
  rcases hpresented with hnone | hkept
  · rw [hnone] at hsame
    cases hsame
  · exact (hapart other hmem).presented identifier (hkept ▸ hsame)

/-- A record is created, by choice or in place of the one that is claimed. -/
theorem create {replaced : Option String} (hphase : thread.phase = .create replaced) (expiresAt : Int) :
    Rotations (store.createVerification thread.drawn thread.userID expiresAt none).2
      ({ thread with phase := .created replaced } :: rest) := by
  have hclaims : thread.claims = replaced := by rw [DeviceThread.claims, hphase]
  have hspent : thread.spent = replaced := by rw [DeviceThread.spent, hphase]
  have hcreated : Rotations store ({ thread with phase := .created replaced } :: rest) :=
    h.goOn hold _ (.refl _) (.inl rfl) (hspent ▸ h.gone thread List.mem_cons_self)
      fun identifier hclaim => h.known hold (hclaims.trans hclaim)
  -- what is known was drawn by another request
  have hother : ∀ {identifier userID}, Known (thread :: rest) identifier userID → identifier ≠ thread.drawn := by
    rintro _ _ hknown rfl
    obtain ⟨other, hmem, _, hdrawn, _⟩ := hknown.of_cons hold
    exact ((List.pairwise_cons.mp h.apart).1 other hmem).drawn hdrawn.symm
  refine ⟨hcreated.apart, ?_, fun other hmem row hrow hspends => ?_, fun row hrow => ?_, hcreated.claimed⟩
  · rw [Store.createVerification, List.map_append]
    refine List.nodup_append.mpr ⟨h.rows, List.pairwise_singleton _ _, fun identifier hmem _ hlast hsame => ?_⟩
    obtain ⟨row, hrow, rfl⟩ := List.mem_map.mp hmem
    exact hother (h.stored row hrow) (hsame.trans (List.mem_singleton.mp hlast))
  · rcases table.mem_concat.mp hrow with hrow | rfl
    · exact hcreated.gone other hmem row hrow hspends
    rcases List.mem_cons.mp hmem with rfl | hmem
    · exact hother (h.claimed thread List.mem_cons_self _ (hclaims.trans hspends)) rfl
    · exact hother (h.claimed other (.tail _ hmem) _ (DeviceThread.claims_of_spent hspends)) rfl
  · rcases table.mem_concat.mp hrow with hrow | rfl
    · exact hcreated.stored row hrow
    · exact ⟨_, List.mem_cons_self, rfl, rfl, rfl⟩

end

theorem step (h : Rotations store (thread :: rest)) (maxAge : Int) :
    Rotations (thread.rotateTrustedDevice maxAge store).2 ((thread.rotateTrustedDevice maxAge store).1 :: rest) := by
  obtain ⟨userID, drawn, phase⟩ := thread
  unfold DeviceThread.rotateTrustedDevice
  match phase with
  | .find identifier =>
    refine h.goOn rfl _ List.filter_sublist (.inr rfl) nofun fun other hclaim => ?_
    cases hrow : (store.findVerification identifier).1 with
    | none => simp [DeviceThread.claims, hrow] at hclaim
    | some row =>
      simp only [DeviceThread.claims, hrow, Option.ite_none_right_eq_some] at hclaim
      obtain ⟨rfl, heq⟩ := hclaim
      cases heq
      obtain ⟨hmem, rfl⟩ := table.latest_some hrow
      refine ⟨fun other hother hclaim => ?_, (h.stored row hmem).of_cons rfl⟩
      rcases DeviceThread.presented_or_spent hclaim with hpresented | hspent
      · exact ((List.pairwise_cons.mp h.apart).1 other hother).presented row.identifier rfl hpresented
      · exact h.gone other (.tail _ hother) row hmem hspent
  | .check identifier record =>
    dsimp only
    split
    · next htrusted =>
      obtain ⟨row, hrecord, hrow⟩ := (Option.any_eq_true _ _).mp htrusted
      cases hrecord
      refine h.goOn rfl _ (.refl _) (.inr rfl) nofun fun other hclaim => h.known rfl ?_
      cases hclaim
      exact if_pos (of_decide_eq_true (Bool.and_eq_true_iff.mp hrow).1)
    · exact h.goOn rfl _ (.refl _) (.inl rfl) nofun nofun
  | .delete identifier =>
    refine h.goOn rfl _ List.filter_sublist (.inr rfl) (fun row hrow hsame => ?_) fun other hclaim => h.known rfl hclaim
    exact of_decide_eq_true (List.mem_filter.mp hrow).2 (Option.some.inj hsame).symm
  | .create replaced => exact h.create rfl rfl _
  | .created _ | .challenged => exact h

end Rotations

variable {makeURLSignature : String → String} {maxAge : Int} {devices : Devices} {event : DeviceTurn}

theorem Rotations.advance (h : Rotations devices.shared devices.threads)
    (hapart : keepsApart makeURLSignature devices event = true) :
    Rotations (advanceDevices makeURLSignature maxAge devices event).shared
      (advanceDevices makeURLSignature maxAge devices event).threads := by
  have hstart : ∀ thread : DeviceThread, thread.claims = none → thread.spent = none →
      (∀ other ∈ devices.threads, other.drawn ≠ thread.drawn) →
      (∀ other ∈ devices.threads, ∀ identifier, thread.presented = some identifier →
        other.presented ≠ some identifier) →
      Rotations devices.shared (devices.threads ++ [thread]) := by
    intro thread hclaims hspent hdrawn hpresented
    refine (h.put (fun other hmem => ⟨(hdrawn other hmem).symm, hpresented other hmem, ?_⟩) ?_ ?_).perm
      (List.perm_append_singleton _ _).symm <;> simp [hclaims, hspent]
  cases event with
  | trust userID random =>
    exact hstart _ rfl rfl (fun other hmem => of_decide_eq_true (List.all_eq_true.mp hapart other hmem)) nofun
  | signIn userID value random =>
    unfold advanceDevices
    dsimp only
    split
    · exact h
    · next identifier hidentifier =>
      have hother : ∀ other ∈ devices.threads,
          other.drawn ≠ trustDevice random ∧ other.presented ≠ some identifier := by
        intro other hmem
        obtain ⟨hdrawn, hcookie⟩ := Bool.and_eq_true_iff.mp (List.all_eq_true.mp hapart other hmem)
        refine ⟨of_decide_eq_true hdrawn, fun hsame => ?_⟩
        simp [hidentifier, hsame] at hcookie
      refine hstart _ rfl rfl (fun other hmem => (hother other hmem).1) fun other hmem _ hsame => ?_
      cases hsame
      exact (hother other hmem).2
  | step number =>
    rcases turn_cases (DeviceThread.rotateTrustedDevice maxAge) number devices with
      hsame | ⟨before, thread, behind, hsplit, _, hturn⟩
    · rw [advanceDevices, hsame]
      exact h
    · rw [advanceDevices, hturn]
      rw [hsplit] at h
      exact ((h.perm List.perm_middle).step maxAge).perm List.perm_middle.symm
  -- the invariant does not depend on the time
  | wait time => exact ⟨h.apart, h.rows, h.gone, h.stored, h.claimed⟩

/-- A cookie is good for one sign-in in every interleaving in which no two sign-ins with one cookie
overlap. Sign-ins with different cookies, choices to trust a device and the clock run free. -/
theorem trusted_device_single_use {store : Store} (hempty : store.verifications = [])
    (hreached : Reached (advanceDevices makeURLSignature maxAge)
      (fun devices event => keepsApart makeURLSignature devices event = true) ⟨store, []⟩ devices) :
    DeviceUse devices := by
  have hstart : Rotations store [] := by
    refine ⟨.nil, ?_, nofun, ?_, nofun⟩ <;> simp [hempty]
  exact (hreached.invariant (fun devices : Devices => Rotations devices.shared devices.threads) hstart
    fun _ _ h hapart => h.advance hapart).deviceUse

/-! ## Two sign-ins with one cookie -/

private def noDevices : Devices := ⟨{ verifications := [], users := [], twoFactors := [], now := 0 }, []⟩

/-- The signature is left out. -/
private def afterTurns (turns : List DeviceTurn) : Devices := turns.foldl (advanceDevices (fun _ => "s") 600) noDevices

/-- Carol and Dave trust a device. Their sign-ins overlap, and the cookie that Carol's has
replaced is refused while the new one is good. -/
private def twoDevices : List DeviceTurn :=
  [.trust "carol" "x", .trust "dave" "y", .step 0, .step 1, .signIn "carol" "s!trust-device-x" "a",
    .signIn "dave" "s!trust-device-y" "b", .step 2, .step 3, .step 2, .step 3, .step 3, .step 2, .wait 5, .step 2,
    .step 3, .signIn "carol" "s!trust-device-x" "c", .signIn "carol" "s!trust-device-a" "d", .step 4, .step 5, .step 5,
    .step 4, .step 5, .step 5]

theorem trusted_device_single_use_rotated :
    (afterTurns twoDevices).threads.filterMap DeviceThread.skipped =
        ["trust-device-x", "trust-device-y", "trust-device-a"] ∧ DeviceUse (afterTurns twoDevices) := by
  have hreached : Reached (advanceDevices (fun _ => "s") 600)
      (fun devices event => keepsApart (fun _ => "s") devices event = true) noDevices (afterTurns twoDevices) :=
    Reached.start.of_admits (fun _ _ h => h) (by decide +kernel)
  exact ⟨by decide +kernel, trusted_device_single_use rfl hreached⟩

private def oneCookie : List DeviceTurn :=
  [.trust "carol" "x", .step 0, .signIn "carol" "s!trust-device-x" "a", .signIn "carol" "s!trust-device-x" "b",
    .step 1, .step 2, .step 1, .step 2, .step 1, .step 2, .step 1, .step 2]

/-- Both sign-ins find the record before one of them deletes it. -/
theorem trusted_device_used_twice : ¬ DeviceUse (afterTurns oneCookie) :=
  fun h => absurd h.once (by decide +kernel)

end singleauth.twofactor
