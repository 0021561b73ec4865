import SingleAuth.Lib.Transition
import SingleAuth.Core.Secondary.Requests

open dict expiring script transition

namespace singleauth.secondary

/-! ## Lists that outlive their sessions -/

/-- While the token has a key, the list of the user has an entry of it, and neither the
entry nor the list expires before the key. -/
def Covered (store : Store Cached) (token userID : String) : Prop :=
  ∀ held, store.get? token = some held →
    ∃ entries deadline, store.get? (listKey userID) = some { value := .list entries, deadline } ∧
      held.deadline ≤ deadline ∧ ∃ entry ∈ entries, entry.token = token ∧ held.deadline ≤ entry.expiresAt * 1000000

/-- No listed session key lives beyond the deadline. -/
def OutlivedBy (store : Store Cached) (entries : List ActiveSessionEntry) (deadline : Int) : Prop :=
  ∀ entry ∈ entries, ∀ held, store.get? entry.token = some held → held.deadline ≤ deadline

section

variable {store changed : Store Cached} {now : Int} {token other userID key : String} {list : List ActiveSessionEntry}
  {held : Entry Cached}

theorem secondarySessionList_get {entries : List ActiveSessionEntry} {deadline : Int}
    (h : store.get? key = some { value := .list entries, deadline }) :
    secondarySessionList (get store key) = entries := by
  simp [expiring.get, h, secondarySessionList]

/-- What is left was there, and not under a token in the list of the user. -/
theorem get?_of_revoked (h : (revoked store userID).get? key = some held) :
    key ∉ (secondarySessionList (get store (listKey userID))).map ActiveSessionEntry.token ∧ store.get? key = some held := by
  have h := get?_of_delete h
  rw [get?_foldl_delete] at h
  split at h
  · cases h
  · next hmem => exact ⟨hmem, h⟩

section

variable (h : Covered store token userID)
include h

theorem Covered.advance (now : Int) : Covered (advance store now) token userID := by
  intro held hheld
  obtain ⟨hbefore, halive⟩ := get?_advance_eq_some_iff.mp hheld
  obtain ⟨entries, deadline, hlist, hdeadline, hentry⟩ := h held hbefore
  exact ⟨entries, deadline, get?_advance_eq_some_iff.mpr ⟨hlist, lt_of_lt_of_le halive hdeadline⟩, hdeadline, hentry⟩

/-- The list stays, and the key is left alone or deleted. -/
theorem Covered.frame (hkey : ∀ held, changed.get? token = some held → store.get? token = some held)
    (hlist : changed.get? (listKey userID) = store.get? (listKey userID)) : Covered changed token userID := by
  intro held hheld
  rw [hlist]
  exact h held (hkey held hheld)

/-- A live session of a covered token has an entry among those that a new list keeps. -/
theorem Covered.mem_keepActive (hne : token ≠ other)
    (hheld : store.get? token = some held) (halive : now < held.deadline) :
    ∃ entry ∈ keepActive now other (secondarySessionList (get store (listKey userID))),
      entry.token = token ∧ held.deadline ≤ entry.expiresAt * 1000000 := by
  obtain ⟨entries, deadline, hlist, _, entry, hentry, rfl, hexpires⟩ := h held hheld
  rw [secondarySessionList_get hlist]
  exact ⟨entry, secondary.mem_keepActive hentry hne hexpires halive, rfl, hexpires⟩

/-- The list is written anew with all entries that are still active, and it outlives
their keys. -/
theorem Covered.rewrite (hne : token ≠ other) (halive : ∀ held, store.get? token = some held → now < held.deadline)
    (hkey : ∀ held, changed.get? token = some held → store.get? token = some held)
    (hkept : ∀ entry ∈ keepActive now other (secondarySessionList (get store (listKey userID))), entry ∈ list)
    (houtlived : OutlivedBy store (keepActive now other (secondarySessionList (get store (listKey userID))))
      (now + listTTL now list * 1000000000))
    (hlist : list ≠ [] → 0 < listTTL now list → changed.get? (listKey userID) =
      some { value := .list list, deadline := now + listTTL now list * 1000000000 }) :
    Covered changed token userID := by
  intro held hheld
  have hbefore := hkey held hheld
  obtain ⟨entry, hentry, htoken, hexpires⟩ := h.mem_keepActive hne hbefore (halive held hbefore)
  have hdeadline := houtlived entry hentry held (htoken ▸ hbefore)
  have hpositive : 0 < listTTL now list := by
    have := halive held hbefore
    omega
  have hmem := hkept entry hentry
  exact ⟨list, _, hlist (List.ne_nil_of_mem hmem) hpositive, hdeadline, entry, hmem, htoken, hexpires⟩

/-- A covered token is among those that are revoked with its user. -/
theorem Covered.revoked : (secondary.revoked store userID).get? token = none := by
  refine Option.eq_none_iff_forall_not_mem.mpr fun held hheld => ?_
  obtain ⟨hmem, hheld⟩ := get?_of_revoked (Option.mem_def.mp hheld)
  obtain ⟨entries, deadline, hlist, _, entry, hentry, rfl, _⟩ := h held hheld
  apply hmem
  rw [secondarySessionList_get hlist]
  exact List.mem_map_of_mem hentry

end

/-- No listed token looks like the key of a list. -/
def PlainLists (store : Store Cached) : Prop :=
  ∀ key held, store.get? key = some held → ∀ entry ∈ secondarySessionList (some held.value), isListKey entry.token = false

section

variable (h : PlainLists store)
include h

theorem PlainLists.set (key : String) {value : Cached} (ttl : Int)
    (hplain : ∀ entry ∈ secondarySessionList (some value), isListKey entry.token = false) :
    PlainLists (expiring.set store now key value ttl) := by
  intro other held hheld
  rcases get?_of_set hheld with ⟨_, hvalue⟩ | hbefore
  · rw [hvalue]
    exact hplain
  · exact h other held hbefore

theorem PlainLists.delete (key : String) : PlainLists (expiring.delete store key) :=
  fun other held hheld => h other held (get?_of_delete hheld)

theorem PlainLists.get (key : String) :
    ∀ entry ∈ secondarySessionList (get store key), isListKey entry.token = false := by
  cases hheld : store.get? key with
  | none => simp [expiring.get, hheld, secondarySessionList]
  | some held => simpa [expiring.get, hheld] using h key held hheld

/-- The tokens of a rewritten list are tokens of the old one. -/
theorem PlainLists.keepActive (key : String) :
    ∀ entry ∈ keepActive now token (secondarySessionList (expiring.get store key)), isListKey entry.token = false :=
  fun entry hentry => h.get key entry (List.mem_of_mem_filter hentry)

end

variable {request : Request} {index : Index}

theorem effect_plain (h : PlainLists store)
    (htoken : ∀ index, storedAs store now request = some index → isListKey index.token = false)
    (heffect : Effect store now request changed) : PlainLists changed := by
  cases heffect with
  | unchanged hnone => exact h
  | stored session user hindex hpositive =>
    refine (h.set _ _ fun entry hentry => ?_).set _ _ fun _ hentry => absurd hentry List.not_mem_nil
    rcases List.mem_append.mp (mem_sortEntries.mp hentry) with hkept | hnew
    · exact h.keepActive _ entry hkept
    · rw [List.mem_singleton.mp hnew]
      exact htoken _ hindex
  | removed hrequest hload =>
    refine PlainLists.delete ?_ _
    split
    · exact h.delete _
    · exact h.set _ _ fun entry hentry => h.keepActive _ entry (mem_sortEntries.mp hentry)
  | deleted hrequest => exact h.delete _
  | revoked hrequest => exact fun key held hheld => h key held (get?_of_revoked hheld).2

/-! ## Runs -/

/-- The session is stored under a token that is no key of a list, its key is dropped by
the millisecond of its expiry, and the list of its user is kept as long as the keys of
the other sessions in it. -/
def StoresTimely (store : Store Cached) (now : Int) (index : Index) : Prop :=
  let found := expiring.get store (listKey index.userID)
  isListKey index.token = false ∧
    now + secondaryTTL index.expiresAt now * 1000000000 ≤ toMillisecond index.expiresAt ∧
    OutlivedBy store (secondary.keepActive now index.token (secondarySessionList found))
      (now + listTTL now (listWith now index.token index.expiresAt found) * 1000000000)

/-- The same for the list that a deletion writes anew. -/
def DeletesTimely (store : Store Cached) (now : Int) (token : String) : Prop :=
  isListKey token = false ∧ ∀ session user, loadSecondarySession store token = some (session, user) →
    let found := expiring.get store (listKey (session.userID.getD ""))
    OutlivedBy store (secondary.keepActive now token (secondarySessionList found))
      (now + listTTL now (listWithout now token found) * 1000000000)

/-- The condition on a request. A token is never stored for a second user. -/
def Timely (state : State) : Int × Request → Prop
  | (now, request) =>
    let store := advance state.store now
    (∀ index, storedAs store now request = some index →
      StoresTimely store now index ∧ ∀ userID, (index.token, userID) ∈ state.owners → userID = index.userID) ∧
    ∀ token, request = .delete token → DeletesTimely store now token

/-- A stored session is covered by the list that it is put into. -/
theorem stored_covered (payload : Cached) (hpositive : 0 < secondaryTTL index.expiresAt now)
    (htimely : StoresTimely store now index) : Covered (stored store now index payload) index.token index.userID := by
  obtain ⟨htoken, hdeadline, _⟩ := htimely
  have hlist := secondaryTTL_le_listTTL index.token (expiring.get store (listKey index.userID)) hpositive
  intro held hheld
  rw [stored, get?_set_of_pos _ _ _ _ hpositive] at hheld
  cases hheld
  have hkey : (stored store now index payload).get? (listKey index.userID) =
      some ⟨.list (listWith now index.token index.expiresAt (expiring.get store (listKey index.userID))),
        now + listTTL now (listWith now index.token index.expiresAt (expiring.get store (listKey index.userID))) *
          1000000000⟩ := by
    rw [stored, get?_set_of_ne _ _ _ _ (Ne.symm (ne_listKey htoken index.userID))]
    exact get?_set_of_pos _ _ _ _ (lt_of_lt_of_le hpositive hlist)
  have hmem : (⟨index.token, unixMilli index.expiresAt⟩ : ActiveSessionEntry) ∈
      listWith now index.token index.expiresAt (expiring.get store (listKey index.userID)) :=
    mem_sortEntries.mpr List.mem_concat_self
  refine ⟨_, _, hkey, ?_, _, hmem, rfl, hdeadline⟩
  dsimp only
  omega

theorem effect_stored (hindex : storedAs store now request = some index)
    (htimely : StoresTimely store now index) (heffect : Effect store now request changed) :
    Covered changed index.token index.userID := by
  cases heffect with
  | unchanged hnone =>
    rw [hnone] at hindex
    cases hindex
  | stored session user hother hpositive =>
    cases hindex.symm.trans hother
    exact stored_covered _ hpositive htimely
  | removed hrequest | deleted hrequest | revoked hrequest =>
    subst hrequest
    cases hindex

/-- A session stays covered when those of another user are revoked. -/
theorem Covered.revoked_other {other : String} (hcovered : Covered store token userID) (hplain : PlainLists store)
    (huser : userID ≠ other) : Covered (secondary.revoked store other) token userID := by
  refine hcovered.frame (fun held hheld => (get?_of_revoked hheld).2) ?_
  rw [secondary.revoked, get?_delete, if_neg (mt listKey_inj.mp huser), get?_foldl_delete, if_neg]
  -- No listed token is the key of another user's list.
  intro hmem
  obtain ⟨entry, hentry, hkey⟩ := List.mem_map.mp hmem
  exact ne_listKey (hplain.get _ entry hentry) userID hkey

section

variable (htoken : isListKey token = false) (hcovered : Covered store token userID)
  (halive : ∀ held, store.get? token = some held → now < held.deadline)
include htoken hcovered halive

theorem Covered.stored_other (payload : Cached) (htimely : StoresTimely store now index) (hne : token ≠ index.token) :
    Covered (stored store now index payload) token userID := by
  have hkey : ∀ held, (secondary.stored store now index payload).get? token = some held → store.get? token = some held := by
    intro held hheld
    rwa [secondary.stored, get?_set_of_ne _ _ _ _ hne,
      get?_set_of_ne _ _ _ _ (ne_listKey htoken index.userID)] at hheld
  by_cases huser : userID = index.userID
  · subst huser
    refine hcovered.rewrite hne halive hkey (fun entry hentry => ?_) htimely.2.2 fun _ hlist => ?_
    · exact mem_sortEntries.mpr (List.mem_append_left _ hentry)
    · rw [secondary.stored, get?_set_of_ne _ _ _ _ (Ne.symm (ne_listKey htimely.1 index.userID))]
      exact get?_set_of_pos _ _ _ _ hlist
  · refine hcovered.frame hkey ?_
    rw [secondary.stored, get?_set_of_ne _ _ _ _ (Ne.symm (ne_listKey htimely.1 userID)),
      get?_set_of_ne _ _ _ _ (mt listKey_inj.mp huser)]

/-- A session is gone or stays covered when one is taken out of the list of its user. -/
theorem Covered.removed {other : String} {session : Session} {user : Dict String}
    (htimely : DeletesTimely store now other) (hload : loadSecondarySession store other = some (session, user)) :
    Covered (removed store now other (session.userID.getD "")) token userID := by
  obtain ⟨hother, houtlived⟩ := htimely
  by_cases hsame : token = other
  · intro held hheld
    rw [secondary.removed, get?_delete, if_pos hsame] at hheld
    cases hheld
  have hkey : ∀ held, (secondary.removed store now other (session.userID.getD "")).get? token = some held →
      store.get? token = some held := by
    intro held hheld
    have hheld := get?_of_delete hheld
    split at hheld
    · exact get?_of_delete hheld
    · rwa [get?_set_of_ne _ _ _ _ (ne_listKey htoken _)] at hheld
  by_cases huser : userID = session.userID.getD ""
  · subst huser
    have hkept : ∀ entry ∈ secondary.keepActive now other
        (secondarySessionList (expiring.get store (listKey (session.userID.getD "")))),
        entry ∈ listWithout now other (expiring.get store (listKey (session.userID.getD ""))) :=
      fun entry hentry => mem_sortEntries.mpr hentry
    refine hcovered.rewrite hsame halive hkey hkept (houtlived session user hload) fun hne hlist => ?_
    rw [secondary.removed, get?_delete, if_neg (Ne.symm (ne_listKey hother _)), if_neg hne]
    exact get?_set_of_pos _ _ _ _ hlist
  refine hcovered.frame hkey ?_
  rw [secondary.removed, get?_delete, if_neg (Ne.symm (ne_listKey hother userID))]
  split
  · rw [get?_delete, if_neg (mt listKey_inj.mp huser)]
  · rw [get?_set_of_ne _ _ _ _ (mt listKey_inj.mp huser)]

/-- A live session that is covered stays so through every timely request. -/
theorem effect_covered (hplain : PlainLists store) (hstores : ∀ index, storedAs store now request = some index →
      StoresTimely store now index ∧ (index.token = token → index.userID = userID))
    (hdeletes : ∀ other, request = .delete other → DeletesTimely store now other)
    (heffect : Effect store now request changed) : Covered changed token userID := by
  cases heffect with
  | unchanged hnone => exact hcovered
  | @stored index session user hindex hpositive =>
    obtain ⟨htimely, howner⟩ := hstores index hindex
    by_cases hsame : index.token = token
    · rw [← hsame, ← howner hsame]
      exact stored_covered _ hpositive htimely
    · exact hcovered.stored_other htoken halive _ htimely (Ne.symm hsame)
  | @removed other session user hrequest hload => exact hcovered.removed htoken halive (hdeletes other hrequest) hload
  | @deleted other hrequest =>
    refine hcovered.frame (fun held => get?_of_delete) ?_
    rw [get?_delete, if_neg (Ne.symm (ne_listKey (hdeletes other hrequest).1 userID))]
  | @revoked other hrequest =>
    by_cases huser : userID = other
    · subst huser
      intro held hheld
      rw [hcovered.revoked] at hheld
      cases hheld
    · exact hcovered.revoked_other hplain huser

end

/-- Every token that was stored is covered by the list of its user. -/
structure Indexed (state : State) : Prop where
  plain : PlainLists state.store
  covered : ∀ token userID, (token, userID) ∈ state.owners → isListKey token = false ∧ Covered state.store token userID

theorem step_indexed {state : State} {event : Int × Request} (h : Indexed state) (htimely : Timely state event) :
    Indexed (step state event) := by
  obtain ⟨now, request⟩ := event
  obtain ⟨hstores, hdeletes⟩ := htimely
  have heffect := effect_run (advance state.store now) now request
  have hplain : PlainLists (advance state.store now) :=
    fun key held hheld => h.plain key held (get?_advance_eq_some_iff.mp hheld).1
  have halive : ∀ token held, (advance state.store now).get? token = some held → now < held.deadline :=
    fun _ _ hheld => (get?_advance_eq_some_iff.mp hheld).2
  refine ⟨effect_plain hplain (fun index hindex => (hstores index hindex).1.1) heffect, fun token userID hmem => ?_⟩
  rcases List.mem_append.mp hmem with hold | hnew
  · obtain ⟨htoken, hcovered⟩ := h.covered token userID hold
    refine ⟨htoken, effect_covered htoken (hcovered.advance now) (halive token) hplain (fun index hindex => ?_) hdeletes
      heffect⟩
    refine ⟨(hstores index hindex).1, fun hsame => ?_⟩
    exact ((hstores index hindex).2 userID (by rw [hsame]; exact hold)).symm
  obtain ⟨index, hindex, hpair⟩ := List.mem_map.mp hnew
  cases hpair
  have hindex : storedAs (advance state.store now) now request = some index := by simpa using hindex
  obtain ⟨htimely, _⟩ := hstores index hindex
  exact ⟨htimely.1, effect_stored hindex htimely heffect⟩

/-- In every run of timely requests, when the sessions of a user are revoked, no token
that was ever stored for the user has a session any more. -/
theorem reached_revoked {state : State} (hreached : Reached step Timely { store := .empty, owners := [] } state)
    (now : Int) (userID : String) :
    ∀ token, (token, userID) ∈ state.owners →
      loadSecondarySession (step state (now, .deleteUser userID)).store token = none := by
  have hindexed : Indexed state := by
    refine hreached.invariant Indexed ⟨fun key held hheld => ?_, fun token userID hmem => ?_⟩ fun _ _ => step_indexed
    · cases hheld
    · exact absurd hmem List.not_mem_nil
  intro token hmem
  obtain ⟨_, hcovered⟩ := hindexed.covered token userID hmem
  have hgone : (step state (now, .deleteUser userID)).store.get? token = none := by
    rw [step, Request.script, run_deleteUser]
    exact (hcovered.advance now).revoked
  rw [loadSecondarySession, expiring.get, hgone, Option.map_none]

end

/-! ## Sessions of one user -/

private def outlivedCheck (store : Store Cached) (entries : List ActiveSessionEntry) (deadline : Int) : Bool :=
  entries.all fun entry => (store.get? entry.token).all fun held => held.deadline ≤ deadline

/-- A check of requests that store a session. -/
private def storeCheck (state : State) : Int × Request → Bool
  | (now, .store _ _ token userID expiresAt) =>
    let store := advance state.store now
    let found := expiring.get store (listKey userID)
    !isListKey token && (state.owners.all fun (other, owner) => other ≠ token || owner = userID) &&
      decide (now + secondaryTTL expiresAt now * 1000000000 ≤ toMillisecond expiresAt) &&
      outlivedCheck store (keepActive now token (secondarySessionList found))
        (now + listTTL now (listWith now token expiresAt found) * 1000000000)
  | _ => false

private theorem timely_of_check {state : State} {event : Int × Request} (h : storeCheck state event = true) :
    Timely state event := by
  obtain ⟨now, request⟩ := event
  cases request with
  | store session user token userID expiresAt =>
    simp only [storeCheck, Bool.and_eq_true] at h
    obtain ⟨⟨⟨htoken, howners⟩, hdeadline⟩, houtlived⟩ := h
    refine ⟨fun index hindex => ?_, fun other hrequest => by cases hrequest⟩
    have hstored : indexAt now token userID expiresAt = some index := hindex
    unfold indexAt at hstored
    split at hstored
    · cases hstored
    · cases hstored
      refine ⟨⟨by simpa using htoken, of_decide_eq_true hdeadline, fun entry hentry held hheld => ?_⟩,
        fun owner hmem => by simpa using List.all_eq_true.mp howners _ hmem⟩
      have hentry := List.all_eq_true.mp houtlived entry hentry
      rw [hheld] at hentry
      exact of_decide_eq_true hentry
  | update | delete | deleteUser => cases h

private def storeToken (token : String) (expiresAt : Int) : Request :=
  .store { userID := some "u", expiresAt := some expiresAt, fields := .empty } .empty token "u" expiresAt

/-- Two sessions that are stored on whole seconds are both revoked. -/
theorem reached_revoked_pair :
    let state := [((0 : Int), storeToken "a" 10000000000), (1000000000, storeToken "b" 5000000000)].foldl step
      { store := .empty, owners := [] }
    state.owners = [("a", "u"), ("b", "u")] ∧ (loadSecondarySession state.store "a").isSome ∧
      loadSecondarySession (step state (2000000000, .deleteUser "u")).store "a" = none ∧
      loadSecondarySession (step state (2000000000, .deleteUser "u")).store "b" = none := by
  intro state
  have hreached : Reached step Timely { store := .empty, owners := [] } state :=
    Reached.start.of_admits (fun _ _ => timely_of_check) (by decide)
  have howners : state.owners = [("a", "u"), ("b", "u")] := by decide
  refine ⟨howners, by decide, reached_revoked hreached _ _ _ ?_, reached_revoked hreached _ _ _ ?_⟩
  · rw [howners]
    exact List.mem_cons_self
  · rw [howners]
    exact List.mem_cons_of_mem _ List.mem_cons_self

/-- A second session half a second later shortens the life of the list: it is gone half
a second before the first session. -/
theorem revocation_misses_session :
    ¬ ∀ state, Reached step (fun _ _ => True) { store := .empty, owners := [] } state →
      ∀ now userID token, (token, userID) ∈ state.owners →
        loadSecondarySession (step state (now, .deleteUser userID)).store token = none := by
  intro h
  let state := [((0 : Int), storeToken "a" 10000000000), (500000000, storeToken "b" 5500000000)].foldl step
    { store := .empty, owners := [] }
  have hmem : ("a", "u") ∈ state.owners := by decide
  have hnone := h state (Reached.start.foldl fun _ _ _ => trivial) 9700000000 "u" "a" hmem
  have hsome : (loadSecondarySession (step state (9700000000, .deleteUser "u")).store "a").isSome := by decide
  rw [hnone] at hsome
  cases hsome

end singleauth.secondary
