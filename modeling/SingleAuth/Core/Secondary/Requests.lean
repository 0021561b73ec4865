import Mathlib.Data.List.Pairwise
import SingleAuth.Lib.Text
import SingleAuth.Core.Secondary.Sessions

open dict expiring script

namespace singleauth.secondary

/-! ## Requests -/

inductive Request where
  | store (session : Session) (user : Dict String) (token userID : String) (expiresAt : Int)
  | update (token : String) (change : SessionUpdate)
  | delete (token : String)
  | deleteUser (userID : String)

def Request.script : Request → Script Cached
  | .store session user token userID expiresAt => storeSecondarySessionPayload session user token userID expiresAt
  | .update token change => updateStoredSession token change
  | .delete token => deleteStoredSession token
  | .deleteUser userID => deleteSecondaryUserSessions userID

structure Index where
  (token userID : String)
  expiresAt : Int

/-- The index that a session is stored under, if it lives for a second. -/
def indexAt (now : Int) (token userID : String) (expiresAt : Int) : Option Index :=
  if token = "" ∨ userID = "" ∨ secondaryTTL expiresAt now ≤ 0 then none else some { token, userID, expiresAt }

/-- The index under which a request stores a session. -/
def storedAs (store : Store Cached) (now : Int) : Request → Option Index
  | .store _ _ token userID expiresAt => indexAt now token userID expiresAt
  | .update token change =>
    match loadSecondarySession store token with
    | none => none
    | some (session, _) =>
      match (session.apply change).userID, (session.apply change).expiresAt with
      | some userID, some expiresAt => indexAt now token userID expiresAt
      | _, _ => none
  | _ => none

/-- The store, and every token with the user that it was ever stored for. -/
structure State where
  store : Store Cached
  owners : List (String × String)

def step (state : State) : Int × Request → State
  | (now, request) =>
    let store := advance state.store now
    { store := run now request.script store
      owners := state.owners ++ ((storedAs store now request).toList.map fun index => (index.token, index.userID)) }

def isListKey (token : String) : Bool := text.hasPrefix token activeSessionsPrefix

theorem listKey_inj {left right : String} : listKey left = listKey right ↔ left = right := by
  simp [listKey, String.ext_iff]

theorem isListKey_listKey (userID : String) : isListKey (listKey userID) = true := by
  simp [isListKey, listKey, text.hasPrefix, activeSessionsPrefix]

theorem ne_listKey {token : String} (h : isListKey token = false) (userID : String) : token ≠ listKey userID := by
  rintro rfl
  rw [isListKey_listKey] at h
  cases h

/-! ## Lists of sessions -/

variable {entries : List ActiveSessionEntry} {entry : ActiveSessionEntry}

theorem mem_sortEntries : entry ∈ sortEntries entries ↔ entry ∈ entries :=
  List.mem_insertionSort _

/-- No entry of a sorted list expires behind its last one. -/
theorem le_getLast_sortEntries (h : entry ∈ entries) :
    ∃ last, (sortEntries entries).getLast? = some last ∧ entry.expiresAt ≤ last.expiresAt := by
  have hsorted : (sortEntries entries).Pairwise fun left right => left.expiresAt ≤ right.expiresAt :=
    List.pairwise_insertionSort _ _
  have hmem := mem_sortEntries.mpr h
  have hne : sortEntries entries ≠ [] := List.ne_nil_of_mem hmem
  refine ⟨(sortEntries entries).getLast hne, List.getLast?_eq_getLast_of_ne_nil hne, ?_⟩
  exact hsorted.rel_getLast_of_rel_getLast_getLast hmem le_rfl

/-- The list that a session is put into is kept at least as long as the session. -/
theorem secondaryTTL_le_listTTL {now expiresAt : Int} (token : String) (found : Option Cached)
    (h : 0 < secondaryTTL expiresAt now) :
    secondaryTTL expiresAt now ≤ listTTL now (listWith now token expiresAt found) := by
  have hbound : secondaryTTL expiresAt now ≤ (unixMilli expiresAt - unixMilli now) / 1000 := by
    obtain ⟨hpositive, heq⟩ := secondaryTTL_eq h
    rw [heq]
    unfold unixMilli
    omega
  have hmem : (⟨token, unixMilli expiresAt⟩ : ActiveSessionEntry) ∈
      keepActive now token (secondarySessionList found) ++ [⟨token, unixMilli expiresAt⟩] :=
    List.mem_concat_self
  obtain ⟨last, hlast, hle⟩ := le_getLast_sortEntries hmem
  dsimp only at hle
  rw [listWith, listTTL, hlast, Option.map_some, Option.getD_some, Int.tdiv_eq_ediv_of_nonneg (by omega)]
  omega

/-- An entry whose session key is alive has not expired either. -/
theorem mem_keepActive {now deadline : Int}
    {token : String} (h : entry ∈ entries) (htoken : entry.token ≠ token) (hdeadline : deadline ≤ entry.expiresAt * 1000000)
    (halive : now < deadline) : entry ∈ keepActive now token entries := by
  have hactive : unixMilli now < entry.expiresAt := by
    unfold unixMilli
    omega
  exact List.mem_filter.mpr ⟨h, by simpa using ⟨hactive, htoken⟩⟩

/-! ## What requests do -/

/-- The store after a session is put into the list of its user and under its token. -/
def stored (store : Store Cached) (now : Int) (index : Index) (payload : Cached) : Store Cached :=
  let list := listWith now index.token index.expiresAt (get store (listKey index.userID))
  expiring.set (expiring.set store now (listKey index.userID) (.list list) (listTTL now list)) now index.token payload
    (secondaryTTL index.expiresAt now)

/-- The store after a session is taken out of the list of a user and deleted. -/
def removed (store : Store Cached) (now : Int) (token userID : String) : Store Cached :=
  let list := listWithout now token (get store (listKey userID))
  expiring.delete
    (if list = [] then expiring.delete store (listKey userID)
      else expiring.set store now (listKey userID) (.list list) (listTTL now list)) token

def revoked (store : Store Cached) (userID : String) : Store Cached :=
  expiring.delete (((secondarySessionList (get store (listKey userID))).map ActiveSessionEntry.token).foldl
    expiring.delete store) (listKey userID)

theorem run_store {store : Store Cached} {now : Int} {session : Session} {user : Dict String} {token userID : String}
    {expiresAt : Int} :
    match indexAt now token userID expiresAt with
    | none => run now (storeSecondarySessionPayload session user token userID expiresAt) store = store
    | some index =>
      0 < secondaryTTL index.expiresAt now ∧
        run now (storeSecondarySessionPayload session user token userID expiresAt) store =
          stored store now index (.payload (normalizeSecondaryRecord session) user) := by
  unfold indexAt storeSecondarySessionPayload
  by_cases hempty : token = "" ∨ userID = ""
  · rw [if_pos (or_assoc.mp (.inl hempty)), if_pos hempty]
    rfl
  by_cases httl : secondaryTTL expiresAt now ≤ 0
  · simp [run, hempty, httl]
  rw [if_neg (not_or.mpr ⟨hempty, httl⟩ ∘ or_assoc.mpr), if_neg hempty]
  have hpositive : 0 < secondaryTTL expiresAt now := by omega
  refine ⟨hpositive, ?_⟩
  have hlist : 0 < listTTL now (listWith now token expiresAt (get store (listKey userID))) :=
    lt_of_lt_of_le hpositive (secondaryTTL_le_listTTL token _ hpositive)
  simp only [run, if_neg httl, if_pos hlist, stored]

/-- What a request does to the store at a time. -/
inductive Effect (store : Store Cached) (now : Int) (request : Request) : Store Cached → Prop where
  | unchanged (hnone : storedAs store now request = none) : Effect store now request store
  | stored {index : Index} (session : Session) (user : Dict String) (hindex : storedAs store now request = some index)
    (hpositive : 0 < secondaryTTL index.expiresAt now) :
    Effect store now request (stored store now index (.payload session user))
  | removed {token : String} {session : Session} {user : Dict String} (hrequest : request = .delete token)
    (hload : loadSecondarySession store token = some (session, user)) :
    Effect store now request (removed store now token (session.userID.getD ""))
  | deleted {token : String} (hrequest : request = .delete token) :
    Effect store now request (expiring.delete store token)
  | revoked {userID : String} (hrequest : request = .deleteUser userID) :
    Effect store now request (revoked store userID)

section

variable (store : Store Cached) (now : Int)

theorem effect_store (request : Request) (session : Session) (user : Dict String)
    {token userID : String} {expiresAt : Int} (h : storedAs store now request = indexAt now token userID expiresAt) :
    Effect store now request (run now (storeSecondarySessionPayload session user token userID expiresAt) store) := by
  have hrun := @run_store store now session user token userID expiresAt
  cases hindex : indexAt now token userID expiresAt with
  | none =>
    simp only [hindex] at hrun
    rw [hrun]
    exact .unchanged (h.trans hindex)
  | some index =>
    simp only [hindex] at hrun
    rw [hrun.2]
    exact .stored _ _ (h.trans hindex) hrun.1

theorem run_deleteUser (userID : String) :
    run now (deleteSecondaryUserSessions userID) store = revoked store userID := by
  simp only [deleteSecondaryUserSessions, run, run_deleteEach, revoked]

theorem effect_run (request : Request) : Effect store now request (run now request.script store) := by
  cases request with
  | store session user token userID expiresAt => exact effect_store store now _ session user rfl
  | update token change =>
    simp only [Request.script, updateStoredSession, run]
    split
    · next session user hfound =>
      have hload : loadSecondarySession store token = some (session, user) := by rw [loadSecondarySession, hfound]
      split
      · next userID expiresAt huser hexpires =>
        apply effect_store store now
        simp only [storedAs, hload, huser, hexpires]
      · next hfields =>
        refine .unchanged ?_
        simp only [storedAs, hload]
    · next hfound =>
      have hload : loadSecondarySession store token = none := by
        unfold loadSecondarySession
        split
        · next session user hpayload => exact absurd hpayload (hfound session user)
        · rfl
      exact .unchanged (by simp only [storedAs, hload])
  | delete token =>
    simp only [Request.script, deleteStoredSession, run]
    split
    · next session user hfound =>
      have hload : loadSecondarySession store token = some (session, user) := by rw [loadSecondarySession, hfound]
      have hremoved : Effect store now (.delete token) (removed store now token (session.userID.getD "")) :=
        .removed rfl hload
      simp only [removed] at hremoved
      simp only [removeSession, run]
      split
      · next hempty =>
        rw [if_pos hempty] at hremoved
        exact hremoved
      · next hsome =>
        rw [if_neg hsome] at hremoved
        exact hremoved
    · exact .deleted rfl
  | deleteUser userID =>
    rw [Request.script, run_deleteUser]
    exact .revoked rfl

end

/-! ## A new expiry -/

/-- What is read of a session with a new expiry has that one, and it lies ahead. -/
def TakesEffect (store : Store Cached) (now : Int) (token : String) (expiresAt : Int) : Prop :=
  ∀ session user, loadSecondarySession store token = some (session, user) →
    session.expiresAt = some expiresAt ∧ now < expiresAt

theorem takesEffect_iff {store : Store Cached} {token : String} {session : Session} {user : Dict String}
    (hload : loadSecondarySession store token = some (session, user)) {now expiresAt : Int} :
    TakesEffect store now token expiresAt ↔ session.expiresAt = some expiresAt ∧ now < expiresAt := by
  simp [TakesEffect, hload]

/-- A new expiry takes effect where the session is stored anew, to the millisecond. Without a second to live it is
not, and the old one stays. -/
theorem update_takesEffect_iff {store : Store Cached} {token : String} {session : Session} {user : Dict String}
    (hstored : get store token = some (.payload session user)) {change : SessionUpdate} {expiresAt : Int}
    (hchange : change.expiresAt = some (some expiresAt)) (now : Int) :
    TakesEffect (run now (updateStoredSession token change) store) now token expiresAt ↔
      match storedAs store now (.update token change) with
      | some _ => toMillisecond expiresAt = expiresAt
      | none => session.expiresAt = some expiresAt ∧ now < expiresAt := by
  have hload : loadSecondarySession store token = some (session, user) := by rw [loadSecondarySession, hstored]
  have hexpires : (session.apply change).expiresAt = some expiresAt := by rw [Session.apply, hchange, Option.getD_some]
  simp only [updateStoredSession, run, hstored, storedAs, hload, hexpires]
  cases (session.apply change).userID with
  | none => exact takesEffect_iff hload
  | some userID =>
    have hrun := @run_store store now (session.apply change) user token userID expiresAt
    dsimp only
    cases hindex : indexAt now token userID expiresAt with
    | none =>
      simp only [hindex] at hrun
      rw [hrun]
      exact takesEffect_iff hload
    | some index =>
      simp only [hindex] at hrun
      unfold indexAt at hindex
      split at hindex
      · cases hindex
      cases hindex
      obtain ⟨hpositive, hrun⟩ := hrun
      dsimp only at hpositive
      have hlater := (secondaryTTL_eq hpositive).1
      rw [hrun, takesEffect_iff (by rw [loadSecondarySession, stored, get_set_of_pos _ _ _ _ hpositive]),
        normalizeSecondaryRecord, hexpires, Option.map_some, Option.some_inj]
      exact and_iff_left (by omega)

/-- A session of ten seconds. -/
def tenSeconds : Store Cached :=
  expiring.set .empty 0 "t" (.payload ⟨some "u", some 10000000000, .empty⟩ .empty) 10

theorem update_takesEffect_five :
    TakesEffect (run 0 (updateStoredSession "t" { expiresAt := some (some 5000000000) }) tenSeconds) 0 "t" 5000000000 :=
  (update_takesEffect_iff (get_set_of_pos _ _ _ _ (by decide)) rfl 0).mpr
    (show toMillisecond 5000000000 = 5000000000 by decide)

/-- A session that is ended by a new expiry goes on until its old one. -/
theorem update_keeps_expiry :
    ¬ TakesEffect (run 0 (updateStoredSession "t" { expiresAt := some (some 0) }) tenSeconds) 0 "t" 0 := by
  intro h
  have hold := h ⟨some "u", some 10000000000, .empty⟩ .empty rfl
  exact absurd hold.2 (by decide)

end singleauth.secondary
