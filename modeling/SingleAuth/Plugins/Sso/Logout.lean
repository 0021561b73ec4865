import SingleAuth.Lib.Fallible
import SingleAuth.Lib.Transition

open fallible transition

namespace singleauth.sso

/-- What is recorded of a session: its token, which stands for its id too, with the provider and the NameID that
established it. -/
structure SamlSessionRecord where
  (sessionToken providerID nameID : String)
  sessionIndex : String := ""

def SamlSessionRecord.complete (record : SamlSessionRecord) : Bool :=
  record.sessionToken ≠ "" && record.providerID ≠ "" && record.nameID ≠ ""

def samlSessionKey (providerID nameID : String) : String := "saml-session:" ++ providerID ++ ":" ++ nameID

def SamlSessionRecord.forwardKey (record : SamlSessionRecord) : String := samlSessionKey record.providerID record.nameID

/-- A session, or a verification row with its record. -/
structure SamlSession extends SamlSessionRecord where
  expiresAt : Int

/-- `accepted` is what the checks of the request, its reservation against a replay and
the building of the response say. -/
structure LogoutRequest where
  (providerID nameID : String)
  sessionIndexes : List String := []
  accepted : Bool := true

/-- Besides sign-ins, sign-outs and logouts, a session is renewed when it is used, time passes, and any flow that looks
for a verification deletes the rows that have expired. -/
inductive LogoutEvent where
  | signIn (session : SamlSession)
  | signOut (sessionToken : String)
  | logout (request : LogoutRequest)
  | renew (sessionToken : String) (expiresAt : Int)
  | wait (time : Nat)
  | cleanup

/-- The sessions of SAML sign-ins, with the verification rows under `saml-session:` and
under `saml-session-by-id:`, the latter with the time they expire at. -/
structure SamlSessions where
  sessions : List SamlSession := []
  forward : String → Option SamlSession := fun _ => none
  reverse : String → Option (String × Int) := fun _ => none
  now : Int := 0

namespace SamlSessions

variable (store : SamlSessions)

/-- A row is found also when it has expired. -/
def decodeSAMLSessionRecord (forwardKey : String) : Option SamlSession :=
  (store.forward forwardKey).filter (·.complete)

/-- An incomplete record is not stored, and the sign-in goes on without it. -/
def storeSAMLSession (session : SamlSession) : SamlSessions :=
  if session.complete = false then store
  else
    let reverse := Function.update store.reverse session.sessionToken (some (session.forwardKey, session.expiresAt))
    { store with
      forward := Function.update store.forward session.forwardKey (some session)
      reverse := match store.decodeSAMLSessionRecord session.forwardKey with
        | some old =>
          if old.sessionToken = session.sessionToken then reverse else Function.update reverse old.sessionToken none
        | none => reverse }

def deleteSession (sessionToken : String) : SamlSessions :=
  { store with sessions := store.sessions.filter (·.sessionToken ≠ sessionToken) }

def deleteSAMLSessionRecords (forwardKey : String) (record : SamlSession) : SamlSessions :=
  { store with
    forward := Function.update store.forward forwardKey none
    reverse := Function.update store.reverse record.sessionToken none }

def cleanupSAMLSessionOnSignOut (sessionToken : String) : SamlSessions :=
  match store.reverse sessionToken with
  | none => store
  | some (forwardKey, _) => match store.decodeSAMLSessionRecord forwardKey with
    | none => store
    | some record =>
      if record.sessionToken = sessionToken then store.deleteSAMLSessionRecords forwardKey record else store

def handleLogoutRequest (request : LogoutRequest) : Except String SamlSessions := do
  require (request.accepted = true) "Invalid LogoutRequest"
  let forwardKey := samlSessionKey request.providerID request.nameID
  match store.decodeSAMLSessionRecord forwardKey with
  | none => return store
  | some stored =>
    if (request.sessionIndexes = [] ∨ stored.sessionIndex = "" ∨ stored.sessionIndex ∈ request.sessionIndexes) ∧
        stored.providerID = request.providerID ∧ stored.nameID = request.nameID then
      return (store.deleteSession stored.sessionToken).deleteSAMLSessionRecords forwardKey stored
    else return store

/-- Only the session is updated, and its records expire when they did. -/
def updateStoredSession (sessionToken : String) (expiresAt : Int) : SamlSessions :=
  { store with
    sessions := store.sessions.map fun session =>
      if session.sessionToken = sessionToken then { session with expiresAt } else session }

def cleanupExpiredVerifications : SamlSessions :=
  { store with
    forward := fun key => (store.forward key).filter fun row => ¬ row.expiresAt < store.now
    reverse := fun token => (store.reverse token).filter fun row => ¬ row.2 < store.now }

def step : LogoutEvent → SamlSessions
  | .signIn session => { store with sessions := store.sessions ++ [session] }.storeSAMLSession session
  | .signOut sessionToken => (store.cleanupSAMLSessionOnSignOut sessionToken).deleteSession sessionToken
  | .logout request => (store.handleLogoutRequest request).toOption.getD store
  | .renew sessionToken expiresAt => store.updateStoredSession sessionToken expiresAt
  | .wait time => { store with now := store.now + time }
  | .cleanup => store.cleanupExpiredVerifications

/-- The sessions that have not expired. -/
def live : List SamlSession := store.sessions.filter fun session => store.now ≤ session.expiresAt

/-- A sign-in has a complete record and finds no live session with its key, and no session is renewed. -/
def signsInApart : LogoutEvent → Bool
  | .signIn session => session.complete && store.live.all fun other => other.forwardKey ≠ session.forwardKey
  | .renew sessionToken _ => store.sessions.all fun session => session.sessionToken ≠ sessionToken
  | _ => true

/-- Every live session is the one that the record under its key names, and the record lives as long. -/
def Recorded : Prop :=
  ∀ session ∈ store.live, store.decodeSAMLSessionRecord session.forwardKey = some session

end SamlSessions

variable {store after : SamlSessions} {request : LogoutRequest} {record session : SamlSession}

theorem SamlSessions.mem_live_iff : session ∈ store.live ↔ session ∈ store.sessions ∧ store.now ≤ session.expiresAt := by
  simp [live]

namespace SamlSessions.Recorded

variable (h : store.Recorded)
include h

/-- Only the session of a record goes with the record. -/
theorem delete {forwardKey : String} (hrecord : store.decodeSAMLSessionRecord forwardKey = some record) :
    ((store.deleteSession record.sessionToken).deleteSAMLSessionRecords forwardKey record).Recorded := by
  intro session hsession
  obtain ⟨hsession, hlives⟩ := mem_live_iff.mp hsession
  obtain ⟨hsession, hother⟩ := List.mem_filter.mp hsession
  have hfound := h session (mem_live_iff.mpr ⟨hsession, hlives⟩)
  have hkey : session.forwardKey ≠ forwardKey := by
    intro hkey
    rw [hkey, hrecord] at hfound
    cases hfound
    exact of_decide_eq_true hother rfl
  exact (congrArg (Option.filter _) (Function.update_of_ne hkey ..)).trans hfound

theorem deleteSession (sessionToken : String) : (store.deleteSession sessionToken).Recorded := by
  intro session hsession
  obtain ⟨hsession, hlives⟩ := mem_live_iff.mp hsession
  exact h session (mem_live_iff.mpr ⟨List.mem_of_mem_filter hsession, hlives⟩)

theorem signIn (hapart : store.signsInApart (.signIn record) = true) : (store.step (.signIn record)).Recorded := by
  obtain ⟨hcomplete, hfree⟩ := Bool.and_eq_true_iff.mp hapart
  change (storeSAMLSession _ record).Recorded
  rw [storeSAMLSession, if_neg (by rw [hcomplete]; decide)]
  intro session hsession
  unfold decodeSAMLSessionRecord
  obtain ⟨hsession, hlives⟩ := mem_live_iff.mp hsession
  rcases List.mem_append.mp hsession with hsession | hsession
  · have hlive := mem_live_iff.mpr ⟨hsession, hlives⟩
    have hkey : session.forwardKey ≠ record.forwardKey := of_decide_eq_true (List.all_eq_true.mp hfree session hlive)
    exact (congrArg (Option.filter _) (Function.update_of_ne hkey ..)).trans (h session hlive)
  · cases List.mem_singleton.mp hsession
    exact (congrArg (Option.filter _) (Function.update_self record.forwardKey (some record) store.forward)).trans
      (Option.filter_some_pos (p := fun session => session.complete) hcomplete)

theorem signOut (sessionToken : String) : (store.step (.signOut sessionToken)).Recorded := by
  unfold step cleanupSAMLSessionOnSignOut
  dsimp only
  split
  · exact h.deleteSession sessionToken
  split
  · exact h.deleteSession sessionToken
  rename_i record hrecord
  split
  · next htoken =>
    cases htoken
    exact h.delete hrecord
  · exact h.deleteSession sessionToken

theorem logout (hlogout : store.handleLogoutRequest request = .ok after) : after.Recorded := by
  obtain ⟨_, _, hlogout⟩ := bind_eq_ok_iff.mp hlogout
  dsimp only at hlogout
  split at hlogout
  · cases hlogout
    exact h
  rename_i stored hstored
  split at hlogout <;> cases hlogout
  · exact h.delete hstored
  · exact h

/-- A record that has expired is not the record of a live session. -/
theorem cleanup : store.cleanupExpiredVerifications.Recorded := by
  intro session hsession
  obtain ⟨hfound, hcomplete⟩ := Option.filter_eq_some_iff.mp (h session hsession)
  have hlives : store.now ≤ session.expiresAt := (mem_live_iff.mp hsession).2
  refine Option.filter_eq_some_iff.mpr ⟨Option.filter_eq_some_iff.mpr ⟨hfound, ?_⟩, hcomplete⟩
  simpa using hlives

theorem step {event : LogoutEvent} (hapart : store.signsInApart event = true) : (store.step event).Recorded := by
  cases event with
  | signIn record => exact h.signIn hapart
  | signOut sessionToken => exact h.signOut sessionToken
  | cleanup => exact h.cleanup
  | wait time =>
    intro session hsession
    obtain ⟨hsession, hlives⟩ := mem_live_iff.mp hsession
    have hlives : store.now + time ≤ session.expiresAt := hlives
    exact h session (mem_live_iff.mpr ⟨hsession, by omega⟩)
  | renew sessionToken expiresAt =>
    have hsame : store.step (.renew sessionToken expiresAt) = store := by
      refine congrArg (fun sessions => { store with sessions }) (List.map_congr_left (g := id) ?_ |>.trans (List.map_id _))
      intro session hsession
      exact if_neg (of_decide_eq_true (List.all_eq_true.mp hapart session hsession))
    rw [hsame]
    exact h
  | logout request =>
    change ((store.handleLogoutRequest request).toOption.getD store).Recorded
    cases hlogout : store.handleLogoutRequest request with
    | error => exact h
    | ok after => exact h.logout hlogout

end SamlSessions.Recorded

/-- While every sign-in has a key that no live session has, and no session is renewed, a logout without a session
index ends every session of the provider with the NameID. -/
theorem logout_complete (hreached : Reached SamlSessions.step (fun store event => store.signsInApart event) {} store)
    (hindexes : request.sessionIndexes = []) (hlogout : store.handleLogoutRequest request = .ok after) :
    ∀ session ∈ after.live, ¬(session.providerID = request.providerID ∧ session.nameID = request.nameID) := by
  have h : store.Recorded :=
    hreached.invariant SamlSessions.Recorded (fun _ hnone => absurd hnone List.not_mem_nil) fun _ _ h => h.step
  rintro session hsession ⟨hprovider, hname⟩
  obtain ⟨_, _, hlogout⟩ := bind_eq_ok_iff.mp hlogout
  rw [← hprovider, ← hname] at hlogout
  dsimp only at hlogout
  split at hlogout
  · next hnone =>
    cases hlogout
    cases hnone.symm.trans (h session hsession)
  rename_i stored hstored
  split at hlogout <;> cases hlogout
  · obtain ⟨hsession, hlives⟩ := SamlSessions.mem_live_iff.mp hsession
    obtain ⟨hsession, hother⟩ := List.mem_filter.mp hsession
    cases hstored.symm.trans (h session (SamlSessions.mem_live_iff.mpr ⟨hsession, hlives⟩))
    exact of_decide_eq_true hother rfl
  · next hkept =>
    cases hstored.symm.trans (h session hsession)
    exact hkept ⟨.inl hindexes, rfl, rfl⟩

private def inBrowser (sessionToken : String) (expiresAt : Int) : LogoutEvent :=
  .signIn { sessionToken, providerID := "acme", nameID := "ann", expiresAt }

private def logsOut : LogoutRequest := { providerID := "acme", nameID := "ann" }

private def logout (events : List LogoutEvent) : Except String SamlSessions :=
  (events.foldl SamlSessions.step {}).handleLogoutRequest logsOut

private def afterExpiry : List LogoutEvent := [inBrowser "t" 10, .wait 11, .cleanup, inBrowser "u" 30]

/-- Two sign-ins, the second one when the first session has expired. -/
theorem logout_complete_in_turn : ∃ after, logout afterExpiry = .ok after ∧
    ∀ session ∈ after.live, ¬(session.providerID = "acme" ∧ session.nameID = "ann") := by
  obtain ⟨after, hafter⟩ : ∃ after, logout afterExpiry = .ok after := ⟨_, rfl⟩
  exact ⟨after, hafter, logout_complete (Reached.start.of_admits (fun _ _ h => h) (by decide)) rfl hafter⟩

/-- The sign-in in another browser overwrites the record of the first one; and the record of a session that was renewed
expires before it. -/
theorem logout_leaves_earlier_session :
    (logout [inBrowser "t" 10, inBrowser "u" 10]).toOption.map (·.live.map (·.sessionToken)) = some ["t"] ∧
      (logout [inBrowser "t" 10, .wait 9, .renew "t" 19, .wait 9, .cleanup]).toOption.map
        (·.live.map (·.sessionToken)) = some ["t"] := by
  decide

end singleauth.sso
