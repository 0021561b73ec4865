import Mathlib.Data.List.Nodup
import SingleAuth.Plugins.OAuthProvider.Chain

open dict fallible table text
open singleauth.core

namespace singleauth.oauthprovider

/-! ## What a consent is for -/

/-- The reference of a consent, empty if it has none. -/
def ConsentRow.reference (row : ConsentRow) : String := row.referenceId.getD ""

/-- The consent is that of a client, a user and a reference. -/
structure ConsentRow.IsOf (row : ConsentRow) (clientID userID referenceID : String) : Prop where
  client : row.clientId = clientID
  user : row.userId = userID
  reference_eq : row.reference = referenceID

/-- The consents of a provider: each has an id of its own. -/
structure ConsentTable where
  rows : List ConsentRow
  ids_nodup : (rows.map ConsentRow.id).Nodup

variable {table : ConsentTable} {client : ClientRow} {referenceID userID : String} {host : AuthorizeHost}
  {options : AuthorizeOptions} {scopes : List String} {store : ServerStore}

theorem ConsentTable.eq_of_id {first second : ConsentRow} (hfirst : first ∈ table.rows)
    (hsecond : second ∈ table.rows) (h : first.id = second.id) : first = second :=
  List.inj_on_of_nodup_map table.ids_nodup hfirst hsecond h

/-- The consent of a client and a user that comes first, whatever its reference. -/
def ConsentTable.first? (table : ConsentTable) (clientID userID : String) : Option ConsentRow :=
  table.rows.find? fun row => row.clientId = clientID && row.userId = userID

theorem consentMatches_empty (client : ClientRow) (userID : String) :
    consentMatches client userID "" = fun row => row.clientId = client.clientId && row.userId = userID := by
  funext row
  simp [consentMatches]

variable {row : ConsentRow} {approval : Approval} {session : SignedIn} {approved : Approved}

theorem ConsentRow.isOf_of_matches
    (h : consentMatches client userID referenceID row = true) (hreference : referenceID = "" → row.reference = "") :
    row.IsOf client.clientId userID referenceID := by
  simp only [consentMatches, Bool.and_eq_true, Bool.or_eq_true, decide_eq_true_eq] at h
  obtain ⟨⟨hclient, huser⟩, hrow⟩ := h
  refine ⟨hclient, huser, ?_⟩
  rcases hrow with hempty | hnamed
  · rw [hreference hempty, hempty]
  · rw [ConsentRow.reference, hnamed, Option.getD_some]

/-! ## What requests find and keep -/

/-- A code is for the client of the request and a user with an id. -/
structure Approved.Named (approved : Approved) : Prop where
  client_eq : approved.grant.clientID = approved.request.client.clientId
  client_ne : approved.grant.clientID ≠ ""
  user_ne : approved.grant.userID ≠ ""

theorem approve_named {query : Dict String} {request : ValidRequest}
    (hchecks : ChecksRequest options query store request) (huser : session.userID ≠ "") :
    (approve host request session referenceID scopes approval).Named where
  client_eq := rfl
  client_ne h := hchecks.client_given (hchecks.client_named.symm.trans h)
  user_ne := huser

/-- A code without the consent page is issued on what the lookup of a consent finds. -/
theorem authorizeGrant_granted {input : Dict String} {continued : Bool}
    (h : authorizeGrant options host input continued store = .ok approved) :
    approved.Named ∧ ∃ forceConsent, grantedConsent approved.request.client approved.grant.userID
      approved.grant.referenceID approved.grant.scopes forceConsent store = some approved.approval := by
  obtain ⟨query, request, prompts, session, referenceID, approval, -, hrequest, -, -, -, hcomplete, -, hgranted, rfl⟩ :=
    authorizeGrant_steps h
  exact ⟨approve_named (validateAuthorizationRequest_checks hrequest) hcomplete.1, _, hgranted⟩

theorem consentGrant_named {body : Option ConsentBody}
    (h : consentGrant options host body store = .ok (approved, session)) :
    approved.Named ∧ approved.grant.userID = session.userID := by
  obtain ⟨answer, query, request, referenceID, accepted, -, -, -, hrequest, -, hcomplete, -, rfl⟩ :=
    consentGrant_steps h
  exact ⟨approve_named (validateAuthorizationRequest_checks hrequest) hcomplete.1, rfl⟩

/-- A consent that is accepted shows only under its own reference, if the row it is kept in has that reference. -/
theorem keepConsent_filter (htable : store.consents = table.rows)
    (hreference : ∀ row, store.consents.find? (consentMatches client userID referenceID) = some row →
      row.reference = referenceID) :
    (keepConsent host client userID referenceID scopes store).consents.filter (fun row => row.reference ≠ referenceID)
      = table.rows.filter (fun row => row.reference ≠ referenceID) := by
  unfold keepConsent
  cases hfound : store.consents.find? (consentMatches client userID referenceID) with
  | none => simp [ConsentRow.reference, nonEmpty_getD, htable]
  | some existing =>
    have hrow : existing.reference = referenceID := hreference existing hfound
    have hmem : existing ∈ table.rows := htable ▸ List.mem_of_find?_eq_some hfound
    dsimp only
    cases hupdated : updateFirst (fun row => row.id = existing.id) ({ · with scopes := scopes }) store.consents with
    | none => rw [Option.getD_none, htable]
    | some updated =>
      rw [Option.getD_some, ← htable]
      apply filter_updateFirst hupdated
      intro row hother hid
      have hsame : row = existing := table.eq_of_id (htable ▸ hother) hmem (of_decide_eq_true hid)
      have hout : decide (row.reference ≠ referenceID) = false := by simp [hsame, hrow]
      exact ⟨hout, hout⟩

/-! ## Consent bound to a reference -/

/-- In a provider with these consents, a code of the client, user and reference that is issued without the consent
page has a consent of exactly these, and accepting one leaves those of every other reference as they are. -/
structure ConsentBound (table : ConsentTable) (clientID userID referenceID : String) : Prop where
  issued : ∀ (options : AuthorizeOptions) (host : AuthorizeHost) (input : Dict String) (continued : Bool)
    (store : ServerStore) (approved : Approved) (redirectURI code state : String) (after : ServerStore),
    store.consents = table.rows → authorizeGrant options host input continued store = .ok approved →
    authorizeValues options host input continued store = (.redirected redirectURI code state, after) →
    approved.request.client.skipConsent = false → approved.grant.clientID = clientID →
    approved.grant.userID = userID → approved.grant.referenceID = referenceID →
    ∃ row ∈ table.rows, row.IsOf clientID userID referenceID ∧ approved.grant.scopes ⊆ row.scopes
  kept : ∀ (options : AuthorizeOptions) (host : AuthorizeHost) (body : Option ConsentBody) (store : ServerStore)
    (approved : Approved) (session : SignedIn) (redirectURI code state : String) (after : ServerStore),
    store.consents = table.rows → consentGrant options host body store = .ok (approved, session) →
    authorizeConsent options host body store = (.redirected redirectURI code state, after) →
    approved.grant.clientID = clientID → approved.grant.userID = userID → approved.grant.referenceID = referenceID →
    after.consents.filter (fun row => row.reference ≠ referenceID)
      = table.rows.filter (fun row => row.reference ≠ referenceID)

/-- Without a reference, the first consent of the client and the user has none either. -/
def UnreferencedFirst (table : ConsentTable) (clientID userID referenceID : String) : Prop :=
  clientID ≠ "" → userID ≠ "" → referenceID = "" → ∀ row, table.first? clientID userID = some row → row.reference = ""

variable {clientID : String}

section

variable (h : UnreferencedFirst table clientID userID referenceID)
include h

theorem UnreferencedFirst.reference_of_find
    (hclient : client.clientId = clientID) (hclientNe : clientID ≠ "") (huser : userID ≠ "")
    (hfound : table.rows.find? (consentMatches client userID referenceID) = some row) :
    row.IsOf clientID userID referenceID := by
  subst hclient
  refine ConsentRow.isOf_of_matches (List.find?_some hfound) fun hempty => ?_
  subst hempty
  rw [consentMatches_empty] at hfound
  exact h hclientNe huser rfl row hfound

theorem UnreferencedFirst.bound : ConsentBound table clientID userID referenceID where
  issued options host input continued store approved redirectURI code state after htable hgrant _ hskip hclient huser
      hreference := by
    obtain ⟨hnamed, force, hgranted⟩ := authorizeGrant_granted hgrant
    subst hclient huser hreference
    unfold grantedConsent at hgranted
    rw [hskip] at hgranted
    split at hgranted
    · cases hgranted
    obtain ⟨row, hfound, hgranted⟩ := Option.bind_eq_some_iff.mp hgranted
    split at hgranted
    · next hcovered =>
      rw [htable] at hfound
      exact ⟨row, List.mem_of_find?_eq_some hfound,
        h.reference_of_find hnamed.client_eq.symm hnamed.client_ne hnamed.user_ne hfound, hcovered⟩
    · cases hgranted
  kept options host body store approved session redirectURI code state after htable hgrant hconsent hclient huser
      hreference := by
    obtain ⟨hnamed, hsession⟩ := consentGrant_named hgrant
    subst hclient huser hreference
    unfold authorizeConsent at hconsent
    rw [hgrant] at hconsent
    dsimp only at hconsent
    split at hconsent
    · cases hconsent
    rename_i created _ hcreated
    cases hconsent
    -- creating the code does not touch the consents
    obtain ⟨⟨_, _⟩, _, hafter⟩ := Option.bind_eq_some_iff.mp hcreated
    cases hafter
    apply keepConsent_filter htable
    intro row hfound
    rw [htable, ← hsession] at hfound
    exact (h.reference_of_find hnamed.client_eq.symm hnamed.client_ne hnamed.user_ne hfound).reference_eq

end

/-! ### A provider for any client and user -/

/-- A client that may ask for one scope. -/
def openClient (clientID scope : String) : ClientRow :=
  { clientId := clientID, redirectUris := ["https://app.example/done"], scopes := [scope], requirePKCE := some false }

def openQuery (clientID : String) : Dict String :=
  .ofEntries [("client_id", clientID), ("response_type", "code"), ("redirect_uri", "https://app.example/done")]

/-- A provider without references, whose pages are signed for one client. -/
def openOptions (clientID : String) : AuthorizeOptions where
  server := { sampleOptions with scopes := [] }
  redirectMatches := (· == ·)
  verifySignedQuery _ _ := some (openQuery clientID)
  storedCode := some
  times := onlyTime 0
  authorizationCodeExpiresIn := 600

def openSession (userID : String) : SignedIn :=
  { userRecordID := userID, sessionUserID := userID, sessionID := "session", createdAt := some 0 }

def openHost (userID : String) : AuthorizeHost where
  now := 0
  randomToken := some "code"
  consentRowID := "consent"
  session _ := .ok (some (openSession userID))

def openStore (table : ConsentTable) (clientID scope : String) : ServerStore :=
  { tokens := { clients := [openClient clientID scope], users := [] }, consents := table.rows }

private def openBody : Option ConsentBody := some { accept := some true, oauthQuery := "" }

private def openRequest (clientID scope : String) : ValidRequest where
  client := openClient clientID scope
  scopes := [scope]
  redirectURI := "https://app.example/done"
  query := (openQuery clientID).set "scope" (" ".intercalate [scope])

private def openApproved (clientID userID scope : String) : Approved :=
  approve (openHost userID) (openRequest clientID scope) (openSession userID) "" [scope] (.accepted [scope])

private theorem param_openQuery (clientID name : String) :
    param (openQuery clientID) name = if name = "redirect_uri" then "https://app.example/done"
      else if name = "response_type" then "code" else if name = "client_id" then clientID else "" := by
  unfold param openQuery Dict.ofEntries Dict.setAll
  simp only [List.foldl_cons, List.foldl_nil, Dict.get?_set]
  split_ifs <;> rfl

variable {scope : String}

private theorem openStore_validates (table : ConsentTable) (hclient : clientID ≠ "")
    (hscope : "offline_access" ≠ scope) :
    validateAuthorizationRequest (openOptions clientID) (openQuery clientID) (openStore table clientID scope)
      = .ok (openRequest clientID scope) := by
  simp +decide [validateAuthorizationRequest, param_openQuery, require, hclient, hscope, openStore, openClient,
    openOptions, expect, checkChallenge, bind, Except.bind, clientAllowsGrant, openRequest, allowedScopes,
    authorizationRequiresPKCE]

private theorem openSession_userID (userID : String) : (openSession userID).userID = userID :=
  ite_self userID

private theorem openStore_grants (table : ConsentTable) (hclient : clientID ≠ "")
    (huser : userID ≠ "") (hscope : "offline_access" ≠ scope) :
    consentGrant (openOptions clientID) (openHost userID) openBody (openStore table clientID scope)
      = .ok (openApproved clientID userID scope, openSession userID) := by
  have hverified : (openOptions clientID).verifySignedQuery "" 0 = some (openQuery clientID) := rfl
  have hvalid := openStore_validates table hclient hscope
  simp [consentGrant, openHost, openBody, expect, bind, Except.bind, Except.mapError, hverified, hvalid, require,
    openSession_userID, huser, openRequest, openApproved]
  rfl

/-- The user accepts, and the consent that is kept is the one that `keepConsent` keeps. -/
private theorem openStore_consents (table : ConsentTable) (hclient : clientID ≠ "")
    (huser : userID ≠ "") (hscope : "offline_access" ≠ scope) :
    ∃ state after, authorizeConsent (openOptions clientID) (openHost userID) openBody (openStore table clientID scope)
        = (.redirected "https://app.example/done" "code" state, after) ∧
      after.consents = (keepConsent (openHost userID) (openClient clientID scope) userID "" [scope]
        (openStore table clientID scope)).consents := by
  obtain ⟨value, hvalue⟩ : ∃ value,
      (openApproved clientID userID scope).grant.marshal (openOptions clientID).times = some value := ⟨_, rfl⟩
  unfold authorizeConsent
  rw [openStore_grants table hclient huser hscope]
  dsimp only
  rw [createAuthorizationCodeWithAdapter, newCode, hvalue]
  refine ⟨_, _, rfl, ?_⟩
  rw [openSession_userID]
  rfl

theorem ConsentBound.unreferencedFirst
    (h : ConsentBound table clientID userID referenceID) : UnreferencedFirst table clientID userID referenceID := by
  intro hclient huser hreference row hfirst
  subst hreference
  -- the user is asked for a scope that is not the consent's
  obtain ⟨scope, hoffline, hnew⟩ : ∃ scope, "offline_access" ≠ scope ∧ row.scopes ≠ [scope] := by
    by_cases hopenid : row.scopes = ["openid"]
    · exact ⟨"profile", by decide, by rw [hopenid]; decide⟩
    · exact ⟨"openid", by decide, hopenid⟩
  obtain ⟨state, after, hconsent, hafter⟩ := openStore_consents table hclient huser hoffline
  have hkept := h.kept _ _ _ _ _ _ _ _ _ _ rfl (openStore_grants table hclient huser hoffline) hconsent rfl
    (openSession_userID userID) rfl
  have hmem : row ∈ table.rows := List.mem_of_find?_eq_some hfirst
  have hfound : (openStore table clientID scope).consents.find? (consentMatches (openClient clientID scope) userID "")
      = some row := by
    rw [consentMatches_empty]
    exact hfirst
  obtain ⟨updated, hupdated, old, hold, hid, hchanged⟩ := exists_change_mem_updateFirst
    (fun other => other.id = row.id) ({ · with scopes := [scope] }) hmem (decide_eq_true rfl)
  have hsame : old = row := table.eq_of_id hold hmem (of_decide_eq_true hid)
  subst hsame
  have hrows : after.consents = updated := by
    rw [hafter, keepConsent, hfound]
    exact congrArg (Option.getD · table.rows) hupdated
  -- a consent of a reference would be there with the new scopes, next to the old ones
  by_contra hreference
  have hshown : { old with scopes := [scope] } ∈ after.consents.filter (fun row => row.reference ≠ "") :=
    List.mem_filter.mpr ⟨hrows ▸ hchanged, decide_eq_true hreference⟩
  rw [hkept] at hshown
  have hboth := table.eq_of_id (List.mem_filter.mp hshown).1 hmem rfl
  exact hnew (congrArg ConsentRow.scopes hboth).symm

/-- Consent is bound to a reference exactly where there is one, or where the first consent of the client and the
user has none: without a reference the lookup takes the first consent, whatever its reference. -/
theorem consentBound_iff (table : ConsentTable) (clientID userID referenceID : String) :
    ConsentBound table clientID userID referenceID ↔ UnreferencedFirst table clientID userID referenceID :=
  ⟨ConsentBound.unreferencedFirst, UnreferencedFirst.bound⟩

/-- One consent of a user for a client, given for the reference `team`. -/
def teamConsent : ConsentTable where
  rows := [{ id := "1", clientId := "app", userId := "alice", scopes := ["admin"], referenceId := some "team" }]
  ids_nodup := List.nodup_singleton _

/-- A request without a reference gets a code on the consent of the team, and no consent page is shown. -/
theorem consent_of_team_reused : ¬ ConsentBound teamConsent "app" "alice" "" := by
  intro h
  obtain ⟨row, hrow, hof, -⟩ := h.issued (openOptions "app") (openHost "alice") (openQuery "app") false
    (openStore teamConsent "app" "admin")
    (approve (openHost "alice") (openRequest "app" "admin") (openSession "alice") "" ["admin"] (.consented ["admin"]))
    "https://app.example/done" "code" "" _ rfl rfl rfl rfl rfl rfl rfl
  rw [List.mem_singleton.mp hrow] at hof
  exact absurd hof.reference_eq (by decide)

end singleauth.oauthprovider
