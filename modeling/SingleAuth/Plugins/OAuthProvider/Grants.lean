import SingleAuth.Plugins.OAuthProvider.Authorize
import SingleAuth.Plugins.OAuthProvider.Reuse

open dict fallible json table text
open singleauth.core

namespace singleauth.oauthprovider

namespace AuthorizationGrant

/-- A code's document is decoded to the grant it was written for. -/
theorem unmarshal_marshal {times : TimeFormat} {grant : AuthorizationGrant} {value : Value}
    (h : grant.marshal times = some value) : unmarshal times value = some grant := by
  obtain ⟨authTime, htime, h⟩ := Option.bind_eq_some_iff.mp h
  cases h
  have hparse := times.parse_format htime
  simp only [unmarshal, unmarshalMembers]
  -- each optional text is read from the one member that spells its name
  rw [read_omitEmpty "code_challenge" grant.codeChallenge,
    read_omitEmpty "code_challenge_method" grant.codeChallengeMethod, read_omitEmpty "nonce" grant.nonce,
    read_omitEmpty "reference_id" grant.referenceID]
  rotate_left
  iterate 4
    · simp (disch := decide) only [spelled_append, spelled_omitEmpty]
      simp +decide [spelled]
  simp (disch := decide) only [Kind.read, spelled_append, spelled_omitEmpty]
  obtain ⟨_, _, _, _, scopes, _, _, _, _, _⟩ := grant
  by_cases hscopes : scopes = []
  · simp +decide [spelled, values, Kind.string, Kind.scalar, scopesValue, hscopes, hparse]
  · simp +decide [spelled, values, Kind.string, Kind.scalar, scopesValue, hscopes, hparse, strings_admits, strings_store]

end AuthorizationGrant

/-! ## What a request for authorization stands for -/

theorem param_set_of_ne (query : Dict String) {key name : String} (value : String) (hne : name ≠ key) :
    param (query.set key value) name = param query name := by
  rw [param, param, query.get?_set_of_ne value hne]

variable {client : ClientRow} {scopes : List String} {options : AuthorizeOptions} {query : Dict String}
  {request : ValidRequest} {session : SignedIn} {approved : Approved} {config : TokenConfig} {after : TokenStore}

/-- A public client always sends a challenge. -/
theorem checkChallenge_ok {redirectURI challenge method : String}
    (h : checkChallenge client scopes redirectURI challenge method = .ok ()) (hpublic : client.isPublic = true) :
    challenge ≠ "" := by
  obtain ⟨_, hrequired, _⟩ := bind_eq_ok_iff.mp h
  have hrequires : authorizationRequiresPKCE client scopes = true := by
    unfold authorizationRequiresPKCE
    split <;> simp [hpublic]
  rcases require_eq_ok_iff.mp hrequired with hfree | ⟨hchallenge, _⟩
  · rw [hrequires] at hfree
    cases hfree
  · exact hchallenge

/-- What holds of a request that passed. -/
structure ValidRequest.Valid (options : AuthorizeOptions) (request : ValidRequest) : Prop where
  client_named : request.client.clientId = param request.query "client_id"
  redirect_named : request.redirectURI = param request.query "redirect_uri"
  scopes_allowed : request.scopes ⊆ allowedScopes options request.client
  challenged : request.client.isPublic = true → param request.query "code_challenge" ≠ ""

/-- What a request that passed was checked for. -/
structure ChecksRequest (options : AuthorizeOptions) (query : Dict String) (store : ServerStore)
    (request : ValidRequest) : Prop where
  client_given : param query "client_id" ≠ ""
  client_found : store.tokens.clients.find? (fun client => client.clientId = param query "client_id")
    = some request.client
  redirect_eq : request.redirectURI = param query "redirect_uri"
  scopes_allowed : request.scopes ⊆ allowedScopes options request.client
  challenged : checkChallenge request.client request.scopes request.redirectURI (param query "code_challenge")
    (param query "code_challenge_method") = .ok ()
  param_eq : ∀ name, name ≠ "scope" → param request.query name = param query name

variable {store : ServerStore} {approval : Approval} {referenceID : String} {host : AuthorizeHost}
  {input : Dict String} {continued : Bool} {body : Option ConsentBody} {pkceChallenge : String → String}
  {grant : Grant} {row : RefreshTokenRow} {refreshID : Option String}

theorem validateAuthorizationRequest_checks (h : validateAuthorizationRequest options query store = .ok request) :
    ChecksRequest options query store request := by
  obtain ⟨_, hgiven, _, _, _, _, h⟩ := ok_of_bind₃ h
  obtain ⟨client, hclient, _, _, _, _, h⟩ := ok_of_bind₃ h
  obtain ⟨_, _, _, hscopes, _, hchallenge, h⟩ := ok_of_bind₃ h
  cases h
  refine ⟨require_eq_ok_iff.mp hgiven, expect_eq_ok_iff.mp hclient, rfl, require_eq_ok_iff.mp hscopes, hchallenge,
    fun name hname => ?_⟩
  -- the query differs from the one that was checked at most in its scopes
  split
  · exact param_set_of_ne query _ hname
  · rfl

theorem ChecksRequest.client_named (h : ChecksRequest options query store request) :
    request.client.clientId = param query "client_id" := by
  have hfound := List.find?_some h.client_found
  rwa [decide_eq_true_eq] at hfound

theorem validateAuthorizationRequest_ok (h : validateAuthorizationRequest options query store = .ok request) :
    request.Valid options := by
  have hchecks := validateAuthorizationRequest_checks h
  refine ⟨?_, ?_, hchecks.scopes_allowed, fun hpublic => ?_⟩
  · rw [hchecks.param_eq "client_id" (by decide), hchecks.client_named]
  · rw [hchecks.param_eq "redirect_uri" (by decide), hchecks.redirect_eq]
  · rw [hchecks.param_eq "code_challenge" (by decide)]
    exact checkChallenge_ok hchecks.challenged hpublic

/-- The scopes are approved, because no consent is needed or by a consent of the user. -/
theorem grantedConsent_some {userID : String} {forceConsent : Bool}
    (h : grantedConsent client userID referenceID scopes forceConsent store = some approval) :
    scopes ⊆ approval.scopes ∧ (client.skipConsent = true ∧ approval = .skipped scopes ∨
      ∃ row ∈ store.consents, row.clientId = client.clientId ∧ row.userId = userID ∧
        approval = .consented row.scopes) := by
  unfold grantedConsent at h
  split at h
  · cases h
  split at h
  · next hskips =>
    cases h
    exact ⟨List.Subset.refl _, .inl ⟨hskips, rfl⟩⟩
  obtain ⟨consent, hfound, h⟩ := Option.bind_eq_some_iff.mp h
  have hmatches := List.find?_some hfound
  simp only [consentMatches, Bool.and_eq_true, decide_eq_true_eq] at hmatches
  split at h
  · next hconsented =>
    cases h
    exact ⟨hconsented, .inr ⟨consent, List.mem_of_find?_eq_some hfound, hmatches.1.1, hmatches.1.2, rfl⟩⟩
  · cases h

/-- What holds of a request that a code is created for: the grant is for the
user, names what the request names, and has no scope that the client may not
have or the approval does not cover. -/
structure Approved.Covered (options : AuthorizeOptions) (userID : String) (approved : Approved) : Prop where
  request_valid : approved.request.Valid options
  grant_userID : approved.grant.userID = userID
  grant_clientID : approved.grant.clientID = approved.request.client.clientId
  grant_redirectURI : approved.grant.redirectURI = approved.request.redirectURI
  grant_challenge : approved.grant.codeChallenge = param approved.request.query "code_challenge"
  scopes_requested : approved.grant.scopes ⊆ approved.request.scopes
  scopes_approved : approved.grant.scopes ⊆ approved.approval.scopes

theorem approve_covered
    (hvalid : request.Valid options) (hrequested : scopes ⊆ request.scopes) (happroved : scopes ⊆ approval.scopes) :
    (approve host request session referenceID scopes approval).Covered options session.userID :=
  ⟨hvalid, rfl, rfl, rfl, rfl, hrequested, happroved⟩

/-- The user of the session that a request finds. -/
def AuthorizeHost.userID (host : AuthorizeHost) (strict : Bool) : String :=
  match host.session strict with
  | .ok (some session) => session.userID
  | _ => ""

theorem AuthorizeHost.userID_eq {strict : Bool}
    (h : host.session strict = .ok (some session)) : host.userID strict = session.userID := by
  simp [AuthorizeHost.userID, h]

/-- A reference that cannot be resolved is told to no client. -/
theorem resolveRequest_error {answer : AuthorizeAnswer} (h : resolveRequest options input = .error answer) :
    ∃ state code description, answer = .error "" state code description := by
  unfold resolveRequest at h
  dsimp only at h
  split at h
  · cases h
  split at h
  · cases h
    exact ⟨_, _, _, rfl⟩
  split at h
  · cases h
    exact ⟨_, _, _, rfl⟩
  · cases h

section

variable (h : authorizeGrant options host input continued store = .ok approved)
include h

/-- The steps of a request that a code is created for. -/
theorem authorizeGrant_steps :
    ∃ query request prompts session referenceID approval,
      resolveRequest options input = .ok query ∧ validateAuthorizationRequest options query store = .ok request ∧
      authorizationPrompts (param query "prompt") = .ok prompts ∧ host.session false = .ok (some session) ∧
      ¬ (continued = false ∧ ("login" ∈ prompts ∨ "create" ∈ prompts)) ∧
      (session.userID ≠ "" ∧ session.sessionID ≠ "") ∧
      options.server.clientReference session.toSession = .ok referenceID ∧
      grantedConsent request.client session.userID referenceID request.scopes ("consent" ∈ prompts) store
        = some approval ∧
      approved = approve host request session referenceID request.scopes approval := by
  obtain ⟨query, hquery, request, hrequest, prompts, hprompts, h⟩ := ok_of_bind₃ h
  obtain ⟨found, hfound, _, hlogin, session, hsession, h⟩ := ok_of_bind₃ h
  obtain ⟨_, hcomplete, referenceID, hreference, approval, happroval, h⟩ := ok_of_bind₃ h
  cases h
  rw [expect_eq_ok_iff.mp hsession] at hfound
  exact ⟨query, request, prompts, session, referenceID, approval, hquery, mapError_eq_ok_iff.mp hrequest,
    mapError_eq_ok_iff.mp hprompts, mapError_eq_ok_iff.mp hfound, require_eq_ok_iff.mp hlogin,
    require_eq_ok_iff.mp hcomplete, mapError_eq_ok_iff.mp hreference, expect_eq_ok_iff.mp happroval, rfl⟩

theorem authorizeGrant_ok : approved.Covered options (host.userID false) := by
  obtain ⟨query, request, prompts, session, referenceID, approval, -, hrequest, -, hsession, -, -, -, happroval, rfl⟩ :=
    authorizeGrant_steps h
  rw [AuthorizeHost.userID_eq hsession]
  apply approve_covered
  · exact validateAuthorizationRequest_ok hrequest
  · exact List.Subset.refl _
  · exact (grantedConsent_some happroval).1

end

section

variable (h : consentGrant options host body store = .ok (approved, session))
include h

/-- The steps of an answer to the consent page that a code is created for. -/
theorem consentGrant_steps :
    ∃ answer query request referenceID accepted,
      host.session true = .ok (some session) ∧ body = some answer ∧
      options.verifySignedQuery answer.oauthQuery host.now = some query ∧
      validateAuthorizationRequest options query store = .ok request ∧ accepted ⊆ request.scopes ∧
      (session.userID ≠ "" ∧ session.sessionID ≠ "") ∧
      options.server.clientReference session.toSession = .ok referenceID ∧
      approved = approve host request session referenceID accepted (.accepted accepted) := by
  obtain ⟨found, hfound, signedIn, hsession, answer, hanswer, h⟩ := ok_of_bind₃ h
  obtain ⟨accept, _, query, hquery, request, hrequest, h⟩ := ok_of_bind₃ h
  obtain ⟨_, _, _, haccepted, h⟩ := ok_of_bind₂ h
  obtain ⟨_, hcomplete, referenceID, hreference, h⟩ := ok_of_bind₂ h
  cases h
  rw [expect_eq_ok_iff.mp hsession] at hfound
  exact ⟨answer, query, request, referenceID, _, mapError_eq_ok_iff.mp hfound, expect_eq_ok_iff.mp hanswer,
    expect_eq_ok_iff.mp hquery, mapError_eq_ok_iff.mp hrequest, require_eq_ok_iff.mp haccepted,
    require_eq_ok_iff.mp hcomplete, mapError_eq_ok_iff.mp hreference, rfl⟩

/-- The scopes are those of the answer, or all that were asked for where it names none. -/
theorem consentGrant_accepted :
    ∃ answer, body = some answer ∧ answer.accept = some true ∧ approved.approval =
      .accepted (if answer.scope = "" then approved.request.scopes else uniqueStrings (fields answer.scope)) := by
  obtain ⟨found, _, signedIn, _, answer, hanswer, h⟩ := ok_of_bind₃ h
  obtain ⟨accept, haccept, query, _, request, _, h⟩ := ok_of_bind₃ h
  obtain ⟨_, htrue, _, _, h⟩ := ok_of_bind₂ h
  obtain ⟨_, _, referenceID, _, h⟩ := ok_of_bind₂ h
  cases h
  rw [require_eq_ok_iff.mp htrue] at haccept
  exact ⟨answer, expect_eq_ok_iff.mp hanswer, expect_eq_ok_iff.mp haccept, rfl⟩

theorem consentGrant_ok : approved.Covered options (host.userID true) := by
  obtain ⟨answer, query, request, referenceID, accepted, hsession, -, -, hrequest, haccepted, -, -, rfl⟩ :=
    consentGrant_steps h
  rw [AuthorizeHost.userID_eq hsession]
  apply approve_covered
  · exact validateAuthorizationRequest_ok hrequest
  · exact haccepted
  · exact List.Subset.refl _

end

/-! ## What a token request stands for -/

/-- A client that is not public has shown its secret. -/
def TokenConfig.Authenticated (config : TokenConfig) (client : ClientRow) (clientSecret : String) : Prop :=
  clientSecret ≠ "" ∧ ∃ presented, withoutPresentation config.clientSecretPrefix clientSecret = some presented ∧
    config.verifyClientSecret client.clientSecret presented = some true

theorem TokenConfig.validateClient_ok {store : TokenStore} {clientID clientSecret : String}
    (h : config.validateClient store clientID clientSecret = .ok client) :
    client ∈ store.clients ∧ client.clientId = clientID ∧
      (client.isPublic = true ∨ config.Authenticated client clientSecret) := by
  obtain ⟨found, hfound, _, _, h⟩ := ok_of_bind₂ h
  obtain ⟨_, hshown, _, _, h⟩ := ok_of_bind₂ h
  have hmem := List.mem_of_find?_eq_some (expect_eq_ok_iff.mp hfound)
  have hnamed := List.find?_some (expect_eq_ok_iff.mp hfound)
  simp only [decide_eq_true_eq] at hnamed
  split at h
  · next hempty =>
    cases h
    exact ⟨hmem, hnamed, .inl ((require_eq_ok_iff.mp hshown).resolve_right (not_not_intro hempty))⟩
  rename_i hgiven
  obtain ⟨presented, hpresented, valid, hvalid, _, hchecked, h⟩ := ok_of_bind₃ h
  cases h
  rw [require_eq_ok_iff.mp hchecked] at hvalid
  exact ⟨hmem, hnamed, .inr ⟨hgiven, presented, expect_eq_ok_iff.mp hpresented, expect_eq_ok_iff.mp hvalid⟩⟩

/-- What the checks of the verifier leave open. -/
structure Verified (pkceChallenge : String → String) (client : ClientRow) (challenge codeVerifier : String) : Prop where
  present_iff : codeVerifier ≠ "" ↔ challenge ≠ ""
  hashed : challenge ≠ "" → pkceChallenge codeVerifier = challenge
  challenged : client.isPublic = true → challenge ≠ ""

theorem checkVerifier_ok {grant : AuthorizationGrant}
    {codeVerifier : String} (h : checkVerifier pkceChallenge client grant codeVerifier = .ok ()) :
    Verified pkceChallenge client grant.codeChallenge codeVerifier := by
  obtain ⟨_, hrequired, _, hneeded, _, hused, h⟩ := ok_of_bind₃ h
  have hpresent : codeVerifier ≠ "" ↔ grant.codeChallenge ≠ "" :=
    ⟨fun hverifier => (require_eq_ok_iff.mp hused).resolve_left hverifier,
      fun hchallenge => (require_eq_ok_iff.mp hneeded).resolve_left hchallenge⟩
  refine ⟨hpresent, fun hchallenge => ((require_eq_ok_iff.mp h).resolve_left hchallenge).2, fun hpublic => ?_⟩
  apply hpresent.mp
  have hrequires : redemptionRequiresPKCE client = true := by simp [redemptionRequiresPKCE, hpublic]
  rcases require_eq_ok_iff.mp hrequired with hfree | hverifier
  · rw [hrequires] at hfree
    cases hfree
  · exact hverifier

/-- What a token request has shown when its code is accepted, and what it is
given for it. -/
structure Redeemed (config : TokenConfig) (pkceChallenge : String → String) (input : CodeInput) (store : TokenStore)
    (stored : AuthorizationGrant) (grant : Grant) : Prop where
  client_mem : grant.client ∈ store.clients
  clientID_eq : stored.clientID = input.clientID
  redirectURI_eq : stored.redirectURI = input.redirectURI
  authenticated : grant.client.isPublic = true ∨ config.Authenticated grant.client input.clientSecret
  verified : Verified pkceChallenge grant.client stored.codeChallenge input.codeVerifier
  client_eq : grant.client.clientId = stored.clientID
  user_eq : grant.user = some stored.userID
  scopes_eq : grant.scopes = stored.scopes

theorem redeemedGrant_ok {now : Int} {input : CodeInput} {row : VerificationRow}
    (h : redeemedGrant config options pkceChallenge now input row store = .ok grant) :
    ∃ stored, AuthorizationGrant.unmarshal options.times row.value = some stored ∧
      Redeemed config pkceChallenge input store.tokens stored grant := by
  obtain ⟨_, _, stored, hstored, _, hclientID, h⟩ := ok_of_bind₃ h
  obtain ⟨_, hredirectURI, client, hclient, _, _, h⟩ := ok_of_bind₃ h
  obtain ⟨_, hverifier, _, _, session, _, h⟩ := ok_of_bind₃ h
  obtain ⟨_, _, _, _, h⟩ := ok_of_bind₂ h
  cases h
  obtain ⟨hmem, hnamed, hauthenticated⟩ := TokenConfig.validateClient_ok hclient
  have hsame := require_eq_ok_iff.mp hclientID
  exact ⟨stored, expect_eq_ok_iff.mp hstored,
    ⟨hmem, hsame, require_eq_ok_iff.mp hredirectURI, hauthenticated, checkVerifier_ok hverifier,
      hnamed.trans hsame.symm, rfl, rfl⟩⟩

/-- A refresh asks for scopes of the token it presents, for the same client and
the same user. -/
structure Narrowed (row : RefreshTokenRow) (grant : Grant) : Prop where
  client_eq : grant.client.clientId = row.clientId
  user_eq : grant.user = some row.userId
  scopes_subset : grant.scopes ⊆ row.scopes

variable {host : TokenHost} {store : TokenStore}

theorem refreshGrant_ok {input : TokenInput} (hrow : presentedRefresh config host store input = .ok row)
    (h : refreshGrant config store input row = .ok grant) : Narrowed row grant := by
  obtain ⟨_, hscopes, client, hclient, h⟩ := ok_of_bind₂ h
  obtain ⟨_, _, _, _, h⟩ := ok_of_bind₂ h
  cases h
  obtain ⟨_, _, _, _, _, _, hrow⟩ := ok_of_bind₃ hrow
  obtain ⟨_, hpresented, _, _, hrow⟩ := ok_of_bind₂ hrow
  cases hrow
  have hnamed := (TokenConfig.validateClient_ok hclient).2.1
  exact ⟨hnamed.trans (require_eq_ok_iff.mp hpresented).symm, rfl, require_eq_ok_iff.mp hscopes⟩

/-! ## What issuing writes -/

theorem nonEmpty_getD (content : String) : (nonEmpty content).getD "" = content := by
  unfold nonEmpty
  split
  · next hempty => exact hempty.symm
  · rfl

/-- A row without the mark of its use. -/
def RefreshTokenRow.unmarked (row : RefreshTokenRow) : RefreshTokenRow := { row with revoked := none }

/-- A refresh row that is written for a grant. -/
structure RefreshTokenRow.IssuedFor (row : RefreshTokenRow) (grant : Grant) : Prop where
  unused : row.revoked = none
  clientId_eq : row.clientId = grant.client.clientId
  userId_eq : row.userId = grant.userID
  scopes_eq : row.scopes = grant.scopes

structure AccessTokenRow.IssuedFor (row : AccessTokenRow) (grant : Grant) : Prop where
  clientId_eq : row.clientId = grant.client.clientId
  userId_eq : row.userId = nonEmpty grant.userID
  scopes_eq : row.scopes = grant.scopes

/-- What a token response may do to the tables: mark refresh rows as used and
add rows for its grant. -/
structure Writes (grant : Grant) (before after : TokenStore) (refresh : List RefreshTokenRow)
    (access : List AccessTokenRow) : Prop where
  refreshTokens : ∃ kept, kept.map RefreshTokenRow.unmarked = before.refreshTokens.map RefreshTokenRow.unmarked ∧
    after.refreshTokens = kept ++ refresh
  accessTokens : after.accessTokens = before.accessTokens ++ access
  refresh_issued : ∀ row ∈ refresh, row.IssuedFor grant
  access_issued : ∀ row ∈ access, row.IssuedFor grant

theorem claimRefresh_ok {original : Option RefreshTokenRow} (h : claimRefresh host original store = .ok after) :
    after.refreshTokens.map RefreshTokenRow.unmarked = store.refreshTokens.map RefreshTokenRow.unmarked ∧
      after.accessTokens = store.accessTokens := by
  cases original with
  | none =>
    cases h
    exact ⟨rfl, rfl⟩
  | some refresh =>
    obtain ⟨rows, hrows, h⟩ := bind_eq_ok_iff.mp h
    cases h
    exact ⟨map_updateFirst (expect_eq_ok_iff.mp hrows) (fun _ => rfl), rfl⟩

theorem createRefreshToken_some (h : createRefreshToken row store = some after) :
    after = { store with refreshTokens := store.refreshTokens ++ [row] } :=
  (Option.some.inj (Option.ite_none_left_eq_some.mp h).2).symm

theorem createAccessToken_some {row : AccessTokenRow} (h : createAccessToken row store = some after) :
    after = { store with accessTokens := store.accessTokens ++ [row] } :=
  (Option.some.inj (Option.ite_none_left_eq_some.mp h).2).symm

theorem issueRefresh_ok {refreshToken : String}
    (h : issueRefresh config host grant store = .ok (refreshID, refreshToken, after)) :
    ∃ added, after = { store with refreshTokens := store.refreshTokens ++ added } ∧
      ∀ row ∈ added, row.IssuedFor grant := by
  unfold issueRefresh at h
  split at h
  · obtain ⟨raw, _, h⟩ := bind_eq_ok_iff.mp h
    obtain ⟨stored, _, created, hcreated, h⟩ := ok_of_bind₂ h
    cases h
    refine ⟨[newRefreshRow config host grant stored], createRefreshToken_some (expect_eq_ok_iff.mp hcreated), ?_⟩
    intro row hrow
    rw [List.mem_singleton.mp hrow]
    exact ⟨rfl, rfl, rfl, rfl⟩
  · cases h
    exact ⟨[], by simp, by simp⟩

theorem issueAccess_ok {expiresAt : Int} {accessToken : String}
    (h : issueAccess config host grant expiresAt refreshID store = .ok (accessToken, after)) :
    ∃ added, after = { store with accessTokens := store.accessTokens ++ added } ∧
      ∀ row ∈ added, row.IssuedFor grant := by
  unfold issueAccess at h
  split at h
  · obtain ⟨jwt, _, h⟩ := bind_eq_ok_iff.mp h
    cases h
    exact ⟨[], by simp, by simp⟩
  obtain ⟨raw, _, h⟩ := bind_eq_ok_iff.mp h
  obtain ⟨stored, _, created, hcreated, h⟩ := ok_of_bind₂ h
  cases h
  refine ⟨[newAccessRow host grant expiresAt refreshID stored], createAccessToken_some (expect_eq_ok_iff.mp hcreated),
    ?_⟩
  intro row hrow
  rw [List.mem_singleton.mp hrow]
  exact ⟨rfl, rfl, rfl⟩

theorem issueDetailed_writes (config : TokenConfig) (host : TokenHost) (grant : Grant)
    (original : Option RefreshTokenRow) (store : TokenStore) :
    ∃ refresh access, Writes grant store (issueDetailed config host grant original store).2 refresh access := by
  have hnothing : Writes grant store store [] [] := ⟨⟨_, rfl, by simp⟩, by simp, by simp, by simp⟩
  unfold issueDetailed
  split
  · exact ⟨[], [], hnothing⟩
  cases hclaim : claimRefresh host original store with
  | error failure => exact ⟨[], [], hnothing⟩
  | ok claimed =>
    obtain ⟨hmarked, haccess⟩ := claimRefresh_ok hclaim
    cases hrefresh : issueRefresh config host grant claimed with
    | error failure =>
      simp only [hrefresh]
      exact ⟨[], [], ⟨_, hmarked, by simp⟩, by simp [haccess], by simp, by simp⟩
    | ok issued =>
      obtain ⟨refreshID, refreshToken, refreshed⟩ := issued
      obtain ⟨refresh, rfl, hrefreshIssued⟩ := issueRefresh_ok hrefresh
      simp only [hrefresh]
      split
      · exact ⟨refresh, [], ⟨_, hmarked, rfl⟩, by simp [haccess], hrefreshIssued, by simp⟩
      rename_i accessToken final hissue
      obtain ⟨access, rfl, haccessIssued⟩ := issueAccess_ok hissue
      -- whether the ID token is signed does not touch the tables
      repeat' split
      all_goals exact ⟨refresh, access, ⟨_, hmarked, rfl⟩, by simp [haccess], hrefreshIssued, haccessIssued⟩

/-- The answer names the scopes of the grant. -/
theorem issueDetailed_scope {original : Option RefreshTokenRow} {tokens : IssuedTokens}
    (h : (issueDetailed config host grant original store).1 = .ok tokens) :
    tokens.scope = " ".intercalate grant.scopes := by
  unfold issueDetailed at h
  dsimp only at h
  repeat' split at h
  all_goals
    cases h
    try rfl

end singleauth.oauthprovider
