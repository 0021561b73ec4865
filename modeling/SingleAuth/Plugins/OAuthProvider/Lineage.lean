import SingleAuth.Plugins.OAuthProvider.Chain

open dict fallible table text transition
open singleauth.core

namespace singleauth.oauthprovider

/-! ## Histories -/

/-- The requests that are answered with tokens of a user. -/
inductive GrantRequest where
  | exchange (input : CodeInput)
  | refresh (input : TokenInput)

def GrantRequest.respond (provider : Provider) (host : TokenHost) (store : ServerStore) :
    GrantRequest → Except TokenError IssuedTokens × ServerStore
  | .exchange input => authorizationCode provider.config provider.options provider.pkceChallenge host input store
  | .refresh input =>
    let (answer, tokens) := refreshToken provider.config host input store.tokens
    (answer, { store with tokens })

/-- The requests of a history. A change stands for everything else that happens
to clients, users, sessions, consents and access tokens. -/
inductive ServerRequest where
  | authorization (host : AuthorizeHost) (request : AuthorizationRequest)
  | token (host : TokenHost) (request : GrantRequest)
  | revoke (host : TokenHost) (clientID token : String)
  | change (clients : List ClientRow) (users : List String) (sessions : List SessionRow) (consents : List ConsentRow)
    (accessTokens : List AccessTokenRow)

def serve (provider : Provider) (store : ServerStore) : ServerRequest → ServerStore
  | .authorization host request => (request.respond provider host store).2
  | .token host request => (request.respond provider host store).2
  | .revoke host clientID token =>
    { store with tokens := (revokeRefreshToken provider.config host clientID token store.tokens).2 }
  | .change clients users sessions consents accessTokens =>
    { store with
      tokens := { store.tokens with clients, users, accessTokens }
      sessions
      consents }

/-- The requests so far, each with the tables that it met. What it was answered and what it did
follows from these. -/
structure History where
  store : ServerStore
  served : List (ServerStore × ServerRequest) := []

def History.step (provider : Provider) (history : History) (request : ServerRequest) : History where
  store := serve provider history.store request
  served := history.served ++ [(history.store, request)]

/-! ## What a history says -/

/-- A request for authorization with the tables that it met, what was approved, and the code. -/
structure Authorization where
  host : AuthorizeHost
  request : AuthorizationRequest
  store : ServerStore
  approved : Approved
  code : String
  row : VerificationRow

namespace Authorization

/-- The request was approved, and it was answered with the code. -/
structure Answered (provider : Provider) (authorization : Authorization) : Prop where
  approved_eq : authorization.request.approved provider authorization.host authorization.store =
    .ok authorization.approved
  answer_eq : (authorization.request.respond provider authorization.host authorization.store).1 =
    .redirected authorization.approved.request.redirectURI authorization.code
      (param authorization.approved.request.query "state")
  row_eq : newCode provider.options authorization.host authorization.approved.grant =
    some (authorization.code, authorization.row)

def In (provider : Provider) (served : List (ServerStore × ServerRequest)) (authorization : Authorization) : Prop :=
  (authorization.store, .authorization authorization.host authorization.request) ∈ served ∧
    authorization.Answered provider

def userID (authorization : Authorization) : String := authorization.host.userID authorization.request.strict

/-- What the approval rests on: the client skips the consent, or the user has consented before, or
accepts now. -/
def Grounded (authorization : Authorization) : Prop :=
  match authorization.approved.approval with
  | .skipped requested =>
    authorization.approved.request.client.skipConsent = true ∧ requested = authorization.approved.request.scopes
  | .consented earlier => ∃ row ∈ authorization.store.consents,
    row.clientId = authorization.approved.request.client.clientId ∧ row.userId = authorization.userID ∧
      row.scopes = earlier
  | .accepted now => ∃ body, authorization.request = .consent (some body) ∧ body.accept = some true ∧
    now = if body.scope = "" then authorization.approved.request.scopes else uniqueStrings (fields body.scope)

/-- Scopes for a user and a client that were approved, and that the client could have at that
time. -/
structure Covers (provider : Provider) (authorization : Authorization) (userID clientID : String)
    (scopes : List String) : Prop where
  userID_eq : userID = authorization.userID
  clientID_eq : clientID = authorization.approved.request.client.clientId
  approved : scopes ⊆ authorization.approved.approval.scopes
  allowed : scopes ⊆ allowedScopes provider.options authorization.approved.request.client

end Authorization

/-- The rows behind those that were there. -/
def added {α : Type} (before after : List α) : List α := after.drop before.length

/-- The refresh rows that a request has written into the tables that it met. -/
def GrantRequest.refreshRows (provider : Provider) (host : TokenHost) (store : ServerStore) (request : GrantRequest) :
    List RefreshTokenRow :=
  added store.tokens.refreshTokens (request.respond provider host store).2.tokens.refreshTokens

/-- A token request goes back, through any number of refreshes, to the code of an authorization. -/
inductive StartedBy (provider : Provider) (served : List (ServerStore × ServerRequest)) :
    ServerStore → TokenHost → GrantRequest → Authorization → Prop where
  | code {store left : ServerStore} {host : TokenHost} {input : CodeInput} {authorization : Authorization}
    (hauthorized : authorization.In provider served)
    (hconsumed : consumeCode provider.options input store = .ok (authorization.row, left)) :
    StartedBy provider served store host (.exchange input) authorization
  | refresh {store before : ServerStore} {host earlier : TokenHost} {input : TokenInput} {request : GrantRequest}
    {row : RefreshTokenRow} {authorization : Authorization}
    (hpresented : presentedRefresh provider.config host store.tokens input = .ok row)
    (hserved : (before, .token earlier request) ∈ served)
    (hrow : row.unmarked ∈ request.refreshRows provider earlier before)
    (hstarted : StartedBy provider served before earlier request authorization) :
    StartedBy provider served store host (.refresh input) authorization

variable {provider : Provider} {served : List (ServerStore × ServerRequest)} {store : ServerStore}
  {authorization : Authorization} {history : History}

theorem Authorization.In.mono {longer : List (ServerStore × ServerRequest)} (h : authorization.In provider served)
    (hlonger : served ⊆ longer) : authorization.In provider longer :=
  ⟨hlonger h.1, h.2⟩

section

variable {host : TokenHost} {request : GrantRequest}

theorem StartedBy.mono {longer : List (ServerStore × ServerRequest)}
    (h : StartedBy provider served store host request authorization) (hlonger : served ⊆ longer) :
    StartedBy provider longer store host request authorization := by
  induction h with
  | code hauthorized hconsumed => exact .code (hauthorized.mono hlonger) hconsumed
  | refresh hpresented hserved hrow _ ih => exact .refresh hpresented (hlonger hserved) hrow ih

theorem StartedBy.answered (h : StartedBy provider served store host request authorization) :
    authorization.Answered provider := by
  induction h with
  | code hauthorized _ => exact hauthorized.2
  | refresh _ _ _ _ ih => exact ih

end

/-! ## Authorizations -/

namespace Authorization.Answered

variable (h : authorization.Answered provider)
include h

/-- The code's document is what was granted. -/
theorem stored : AuthorizationGrant.unmarshal provider.options.times authorization.row.value =
    some authorization.approved.grant := by
  obtain ⟨_, _, hcode⟩ := Option.bind_eq_some_iff.mp h.row_eq
  obtain ⟨_, _, hcode⟩ := Option.bind_eq_some_iff.mp hcode
  obtain ⟨value, hvalue, hcode⟩ := Option.bind_eq_some_iff.mp hcode
  obtain ⟨_, hrow⟩ := Prod.mk.inj (Option.some.inj hcode)
  rw [← hrow]
  exact AuthorizationGrant.unmarshal_marshal hvalue

theorem covered : authorization.approved.Covered provider.options authorization.userID :=
  AuthorizationRequest.approved_ok h.approved_eq

theorem covers : authorization.Covers provider authorization.approved.grant.userID
    authorization.approved.grant.clientID authorization.approved.grant.scopes :=
  have hcovered := h.covered
  ⟨hcovered.grant_userID, hcovered.grant_clientID, hcovered.scopes_approved,
    List.Subset.trans hcovered.scopes_requested hcovered.request_valid.scopes_allowed⟩

theorem grounded : authorization.Grounded := by
  obtain ⟨host, request, store, approved, code, row⟩ := authorization
  have happroved : request.approved provider host store = .ok approved := h.approved_eq
  have hauthorize : ∀ {input continued}, request.strict = false →
      authorizeGrant provider.options host input continued store = .ok approved →
        Grounded ⟨host, request, store, approved, code, row⟩ := by
    intro input continued hstrict hgrant
    obtain ⟨_, valid, _, session, _, approval, -, -, -, hsession, -, -, -, happroval, rfl⟩ :=
      authorizeGrant_steps hgrant
    rcases (grantedConsent_some happroval).2 with ⟨hskips, rfl⟩ | ⟨consent, hconsent, hclient, huser, rfl⟩
    · exact ⟨hskips, rfl⟩
    · refine ⟨consent, hconsent, hclient, ?_, rfl⟩
      rw [huser, userID, hstrict, AuthorizeHost.userID_eq hsession]
  cases request with
  | authorize query => exact hauthorize rfl happroved
  | proceed body =>
    obtain ⟨_, _, hgrant⟩ := bind_eq_ok_iff.mp happroved
    exact hauthorize rfl hgrant
  | consent body =>
    cases hgrant : consentGrant provider.options host body store with
    | error answer => simp [AuthorizationRequest.approved, hgrant, Except.map] at happroved
    | ok granted =>
      obtain ⟨granted, session⟩ := granted
      rw [AuthorizationRequest.approved, hgrant] at happroved
      cases happroved
      obtain ⟨answer, rfl, haccept, happroval⟩ := consentGrant_accepted hgrant
      unfold Grounded
      rw [happroval]
      exact ⟨answer, rfl, haccept, rfl⟩

end Authorization.Answered

/-- Every code there is then was there before, or the request was answered with it. -/
theorem authorization_of_mem {host : AuthorizeHost} {request : AuthorizationRequest} {row : VerificationRow}
    (hrow : row ∈ (request.respond provider host store).2.verifications) :
    row ∈ store.verifications ∨
      ∃ approved code, Authorization.Answered provider ⟨host, request, store, approved, code, row⟩ := by
  cases (request.respond_effect provider host store).2 with
  | kept hsame => exact .inl (hsame ▸ hrow)
  | created happroved hcode hanswer hrows =>
    rw [hrows] at hrow
    rcases mem_concat.mp hrow with hold | rfl
    · exact .inl hold
    · exact .inr ⟨_, _, happroved, hanswer, hcode⟩

/-! ## Token requests -/

/-- What a token request does: it is refused without a new row, or tokens are issued for the grant of
the code or the refresh token that it presents. -/
inductive GrantEffect (provider : Provider) (host : TokenHost) (store : ServerStore)
    (outcome : Except TokenError IssuedTokens × ServerStore) : GrantRequest → Prop where
  | refused {request : GrantRequest} {failure : TokenError} (hanswer : outcome.1 = .error failure)
    (hrefresh : outcome.2.tokens.refreshTokens ⊆ store.tokens.refreshTokens)
    (haccess : outcome.2.tokens.accessTokens ⊆ store.tokens.accessTokens) :
    GrantEffect provider host store outcome request
  | exchanged {input : CodeInput} {row : VerificationRow} {left : ServerStore} {grant : Grant}
    (hconsumed : consumeCode provider.options input store = .ok (row, left)) (hrow : row ∈ store.verifications)
    (hgrant : redeemedGrant provider.config provider.options provider.pkceChallenge host.now input row left = .ok grant)
    (htokens : left.tokens = store.tokens)
    (hissued : (outcome.1, outcome.2.tokens) = issueDetailed provider.config host grant none store.tokens) :
    GrantEffect provider host store outcome (.exchange input)
  | refreshed {input : TokenInput} {row : RefreshTokenRow} {grant : Grant}
    (hpresented : presentedRefresh provider.config host store.tokens input = .ok row) (hunused : row.unmarked = row)
    (hgrant : refreshGrant provider.config store.tokens input row = .ok grant)
    (hissued : (outcome.1, outcome.2.tokens) = issueDetailed provider.config host grant (some row) store.tokens) :
    GrantEffect provider host store outcome (.refresh input)

theorem consumeCode_ok {options : AuthorizeOptions} {input : CodeInput} {row : VerificationRow} {left : ServerStore}
    (h : consumeCode options input store = .ok (row, left)) :
    row ∈ store.verifications ∧ left.verifications ⊆ store.verifications ∧ left.tokens = store.tokens := by
  obtain ⟨_, _, identifier, _, ⟨taken, rest⟩, htaken, hok⟩ := ok_of_bind₃ h
  cases hok
  have hperm := (consumeFirst_perm (expect_eq_ok_iff.mp htaken)).2
  exact ⟨hperm.mem_iff.mpr List.mem_cons_self,
    fun other hother => hperm.mem_iff.mpr (List.mem_cons_of_mem _ hother), rfl⟩

theorem GrantRequest.respond_effect (provider : Provider) (host : TokenHost) (store : ServerStore)
    (request : GrantRequest) :
    (request.respond provider host store).2.verifications ⊆ store.verifications ∧
      GrantEffect provider host store (request.respond provider host store) request := by
  cases request with
  | exchange input =>
    unfold GrantRequest.respond
    dsimp only
    unfold authorizationCode
    cases hconsumed : consumeCode provider.options input store with
    | error failure => exact ⟨List.Subset.refl _, .refused rfl (List.Subset.refl _) (List.Subset.refl _)⟩
    | ok consumed =>
      obtain ⟨row, left⟩ := consumed
      obtain ⟨hrow, hcodes, htokens⟩ := consumeCode_ok hconsumed
      dsimp only
      cases hgrant : redeemedGrant provider.config provider.options provider.pkceChallenge host.now input row left with
      | error failure =>
        refine ⟨hcodes, .refused rfl ?_ ?_⟩ <;>
          · rw [htokens]
            exact List.Subset.refl _
      | ok grant =>
        refine ⟨hcodes, .exchanged hconsumed hrow hgrant htokens ?_⟩
        rw [← htokens]
  | refresh input =>
    refine ⟨List.Subset.refl _, ?_⟩
    unfold GrantRequest.respond
    dsimp only
    unfold refreshToken
    cases hpresented : presentedRefresh provider.config host store.tokens input with
    | error failure => exact .refused rfl (List.Subset.refl _) (List.Subset.refl _)
    | ok row =>
      by_cases hrevoked : row.revoked.isSome = true
      · simp only [if_pos hrevoked]
        refine .refused rfl (fun row hrow => (mem_deleteMany.mp hrow).1) fun access haccess => ?_
        exact (mem_invalidateRefreshFamily.mp haccess).1
      simp only [if_neg hrevoked]
      cases hgrant : refreshGrant provider.config store.tokens input row with
      | error failure => exact .refused rfl (List.Subset.refl _) (List.Subset.refl _)
      | ok grant =>
        refine .refreshed hpresented ?_ hgrant rfl
        rw [RefreshTokenRow.unmarked, ← Option.not_isSome_iff_eq_none.mp hrevoked]

/-- The rows that a token request adds and the tokens that it answers with are for a grant. -/
structure IssuedFor (config : TokenConfig) (host : TokenHost) (grant : Grant) (before : TokenStore)
    (outcome : Except TokenError IssuedTokens × TokenStore) : Prop where
  issued : ∃ original, outcome = issueDetailed config host grant original before
  rows : ∃ refresh access, Writes grant before outcome.2 refresh access
  scope_eq : ∀ tokens, outcome.1 = .ok tokens → tokens.scope = " ".intercalate grant.scopes

theorem issuedFor_issueDetailed (config : TokenConfig) (host : TokenHost) (grant : Grant)
    (original : Option RefreshTokenRow) (before : TokenStore) :
    IssuedFor config host grant before (issueDetailed config host grant original before) :=
  ⟨⟨original, rfl⟩, issueDetailed_writes config host grant original before, fun _ => issueDetailed_scope⟩

/-! ## Where codes and refresh tokens come from -/

/-- The code is that of an authorization. -/
def CodeOrigin (provider : Provider) (served : List (ServerStore × ServerRequest)) (row : VerificationRow) : Prop :=
  ∃ authorization : Authorization, authorization.In provider served ∧ authorization.row = row

/-- A token request that goes back to an authorization has written the row, within what was approved. -/
def RowOrigin (provider : Provider) (served : List (ServerStore × ServerRequest)) (row : RefreshTokenRow) : Prop :=
  ∃ before host request authorization, (before, .token host request) ∈ served ∧
    row ∈ request.refreshRows provider host before ∧ StartedBy provider served before host request authorization ∧
    authorization.Covers provider row.userId row.clientId row.scopes

structure Accounted (provider : Provider) (history : History) : Prop where
  codes : ∀ row ∈ history.store.verifications, CodeOrigin provider history.served row
  refreshTokens : ∀ row ∈ history.store.tokens.refreshTokens, RowOrigin provider history.served row.unmarked

/-- A token request gets nothing, or what it gets is within the authorization that it goes back to. -/
theorem Accounted.within (h : Accounted provider history) (host : TokenHost) (request : GrantRequest) :
    let outcome := request.respond provider host history.store
    ((∃ failure, outcome.1 = .error failure) ∧
        outcome.2.tokens.refreshTokens ⊆ history.store.tokens.refreshTokens ∧
        outcome.2.tokens.accessTokens ⊆ history.store.tokens.accessTokens) ∨
      ∃ grant authorization,
        IssuedFor provider.config host grant history.store.tokens (outcome.1, outcome.2.tokens) ∧
        StartedBy provider history.served history.store host request authorization ∧
        authorization.Covers provider grant.userID grant.client.clientId grant.scopes := by
  cases (request.respond_effect provider host history.store).2 with
  | refused hanswer hrefresh haccess => exact .inl ⟨⟨_, hanswer⟩, hrefresh, haccess⟩
  | exchanged hconsumed hrow hgrant _ hissued =>
    obtain ⟨authorization, hauthorized, rfl⟩ := h.codes _ hrow
    obtain ⟨stored, hstored, hredeemed⟩ := redeemedGrant_ok hgrant
    rw [hauthorized.2.stored] at hstored
    cases hstored
    refine .inr ⟨_, authorization, hissued ▸ issuedFor_issueDetailed _ _ _ _ _, .code hauthorized hconsumed, ?_⟩
    rw [Grant.userID, hredeemed.user_eq, Option.getD_some, hredeemed.client_eq, hredeemed.scopes_eq]
    exact hauthorized.2.covers
  | refreshed hpresented hunused hgrant hissued =>
    obtain ⟨before, earlier, request, authorization, hserved, hrow, hstarted, hcovers⟩ :=
      h.refreshTokens _ (presentedRefresh_ok hpresented)
    have hnarrowed := refreshGrant_ok hpresented hgrant
    refine .inr ⟨_, authorization, hissued ▸ issuedFor_issueDetailed _ _ _ _ _,
      .refresh hpresented hserved hrow hstarted, ?_⟩
    rw [Grant.userID, hnarrowed.user_eq, Option.getD_some, hnarrowed.client_eq]
    exact ⟨hcovers.userID_eq, hcovers.clientID_eq, List.Subset.trans hnarrowed.scopes_subset hcovers.approved,
      List.Subset.trans hnarrowed.scopes_subset hcovers.allowed⟩

/-- Every refresh row there is was there before, up to its mark. -/
def KeepsRows (before after : TokenStore) : Prop :=
  ∀ row ∈ after.refreshTokens, ∃ old ∈ before.refreshTokens, old.unmarked = row.unmarked

theorem KeepsRows.of_map {before after : TokenStore}
    (h : after.refreshTokens.map RefreshTokenRow.unmarked = before.refreshTokens.map RefreshTokenRow.unmarked) :
    KeepsRows before after := by
  intro row hrow
  have hmem : row.unmarked ∈ before.refreshTokens.map RefreshTokenRow.unmarked := h ▸ List.mem_map_of_mem hrow
  exact List.mem_map.mp hmem

theorem revokeRefreshToken_keepsRows (config : TokenConfig) (host : TokenHost) (clientID token : String)
    (store : TokenStore) : KeepsRows store (revokeRefreshToken config host clientID token store).2 := by
  have hsame : KeepsRows store store := fun row hrow => ⟨row, hrow, rfl⟩
  have hfamily : ∀ userID, KeepsRows store (invalidateRefreshFamily config clientID userID store) :=
    fun _ row hrow => ⟨row, (mem_deleteMany.mp hrow).1, rfl⟩
  unfold revokeRefreshToken
  split
  · exact hsame
  split
  · exact hfamily _
  split
  · exact hsame
  split
  · exact hsame
  dsimp only
  split
  · exact hfamily _
  · next hupdate => exact .of_map (map_updateFirst hupdate (fun _ => rfl))

theorem Writes.added_eq {grant : Grant} {before after : TokenStore} {refresh : List RefreshTokenRow}
    {access : List AccessTokenRow} (h : Writes grant before after refresh access) :
    added before.refreshTokens after.refreshTokens = refresh := by
  obtain ⟨kept, hkept, hrows⟩ := h.refreshTokens
  have hlength : kept.length = before.refreshTokens.length := by
    have := congrArg List.length hkept
    simpa using this
  rw [added, hrows, ← hlength, List.drop_left]

section

variable (h : Accounted provider history)
include h

/-- Codes and rows that a request leaves are accounted for when the new ones are. -/
theorem Accounted.next {request : ServerRequest}
    (hcodes : ∀ row ∈ (serve provider history.store request).verifications, row ∈ history.store.verifications ∨
      CodeOrigin provider (history.step provider request).served row)
    (hrows : ∀ row ∈ (serve provider history.store request).tokens.refreshTokens,
      (∃ old ∈ history.store.tokens.refreshTokens, old.unmarked = row.unmarked) ∨
        RowOrigin provider (history.step provider request).served row.unmarked) :
    Accounted provider (history.step provider request) := by
  have hlonger : history.served ⊆ (history.step provider request).served := List.subset_append_left _ _
  refine ⟨fun row hrow => (hcodes row hrow).elim (fun hold => ?_) id,
    fun row hrow => (hrows row hrow).elim (fun ⟨old, hold, hunmarked⟩ => ?_) id⟩
  · obtain ⟨authorization, hauthorized, heq⟩ := h.codes row hold
    exact ⟨authorization, hauthorized.mono hlonger, heq⟩
  · obtain ⟨before, host, request, authorization, hserved, hadded, hstarted, hcovers⟩ := h.refreshTokens old hold
    rw [hunmarked] at hadded hcovers
    exact ⟨before, host, request, authorization, hlonger hserved, hadded, hstarted.mono hlonger, hcovers⟩

theorem Accounted.token (host : TokenHost) (request : GrantRequest) :
    Accounted provider (history.step provider (.token host request)) := by
  have hlast : (history.store, .token host request) ∈ (history.step provider (.token host request)).served :=
    List.mem_append_right _ List.mem_cons_self
  refine h.next (fun row hrow => .inl ((request.respond_effect provider host history.store).1 hrow)) fun row hrow => ?_
  rcases h.within host request with ⟨_, hrefresh, _⟩ | ⟨grant, authorization, hissued, hstarted, hcovers⟩
  · exact .inl ⟨row, hrefresh hrow, rfl⟩
  obtain ⟨refresh, access, hwrites⟩ := hissued.rows
  obtain ⟨kept, hkept, hrows⟩ := hwrites.refreshTokens
  have hrow : row ∈ kept ++ refresh := hrows ▸ hrow
  rcases List.mem_append.mp hrow with hold | hnew
  · have hmem : row.unmarked ∈ history.store.tokens.refreshTokens.map RefreshTokenRow.unmarked :=
      hkept ▸ List.mem_map_of_mem hold
    exact .inl (List.mem_map.mp hmem)
  · have hfor := hwrites.refresh_issued row hnew
    have hunused : row.unmarked = row := by rw [RefreshTokenRow.unmarked, ← hfor.unused]
    have hadded : request.refreshRows provider host history.store = refresh := hwrites.added_eq
    rw [hunused]
    refine .inr ⟨history.store, host, request, authorization, hlast, hadded ▸ hnew,
      hstarted.mono (List.subset_append_left _ _), ?_⟩
    rw [hfor.userId_eq, hfor.clientId_eq, hfor.scopes_eq]
    exact hcovers

theorem Accounted.step (request : ServerRequest) : Accounted provider (history.step provider request) := by
  cases request with
  | authorization host request =>
    refine h.next (fun row hrow => ?_) fun row hrow => .inl ⟨row, ?_, rfl⟩
    · refine (authorization_of_mem hrow).imp_right fun ⟨approved, code, hanswered⟩ => ?_
      exact ⟨⟨host, request, history.store, approved, code, row⟩,
        ⟨List.mem_append_right _ List.mem_cons_self, hanswered⟩, rfl⟩
    · exact (request.respond_effect provider host history.store).1 ▸ hrow
  | token host request => exact h.token host request
  | revoke host clientID token =>
    exact h.next (fun row hrow => .inl hrow) fun row hrow => .inl (revokeRefreshToken_keepsRows _ _ _ _ _ row hrow)
  | change clients users sessions consents accessTokens =>
    exact h.next (fun row hrow => .inl hrow) fun row hrow => .inl ⟨row, hrow, rfl⟩

end

/-- A store in which nothing has been granted yet. -/
def ServerStore.Ungranted (store : ServerStore) : Prop :=
  store.verifications = [] ∧ store.tokens.refreshTokens = []

theorem accounted_of_reached (hstore : store.Ungranted)
    (hreached : Reached (History.step provider) (fun _ _ => True) { store } history) :
    Accounted provider history := by
  refine hreached.invariant (Accounted provider) ?_ (fun _ request h _ => h.step request)
  obtain ⟨hcodes, hrows⟩ := hstore
  exact ⟨by simp [hcodes], by simp [hrows]⟩

/-! A public client, whose user accepts part of what it asks for and which
later asks for less. -/

private def sampleQuery : Dict String :=
  .ofEntries [("client_id", "app"), ("response_type", "code"), ("redirect_uri", "app://done"),
    ("scope", "mail offline_access profile"), ("code_challenge", "#secret"), ("code_challenge_method", "S256")]

private def sampleProvider : Provider where
  config := plainConfig
  options :=
    { server := { sampleOptions with scopes := [] }, redirectMatches := (· == ·),
      verifySignedQuery := fun _ _ => some sampleQuery,
      storedCode := some, times := onlyTime 7, authorizationCodeExpiresIn := 10 }
  pkceChallenge := ("#" ++ ·)

private def sampleClient : ClientRow :=
  { clientId := "app", isPublic := true, redirectUris := ["app://done"], scopes := ["profile", "mail", "offline_access"] }

private def sampleStore : ServerStore :=
  { tokens := { clients := [sampleClient], users := ["alice"] }
    sessions := [{ id := "session", expiresAt := some 1000, createdAt := some 7 }] }

private def sampleConsent : ServerRequest :=
  .authorization
    { now := 10, randomToken := some "code", consentRowID := "consent",
      session := fun _ => .ok (some { userRecordID := "alice", sessionUserID := "alice", sessionID := "session",
                                      createdAt := some 7 }) }
    (.consent (some { accept := some true, oauthQuery := "", scope := "offline_access mail" }))

private def sampleExchange : CodeInput :=
  { clientID := "app", code := "code", codeVerifier := "secret", redirectURI := "app://done" }

private def sampleRefresh : TokenInput := { clientID := "app", refreshToken := "first", scope := "offline_access" }

private def sampleHistory (requests : List ServerRequest) : History :=
  requests.foldl (History.step sampleProvider) { store := sampleStore }

/-! ## Scopes -/

/-- A token request that is answered with tokens for a code comes from the client of the authorization
that the code was answered to, to the address that was named there, with the client's secret unless the
client is public, and with the verifier of the challenge that was sent. -/
theorem no_downgrade {store : ServerStore} {history : History} (hstore : store.Ungranted)
    (hreached : Reached (History.step provider) (fun _ _ => True) { store } history)
    {host : TokenHost} {input : CodeInput} {tokens : IssuedTokens}
    (hok : (authorizationCode provider.config provider.options provider.pkceChallenge host input history.store).1 =
      .ok tokens) :
    ∃ row left, consumeCode provider.options input history.store = .ok (row, left) ∧
      CodeOrigin provider history.served row ∧
      ∃ client ∈ history.store.tokens.clients, client.clientId = input.clientID ∧
        (client.isPublic = true ∨ provider.config.Authenticated client input.clientSecret) ∧
        ∀ authorization : Authorization, authorization.In provider history.served → authorization.row = row →
          let sent := param authorization.approved.request.query
          (input.clientID = sent "client_id" ∧ input.redirectURI = sent "redirect_uri") ∧
            ((input.codeVerifier ≠ "" ↔ sent "code_challenge" ≠ "") ∧
              (sent "code_challenge" ≠ "" → provider.pkceChallenge input.codeVerifier = sent "code_challenge")) ∧
            (client.isPublic = true ∨ authorization.approved.request.client.isPublic = true →
              sent "code_challenge" ≠ "") := by
  have haccounted := accounted_of_reached hstore hreached
  cases (GrantRequest.respond_effect provider host history.store (.exchange input)).2 with
  | refused hanswer _ _ =>
    have hanswer : _ = Except.error _ := hanswer
    rw [GrantRequest.respond, hok] at hanswer
    cases hanswer
  | @exchanged _ row left grant hconsumed hrow hgrant htokens _ =>
    obtain ⟨stored, hstored, hredeemed⟩ := redeemedGrant_ok hgrant
    refine ⟨row, left, hconsumed, haccounted.codes row hrow, grant.client, htokens ▸ hredeemed.client_mem,
      hredeemed.client_eq.trans hredeemed.clientID_eq, hredeemed.authenticated, ?_⟩
    rintro authorization ⟨_, hanswered⟩ rfl
    rw [hanswered.stored] at hstored
    cases hstored
    have hcovered := hanswered.covered
    have hverified := hcovered.grant_challenge ▸ hredeemed.verified
    refine ⟨⟨?_, ?_⟩, ⟨hverified.present_iff, hverified.hashed⟩, ?_⟩
    · rw [← hredeemed.clientID_eq, hcovered.grant_clientID, hcovered.request_valid.client_named]
    · rw [← hredeemed.redirectURI_eq, hcovered.grant_redirectURI, hcovered.request_valid.redirect_named]
    · rintro (hpublic | hpublic)
      · exact hverified.challenged hpublic
      · exact hcovered.request_valid.challenged hpublic

theorem no_downgrade_public :
    ∃ row, CodeOrigin sampleProvider (sampleHistory [sampleConsent]).served row ∧
      ∀ authorization : Authorization, authorization.In sampleProvider (sampleHistory [sampleConsent]).served →
        authorization.row = row → param authorization.approved.request.query "redirect_uri" = "app://done" ∧
          param authorization.approved.request.query "code_challenge" ≠ "" := by
  have hreached : Reached (History.step sampleProvider) (fun _ _ => True) { store := sampleStore }
      (sampleHistory [sampleConsent]) := Reached.start.foldl fun _ _ _ => trivial
  have hissues : (authorizationCode sampleProvider.config sampleProvider.options sampleProvider.pkceChallenge
      (namedHost 12 "first") sampleExchange (sampleHistory [sampleConsent]).store).1.toOption.isSome = true := by
    decide +kernel
  obtain ⟨tokens, hok⟩ := Option.isSome_iff_exists.mp hissues
  obtain ⟨row, _, _, horigin, _, _, _, _, hsame⟩ := no_downgrade ⟨rfl, rfl⟩ hreached
    (toOption_eq_some_iff.mp hok)
  refine ⟨row, horigin, fun authorization hin hrow => ?_⟩
  obtain ⟨⟨_, hredirect⟩, ⟨hpresent, _⟩, _⟩ := hsame authorization hin hrow
  exact ⟨hredirect.symm, hpresent.mp (by decide)⟩

end singleauth.oauthprovider
