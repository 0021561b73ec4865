import SingleAuth.Plugins.OAuthProvider.Grants

open dict fallible json text
open singleauth.core

namespace singleauth.oauthprovider

structure Provider where
  config : TokenConfig
  options : AuthorizeOptions
  pkceChallenge : String → String

/-! ## Requests for authorization -/

inductive AuthorizationRequest where
  | authorize (query : Dict String)
  | proceed (body : Option ContinueBody)
  | consent (body : Option ConsentBody)

namespace AuthorizationRequest

/-- Only an answer to the consent page insists on the session that it acts for. -/
def strict : AuthorizationRequest → Bool
  | .consent _ => true
  | _ => false

def approved (provider : Provider) (host : AuthorizeHost) (store : ServerStore) :
    AuthorizationRequest → Except AuthorizeAnswer Approved
  | .authorize query => authorizeGrant provider.options host query false store
  | .proceed body => do
    let query ← continuedQuery provider.options host body
    authorizeGrant provider.options host query true store
  | .consent body => (consentGrant provider.options host body store).map Prod.fst

def respond (provider : Provider) (host : AuthorizeHost) (store : ServerStore) :
    AuthorizationRequest → AuthorizeAnswer × ServerStore
  | .authorize query => authorizeValues provider.options host query false store
  | .proceed body => continueAuthorization provider.options host body store
  | .consent body => authorizeConsent provider.options host body store

end AuthorizationRequest

variable {provider : Provider} {host : AuthorizeHost} {store : ServerStore}

theorem AuthorizationRequest.approved_ok {request : AuthorizationRequest}
    {approved : Approved} (h : request.approved provider host store = .ok approved) :
    approved.Covered provider.options (host.userID request.strict) := by
  cases request with
  | authorize query => exact authorizeGrant_ok h
  | proceed body =>
    obtain ⟨query, _, h⟩ := bind_eq_ok_iff.mp h
    exact authorizeGrant_ok h
  | consent body =>
    have h : (consentGrant provider.options host body store).map Prod.fst = .ok approved := h
    cases hgrant : consentGrant provider.options host body store with
    | error answer =>
      rw [hgrant] at h
      cases h
    | ok granted =>
      rw [hgrant] at h
      cases h
      exact consentGrant_ok hgrant

/-- A request either leaves the codes alone, or it answers with a code for what it approved and
adds the row of that code. -/
inductive CodeEffect (provider : Provider) (host : AuthorizeHost) (store : ServerStore)
    (outcome : AuthorizeAnswer × ServerStore) (request : AuthorizationRequest) : Prop where
  | kept (hsame : outcome.2.verifications = store.verifications)
  | created {approved : Approved} {code : String} {row : VerificationRow}
    (happroved : request.approved provider host store = .ok approved)
    (hcode : newCode provider.options host approved.grant = some (code, row))
    (hanswer : outcome.1 = .redirected approved.request.redirectURI code (param approved.request.query "state"))
    (hrows : outcome.2.verifications = store.verifications ++ [row])

variable {after : ServerStore} {code : String} {grant : AuthorizationGrant} {options : AuthorizeOptions}

theorem createAuthorizationCodeWithAdapter_some
    (h : createAuthorizationCodeWithAdapter options host grant store = some (code, after)) :
    ∃ row, newCode options host grant = some (code, row) ∧
      after = { store with verifications := store.verifications ++ [row] } := by
  obtain ⟨⟨created, row⟩, hcode, h⟩ := Option.bind_eq_some_iff.mp h
  cases h
  exact ⟨row, hcode, rfl⟩

/-- The authorization endpoint adds at most the code of what it approved. -/
theorem authorizeValues_effect (request : AuthorizationRequest) {input : Dict String} {continued : Bool}
    (happroved : request.approved provider host store = authorizeGrant provider.options host input continued store) :
    (authorizeValues provider.options host input continued store).2.tokens = store.tokens ∧
      CodeEffect provider host store (authorizeValues provider.options host input continued store) request := by
  unfold authorizeValues
  cases hgrant : authorizeGrant provider.options host input continued store with
  | error answer => exact ⟨rfl, .kept rfl⟩
  | ok approved =>
    cases hcreate : createAuthorizationCode provider.options host approved.grant store with
    | none =>
      simp only [hcreate]
      exact ⟨trivial, .kept rfl⟩
    | some created =>
      obtain ⟨code, after⟩ := created
      obtain ⟨row, hcode, rfl⟩ := createAuthorizationCodeWithAdapter_some (Option.ite_none_left_eq_some.mp hcreate).2
      simp only [hcreate]
      exact ⟨trivial, .created (happroved.trans hgrant) hcode rfl rfl⟩

theorem AuthorizationRequest.respond_effect (provider : Provider) (host : AuthorizeHost) (store : ServerStore)
    (request : AuthorizationRequest) :
    (request.respond provider host store).2.tokens = store.tokens ∧
      CodeEffect provider host store (request.respond provider host store) request := by
  cases request with
  | authorize query => exact authorizeValues_effect (.authorize query) rfl
  | proceed body =>
    unfold AuthorizationRequest.respond
    dsimp only
    unfold continueAuthorization
    cases hquery : continuedQuery provider.options host body with
    | error answer => exact ⟨rfl, .kept rfl⟩
    | ok query =>
      refine authorizeValues_effect (.proceed body) ?_
      rw [AuthorizationRequest.approved, hquery]
      rfl
  | consent body =>
    unfold AuthorizationRequest.respond
    dsimp only
    unfold authorizeConsent
    cases hgrant : consentGrant provider.options host body store with
    | error answer => exact ⟨rfl, .kept rfl⟩
    | ok granted =>
      obtain ⟨approved, session⟩ := granted
      dsimp only
      cases hcreate : createAuthorizationCodeWithAdapter provider.options host approved.grant
          (keepConsent host approved.request.client session.userID approved.grant.referenceID approved.grant.scopes
            store) with
      | none => exact ⟨rfl, .kept rfl⟩
      | some created =>
        obtain ⟨code, after⟩ := created
        obtain ⟨row, hcode, rfl⟩ := createAuthorizationCodeWithAdapter_some hcreate
        have happroved : (AuthorizationRequest.consent body).approved provider host store = .ok approved := by
          simp only [AuthorizationRequest.approved, hgrant]
          rfl
        refine ⟨?_, .created happroved hcode rfl ?_⟩
        all_goals
          dsimp only
          unfold keepConsent
          split <;> rfl

end singleauth.oauthprovider
