import SingleAuth.Lib.Program
import SingleAuth.Plugins.OAuthProvider.Chain

open fallible json program table text
open singleauth.core

namespace singleauth.oauthprovider

/-! ## Storage calls of the token endpoint

The functions of the endpoints, with one step for each call to the adapter. -/

def onTokens {α : Type} (write : TokenStore → Except TokenError (α × TokenStore)) (store : ServerStore) :
    Except TokenError (α × ServerStore) :=
  (write store.tokens).map fun written => (written.1, { store with tokens := written.2 })

def changeTokens (change : TokenStore → TokenStore) (store : ServerStore) : Except TokenError (Unit × ServerStore) :=
  .ok ((), { store with tokens := change store.tokens })

variable (config : TokenConfig) (provider : Provider) (host : TokenHost) (clientID : String) (grant : Grant)
  (original : Option RefreshTokenRow)

/-- Ids of the family, access rows that came with them, refresh rows. -/
def invalidateRefreshFamilyCalls (userID : String) :
    Calls ServerStore TokenError Unit := do
  let ids ← Calls.query fun store => .ok
    ((findMany config.defaultLimit (inFamily clientID userID) store.tokens.refreshTokens).map RefreshTokenRow.id)
  if ids = [] then pure ()
  else Calls.update (changeTokens fun tokens =>
    { tokens with accessTokens := deleteMany (fun access => access.refreshId.any ids.contains) tokens.accessTokens })
  Calls.update (changeTokens fun tokens =>
    { tokens with refreshTokens := deleteMany (inFamily clientID userID) tokens.refreshTokens })

def claimRefreshCalls : Calls ServerStore TokenError Unit :=
  match original with
  | none => pure ()
  | some refresh =>
    Calls.update (onTokens fun tokens => (claimRefresh host (some refresh) tokens).map fun after => ((), after))

def idTokenOf : Except TokenError String :=
  if grant.user.isSome ∧ "openid" ∈ grant.scopes ∧ config.signsIDToken then expect host.idToken .internal else .ok ""

/-- A step that adds no row stands for no call. -/
def issueRefreshCalls :
    Calls ServerStore TokenError (Option String × String) :=
  Calls.update (onTokens fun tokens =>
    (issueRefresh config host grant tokens).map fun (refreshID, refreshToken, after) =>
      ((refreshID, refreshToken), after))

def issueAccessCalls (expiresAt : Int) (refreshID : Option String) : Calls ServerStore TokenError String :=
  Calls.update (onTokens (issueAccess config host grant expiresAt refreshID))

def issueDetailedCalls :
    Calls ServerStore TokenError IssuedTokens := do
  require (¬ (grant.resource ≠ "" ∧ config.validAudiences ≠ [] ∧ grant.resource ∉ config.validAudiences))
    (TokenError.protocol 400 "invalid_target" "invalid resource audience")
  let lifetime := if grant.user.isNone then config.m2mAccessTokenExpiresIn else config.accessTokenExpiresIn
  let expiresAt := host.now + lifetime
  claimRefreshCalls host original
  let refresh ← issueRefreshCalls config host grant
  let accessToken ← issueAccessCalls config host grant expiresAt refresh.1
  let idToken ← idTokenOf config host grant
  pure
    { accessToken, expiresIn := lifetime / 1000000000, expiresAt := expiresAt / 1000000000,
      refreshToken := refresh.2, scope := " ".intercalate grant.scopes, idToken }

/-- Client, user and session are read one after the other. -/
def redeemedGrantCalls (now : Int) (input : CodeInput) (row : VerificationRow) :
    Calls ServerStore TokenError Grant := do
  require (¬ row.expiresAt < now) (TokenError.protocol 401 "invalid_grant" "invalid code")
  let grant ← expect (AuthorizationGrant.unmarshal provider.options.times row.value)
    (TokenError.protocol 401 "invalid_grant" "malformed verification value")
  require (grant.clientID = input.clientID) (TokenError.protocol 401 "invalid_client" "invalid client_id")
  require (grant.redirectURI = input.redirectURI)
    (TokenError.protocol 400 "invalid_request" "redirect_uri mismatch")
  let client ← Calls.query fun store =>
    provider.config.validateClient store.tokens input.clientID input.clientSecret
  require (clientAllowsGrant client "authorization_code" = true)
    (TokenError.protocol 400 "unauthorized_client"
      "client is not authorized to use grant type authorization_code")
  checkVerifier provider.pkceChallenge client grant input.codeVerifier
  Calls.query fun store => require (grant.userID ∈ store.tokens.users)
    (TokenError.protocol 400 "invalid_user" "missing user, user may have been deleted")
  let session ← Calls.query fun store => expect (store.sessions.find? (fun session => session.id = grant.sessionID))
    (TokenError.protocol 400 "invalid_request" "session no longer exists")
  let expiresAt ← expect session.expiresAt (TokenError.protocol 400 "invalid_request" "session no longer exists")
  require (¬ expiresAt < now) (TokenError.protocol 400 "invalid_request" "session no longer exists")
  pure { client, user := some grant.userID, sessionID := grant.sessionID, scopes := grant.scopes,
         resource := input.resource, referenceID := grant.referenceID,
         authTime := grant.authTime.or session.createdAt }

def authorizationCodeCalls (input : CodeInput) :
    Calls ServerStore TokenError IssuedTokens := do
  let row ← Calls.update (consumeCode provider.options input)
  let grant ← redeemedGrantCalls provider host.now input row
  issueDetailedCalls provider.config host grant none

def refreshGrantCalls (input : TokenInput) (refresh : RefreshTokenRow) :
    Calls ServerStore TokenError Grant := do
  let requested := fields input.scope
  let scopes := if requested = [] then refresh.scopes else requested
  require (∀ scope ∈ scopes, scope ∈ refresh.scopes)
    (TokenError.protocol 400 "invalid_scope" "unable to issue requested scope")
  let client ← Calls.query fun store => config.validateClient store.tokens input.clientID input.clientSecret
  require (clientAllowsGrant client "refresh_token")
    (TokenError.protocol 400 "unauthorized_client" "client is not authorized to use grant type refresh_token")
  Calls.query fun store => require (refresh.userId ∈ store.tokens.users)
    (TokenError.protocol 400 "invalid_request" "user not found")
  pure { client, user := some refresh.userId, sessionID := refresh.sessionId.getD "", scopes,
         resource := input.resource, referenceID := refresh.referenceId.getD "", authTime := refresh.authTime }

/-- The tokens, with the row of the refresh token that they are exchanged for. -/
def refreshTokenCalls (input : TokenInput) :
    Calls ServerStore TokenError (RefreshTokenRow × IssuedTokens) := do
  let refresh ← Calls.query fun store => presentedRefresh config host store.tokens input
  if refresh.revoked.isSome then do
    invalidateRefreshFamilyCalls config input.clientID refresh.userId
    (Except.error (.protocol 400 "invalid_grant" "invalid refresh token") : Except TokenError _)
  else do
    let grant ← refreshGrantCalls config input refresh
    let tokens ← issueDetailedCalls config host grant (some refresh)
    pure (refresh, tokens)

/-! ## Storage calls of the revocation endpoint -/

inductive JWTDisposition where
  | valid
  | inactive
  | notJWT
  | unknown

/-- A provider with its check of JWT access tokens, if it has one. -/
structure TokenServer extends Provider where
  validateJWT : Option (String → Except TokenError JWTDisposition) := none

def opaqueAccessTokenNotFound : TokenError := .protocol 400 "invalid_request" "opaque access token not found"

def revokeOpaqueAccessTokenCalls (token : String) :
    Calls ServerStore TokenError Unit := do
  let lookup ← expect (withoutPresentation config.opaqueAccessTokenPrefix token) opaqueAccessTokenNotFound
  let stored ← expect (config.storedToken .access lookup) TokenError.internal
  let access ← Calls.query fun store =>
    expect (store.tokens.accessTokens.find? (fun row => row.token = stored)) opaqueAccessTokenNotFound
  if access.clientId = "" ∨ access.clientId ≠ clientID then pure ()
  else
    let found := fun row : AccessTokenRow => if access.id = "" then row.token = stored else row.id = access.id
    Calls.update (changeTokens fun tokens => { tokens with accessTokens := deleteMany (found ·) tokens.accessTokens })

/-- A JWT cannot be taken back; it counts as revoked. -/
def revokeAccessTokenCalls (server : TokenServer) (clientID token : String) : Calls ServerStore TokenError Unit :=
  match server.validateJWT with
  | none => revokeOpaqueAccessTokenCalls server.config clientID token
  | some validateJWT => do
    let disposition ← validateJWT token
    match disposition with
    | .valid => pure ()
    | .inactive => pure ()
    | .notJWT => revokeOpaqueAccessTokenCalls server.config clientID token
    | .unknown => (Except.error .internal : Except TokenError Unit)

/-- Mark the row as revoked, unless somebody has been faster. -/
def revokeClaimCalls (refresh : RefreshTokenRow) (host : TokenHost) : Calls ServerStore TokenError Bool :=
  Calls.update fun store =>
    match updateFirst (fun row : RefreshTokenRow => row.id = refresh.id && row.revoked.isNone)
      ({ · with revoked := some (wholeSecond host.now) }) store.tokens.refreshTokens with
    | none => .ok (false, store)
    | some rows => .ok (true, { store with tokens := { store.tokens with refreshTokens := rows } })

/-- The row of the token. A token of another client is left alone, with the
same answer. -/
def revokeRefreshTokenCalls (token : String) :
    Calls ServerStore TokenError RefreshTokenRow := do
  let refresh ← Calls.query fun store => findRefresh config store.tokens token tokenNotFound
  if refresh.revoked.isSome then do
    invalidateRefreshFamilyCalls config clientID refresh.userId
    (Except.error refreshTokenRevoked : Except TokenError _)
  else if refresh.clientId = "" ∨ refresh.clientId ≠ clientID then pure refresh
  else if refresh.id = "" then (Except.error .internal : Except TokenError _)
  else do
    let won ← revokeClaimCalls refresh host
    if won then do
      Calls.update (changeTokens fun tokens =>
        { tokens with
          accessTokens := deleteMany (fun access => access.refreshId = some refresh.id) tokens.accessTokens })
      pure refresh
    else do
      invalidateRefreshFamilyCalls config clientID refresh.userId
      (Except.error refreshTokenRevoked : Except TokenError _)

structure RevokeInput where
  clientID : String
  clientSecret : String := ""
  token : String
  tokenTypeHint : String := ""

def withoutBearer (token : String) : String := (withoutPresentation "Bearer " token).getD token

/-- The row of the refresh token that is revoked, or nothing for an access token.
Without a hint the token is looked for among the access tokens first. -/
def revokeCalls (server : TokenServer) (host : TokenHost) (input : RevokeInput) :
    Calls ServerStore TokenError (Option RefreshTokenRow) := do
  require (input.clientID ≠ "") (TokenError.protocol 401 "invalid_client" "missing required credentials")
  let token := withoutBearer input.token
  require (token ≠ "")
    (TokenError.protocol 400 "invalid_request" "missing a required token for introspection")
  require (input.tokenTypeHint ∈ ["", "access_token", "refresh_token"])
    (TokenError.protocol 400 "invalid_request" "Invalid request body")
  let client ← Calls.query fun store =>
    server.config.validateClient store.tokens input.clientID input.clientSecret
  if input.tokenTypeHint = "refresh_token" then do
    let row ← revokeRefreshTokenCalls server.config host client.clientId token
    pure (some row)
  else do
    let access ← Calls.attempt (revokeAccessTokenCalls server client.clientId token)
    match access with
    | .ok () => pure none
    | .error .internal => (Except.error .internal : Except TokenError _)
    | .error failure =>
      if input.tokenTypeHint = "access_token" then (Except.error failure : Except TokenError _)
      else do
        let refresh ← Calls.attempt (revokeRefreshTokenCalls server.config host client.clientId token)
        match refresh with
        | .ok row => pure (some row)
        | .error .internal => (Except.error .internal : Except TokenError _)
        | .error _ => (Except.error tokenNotFound : Except TokenError _)

/-! ## Requests -/

/-- The requests to the two endpoints. A machine's request stands for what its
grant writes once the client has shown its secret. -/
inductive TokenCall where
  | code (host : TokenHost) (input : CodeInput)
  | refresh (host : TokenHost) (input : TokenInput)
  | machine (host : TokenHost) (client : ClientRow) (scopes : List String) (resource : String)
  | revoke (host : TokenHost) (input : RevokeInput)

/-- A successful answer: tokens, with the row of the refresh token they are for,
or a revocation, with the row of the refresh token that was found. -/
inductive Receipt where
  | issued (refresh : Option RefreshTokenRow) (tokens : IssuedTokens)
  | acknowledged (refresh : Option RefreshTokenRow)
  deriving DecidableEq

def endpoint (server : TokenServer) : TokenCall → Calls ServerStore TokenError Receipt
  | .code host input => do
    let tokens ← authorizationCodeCalls server.toProvider host input
    pure (.issued none tokens)
  | .refresh host input => do
    let exchanged ← refreshTokenCalls server.config host input
    pure (.issued (some exchanged.1) exchanged.2)
  | .machine host client scopes resource => do
    let grant : Grant :=
      { client, user := none, sessionID := "", scopes, resource, referenceID := "", authTime := none }
    let tokens ← issueDetailedCalls server.config host grant none
    pure (.issued none tokens)
  | .revoke host input => do
    let refresh ← revokeCalls server host input
    pure (.acknowledged refresh)

/-! ## Writes of the token tables -/

theorem onTokens_eq_ok_iff {α : Type} {write : TokenStore → Except TokenError (α × TokenStore)}
    {store after : ServerStore} {value : α} :
    onTokens write store = .ok (value, after) ↔
      ∃ tokens, write store.tokens = .ok (value, tokens) ∧ after = { store with tokens } := by
  rw [onTokens, map_eq_ok_iff]
  constructor
  · rintro ⟨⟨_, tokens⟩, hwrite, heq⟩
    cases heq
    exact ⟨tokens, hwrite, rfl⟩
  · rintro ⟨tokens, hwrite, rfl⟩
    exact ⟨(value, tokens), hwrite, rfl⟩

end singleauth.oauthprovider
