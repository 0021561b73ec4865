import SingleAuth.Core.Verification
import SingleAuth.Plugins.OAuthProvider.Client

open fallible table text
open singleauth.core

namespace singleauth.oauthprovider

/-! ## Stored rows -/

/-- The fields of a client that the authorization and the token endpoint read. -/
structure ClientRow where
  clientId : String
  clientSecret : String := ""
  disabled : Bool := false
  isPublic : Bool := false
  grantTypes : List String := []
  redirectUris : List String := []
  scopes : List String := []
  skipConsent : Bool := false
  requirePKCE : Option Bool := none
  tokenEndpointAuthMethod : String := ""
  subjectType : String := ""
  enableEndSession : Bool := false
  deriving DecidableEq

structure RefreshTokenRow where
  (id token clientId userId : String)
  (expiresAt createdAt : Int)
  revoked : Option Int := none
  scopes : List String
  sessionId : Option String := none
  referenceId : Option String := none
  authTime : Option Int := none
  deriving DecidableEq

structure AccessTokenRow where
  (id token clientId : String)
  userId : Option String
  (expiresAt createdAt : Int)
  scopes : List String
  sessionId : Option String := none
  refreshId : Option String := none
  referenceId : Option String := none
  deriving DecidableEq

/-- The tables that the token endpoint works on. A user is its id. -/
structure TokenStore where
  clients : List ClientRow
  users : List String
  refreshTokens : List RefreshTokenRow := []
  accessTokens : List AccessTokenRow := []
  deriving DecidableEq

/-- Ids and token hashes are unique in both tables. -/
def createRefreshToken (row : RefreshTokenRow) (store : TokenStore) : Option TokenStore :=
  if store.refreshTokens.any (fun other => other.id = row.id || other.token = row.token) then none
  else some { store with refreshTokens := store.refreshTokens ++ [row] }

def createAccessToken (row : AccessTokenRow) (store : TokenStore) : Option TokenStore :=
  if store.accessTokens.any (fun other => other.id = row.id || other.token = row.token) then none
  else some { store with accessTokens := store.accessTokens ++ [row] }

/-! ## Configuration and host -/

inductive TokenKind where
  | access
  | refresh

structure TokenConfig where
  opaqueAccessTokenPrefix : String := ""
  refreshTokenPrefix : String := ""
  clientSecretPrefix : String := ""
  validAudiences : List String := []
  (accessTokenExpiresIn m2mAccessTokenExpiresIn refreshTokenExpiresIn : Int)
  /-- A signer for JWT access tokens is configured. -/
  signsJWT : Bool := false
  signsIDToken : Bool := false
  /-- How many rows a query without limit returns at most. -/
  defaultLimit : Nat
  storedToken : TokenKind → String → Option String
  decodeRefreshToken : String → Option String
  verifyClientSecret : String → String → Option Bool

/-- What clock, generators and signers answer during one request. `none` is an
error. -/
structure TokenHost where
  now : Int
  (rawRefresh rawAccess : Option String)
  (refreshRowID accessRowID : String)
  jwt : Option String := none
  idToken : Option String := none

inductive TokenError where
  | protocol (status : Nat) (code description : String)
  | internal
  deriving DecidableEq

structure TokenInput where
  clientID : String
  clientSecret : String := ""
  refreshToken : String
  scope : String := ""
  resource : String := ""

structure IssuedTokens where
  accessToken : String
  (expiresIn expiresAt : Int)
  (refreshToken scope idToken : String)
  deriving DecidableEq

/-! ## Issuing -/

/-- A token as presented, without its presentation text in front. -/
def withoutPresentation (presentation token : String) : Option String :=
  (presentation.toList.isPrefixOf? token.toList).map String.ofList

variable (config : TokenConfig) (host : TokenHost) (store : TokenStore)

def TokenConfig.validateClient (clientID clientSecret : String) :
    Except TokenError ClientRow := do
  let client ← expect (store.clients.find? (fun client => client.clientId = clientID))
    (.protocol 400 "invalid_client" "missing client")
  require (client.disabled = false) (.protocol 400 "invalid_client" "client is disabled")
  require (client.isPublic ∨ clientSecret ≠ "") (.protocol 400 "invalid_client" "client secret must be provided")
  require (clientSecret = "" ∨ client.clientSecret ≠ "")
    (.protocol 400 "invalid_client" "public client, client secret should not be received")
  if clientSecret = "" then .ok client
  else do
    let presented ← expect (withoutPresentation config.clientSecretPrefix clientSecret)
      (.protocol 401 "invalid_client" "invalid client_secret")
    let valid ← expect (config.verifyClientSecret client.clientSecret presented) .internal
    require (valid = true) (.protocol 401 "invalid_client" "invalid client_secret")
    .ok client

def clientAllowsGrant (client : ClientRow) (grant : String) : Bool :=
  let grants := if client.grantTypes = [] then ["authorization_code"] else client.grantTypes
  grants.any fun allowed => allowed = grant || (grant = "refresh_token" && allowed = "authorization_code")

/-- What a token request issues for. Machine clients have no user. -/
structure Grant where
  client : ClientRow
  user : Option String
  sessionID : String
  scopes : List String
  (resource referenceID : String)
  authTime : Option Int

def Grant.userID (grant : Grant) : String := grant.user.getD ""

def newRefreshRow (grant : Grant) (stored : String) : RefreshTokenRow :=
  { id := host.refreshRowID, token := stored, clientId := grant.client.clientId, userId := grant.userID,
    expiresAt := host.now + config.refreshTokenExpiresIn, createdAt := host.now, scopes := grant.scopes,
    sessionId := nonEmpty grant.sessionID, referenceId := nonEmpty grant.referenceID, authTime := grant.authTime }

/-- A refresh token is added for a user who asked for offline access. The row's
id goes into the access token. -/
def issueRefresh (grant : Grant) (store : TokenStore) :
    Except TokenError (Option String × String × TokenStore) :=
  if grant.userID ≠ "" ∧ "offline_access" ∈ grant.scopes ∧ clientAllowsGrant grant.client "refresh_token" then do
    let raw ← expect host.rawRefresh .internal
    let stored ← expect (config.storedToken .refresh raw) .internal
    let store ← expect (createRefreshToken (newRefreshRow config host grant stored) store) .internal
    .ok (some host.refreshRowID, config.refreshTokenPrefix ++ raw, store)
  else .ok (none, "", store)

def newAccessRow (grant : Grant) (expiresAt : Int) (refreshID : Option String) (stored : String) :
    AccessTokenRow :=
  { id := host.accessRowID, token := stored, clientId := grant.client.clientId, userId := nonEmpty grant.userID,
    expiresAt, createdAt := host.now, scopes := grant.scopes, sessionId := nonEmpty grant.sessionID,
    refreshId := refreshID, referenceId := nonEmpty grant.referenceID }

/-- A JWT for a resource, or an opaque token with a row. -/
def issueAccess (grant : Grant) (expiresAt : Int)
    (refreshID : Option String) (store : TokenStore) : Except TokenError (String × TokenStore) :=
  if grant.resource ≠ "" ∧ config.signsJWT then do
    let jwt ← expect host.jwt .internal
    .ok (jwt, store)
  else do
    let raw ← expect host.rawAccess .internal
    let stored ← expect (config.storedToken .access raw) .internal
    let store ← expect (createAccessToken (newAccessRow host grant expiresAt refreshID stored) store) .internal
    .ok (config.opaqueAccessTokenPrefix ++ raw, store)

/-- Mark the presented refresh token as used. Only one exchange can win it. -/
def claimRefresh (original : Option RefreshTokenRow) (store : TokenStore) :
    Except TokenError TokenStore :=
  match original with
  | none => .ok store
  | some refresh => do
    let rows ← expect
      (updateFirst (fun row => row.id = refresh.id && row.revoked.isNone) ({ · with revoked := some host.now })
        store.refreshTokens)
      (.protocol 400 "invalid_grant" "invalid refresh token")
    .ok { store with refreshTokens := rows }

/-- The writes of one token response. Each step keeps what the earlier ones
wrote, so a failure leaves them in place. -/
def issueDetailed (grant : Grant) (original : Option RefreshTokenRow)
    (store : TokenStore) : Except TokenError IssuedTokens × TokenStore :=
  if grant.resource ≠ "" ∧ config.validAudiences ≠ [] ∧ grant.resource ∉ config.validAudiences then
    (.error (.protocol 400 "invalid_target" "invalid resource audience"), store)
  else
    let lifetime := if grant.user.isNone then config.m2mAccessTokenExpiresIn else config.accessTokenExpiresIn
    let expiresAt := host.now + lifetime
    match claimRefresh host original store with
    | .error failure => (.error failure, store)
    | .ok store =>
      match issueRefresh config host grant store with
      | .error failure => (.error failure, store)
      | .ok (refreshID, refreshToken, store) =>
        match issueAccess config host grant expiresAt refreshID store with
        | .error failure => (.error failure, store)
        | .ok (accessToken, store) =>
          let tokens := fun idToken : String =>
            { accessToken, expiresIn := lifetime / 1000000000, expiresAt := expiresAt / 1000000000, refreshToken,
              scope := " ".intercalate grant.scopes, idToken : IssuedTokens }
          if grant.user.isSome ∧ "openid" ∈ grant.scopes ∧ config.signsIDToken then
            match host.idToken with
            | none => (.error .internal, store)
            | some idToken => (.ok (tokens idToken), store)
          else (.ok (tokens ""), store)

/-! ## Refresh families -/

def inFamily (clientID userID : String) (row : RefreshTokenRow) : Bool :=
  row.clientId = clientID && row.userId = userID

/-- Delete the access tokens of the refresh rows that one query returns, then
all refresh rows of the client and the user. -/
def invalidateRefreshFamily (clientID userID : String) (store : TokenStore) : TokenStore :=
  let refreshTokens := findMany config.defaultLimit (inFamily clientID userID) store.refreshTokens
  let ids := refreshTokens.map RefreshTokenRow.id
  let accessTokens := deleteMany (fun access => access.refreshId.any ids.contains) store.accessTokens
  { store with
    accessTokens := if ids = [] then store.accessTokens else accessTokens
    refreshTokens := deleteMany (inFamily clientID userID) store.refreshTokens }

def findRefresh (token : String) (missing : TokenError) :
    Except TokenError RefreshTokenRow := do
  let raw ← expect (withoutPresentation config.refreshTokenPrefix token)
    (.protocol 400 "invalid_token" "refresh token not found")
  let decoded ← expect (config.decodeRefreshToken raw) .internal
  let stored ← expect (config.storedToken .refresh decoded) .internal
  expect (store.refreshTokens.find? (fun row => row.token = stored)) missing

/-- The checks of the refresh grant before the token's use is looked at. -/
def presentedRefresh (input : TokenInput) :
    Except TokenError RefreshTokenRow := do
  require (input.clientID ≠ "") (.protocol 400 "invalid_grant" "Missing required client_id")
  require (input.refreshToken ≠ "")
    (.protocol 400 "invalid_grant" "Missing a required refresh_token for refresh_token grant")
  let refresh ← findRefresh config store input.refreshToken (.protocol 400 "invalid_grant" "session not found")
  require (refresh.clientId = input.clientID) (.protocol 400 "invalid_client" "invalid client_id")
  require (host.now < refresh.expiresAt) (.protocol 400 "invalid_grant" "invalid refresh token")
  .ok refresh

def refreshGrant (input : TokenInput) (refresh : RefreshTokenRow) :
    Except TokenError Grant := do
  let requested := fields input.scope
  let scopes := if requested = [] then refresh.scopes else requested
  require (∀ scope ∈ scopes, scope ∈ refresh.scopes)
    (.protocol 400 "invalid_scope" "unable to issue requested scope")
  let client ← config.validateClient store input.clientID input.clientSecret
  require (clientAllowsGrant client "refresh_token")
    (.protocol 400 "unauthorized_client" "client is not authorized to use grant type refresh_token")
  require (refresh.userId ∈ store.users) (.protocol 400 "invalid_request" "user not found")
  .ok { client, user := some refresh.userId, sessionID := refresh.sessionId.getD "", scopes, resource := input.resource,
        referenceID := refresh.referenceId.getD "", authTime := refresh.authTime }

def refreshToken (input : TokenInput) (store : TokenStore) :
    Except TokenError IssuedTokens × TokenStore :=
  match presentedRefresh config host store input with
  | .error failure => (.error failure, store)
  | .ok refresh =>
    if refresh.revoked.isSome then
      (.error (.protocol 400 "invalid_grant" "invalid refresh token"),
        invalidateRefreshFamily config input.clientID refresh.userId store)
    else
      match refreshGrant config store input refresh with
      | .error failure => (.error failure, store)
      | .ok grant => issueDetailed config host grant (some refresh) store

def tokenNotFound : TokenError := .protocol 400 "invalid_request" "token not found"
def refreshTokenRevoked : TokenError := .protocol 400 "invalid_request" "refresh token revoked"

def revokeRefreshToken (clientID token : String) (store : TokenStore) :
    Except TokenError Unit × TokenStore :=
  match findRefresh config store token tokenNotFound with
  | .error failure => (.error failure, store)
  | .ok refresh =>
    if refresh.revoked.isSome then
      (.error refreshTokenRevoked, invalidateRefreshFamily config clientID refresh.userId store)
    else if refresh.clientId = "" ∨ refresh.clientId ≠ clientID then (.ok (), store)
    else if refresh.id = "" then (.error .internal, store)
    else
      let unused := fun row : RefreshTokenRow => row.id = refresh.id && row.revoked.isNone
      match updateFirst unused ({ · with revoked := some (wholeSecond host.now) }) store.refreshTokens with
      | none => (.error refreshTokenRevoked, invalidateRefreshFamily config clientID refresh.userId store)
      | some rows =>
        let accessTokens := deleteMany (fun access => access.refreshId = some refresh.id) store.accessTokens
        (.ok (), { store with refreshTokens := rows, accessTokens })

end singleauth.oauthprovider
