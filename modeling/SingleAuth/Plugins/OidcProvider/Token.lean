import SingleAuth.Plugins.OidcProvider.Types

open json fallible
open singleauth.core

namespace singleauth.oidcprovider

variable (options : TokenOptions) (trusted : List Client) (request : TokenRequest) (store : Store)

/-- A trusted client of the configuration, or a registered one. -/
def findClient (clientID : String) (store : Store) : Option Client :=
  (trusted.find? (fun client => client.clientID = clientID)).or
    (store.applications.find? (fun client => client.clientID = clientID))

/-- The checks on a consumed code, in the order the endpoint makes them. -/
def checkCode (verification : Option VerificationRow) : Except Failure AuthorizationCodeValue := do
  let row ← expect verification (oauthError 401 "invalid_grant" "invalid code")
  require (request.clientID ≠ "") (oauthError 401 "invalid_client" "client_id is required")
  require (request.grantType ≠ "") (oauthError 400 "invalid_request" "grant_type is required")
  require (request.grantType = "authorization_code")
    (oauthError 400 "unsupported_grant_type" "grant_type must be 'authorization_code'")
  require (request.redirectURI ≠ "") (oauthError 400 "invalid_request" "redirect_uri is required")
  let client ← expect (findClient trusted request.clientID store)
    (oauthError 401 "invalid_client" "invalid client_id")
  require (client.disabled = false) (oauthError 401 "invalid_client" "client is disabled")
  let value ← expect (AuthorizationCodeValue.unmarshal row.value) internalError
  require (value.clientID = request.clientID) (oauthError 401 "invalid_client" "invalid client_id")
  require (value.redirectURI = request.redirectURI) (oauthError 401 "invalid_client" "invalid redirect_uri")
  require (value.codeChallenge = "" ∨ request.codeVerifier ≠ "")
    (oauthError 400 "invalid_request" "code verifier is missing")
  (if client.type = "public" then
    require (request.codeVerifier ≠ "")
      (oauthError 400 "invalid_request" "code verifier is required for public clients")
  else checkClientSecret options client request.clientSecret)
  checkCodeChallenge options value request.codeVerifier
  .ok value

/-- Exchange a code for a token row dated `now`. The code is consumed before
anything about it is checked. -/
def issueWith (check : Store → Option VerificationRow → Except Failure AuthorizationCodeValue) (now : Int)
    (options : TokenOptions) (request : TokenRequest) (store : Store) : Except Failure AccessToken × Store :=
  if request.code = "" then (.error (oauthError 400 "invalid_request" "code is required"), store)
  else if options.requirePKCE = true ∧ request.codeVerifier = "" then
    (.error (oauthError 400 "invalid_request" "code verifier is missing"), store)
  else
    let (verification, rows) := consumeStoredVerification request.clock request.code store.verifications
    let store := { store with verifications := rows }
    match check store verification with
    | .error failure => (.error failure, store)
    | .ok value =>
      match drawTokens request.random [upperAlphabet, lowerAlphabet] with
      | .error failure => (.error failure, store)
      | .ok (accessToken, refreshToken) =>
        let token : AccessToken :=
          ⟨accessToken, refreshToken, now + options.accessTokenExpiresIn, now + options.refreshTokenExpiresIn,
            request.clientID, value.userID, " ".intercalate (value.scope.getD []), now⟩
        (.ok token, { store with accessTokens := store.accessTokens ++ [token] })

def issueForCode :
    Except Failure AccessToken × Store :=
  issueWith (checkCode options trusted request) (wholeSecond request.clock) options request store

/-- What the endpoint answers once the row is written: the user is looked up
only now, and the row stays when there is none. -/
def answerToken (token : AccessToken) : Except Failure AccessToken := do
  require (token.userID ∈ store.users) (oauthError 401 "invalid_grant" "user not found")
  let _ ← options.idToken token
  .ok token

def authorizationCodeGrant : Except Failure AccessToken × Store :=
  let (issued, store) := issueForCode options trusted request store
  (issued >>= answerToken options store, store)

def checkRefresh :
    Except Failure AccessToken := do
  require (request.refreshToken ≠ "") (oauthError 400 "invalid_request" "refresh_token is required")
  let token ← expect (store.accessTokens.find? (fun token => token.refreshToken = request.refreshToken))
    (oauthError 401 "invalid_grant" "invalid refresh token")
  require (token.clientID = request.clientID) (oauthError 401 "invalid_client" "invalid client_id")
  require (¬ token.refreshTokenExpiresAt < request.clock)
    (oauthError 401 "invalid_grant" "refresh token expired")
  let client ← expect (findClient trusted request.clientID store)
    (oauthError 401 "invalid_client" "invalid client_id")
  require (client.disabled = false) (oauthError 401 "invalid_client" "client is disabled")
  (if client.type ≠ "public" then checkClientSecret options client request.clientSecret
  else .ok ())
  .ok token

/-- Exchange a checked refresh token for new tokens of the same user, client and
scopes. The first component of the answer is the row that was refreshed. -/
def refreshWith (check : Store → Except Failure AccessToken) (now : Int) (options : TokenOptions)
    (request : TokenRequest) (store : Store) : Except Failure (AccessToken × AccessToken) × Store :=
  match check store with
  | .error failure => (.error failure, store)
  | .ok old =>
    match drawTokens request.random [lowerAlphabet, upperAlphabet] with
    | .error failure => (.error failure, store)
    | .ok (accessToken, refreshToken) =>
      let token : AccessToken :=
        ⟨accessToken, refreshToken, now + options.accessTokenExpiresIn, now + options.refreshTokenExpiresIn,
          request.clientID, old.userID, old.scopes, now⟩
      (.ok (old, token), { store with accessTokens := store.accessTokens ++ [token] })

def refreshGrant :
    Except Failure (AccessToken × AccessToken) × Store :=
  refreshWith (checkRefresh options trusted request) (wholeSecond request.clock) options request store

end singleauth.oidcprovider
