import SingleAuth.Plugins.OidcProvider.Authorize
import SingleAuth.Plugins.OidcProvider.Consent

open fallible text
open singleauth.core singleauth.oidcprovider

namespace singleauth.mcp

def findClient (clientID : String) (store : Store) : Option Client :=
  store.applications.find? (fun client => client.clientID = clientID)

/-- Secrets are kept and compared in plain text. -/
def checkClientSecret (client : Client) (clientSecret : String) : Except Failure Unit := do
  require (client.clientSecret ≠ "" ∧ clientSecret ≠ "")
    (oauthError 401 "invalid_client" "client_secret is required for confidential clients")
  require (client.clientSecret = clientSecret) (oauthError 401 "invalid_client" "invalid client_secret")

/-- The checks on a consumed code. The client is authenticated before the code's
value is decoded. -/
def checkCode (options : TokenOptions) (request : TokenRequest) (store : Store)
    (verification : Option VerificationRow) : Except Failure AuthorizationCodeValue := do
  let row ← expect verification (oauthError 401 "invalid_grant" "invalid code")
  require (request.clientID ≠ "") (oauthError 401 "invalid_client" "client_id is required")
  require (request.grantType ≠ "") (oauthError 400 "invalid_request" "grant_type is required")
  require (request.grantType = "authorization_code")
    (oauthError 400 "unsupported_grant_type" "grant_type must be 'authorization_code'")
  require (request.redirectURI ≠ "") (oauthError 400 "invalid_request" "redirect_uri is required")
  let client ← expect (findClient request.clientID store) (oauthError 401 "invalid_client" "invalid client_id")
  require (client.disabled = false) (oauthError 401 "invalid_client" "client is disabled")
  (if client.type = "public" then
    require (request.codeVerifier ≠ "")
      (oauthError 400 "invalid_request" "code verifier is required for public clients")
  else checkClientSecret client request.clientSecret)
  let value ← expect (AuthorizationCodeValue.unmarshal row.value) internalError
  require (value.clientID = request.clientID) (oauthError 401 "invalid_client" "invalid client_id")
  require (value.redirectURI = request.redirectURI) (oauthError 401 "invalid_client" "invalid redirect_uri")
  require (value.codeChallenge = "" ∨ request.codeVerifier ≠ "")
    (oauthError 400 "invalid_request" "code verifier is missing")
  checkCodeChallenge options value request.codeVerifier
  .ok value

def issueForCode (options : TokenOptions) (request : TokenRequest) (store : Store) :
    Except Failure AccessToken × Store :=
  issueWith (checkCode options request) request.clock options request store

def authorizationCodeGrant (options : TokenOptions) (request : TokenRequest) (store : Store) :
    Except Failure AccessToken × Store :=
  let (issued, store) := issueForCode options request store
  (issued >>= answerToken options store, store)

/-- The checks on a refresh token: unlike the provider this plugin wants the
offline scope. -/
def checkRefresh (request : TokenRequest) (store : Store) : Except Failure AccessToken := do
  require (request.refreshToken ≠ "") (oauthError 400 "invalid_request" "refresh_token is required")
  let token ← expect (store.accessTokens.find? (fun token => token.refreshToken = request.refreshToken))
    (oauthError 401 "invalid_grant" "invalid refresh token")
  require (token.clientID = request.clientID) (oauthError 401 "invalid_client" "invalid client_id")
  require (¬ token.refreshTokenExpiresAt < request.clock)
    (oauthError 401 "invalid_grant" "refresh token expired")
  require ("offline_access" ∈ fields token.scopes)
    (oauthError 401 "invalid_grant" "refresh token was not issued for the offline_access scope")
  let client ← expect (findClient request.clientID store) (oauthError 401 "invalid_client" "invalid client_id")
  require (client.disabled = false) (oauthError 401 "invalid_client" "client is disabled")
  (if client.type ≠ "public" then checkClientSecret client request.clientSecret
  else .ok ())
  .ok token

def refreshGrant (options : TokenOptions) (request : TokenRequest) (store : Store) :
    Except Failure (AccessToken × AccessToken) × Store :=
  refreshWith (checkRefresh request) request.clock options request store

def authorizeInSession (options : AuthorizeOptions) (request : AuthorizeRequest) (session : SessionState)
    (store : Store) : Except AuthorizeAnswer AuthorizedCode := do
  let (client, redirectURI) ← checkClient (fun _ => "") (fun clientID => findClient clientID store) request
  let scopes ← checkScopes (["openid", "profile", "email", "offline_access"] ++ options.scopes)
    options.defaultScope redirectURI request
  let (challenge, method) ← checkChallenge options.toLower options.requirePKCE
    options.allowPlainCodeChallengeMethod redirectURI request
  let (code, _) ← (randomString request.random 32 [lowerAlphabet, upperAlphabet, digitAlphabet]).mapError .failed
  let requireConsent := decide (request.param "prompt" = "consent")
  .ok { code := code
        value :=
          { clientID := client.clientID
            redirectURI := redirectURI
            scope := some scopes
            userID := session.userID
            authTime := unixMilli (session.createdAt.getD zeroTime)
            requireConsent := requireConsent
            state := if requireConsent then request.query.get? "state" else none
            codeChallenge := challenge
            codeChallengeMethod := method
            nonce := request.param "nonce" }
        requireLogin := false }

def authorizedCode (options : AuthorizeOptions) (request : AuthorizeRequest) (store : Store) :
    Except AuthorizeAnswer AuthorizedCode :=
  match request.session with
  | .error failure => .error (.failed failure)
  | .ok none => .error .login
  | .ok (some session) => authorizeInSession options request session store

def authorizeQuery (options : AuthorizeOptions) (request : AuthorizeRequest) (store : Store) :
    AuthorizeAnswer × Store :=
  match authorizedCode options request store with
  | .error answer => (answer, store)
  | .ok authorized =>
    (if authorized.value.requireConsent = true ∧ options.consentPage ≠ "" then .consent authorized.code
      else .redirected authorized.value.redirectURI authorized.code,
      keepCode request.clock options.codeExpiresIn authorized store)

/-- Unlike the provider this plugin does not look at the other prompts. -/
def afterLogin (login : LoginRequest) : Except Failure (Option AuthorizeRequest) :=
  continueWith (fun query =>
    let prompt := (query.get? "prompt").getD ""
    .ok (if prompt ≠ "" then query.set "prompt" (withoutLogin prompt) else query)) login

def oauthConsent (codeExpiresIn : Int) (request : ConsentRequest) (store : Store) :
    Except Failure ConsentAnswer × Store :=
  consentWith codeExpiresIn (fun state => state.filter (fun content => content ≠ "")) request store

end singleauth.mcp
