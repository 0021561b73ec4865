import SingleAuth.Plugins.OidcProvider.Token

open dict fallible text
open singleauth.core

namespace singleauth.oidcprovider

inductive Prompt where
  | login
  | consent
  | selectAccount
  | none
deriving DecidableEq, Repr

def promptOf (word : String) : Option Prompt :=
  if word = "login" then some .login
  else if word = "consent" then some .consent
  else if word = "select_account" then some .selectAccount
  else if word = "none" then some .none
  else Option.none

/-- The recognised prompts of a request; `none` cannot be combined with another one. -/
def parsePrompt (value : String) : Except Failure (List Prompt) :=
  let prompts := ((split ' ' value).filterMap (fun word => promptOf (trimSpace word))).dedup
  if Prompt.none ∈ prompts ∧ 1 < prompts.length then
    .error (oauthError 400 "invalid_request" "prompt none must only be used alone")
  else .ok prompts

/-- An authorize request: its query, and the session it is handled in, which may
also be the one a login that it was put off for has just created. -/
structure AuthorizeRequest where
  clock : Int
  random : List UInt8
  session : Except Failure (Option SessionState)
  query : Dict String

variable (options : AuthorizeOptions) (request : AuthorizeRequest)

def AuthorizeRequest.param (name : String) : String :=
  (request.query.get? name).getD ""

structure AuthorizeOptions where
  trustedClients : List Client
  scopes : List String
  defaultScope : String
  (requirePKCE allowPlainCodeChallengeMethod : Bool)
  codeExpiresIn : Int
  consentPage : String
  toLower : String → String

inductive AuthorizeAnswer where
  | failed (failure : Failure)
  | login
  | errorPage (code description : String)
  | errorRedirect (redirectURI code description : String)
  | loginAgain (code : String)
  | redirected (redirectURI code : String)
  | consent (code : String)
deriving DecidableEq, Repr

/-- The answer when nobody is signed in. -/
def answerWithoutSession (prompts : List Prompt) (store : Store) : AuthorizeAnswer :=
  if Prompt.none ∈ prompts then
    let redirectURI := request.param "redirect_uri"
    let clientID := request.param "client_id"
    if redirectURI = "" then .failed (oauthError 400 "invalid_request"
      "redirect_uri is required when prompt=none and must be usable to return errors without displaying UI")
    else if clientID = "" then .failed (oauthError 400 "invalid_client" "client_id is required")
    else
      match findClient options.trustedClients clientID store with
      | none => .failed (oauthError 400 "invalid_client" "client_id is required")
      | some client =>
        if redirectURI ∈ client.redirectURLs then
          .errorRedirect redirectURI "login_required" "Authentication required but prompt is none"
        else .failed (oauthError 400 "invalid_request"
          "redirect_uri is invalid or not registered for this client")
  else .login

/-- The client of a request and the address its answer goes to. `describe` is
what an error page is told about an error of the client. -/
def checkClient (describe : String → String) (find : String → Option Client) (request : AuthorizeRequest) :
    Except AuthorizeAnswer (Client × String) := do
  let clientID := request.param "client_id"
  require (clientID ≠ "") (.errorPage "invalid_client" (describe "client_id is required"))
  require (request.param "response_type" ≠ "") (.errorPage "invalid_request" "response_type is required")
  let client ← expect (find clientID) (.errorPage "invalid_client" (describe "client_id is required"))
  let redirectURI := request.param "redirect_uri"
  require (redirectURI ≠ "" ∧ redirectURI ∈ client.redirectURLs)
    (.failed (.api 400 "BAD_REQUEST" "Invalid redirect URI"))
  require (client.disabled = false) (.errorPage "client_disabled" (describe "client is disabled"))
  require (request.param "response_type" = "code")
    (.errorPage "unsupported_response_type" (describe "unsupported response type"))
  .ok (client, redirectURI)

/-- The scopes a request asks for, or the default ones. -/
def checkScopes (allowed : List String) (defaultScope redirectURI : String) (request : AuthorizeRequest) :
    Except AuthorizeAnswer (List String) := do
  let requested := fields (request.param "scope")
  let scopes := if requested = [] then fields defaultScope else requested
  let invalid := scopes.filter (fun scope => ¬ scope ∈ allowed)
  require (invalid = [])
    (.errorRedirect redirectURI "invalid_scope" ("The following scopes are invalid: " ++ ", ".intercalate invalid))
  .ok scopes

/-- The code challenge of a request and its method in lower case. -/
def checkChallenge (toLower : String → String) (requirePKCE allowPlain : Bool) (redirectURI : String)
    (request : AuthorizeRequest) : Except AuthorizeAnswer (String × String) := do
  let challenge := request.param "code_challenge"
  let method := request.param "code_challenge_method"
  require (requirePKCE = false ∨ challenge ≠ "" ∧ method ≠ "")
    (.errorRedirect redirectURI "invalid_request" "pkce is required")
  require (method = "" ∨ challenge ≠ "")
    (.errorRedirect redirectURI "invalid_request" "code_challenge_method requires code_challenge")
  if challenge = "" then .ok (challenge, method)
  else do
    let lowered := toLower method
    let method := if lowered = "" ∧ allowPlain = true then "plain" else lowered
    require (method = "s256" ∨ allowPlain = true ∧ method = "plain")
      (.errorRedirect redirectURI "invalid_request" "invalid code_challenge method")
    .ok (challenge, method)

/-- Whether the user has already consented to all requested scopes. -/
def hasAlreadyConsented (store : Store) (clientID userID : String) (scopes : List String) : Bool :=
  match store.consents.find? (fun consent => consent.clientID = clientID ∧ consent.userID = userID) with
  | none => false
  | some consent => consent.consentGiven && scopes.all (fun scope => scope ∈ fields consent.scopes)

/-- Whether the session is too old for the request, or a login is asked for. -/
def requiresLogin (prompts : List Prompt) (session : SessionState) : Bool :=
  Prompt.login ∈ prompts ||
    match (request.query.get? "max_age").bind parseInt64, session.createdAt with
    | some maxAge, some createdAt => 0 ≤ maxAge && decide (maxAge * 1000000000 < request.clock - createdAt)
    | _, _ => false

/-- What an accepted request leads to: a code, what it stands for, and whether
the user has to sign in again first. -/
structure AuthorizedCode where
  code : String
  value : AuthorizationCodeValue
  requireLogin : Bool

def authorizeInSession (prompts : List Prompt)
    (session : SessionState) (store : Store) : Except AuthorizeAnswer AuthorizedCode := do
  let (client, redirectURI) ← checkClient id
    (fun clientID => findClient options.trustedClients clientID store) request
  let scopes ← checkScopes options.scopes options.defaultScope redirectURI request
  let (challenge, method) ← checkChallenge options.toLower options.requirePKCE
    options.allowPlainCodeChallengeMethod redirectURI request
  let (code, _) ← (randomString request.random 32 [lowerAlphabet, upperAlphabet, digitAlphabet]).mapError .failed
  let consented := hasAlreadyConsented store client.clientID session.userID scopes
  require (Prompt.none ∉ prompts ∨ client.skipConsent = true ∨ consented = true)
    (.errorRedirect redirectURI "consent_required" "Consent required but prompt is none")
  let requireConsent := !client.skipConsent && (!consented || decide (Prompt.consent ∈ prompts))
  .ok { code := code
        value :=
          { clientID := client.clientID
            redirectURI := redirectURI
            scope := some scopes
            userID := session.userID
            authTime := unixMilli (session.createdAt.getD zeroTime)
            requireConsent := requireConsent
            state := if requireConsent then request.query.get? "state" else none
            codeChallenge := challenge
            codeChallengeMethod := method
            nonce := request.param "nonce" }
        requireLogin := requiresLogin request prompts session }

/-- The code an authorize request leads to, if it is handled in a session and
passes the checks. -/
def authorizedCode (store : Store) :
    Except AuthorizeAnswer AuthorizedCode :=
  match request.session, parsePrompt (request.param "prompt") with
  | .error failure, _ => .error (.failed failure)
  | .ok _, .error failure => .error (.failed failure)
  | .ok none, .ok prompts => .error (answerWithoutSession options request prompts store)
  | .ok (some session), .ok prompts => authorizeInSession options request prompts session store

def keepCode (clock codeExpiresIn : Int) (authorized : AuthorizedCode) (store : Store) : Store :=
  let rows := createStoredVerification clock authorized.code authorized.value.marshal (clock + codeExpiresIn)
    store.verifications
  { store with verifications := rows }

/-- Handle an authorize request: in a session it keeps a code for the client and
the session's user. -/
def authorizeQuery (store : Store) :
    AuthorizeAnswer × Store :=
  match authorizedCode options request store with
  | .error answer => (answer, store)
  | .ok authorized =>
    (if authorized.requireLogin then .loginAgain authorized.code
      else if authorized.value.requireConsent then .consent authorized.code
      else .redirected authorized.value.redirectURI authorized.code,
      keepCode request.clock options.codeExpiresIn authorized store)

/-- A sign-in that has just succeeded: the query that the signed prompt cookie
keeps, if there is such a cookie and it can be decoded, and the session that
the response sets. -/
structure LoginRequest where
  clock : Int
  random : List UInt8
  promptCookie : Option (Option (Dict String))
  session : Except Failure (Option SessionState)

def withoutLogin (prompt : String) : String :=
  " ".intercalate ((fields prompt).filter (fun word => word ≠ "login"))

/-- The authorize request that a sign-in goes on with, if one was put off for it. -/
def continueWith (answered : Dict String → Except Failure (Dict String)) (login : LoginRequest) :
    Except Failure (Option AuthorizeRequest) :=
  match login.promptCookie, login.session with
  | none, _ => .ok none
  | some _, .error _ => .error internalError
  | some _, .ok none => .ok none
  | some none, .ok (some _) => .ok none
  | some (some query), .ok (some session) => do
    let query ← answered query
    .ok (some ⟨login.clock, login.random, .ok (some session), query⟩)

/-- The request goes on without the prompt that the sign-in has answered. -/
def afterLogin (login : LoginRequest) : Except Failure (Option AuthorizeRequest) :=
  continueWith (fun query => do
    let prompt := (query.get? "prompt").getD ""
    let prompts ← parsePrompt prompt
    .ok (if Prompt.login ∈ prompts then query.set "prompt" (withoutLogin prompt) else query)) login

end singleauth.oidcprovider
