import SingleAuth.Plugins.OAuthProvider.Registration
import SingleAuth.Plugins.OAuthProvider.Tokens

open dict fallible json table text
open singleauth.core

namespace singleauth.oauthprovider

/-! ## Authorization codes -/

/-- How a JSON document spells times. `none` is the zero time; years outside four
digits have no spelling. -/
structure TimeFormat where
  format : Option Int → Option String
  parse : String → Option (Option Int)
  parse_format : ∀ {time : Option Int} {spelling : String}, format time = some spelling → parse spelling = some time

/-- A spelling for one time only. -/
def onlyTime (only : Int) : TimeFormat where
  format time := if time = some only then some "now" else none
  parse _ := some (some only)
  parse_format h := by
    split at h
    · next htime => rw [htime]
    · cases h

/-- What an authorization code stands for: kept as a JSON document in the
verification table. -/
structure AuthorizationGrant where
  (clientID userID sessionID redirectURI : String)
  scopes : List String
  (codeChallenge codeChallengeMethod nonce referenceID : String)
  authTime : Option Int
  deriving DecidableEq

namespace AuthorizationGrant

/-- An empty list of scopes is written as null. -/
def scopesValue (scopes : List String) : Value := if scopes = [] then .null else .arr (scopes.map Value.str)

def marshal (times : TimeFormat) (grant : AuthorizationGrant) : Option Value := do
  let authTime ← times.format grant.authTime
  some (.obj ([("client_id", .str grant.clientID), ("user_id", .str grant.userID),
    ("session_id", .str grant.sessionID), ("redirect_uri", .str grant.redirectURI),
    ("scopes", scopesValue grant.scopes)] ++
    omitEmpty "code_challenge" grant.codeChallenge ++ omitEmpty "code_challenge_method" grant.codeChallengeMethod ++
    omitEmpty "nonce" grant.nonce ++ omitEmpty "reference_id" grant.referenceID ++ [("auth_time", .str authTime)]))

def unmarshalMembers (times : TimeFormat) (members : List (String × Value)) : Option AuthorizationGrant := do
  let clientID ← Kind.string.read "client_id" "" members
  let userID ← Kind.string.read "user_id" "" members
  let sessionID ← Kind.string.read "session_id" "" members
  let redirectURI ← Kind.string.read "redirect_uri" "" members
  let scopes ← Kind.strings.read "scopes" none members
  let codeChallenge ← Kind.string.read "code_challenge" "" members
  let codeChallengeMethod ← Kind.string.read "code_challenge_method" "" members
  let nonce ← Kind.string.read "nonce" "" members
  let referenceID ← Kind.string.read "reference_id" "" members
  let authTime ← (Kind.scalar fun value => value.string?.bind times.parse).read "auth_time" none members
  some ⟨clientID, userID, sessionID, redirectURI, scopes.getD [], codeChallenge, codeChallengeMethod, nonce,
    referenceID, authTime⟩

def unmarshal (times : TimeFormat) : Value → Option AuthorizationGrant
  | .obj members => unmarshalMembers times members
  | .null => some ⟨"", "", "", "", [], "", "", "", "", none⟩
  | _ => none

end AuthorizationGrant

/-! ## State and configuration -/

structure SessionRow where
  id : String
  (expiresAt createdAt : Option Int)
  deriving DecidableEq

structure ConsentRow where
  (id clientId userId : String)
  scopes : List String
  referenceId : Option String := none
  deriving DecidableEq

structure ServerStore where
  tokens : TokenStore
  sessions : List SessionRow := []
  verifications : List VerificationRow := []
  consents : List ConsentRow := []

structure AuthorizeOptions where
  server : ServerOptions
  requestURIResolver : Option (String → String → Option (Dict String)) := none
  redirectMatches : String → String → Bool
  /-- The parameters of a signed query, unless its signature or its age is wrong. -/
  verifySignedQuery : String → Int → Option (Dict String)
  storedCode : String → Option String
  times : TimeFormat
  authorizationCodeExpiresIn : Int

/-- A session with what identifies it. -/
structure SignedIn extends Session where
  sessionID : String
  createdAt : Option Int := none

/-- What clock, generators and session lookup answer during one request. The
lookup is made with and without insisting on a session. -/
structure AuthorizeHost where
  now : Int
  randomToken : Option String
  consentRowID : String
  session : Bool → Except Failure (Option SignedIn)

inductive AuthorizeAnswer where
  | failed (failure : Failure)
  | error (redirectURI state code description : String)
  | loginPage (query : Dict String)
  | consentPage (query : Dict String)
  | redirected (redirectURI code state : String)

def param (query : Dict String) (name : String) : String := (query.get? name).getD ""

/-! ## Creating a code -/

variable (options : AuthorizeOptions) (client : ClientRow)

/-- The row of a new code, with the code. -/
def newCode (host : AuthorizeHost) (grant : AuthorizationGrant) :
    Option (String × VerificationRow) := do
  let code ← host.randomToken
  let identifier ← options.storedCode code
  let value ← grant.marshal options.times
  some (code, ⟨identifier, value, host.now + options.authorizationCodeExpiresIn, host.now⟩)

def createAuthorizationCodeWithAdapter (host : AuthorizeHost) (grant : AuthorizationGrant)
    (store : ServerStore) : Option (String × ServerStore) := do
  let (code, row) ← newCode options host grant
  some (code, { store with verifications := store.verifications ++ [row] })

def createAuthorizationCode (host : AuthorizeHost) (grant : AuthorizationGrant)
    (store : ServerStore) : Option (String × ServerStore) :=
  if grant.clientID = "" ∨ grant.userID = "" ∨ grant.sessionID = "" ∨ grant.redirectURI = "" ∨ grant.scopes = [] then
    none
  else createAuthorizationCodeWithAdapter options host grant store

/-! ## The request -/

/-- The trimmed texts that are not empty, each once. -/
def uniqueFrom (seen : List String) : List String → List String
  | [] => []
  | value :: rest =>
    let value := trimSpace value
    if value = "" ∨ value ∈ seen then uniqueFrom seen rest else value :: uniqueFrom (value :: seen) rest

def uniqueStrings (values : List String) : List String := uniqueFrom [] values

/-- Why a request is turned down, and the address that may be told. -/
structure AuthorizeRefusal where
  redirectURI : String := ""
  (code message : String)

/-- A request that passed: the client and the scopes it asks for. The query holds
the scopes also where the client left them to the server. -/
structure ValidRequest where
  client : ClientRow
  scopes : List String
  redirectURI : String
  query : Dict String

def allowedScopes : List String :=
  if client.scopes = [] then options.server.scopes else client.scopes

/-- A client that says nothing about PKCE has to use it. -/
def authorizationRequiresPKCE (scopes : List String) : Bool :=
  match client.requirePKCE with
  | some configured => client.isPublic || decide ("offline_access" ∈ scopes) || configured
  | none => true

def checkChallenge (scopes : List String) (redirectURI challenge method : String) :
    Except AuthorizeRefusal Unit := do
  require (authorizationRequiresPKCE client scopes = false ∨ challenge ≠ "" ∧ method ≠ "")
    { redirectURI, code := "INVALID_REQUEST", message := "pkce is required for this client" }
  require (challenge = "" ↔ method = "")
    { redirectURI, code := "INVALID_REQUEST",
      message := "code_challenge and code_challenge_method must both be provided" }
  require (method = "" ∨ method = "S256")
    { redirectURI, code := "INVALID_REQUEST",
      message := "invalid code_challenge method, only S256 is supported" }

def validateAuthorizationRequest (query : Dict String) (store : ServerStore) :
    Except AuthorizeRefusal ValidRequest := do
  let clientID := param query "client_id"
  require (clientID ≠ "") { code := "INVALID_CLIENT", message := "client_id is required" }
  require (param query "response_type" ≠ "") { code := "INVALID_REQUEST", message := "response_type is required" }
  require (param query "response_type" = "code")
    { code := "UNSUPPORTED_RESPONSE_TYPE", message := "unsupported response type" }
  let client ← expect (store.tokens.clients.find? (fun client => client.clientId = clientID))
    { code := "INVALID_CLIENT", message := "client not found" }
  require (client.disabled = false) { code := "CLIENT_DISABLED", message := "client is disabled" }
  require (clientAllowsGrant client "authorization_code" = true)
    { code := "UNAUTHORIZED_CLIENT", message := "client is not authorized to use the authorization_code grant" }
  let redirectURI := param query "redirect_uri"
  require (redirectURI ≠ "" ∧ client.redirectUris.any (fun registered => options.redirectMatches registered redirectURI) ∧
      options.server.isSafeURL redirectURI)
    { code := "INVALID_REDIRECT", message := "invalid redirect uri" }
  let requested := uniqueStrings (fields (param query "scope"))
  let allowed := allowedScopes options client
  let scopes := if requested = [] then allowed else requested
  require (∀ scope ∈ scopes, scope ∈ allowed)
    { redirectURI, code := "INVALID_SCOPE", message := "requested scope is not allowed for this client" }
  checkChallenge client scopes redirectURI (param query "code_challenge") (param query "code_challenge_method")
  .ok { client, scopes, redirectURI,
        query := if requested = [] then query.set "scope" (" ".intercalate scopes) else query }

def authorizationPrompts (raw : String) : Except String (List String) := do
  let prompts := uniqueStrings (fields raw)
  require (∀ prompt ∈ prompts, prompt ∈ ["none", "consent", "login", "create", "select_account"])
    "unsupported prompt type"
  require ("none" ∉ prompts ∨ prompts.length ≤ 1) "prompt none cannot be combined with other prompts"
  .ok prompts

/-! ## Consent -/

/-- What a code is issued on: the scopes that a client which skips consent asked
for, those of an earlier consent, or those the user has just accepted. -/
inductive Approval where
  | skipped (requested : List String)
  | consented (earlier : List String)
  | accepted (now : List String)
  deriving DecidableEq

def Approval.scopes : Approval → List String
  | .skipped requested => requested
  | .consented earlier => earlier
  | .accepted now => now

/-- The consents of a client and a user, and of a reference when there is one. -/
def consentMatches (userID referenceID : String) (row : ConsentRow) : Bool :=
  row.clientId = client.clientId && row.userId = userID && (referenceID = "" || row.referenceId = some referenceID)

def grantedConsent (userID referenceID : String) (scopes : List String) (forceConsent : Bool)
    (store : ServerStore) : Option Approval :=
  if forceConsent then none
  else if client.skipConsent then some (.skipped scopes)
  else do
    let consent ← store.consents.find? (consentMatches client userID referenceID)
    if ∀ scope ∈ scopes, scope ∈ consent.scopes then some (.consented consent.scopes) else none

/-- The first consent that matches gets the new scopes, or there is a new one. -/
def keepConsent (host : AuthorizeHost) (client : ClientRow) (userID referenceID : String) (scopes : List String)
    (store : ServerStore) : ServerStore :=
  match store.consents.find? (consentMatches client userID referenceID) with
  | none =>
    { store with
      consents := store.consents ++
        [{ id := host.consentRowID, clientId := client.clientId, userId := userID, scopes,
           referenceId := nonEmpty referenceID }] }
  | some existing =>
    { store with
      consents := (updateFirst (fun row => row.id = existing.id) ({ · with scopes := scopes }) store.consents).getD
        store.consents }

/-- A request that a code is to be created for. -/
structure Approved where
  request : ValidRequest
  approval : Approval
  grant : AuthorizationGrant

def approve (host : AuthorizeHost) (request : ValidRequest) (session : SignedIn) (referenceID : String)
    (scopes : List String) (approval : Approval) : Approved where
  request := request
  approval := approval
  grant :=
    { clientID := request.client.clientId, userID := session.userID, sessionID := session.sessionID,
      redirectURI := request.redirectURI, scopes,
      codeChallenge := param request.query "code_challenge",
      codeChallengeMethod := param request.query "code_challenge_method",
      nonce := param request.query "nonce", referenceID, authTime := some (session.createdAt.getD host.now) }

def incompleteSession : Failure := .api 401 "INVALID_REQUEST" "Session is incomplete"

/-! ## The authorization endpoint -/

/-- A request by reference is replaced by what the reference stands for. The
client's id is kept. -/
def resolveRequest (query : Dict String) : Except AuthorizeAnswer (Dict String) :=
  let requestURI := param query "request_uri"
  let clientID := param query "client_id"
  let state := param query "state"
  if requestURI = "" then .ok query
  else
    match options.requestURIResolver with
    | none => .error (.error "" state "invalid_request_uri" "request_uri not supported")
    | some resolve =>
      match resolve requestURI clientID with
      | none => .error (.error "" state "invalid_request_uri" "request_uri is invalid or expired")
      | some resolved => .ok (if clientID = "" then resolved else resolved.set "client_id" clientID)

def AuthorizeRefusal.answer (state : String) (refusal : AuthorizeRefusal) : AuthorizeAnswer :=
  let code := refusal.code.toLower
  .error refusal.redirectURI state (if code = "bad_request" then "invalid_request" else code) refusal.message

/-- The checks of a request up to the code. -/
def authorizeGrant (host : AuthorizeHost) (input : Dict String) (continued : Bool)
    (store : ServerStore) : Except AuthorizeAnswer Approved := do
  let query ← resolveRequest options input
  let state := param query "state"
  let request ← (validateAuthorizationRequest options query store).mapError (AuthorizeRefusal.answer state)
  let fail := AuthorizeAnswer.error request.redirectURI state
  let prompts ← (authorizationPrompts (param query "prompt")).mapError (fail "invalid_request")
  let session ← (host.session false).mapError AuthorizeAnswer.failed
  let loginAgain := continued = false ∧ ("login" ∈ prompts ∨ "create" ∈ prompts)
  let page := fun (code description : String) (shown : AuthorizeAnswer) =>
    if "none" ∈ prompts then fail code description else shown
  require (¬ loginAgain) (page "login_required" "authentication required" (.loginPage request.query))
  let session ← expect session (page "login_required" "authentication required" (.loginPage request.query))
  require (session.userID ≠ "" ∧ session.sessionID ≠ "") (.failed incompleteSession)
  let referenceID ← (options.server.clientReference session.toSession).mapError
    (fun _ => AuthorizeAnswer.failed serverInternalError)
  let granted := grantedConsent request.client session.userID referenceID request.scopes ("consent" ∈ prompts) store
  let approval ← expect granted
    (page "consent_required" "End-User consent is required" (.consentPage request.query))
  .ok (approve host request session referenceID request.scopes approval)

def authorizeValues (host : AuthorizeHost) (input : Dict String) (continued : Bool)
    (store : ServerStore) : AuthorizeAnswer × ServerStore :=
  match authorizeGrant options host input continued store with
  | .error answer => (answer, store)
  | .ok approved =>
    match createAuthorizationCode options host approved.grant store with
    | none => (.failed serverInternalError, store)
    | some (code, after) =>
      (.redirected approved.request.redirectURI code (param approved.request.query "state"), after)

/-- What the page that was shown reports back. -/
structure ContinueBody where
  oauthQuery : String
  created : Bool := false
  selected : Bool := false
  postLogin : Bool := false

/-- The query that a login goes on with: without the prompts that are done. -/
def continuedQuery (host : AuthorizeHost) (body : Option ContinueBody) :
    Except AuthorizeAnswer (Dict String) := do
  let _ ← (host.session true).mapError AuthorizeAnswer.failed
  let body ← expect body (.failed (.api 400 "INVALID_REQUEST" "Invalid request body"))
  let query ← expect (options.verifySignedQuery body.oauthQuery host.now)
    (.failed (.api 401 "INVALID_REQUEST" "Invalid or expired oauth_query"))
  let prompts ← (authorizationPrompts (param query "prompt")).mapError
    (fun description => AuthorizeAnswer.failed (.api 400 "INVALID_REQUEST" description))
  let sessionID := match host.session false with
    | .ok (some session) => session.sessionID
    | _ => ""
  let query := if body.postLogin then query.set "ba_pl" sessionID else query
  let removed := fun prompt : String =>
    body.created && prompt = "create" || body.selected && prompt = "select_account" || prompt = "login"
  let filtered := prompts.filter (fun prompt => !removed prompt)
  .ok (if filtered = [] then query.erase "prompt" else query.set "prompt" (" ".intercalate filtered))

def continueAuthorization (host : AuthorizeHost) (body : Option ContinueBody)
    (store : ServerStore) : AuthorizeAnswer × ServerStore :=
  match continuedQuery options host body with
  | .error answer => (answer, store)
  | .ok query => authorizeValues options host query true store

structure ConsentBody where
  accept : Option Bool
  oauthQuery : String
  scope : String := ""

/-- The checks of an answer to the consent page up to the code. -/
def consentGrant (host : AuthorizeHost) (body : Option ConsentBody)
    (store : ServerStore) : Except AuthorizeAnswer (Approved × SignedIn) := do
  let session ← (host.session true).mapError AuthorizeAnswer.failed
  let session ← expect session (.failed (.api 401 "UNAUTHORIZED" "Authentication required"))
  let body ← expect body (.failed (.api 400 "INVALID_REQUEST" "Invalid request body"))
  let accept ← expect body.accept (.failed (.api 400 "INVALID_REQUEST" "accept is required"))
  let query ← expect (options.verifySignedQuery body.oauthQuery host.now)
    (.failed (.api 401 "INVALID_REQUEST" "Invalid or expired oauth_query"))
  let request ← (validateAuthorizationRequest options query store).mapError
    (fun refusal => AuthorizeAnswer.failed (.api 400 refusal.code refusal.message))
  require (accept = true) (.error request.redirectURI (param query "state") "access_denied" "User denied access")
  let accepted := if body.scope = "" then request.scopes else uniqueStrings (fields body.scope)
  require (∀ scope ∈ accepted, scope ∈ request.scopes)
    (.failed (.api 400 "INVALID_SCOPE" "Accepted scopes must be a subset of requested scopes"))
  require (session.userID ≠ "" ∧ session.sessionID ≠ "") (.failed incompleteSession)
  let referenceID ← (options.server.clientReference session.toSession).mapError
    (fun _ => AuthorizeAnswer.failed serverInternalError)
  .ok (approve host request session referenceID accepted (.accepted accepted), session)

/-- The consent and the code are written together or not at all. -/
def authorizeConsent (host : AuthorizeHost) (body : Option ConsentBody)
    (store : ServerStore) : AuthorizeAnswer × ServerStore :=
  match consentGrant options host body store with
  | .error answer => (answer, store)
  | .ok (approved, session) =>
    let grant := approved.grant
    let consented := keepConsent host approved.request.client session.userID grant.referenceID grant.scopes store
    match createAuthorizationCodeWithAdapter options host grant consented with
    | none => (.failed serverInternalError, store)
    | some (code, after) =>
      (.redirected approved.request.redirectURI code (param approved.request.query "state"), after)

/-! ## Redeeming a code -/

structure CodeInput where
  clientID : String
  clientSecret : String := ""
  code : String
  codeVerifier : String := ""
  redirectURI : String
  resource : String := ""

/-- Here a client that says nothing about PKCE need not have used it. -/
def redemptionRequiresPKCE : Bool :=
  client.isPublic || client.tokenEndpointAuthMethod = "none" || client.requirePKCE.getD false

def checkVerifier (pkceChallenge : String → String) (client : ClientRow) (grant : AuthorizationGrant)
    (codeVerifier : String) : Except TokenError Unit := do
  require (redemptionRequiresPKCE client = false ∨ codeVerifier ≠ "")
    (.protocol 400 "invalid_request" "PKCE is required for this client")
  require (grant.codeChallenge = "" ∨ codeVerifier ≠ "")
    (.protocol 401 "invalid_request" "code_verifier required because PKCE was used in authorization")
  require (codeVerifier = "" ∨ grant.codeChallenge ≠ "")
    (.protocol 401 "invalid_request" "code_verifier provided but PKCE was not used in authorization")
  require (grant.codeChallenge = "" ∨
      grant.codeChallengeMethod = "S256" ∧ pkceChallenge codeVerifier = grant.codeChallenge)
    (.protocol 401 "invalid_request" "code verification failed")

/-- The grant that a code's row stands for, when the request may have it. -/
def redeemedGrant (config : TokenConfig) (options : AuthorizeOptions) (pkceChallenge : String → String) (now : Int)
    (input : CodeInput) (row : VerificationRow) (store : ServerStore) : Except TokenError Grant := do
  require (¬ row.expiresAt < now) (.protocol 401 "invalid_grant" "invalid code")
  let grant ← expect (AuthorizationGrant.unmarshal options.times row.value)
    (.protocol 401 "invalid_grant" "malformed verification value")
  require (grant.clientID = input.clientID) (.protocol 401 "invalid_client" "invalid client_id")
  require (grant.redirectURI = input.redirectURI) (.protocol 400 "invalid_request" "redirect_uri mismatch")
  let client ← config.validateClient store.tokens input.clientID input.clientSecret
  require (clientAllowsGrant client "authorization_code" = true)
    (.protocol 400 "unauthorized_client" "client is not authorized to use grant type authorization_code")
  checkVerifier pkceChallenge client grant input.codeVerifier
  require (grant.userID ∈ store.tokens.users)
    (.protocol 400 "invalid_user" "missing user, user may have been deleted")
  let session ← expect (store.sessions.find? (fun session => session.id = grant.sessionID))
    (.protocol 400 "invalid_request" "session no longer exists")
  let expiresAt ← expect session.expiresAt (.protocol 400 "invalid_request" "session no longer exists")
  require (¬ expiresAt < now) (.protocol 400 "invalid_request" "session no longer exists")
  .ok { client, user := some grant.userID, sessionID := grant.sessionID, scopes := grant.scopes,
        resource := input.resource, referenceID := grant.referenceID, authTime := grant.authTime.or session.createdAt }

/-- The row of the code that a request presents is gone whether or not the
request gets its tokens. -/
def consumeCode (input : CodeInput) (store : ServerStore) :
    Except TokenError (VerificationRow × ServerStore) := do
  require (input.clientID ≠ "" ∧ input.code ≠ "" ∧ input.redirectURI ≠ "")
    (.protocol 400 "invalid_request" "authorization code request is incomplete")
  let identifier ← expect (options.storedCode input.code) .internal
  let (row, verifications) ← expect (consumeFirst (fun row => row.identifier = identifier) store.verifications)
    (.protocol 401 "invalid_grant" "invalid code")
  .ok (row, { store with verifications })

def authorizationCode (config : TokenConfig) (options : AuthorizeOptions) (pkceChallenge : String → String)
    (host : TokenHost) (input : CodeInput) (store : ServerStore) : Except TokenError IssuedTokens × ServerStore :=
  match consumeCode options input store with
  | .error failure => (.error failure, store)
  | .ok (row, store) =>
    match redeemedGrant config options pkceChallenge host.now input row store with
    | .error failure => (.error failure, store)
    | .ok grant =>
      let (result, tokens) := issueDetailed config host grant none store.tokens
      (result, { store with tokens })

end singleauth.oauthprovider
