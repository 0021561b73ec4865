import SingleAuth.Plugins.OAuthProxy.Types

open json fallible
open singleauth.core

namespace singleauth.oauthproxy

/-- Where the core keeps the state of an OAuth round trip. -/
inductive StateStrategy where
  | database
  | cookie
deriving DecidableEq, Repr

/-- The verification table, and every ciphertext that was produced under the
server's secret with what it was produced from. Encryption is ideal: nothing
else decrypts. -/
structure Server where
  verifications : List VerificationRow
  encrypted : List (String × Value)

def Server.decrypt (server : Server) (text : String) : Option Value := server.encrypted.lookup text

def Server.encrypt (server : Server) (text : String) (plaintext : Value) : Server :=
  { server with encrypted := server.encrypted ++ [(text, plaintext)] }

def internalError : Failure := .api 500 "INTERNAL_SERVER_ERROR" "Internal Server Error"

/-- A request that starts an OAuth round trip. `skipProxy` says that the hooks
leave it alone; the three texts are the ciphertexts that are drawn for it,
missing when the random source fails. -/
structure SignInRequest where
  env : StateEnvironment
  body : Object
  link : Option OAuthLinkState
  skipProxy : Bool
  (currentURL baseURL : Except Failure String)
  (cookieText innerText packageText : Option String)

section

variable {F : Type} (host : Host F) (strategy : StateStrategy) (request : SignInRequest)

/-- Send the browser back through the proxy callback. -/
def beforeSignIn : Except Failure Object :=
  if request.skipProxy then .ok request.body
  else do
    let currentURL ← request.currentURL.mapError (fun _ => internalError)
    let given := (stringValue (request.body.get? "callbackURL")).getD ""
    let original ← (if given = "" then request.baseURL.mapError (fun _ => internalError) else .ok given)
    .ok (request.body.set "callbackURL" (.str (host.proxyCallbackURL currentURL original)))

/-- The state document that a sign-in has just stored. -/
def statePlaintextFromSignIn (state : String) (server : Server) : Option Value × Server :=
  match strategy with
  | .cookie => (request.cookieText.bind server.decrypt, server)
  | .database =>
    let (verification, rows) := findStoredVerification request.env.clock state server.verifications
    (verification.map VerificationRow.value, { server with verifications := rows })

/-- Put the state document, encrypted, into the state parameter. -/
def afterSignIn (state : String) (server : Server) : Server :=
  if request.skipProxy then server
  else
    let (plaintext, server) := statePlaintextFromSignIn strategy request state server
    match plaintext, request.innerText with
    | some value, some inner =>
      let server := server.encrypt inner value
      match request.packageText with
      | some text => server.encrypt text (StatePackage.marshal ⟨state, inner, true⟩)
      | none => server
    | _, _ => server

/-- Keep a state document: in the verification table or in an encrypted cookie. -/
def keepState (data : OAuthStateData) (state : String) (server : Server) : Option Server :=
  let document := Value.obj (marshalOAuthState data).entries
  match strategy with
  | .cookie => request.cookieText.map (fun text => server.encrypt text document)
  | .database =>
    let rows := createStoredVerification request.env.clock state document
      (request.env.clock + oauthStateLifetime) server.verifications
    some { server with verifications := rows }

/-- Start an OAuth round trip with both hooks around it. The answer is the state. -/
def signIn (server : Server) : Except Failure String × Server :=
  match beforeSignIn host request with
  | .error failure => (.error failure, server)
  | .ok body =>
    match generateOAuthState request.env body request.link with
    | .error failure => (.error failure, server)
    | .ok (data, state) =>
      match keepState strategy request data state server with
      | none => (.error internalError, server)
      | some server => (.ok state, afterSignIn strategy request state server)

end

structure Tokens where
  (accessToken refreshToken idToken : String)
  (accessTokenExpiresAt refreshTokenExpiresAt : Option Int)
  scopes : List String

/-- The name and address a provider's authorization answer may carry. -/
structure AuthorizationUser where
  (firstName lastName email : String)

structure UserInfo where
  (id name image : String)
  email : Option String
  emailVerified : Bool

structure Provider where
  id : String
  (disableImplicitSignUp disableSignUp : Bool)
  validateAuthorizationCode : String → String → String → Option Tokens
  getUserInfo : Tokens → Option AuthorizationUser → Option UserInfo

/-- A provider's callback. Its body and its query are missing when they do not
parse; an empty body is an empty object. -/
structure CallbackRequest where
  clock : Int
  body : Option Object
  query : Option (List (String × String))
  providerID : String
  providers : String → Option Provider
  baseURL : Except Failure String
  defaultErrorURL : String
  parseAuthorizationUser : String → Option AuthorizationUser
  profileText : Option String

/-- The query over the body; three of the parameters have to be strings. -/
def callbackParameters (request : CallbackRequest) : Option Object := do
  let body ← request.body
  let query ← request.query
  let parameters := body.setAll (query.map (fun entry => (entry.1, .str entry.2)))
  if ["code", "error", "user"].all (fun key =>
      (parameters.get? key).all (fun value => value.isNull || value.string?.isSome)) then some parameters
  else none

inductive CallbackAnswer where
  | passed
  | failed (failure : Failure)
  | errorRedirect (target code : String)
  | redirected (callbackURL profile : String)
deriving DecidableEq, Repr

inductive Event where
  | fetched (providerID id : String) (email : Option String) (emailVerified : Bool)
  | signedIn (providerID id email : String) (emailVerified : Bool)
deriving DecidableEq, Repr

section

variable {F : Type} (host : Host F)

/-- The package that travelled as state and the document inside it. -/
def openPackage (parameters : Object) (server : Server) : Option (StatePackage × ProxyStateData F) := do
  let state ← stringValue (parameters.get? "state")
  if state = "" then none
  else do
    let plaintext ← server.decrypt state
    let package ← StatePackage.unmarshal plaintext
    if package.isOAuthProxy = false ∨ package.state = "" ∨ package.stateCookie = "" then none
    else do
      let document ← server.decrypt package.stateCookie
      let data ← parseStateData host document
      some (package, data)

variable (request : CallbackRequest)

/-- Ask the provider for the user behind the authorization code. -/
def fetchUserInfo (parameters : Object) (package : StatePackage)
    (data : ProxyStateData F) (errorURL : String) : Except CallbackAnswer (Provider × Tokens × UserInfo) := do
  require (data.oauthState = "" ∨ data.oauthState = package.state) (.errorRedirect errorURL "state_mismatch")
  let callbackError := (stringValue (parameters.get? "error")).getD ""
  require (callbackError = "") (.errorRedirect errorURL callbackError)
  let code := (stringValue (parameters.get? "code")).getD ""
  require (code ≠ "") (.errorRedirect errorURL "no_code")
  let provider ← expect (request.providers request.providerID) (.errorRedirect errorURL "oauth_provider_not_found")
  let baseURL ← request.baseURL.mapError (fun _ => .failed internalError)
  let tokens ← expect
    (provider.validateAuthorizationCode code data.codeVerifier (host.providerCallbackURL baseURL provider.id))
    (.errorRedirect errorURL "invalid_code")
  let rawUser := (stringValue (parameters.get? "user")).getD ""
  let authorizationUser := if rawUser = "" then none else request.parseAuthorizationUser rawUser
  let userInfo ← expect (provider.getUserInfo tokens authorizationUser)
    (.errorRedirect errorURL "unable_to_get_user_info")
  .ok (provider, tokens, userInfo)

/-- The payload that carries a provider's answer on. -/
def passthroughPayload (package : StatePackage) (data : ProxyStateData F)
    (provider : Provider) (tokens : Tokens) (userInfo : UserInfo) (email : String) : PassthroughPayload F where
  userInfo := ⟨userInfo.id, email, userInfo.name, userInfo.image, userInfo.emailVerified⟩
  account := ⟨provider.id, userInfo.id, tokens.accessToken, tokens.refreshToken, tokens.idToken,
    tokens.accessTokenExpiresAt, tokens.refreshTokenExpiresAt, ",".intercalate tokens.scopes⟩
  state := package.state
  callbackURL := host.callbackURLFromState data.callbackURL
  newUserURL := data.newUserURL
  errorURL := data.errorURL
  disableSignUp := (provider.disableImplicitSignUp && !data.requestSignUp.getD false) || provider.disableSignUp
  timestamp := host.ofMillis (unixMilli request.clock)

/-- Handle a callback whose state is one of the plugin's packages: the profile
goes on, encrypted, to the server that started the round trip. -/
def beforeCallback (server : Server) : CallbackAnswer × Server × List Event :=
  match (callbackParameters request).bind (fun parameters =>
      (openPackage host parameters server).map (Prod.mk parameters)) with
  | none => (.passed, server, [])
  | some (parameters, package, data) =>
    let errorURL := if data.errorURL = "" then request.defaultErrorURL else data.errorURL
    match fetchUserInfo host request parameters package data errorURL with
    | .error answer => (answer, server, [])
    | .ok (provider, tokens, userInfo) =>
      let events := [.fetched provider.id userInfo.id userInfo.email userInfo.emailVerified]
      let email := userInfo.email.getD ""
      if email = "" then (.errorRedirect errorURL "email_not_found", server, events)
      else if host.isAbsoluteURL data.callbackURL = false then (.failed internalError, server, events)
      else
        match request.profileText with
        | none => (.failed internalError, server, events)
        | some text =>
          let payload := passthroughPayload host request package data provider tokens userInfo email
          (.redirected data.callbackURL text, server.encrypt text (payload.marshal host), events)

end

end singleauth.oauthproxy
