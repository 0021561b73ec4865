import SingleAuth.Plugins.OAuthProxy.Hooks

open fallible
open singleauth.core

namespace singleauth.oauthproxy

structure SignInInput where
  providerID : String
  user : PassthroughUser
  account : PassthroughAccount
  disableSignUp : Bool
deriving DecidableEq, Repr

inductive SignInOutcome where
  | apiError (code message : String)
  | failed (failure : Failure)
  | linkError (text : String)
  | missingSession
  | refreshFailed (failure : Failure)
  | signedIn (isRegister : Bool)

/-- A request to the proxy callback: `cookie` is the encrypted state cookie the
browser presents, `handleOAuthUser` the core's sign-in. -/
structure ProxyCallbackRequest where
  clock : Int
  callbackURL : String
  trusted : Except Failure Bool
  profile : String
  cookie : Option String
  defaultErrorURL : String
  handleOAuthUser : SignInInput → SignInOutcome

inductive ProxyCallbackAnswer where
  | failed (failure : Failure)
  | errorRedirect (target code description : String)
  | redirected (location : String)
deriving DecidableEq, Repr

section

variable {F : Type} (host : Host F) (strategy : StateStrategy)

/-- Whether the state was started here and has not expired. A row of the
verification table is consumed; a cookie is only cleared in the answer. -/
def consumeProxyState (clock : Int) (cookie : Option String) (state : String) (server : Server) : Bool × Server :=
  if state = "" then (false, server)
  else
    match strategy with
    | .cookie =>
      match (cookie.filter (fun text => text ≠ "")).bind server.decrypt with
      | none => (false, server)
      | some document =>
        match parseStateData host document with
        | none => (false, server)
        | some data =>
          (data.oauthState ≠ "" && data.oauthState = state &&
            host.le (host.ofMillis (unixMilli clock)) data.expiresAt, server)
    | .database =>
      let (verification, rows) := findStoredVerification clock state server.verifications
      let server := { server with verifications := rows }
      match verification.bind (fun row => parseStateData host row.value) with
      | none => (false, server)
      | some data =>
        if data.oauthState ≠ "" ∧ data.oauthState ≠ state then (false, server)
        else
          let (consumed, rows) := consumeStoredVerification clock state server.verifications
          (consumed.isSome && host.le (host.ofMillis (unixMilli clock)) data.expiresAt,
            { server with verifications := rows })

/-- The checks on a request before its profile is decoded. -/
def openProfile (request : ProxyCallbackRequest) (server : Server) :
    Except ProxyCallbackAnswer (PassthroughPayload F) := do
  require (request.callbackURL ≠ "") (.failed (.api 400 "BAD_REQUEST" "callbackURL is required"))
  let trusted ← request.trusted.mapError (fun _ => .failed internalError)
  require (trusted = true) (.failed (.api 403 "INVALID_CALLBACK_URL" "Invalid callbackURL"))
  require (request.profile ≠ "") (.errorRedirect request.defaultErrorURL "missing_profile" "")
  let plaintext ← expect (server.decrypt request.profile)
    (.errorRedirect request.defaultErrorURL "invalid_profile" "")
  expect (decodePassthroughPayload host plaintext) (.errorRedirect request.defaultErrorURL "invalid_payload" "")

/-- The age of a profile is at most `maxAge`; its clock may be ten seconds ahead. -/
def isCurrent (maxAge clock : Int) (timestamp : F) : Bool :=
  let age := clock - host.timeFromMilliseconds timestamp
  age ≤ maxAge && -10 * 1000000000 ≤ age

def underscored (text : String) : String :=
  String.ofList (text.toList.map (fun c => if c = ' ' then '_' else c))

/-- The answer to what the core made of a profile. -/
def answerSignIn (errorURL : String) (payload : PassthroughPayload F) : SignInOutcome → ProxyCallbackAnswer
  | .apiError code message => .errorRedirect errorURL code message
  | .failed failure => .failed failure
  | .linkError text => .errorRedirect errorURL (underscored text) ""
  | .missingSession => .errorRedirect errorURL "user_creation_failed" ""
  | .refreshFailed failure => .failed failure
  | .signedIn isRegister =>
    .redirected (if isRegister = true ∧ payload.newUserURL ≠ "" then payload.newUserURL else payload.callbackURL)

def signInInput (payload : PassthroughPayload F) : SignInInput :=
  ⟨payload.account.providerID, payload.userInfo, payload.account, payload.disableSignUp⟩

def proxyCallback (maxAge : Int) (request : ProxyCallbackRequest) (server : Server) :
    ProxyCallbackAnswer × Server × List Event :=
  match openProfile host request server with
  | .error answer => (answer, server, [])
  | .ok payload =>
    let errorURL := if payload.errorURL = "" then request.defaultErrorURL else payload.errorURL
    if isCurrent host maxAge request.clock payload.timestamp = false then
      (.errorRedirect errorURL "payload_expired" "", server, [])
    else
      let (known, server) := consumeProxyState host strategy request.clock request.cookie payload.state server
      if known = false then (.errorRedirect errorURL "state_mismatch" "", server, [])
      else
        let outcome := request.handleOAuthUser (signInInput payload)
        (answerSignIn errorURL payload outcome, server,
          match outcome with
          | .signedIn _ => [.signedIn payload.account.providerID payload.userInfo.id payload.userInfo.email
              payload.userInfo.emailVerified]
          | _ => [])

end

end singleauth.oauthproxy
