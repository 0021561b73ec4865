import SingleAuth.Core.OAuthState.Document
import SingleAuth.Core.OAuthState.Store
import SingleAuth.Lib.Json.Generic

open json
namespace singleauth.oauthproxy

/-- The library functions the plugin relies on, over the floating-point numbers
`F`: reading a number literal, which fails out of range, and writing one;
converting milliseconds from an integer and to a nanosecond instant;
reading and writing dates; and taking URLs apart. -/
structure Host (F : Type) where
  parseFloat : Number → Option F
  formatFloat : F → Number
  ofMillis : Int64 → F
  isZero : F → Bool
  le : F → F → Bool
  timeFromMilliseconds : F → Int
  parseTime : String → Option Int
  formatTime : Int → String
  isAbsoluteURL : String → Bool
  callbackURLFromState : String → String
  proxyCallbackURL : String → String → String
  providerCallbackURL : String → String → String

/-- A text that is left out of a document when it is empty. -/
def textOrOmit (content : String) : Option Value :=
  if content = "" then none else some (.str content)

structure PassthroughUser where
  (id email name image : String)
  emailVerified : Bool
deriving DecidableEq, Repr

namespace PassthroughUser

def zero : PassthroughUser := ⟨"", "", "", "", false⟩

def table (user : PassthroughUser) : List (String × Option Value) :=
  [("id", some (.str user.id)), ("email", some (.str user.email)), ("name", some (.str user.name)),
    ("image", textOrOmit user.image), ("emailVerified", some (.bool user.emailVerified))]

def unmarshal (user : PassthroughUser) (members : List (String × Value)) : Option PassthroughUser := do
  let id ← Kind.string.read "id" user.id members
  let email ← Kind.string.read "email" user.email members
  let name ← Kind.string.read "name" user.name members
  let image ← Kind.string.read "image" user.image members
  let emailVerified ← Kind.bool.read "emailVerified" user.emailVerified members
  some ⟨id, email, name, image, emailVerified⟩

end PassthroughUser

structure PassthroughAccount where
  (providerID accountID accessToken refreshToken idToken : String)
  (accessTokenExpiresAt refreshTokenExpiresAt : Option Int)
  scope : String
deriving DecidableEq, Repr

namespace PassthroughAccount

variable {F : Type} (host : Host F)

def zero : PassthroughAccount := ⟨"", "", "", "", "", none, none, ""⟩

def table (account : PassthroughAccount) : List (String × Option Value) :=
  [("providerId", some (.str account.providerID)), ("accountId", some (.str account.accountID)),
    ("accessToken", textOrOmit account.accessToken), ("refreshToken", textOrOmit account.refreshToken),
    ("idToken", textOrOmit account.idToken),
    ("accessTokenExpiresAt", account.accessTokenExpiresAt.map (fun time => .str (host.formatTime time))),
    ("refreshTokenExpiresAt", account.refreshTokenExpiresAt.map (fun time => .str (host.formatTime time))),
    ("scope", textOrOmit account.scope)]

/-- A date is a string in its one format. -/
def isoTime? (value : Value) : Option Int := value.string?.bind host.parseTime

def unmarshal (account : PassthroughAccount) (members : List (String × Value)) : Option PassthroughAccount := do
  let providerID ← Kind.string.read "providerId" account.providerID members
  let accountID ← Kind.string.read "accountId" account.accountID members
  let accessToken ← Kind.string.read "accessToken" account.accessToken members
  let refreshToken ← Kind.string.read "refreshToken" account.refreshToken members
  let idToken ← Kind.string.read "idToken" account.idToken members
  let accessTokenExpiresAt ←
    (Kind.pointer (isoTime? host)).read "accessTokenExpiresAt" account.accessTokenExpiresAt members
  let refreshTokenExpiresAt ←
    (Kind.pointer (isoTime? host)).read "refreshTokenExpiresAt" account.refreshTokenExpiresAt members
  let scope ← Kind.string.read "scope" account.scope members
  some ⟨providerID, accountID, accessToken, refreshToken, idToken, accessTokenExpiresAt, refreshTokenExpiresAt, scope⟩

end PassthroughAccount

/-- The profile that the production server hands to the server that started the
sign-in, encrypted, through the browser. -/
structure PassthroughPayload (F : Type) where
  userInfo : PassthroughUser
  account : PassthroughAccount
  (state callbackURL newUserURL errorURL : String)
  disableSignUp : Bool
  timestamp : F

def stringValue (value : Option Value) : Option String := value.bind Value.string?

section

variable {F : Type} (host : Host F)

def float? : Value → Option F
  | .num number => host.parseFloat number
  | _ => none

def timestampMilliseconds (value : Option Value) : Option F := value.bind (float? host)

namespace PassthroughPayload

def table (payload : PassthroughPayload F) : List (String × Option Value) :=
  [("userInfo", some (.obj (written payload.userInfo.table))),
    ("account", some (.obj (written (payload.account.table host)))), ("state", some (.str payload.state)),
    ("callbackURL", some (.str payload.callbackURL)), ("newUserURL", textOrOmit payload.newUserURL),
    ("errorURL", textOrOmit payload.errorURL), ("disableSignUp", some (.bool payload.disableSignUp)),
    ("timestamp", some (.num (host.formatFloat payload.timestamp)))]

def marshal (payload : PassthroughPayload F) : Value := .obj (written (payload.table host))

/-- The fields of a payload but its timestamp, which is read apart. -/
def unmarshal (timestamp : F) (members : List (String × Value)) : Option (PassthroughPayload F) := do
  let userInfo ← (Kind.inline .zero PassthroughUser.unmarshal).read "userInfo" .zero members
  let account ← (Kind.inline .zero (PassthroughAccount.unmarshal host)).read "account" .zero members
  let state ← Kind.string.read "state" "" members
  let callbackURL ← Kind.string.read "callbackURL" "" members
  let newUserURL ← Kind.string.read "newUserURL" "" members
  let errorURL ← Kind.string.read "errorURL" "" members
  let disableSignUp ← Kind.bool.read "disableSignUp" false members
  let _ ← (Kind.scalar (float? host)).read "timestamp" timestamp members
  some ⟨userInfo, account, state, callbackURL, newUserURL, errorURL, disableSignUp, timestamp⟩

end PassthroughPayload

/-- Decode a decrypted profile. The five members that every profile has are
looked up by their exact names, all fields are then decoded from the same
object in any spelling. -/
def decodePassthroughPayload : Value → Option (PassthroughPayload F)
  | .obj members => do
    let object := toObject members
    let timestamp ← timestampMilliseconds host (object.get? "timestamp")
    let state ← stringValue (object.get? "state")
    let callbackURL ← stringValue (object.get? "callbackURL")
    let _ ← (object.get? "userInfo").bind Value.object?
    let _ ← (object.get? "account").bind Value.object?
    if state = "" ∨ callbackURL = "" then none
    else PassthroughPayload.unmarshal host timestamp object.entries
  | _ => none

/-- What the plugin reads of an OAuth state. Unlike the core it looks the
members up by their exact names. -/
structure ProxyStateData (F : Type) where
  (callbackURL codeVerifier errorURL newUserURL oauthState : String)
  expiresAt : F
  requestSignUp : Option Bool

def parseStateData : Value → Option (ProxyStateData F)
  | .obj members => do
    let object := toObject members
    let callbackURL ← stringValue (object.get? "callbackURL")
    let codeVerifier ← stringValue (object.get? "codeVerifier")
    let expiresAt ← timestampMilliseconds host (object.get? "expiresAt")
    if callbackURL = "" ∨ codeVerifier = "" ∨ host.isZero expiresAt = true then none
    else
      some
        { callbackURL := callbackURL
          codeVerifier := codeVerifier
          errorURL := (stringValue (object.get? "errorURL")).getD ""
          newUserURL := (stringValue (object.get? "newUserURL")).getD ""
          oauthState := (stringValue (object.get? "oauthState")).getD ""
          expiresAt := expiresAt
          requestSignUp := (object.get? "requestSignUp").bind Value.bool? }
  | _ => none

end

/-- What travels as the state parameter: the real state and the encrypted state
document. -/
structure StatePackage where
  (state stateCookie : String)
  isOAuthProxy : Bool
deriving DecidableEq, Repr

namespace StatePackage

def marshal (package : StatePackage) : Value :=
  .obj [("state", .str package.state), ("stateCookie", .str package.stateCookie),
    ("isOAuthProxy", .bool package.isOAuthProxy)]

def unmarshal : Value → Option StatePackage
  | .obj members => do
    let state ← Kind.string.read "state" "" members
    let stateCookie ← Kind.string.read "stateCookie" "" members
    let isOAuthProxy ← Kind.bool.read "isOAuthProxy" false members
    some ⟨state, stateCookie, isOAuthProxy⟩
  | .null => some ⟨"", "", false⟩
  | _ => none

end StatePackage

end singleauth.oauthproxy
