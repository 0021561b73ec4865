import SingleAuth.Core.Random
import SingleAuth.Core.Verification
import SingleAuth.Lib.Json.Struct
import SingleAuth.Lib.Text

open json fallible
open singleauth.core

namespace singleauth.oidcprovider

/-- What an authorization code stands for: kept as a JSON document in the
verification table, under the code. -/
structure AuthorizationCodeValue where
  (clientID redirectURI : String)
  scope : Option (List String)
  userID : String
  authTime : Int64
  requireConsent : Bool
  state : Option String
  (codeChallenge codeChallengeMethod nonce : String)
deriving DecidableEq, Repr

namespace AuthorizationCodeValue

def unmarshalMembers (members : List (String × Value)) : Option AuthorizationCodeValue := do
  let clientID ← Kind.string.read "clientId" "" members
  let redirectURI ← Kind.string.read "redirectURI" "" members
  let scope ← Kind.strings.read "scope" none members
  let userID ← Kind.string.read "userId" "" members
  let authTime ← Kind.int64.read "authTime" 0 members
  let requireConsent ← Kind.bool.read "requireConsent" false members
  let state ← (Kind.pointer Value.string?).read "state" none members
  let codeChallenge ← Kind.string.read "codeChallenge" "" members
  let codeChallengeMethod ← Kind.string.read "codeChallengeMethod" "" members
  let nonce ← Kind.string.read "nonce" "" members
  some ⟨clientID, redirectURI, scope, userID, authTime, requireConsent, state, codeChallenge,
    codeChallengeMethod, nonce⟩

def unmarshal : Value → Option AuthorizationCodeValue
  | .obj members => unmarshalMembers members
  | .null => some ⟨"", "", none, "", 0, false, none, "", "", ""⟩
  | _ => none

def marshal (value : AuthorizationCodeValue) : Value :=
  .obj ([("clientId", .str value.clientID), ("redirectURI", .str value.redirectURI),
    ("scope", value.scope.elim .null (fun scopes => .arr (scopes.map Value.str))),
    ("userId", .str value.userID), ("authTime", .ofInt64 value.authTime),
    ("requireConsent", .bool value.requireConsent), ("state", value.state.elim .null Value.str)] ++
    omitEmpty "codeChallenge" value.codeChallenge ++
    omitEmpty "codeChallengeMethod" value.codeChallengeMethod ++ omitEmpty "nonce" value.nonce)

end AuthorizationCodeValue

structure Client where
  (clientID clientSecret type : String)
  disabled : Bool
  redirectURLs : List String
  skipConsent : Bool
deriving DecidableEq, Repr

/-- A row of the oauthAccessToken table. Times are nanoseconds. -/
structure AccessToken where
  (accessToken refreshToken : String)
  (accessTokenExpiresAt refreshTokenExpiresAt : Int)
  (clientID userID scopes : String)
  createdAt : Int
deriving DecidableEq, Repr

structure Consent where
  (clientID userID scopes : String)
  consentGiven : Bool
deriving DecidableEq, Repr

structure Store where
  verifications : List VerificationRow
  applications : List Client
  accessTokens : List AccessToken
  consents : List Consent
  users : List String

/-- The session a request is made in: the id of its user record, the user id of
its session record and when the session was created, if that is known. -/
structure SessionState where
  (userRecordID sessionUserID : String)
  createdAt : Option Int
deriving DecidableEq, Repr

def SessionState.userID (session : SessionState) : String :=
  if session.userRecordID ≠ "" then session.userRecordID else session.sessionUserID

/-- The zero time, the first instant of year 1. -/
def zeroTime : Int := -62135596800 * 1000000000

def oauthError (status : Nat) (code description : String) : Failure := .api status code description

def internalError : Failure := .api 500 "INTERNAL_SERVER_ERROR" "Internal Server Error"

def lowerAlphabet : String := "abcdefghijklmnopqrstuvwxyz"

def upperAlphabet : String := "ABCDEFGHIJKLMNOPQRSTUVWXYZ"

def digitAlphabet : String := "0123456789"

/-- A random string over joined alphabets, and the bytes the source still holds. -/
def randomString (random : List UInt8) (length : Nat) (alphabets : List String) :
    Except Failure (String × List UInt8) :=
  let letters := alphabets.flatMap String.toList
  if letters.length < 2 ∨ letters.length > 256 then .error internalError
  else
    match drawCharacters letters (256 - 256 % letters.length) length random with
    | none => .error internalError
    | some (characters, rest) => .ok (String.ofList characters, rest)

/-- The fields of a token request, from its body or its Authorization header. -/
structure TokenRequest where
  clock : Int
  random : List UInt8
  (grantType clientID clientSecret code redirectURI codeVerifier refreshToken : String)

/-- What both token endpoints need of their options: the lifetimes, whether a
code challenge is mandatory, how a client is found and its secret checked,
the digest of a code verifier, and what the id token signing answers. -/
structure TokenOptions where
  (accessTokenExpiresIn refreshTokenExpiresIn : Int)
  requirePKCE : Bool
  pkceChallenge : String → String
  verifyClientSecret : String → String → Except Failure Bool
  idToken : AccessToken → Except Failure String

def checkClientSecret (options : TokenOptions) (client : Client) (clientSecret : String) : Except Failure Unit := do
  require (client.clientSecret ≠ "" ∧ clientSecret ≠ "")
    (oauthError 401 "invalid_client" "client_secret is required for confidential clients")
  let valid ← options.verifyClientSecret client.clientSecret clientSecret
  require (valid = true) (oauthError 401 "invalid_client" "invalid client_secret")

def checkCodeChallenge (options : TokenOptions) (value : AuthorizationCodeValue) (codeVerifier : String) :
    Except Failure Unit :=
  if value.codeChallenge = "" then .ok ()
  else
    let challenge := if value.codeChallengeMethod = "plain" then codeVerifier else options.pkceChallenge codeVerifier
    require (challenge = value.codeChallenge) (oauthError 401 "invalid_request" "code verification failed")

def drawTokens (random : List UInt8) (refreshAlphabets : List String) : Except Failure (String × String) := do
  let (accessToken, rest) ← randomString random 32 [lowerAlphabet, upperAlphabet]
  let (refreshToken, _) ← randomString rest 32 refreshAlphabets
  .ok (accessToken, refreshToken)

end singleauth.oidcprovider
