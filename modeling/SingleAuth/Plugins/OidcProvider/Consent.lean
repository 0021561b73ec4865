import SingleAuth.Plugins.OidcProvider.Types

open fallible
open singleauth.core

namespace singleauth.oidcprovider

/-- A consent request: the code comes from the body or from the signed prompt cookie. -/
structure ConsentRequest where
  clock : Int
  random : List UInt8
  session : Except Failure SessionState
  accept : Option Bool
  (consentCode cookieCode : String)

def ConsentRequest.code (request : ConsentRequest) : String :=
  if request.consentCode ≠ "" then request.consentCode else request.cookieCode

inductive ConsentAnswer where
  | denied (redirectURI : String)
  | accepted (redirectURI code : String) (state : Option String)
deriving DecidableEq, Repr

def checkConsent (request : ConsentRequest) : Except Failure Bool := do
  let _ ← request.session
  let accept ← expect request.accept (.api 400 "VALIDATION_ERROR" "accept is required")
  require (request.code ≠ "")
    (oauthError 401 "invalid_request" "consent_code is required (either in body or cookie)")
  .ok accept

/-- Replace a code that waits for consent by one that does not, and remember the
consent. Any session may give it. -/
def acceptConsent (codeExpiresIn : Int) (sentState : Option String → Option String) (request : ConsentRequest)
    (value : AuthorizationCodeValue) (store : Store) : Except Failure ConsentAnswer × Store :=
  match randomString request.random 32 [lowerAlphabet, upperAlphabet, digitAlphabet] with
  | .error failure => (.error failure, store)
  | .ok (code, _) =>
    let rows := createStoredVerification request.clock code { value with requireConsent := false }.marshal
      (request.clock + codeExpiresIn) store.verifications
    let consent : Consent := ⟨value.clientID, value.userID, " ".intercalate (value.scope.getD []), true⟩
    (.ok (.accepted value.redirectURI code (sentState value.state)),
      { store with verifications := rows, consents := store.consents ++ [consent] })

/-- The consent endpoint of both plugins; they differ in whether an empty state
is sent on. -/
def consentWith (codeExpiresIn : Int) (sentState : Option String → Option String) (request : ConsentRequest)
    (store : Store) : Except Failure ConsentAnswer × Store :=
  match checkConsent request with
  | .error failure => (.error failure, store)
  | .ok accept =>
    match latestVerification request.code store.verifications with
    | none => (.error (oauthError 401 "invalid_request" "Invalid code"), store)
    | some row =>
      if row.expiresAt < request.clock then
        (.error (oauthError 401 "invalid_request" "Code expired"),
          { store with verifications := store.verifications.filter (fun other => other.identifier ≠ request.code) })
      else
        match AuthorizationCodeValue.unmarshal row.value with
        | none => (.error internalError, store)
        | some value =>
          if value.requireConsent = false then
            (.error (oauthError 401 "invalid_request" "Consent not required"), store)
          else
            let (claimed, rows) := consumeStoredVerification request.clock request.code store.verifications
            let store := { store with verifications := rows }
            if claimed.isNone then (.error (oauthError 401 "invalid_request" "Invalid code"), store)
            else if accept = false then (.ok (.denied value.redirectURI), store)
            else acceptConsent codeExpiresIn sentState request value store

def consent (codeExpiresIn : Int) (request : ConsentRequest) (store : Store) :
    Except Failure ConsentAnswer × Store :=
  consentWith codeExpiresIn id request store

end singleauth.oidcprovider
