import SingleAuth.Core.OAuthState.Codec
import SingleAuth.Core.Random
import SingleAuth.Core.Verification
import SingleAuth.Internal.Httpio

open dict json fallible

namespace singleauth.core

/-- What a request finds on the server when it starts an OAuth round trip: the
origin the server is reached under, the clock in nanoseconds and the
random source. -/
structure StateEnvironment where
  baseOrigin : String
  clock : Int
  random : Option (List UInt8)

def oauthRandomAlphabet : String := "abcdefghijklmnopqrstuvwxyz0123456789ABCDEFGHIJKLMNOPQRSTUVWXYZ-_"

/-- Ten minutes in nanoseconds. -/
def oauthStateLifetime : Int := 10 * 60 * 1000000000

def additionalData (body : Object) : Object :=
  match body.get? "additionalData" with
  | some (.obj members) => Dict.ofEntries members
  | _ => Dict.empty

/-- The address the browser returns to: the client's, or the server's own origin. -/
def callbackURLFor (env : StateEnvironment) (body : Object) : String :=
  match httpio.optionalString body "callbackURL" with
  | (some text, true) => if text ≠ "" then text else env.baseOrigin
  | _ => env.baseOrigin

/-- Choose the state of an OAuth round trip from the request's body, the link
the server passes and fresh random strings. -/
def generateOAuthState (env : StateEnvironment) (body : Object) (link : Option OAuthLinkState) :
    Except Failure (OAuthStateData × String) :=
  let callbackURL := callbackURLFor env body
  if callbackURL = "" then .error (.api 400 "CALLBACK_URL_REQUIRED" "callbackURL is required")
  else do
    let (codeVerifier, random) ← randomStringFromAlphabet env.random 128 oauthRandomAlphabet
    let (state, _) ← randomStringFromAlphabet (some random) 32 oauthRandomAlphabet
    .ok ({ callbackURL := callbackURL
           codeVerifier := codeVerifier
           link := link
           expiresAt := unixMilli (env.clock + oauthStateLifetime)
           oauthState := state
           errorURL := (httpio.optionalString body "errorCallbackURL").1.getD ""
           newUserURL := (httpio.optionalString body "newUserCallbackURL").1.getD ""
           requestSignUp := (httpio.optionalBool body "requestSignUp").1
           raw := additionalData body }, state)

/-- What a generated state is known to be. -/
structure GeneratedFrom (env : StateEnvironment) (body : Object) (link : Option OAuthLinkState)
    (data : OAuthStateData) (state : String) : Prop where
  callbackURL_ne : data.callbackURL ≠ ""
  codeVerifier_ne : data.codeVerifier ≠ ""
  state_ne : state ≠ ""
  oauthState_eq : data.oauthState = state
  link_eq : data.link = link
  expiresAt_eq : data.expiresAt = unixMilli (env.clock + oauthStateLifetime)
  raw_eq : data.raw = additionalData body

/-- A generated state carries the client's additional data untouched and fields
of which the mandatory ones are not empty. -/
theorem generateOAuthState_spec {env : StateEnvironment} {body : Object} {link : Option OAuthLinkState}
    {data : OAuthStateData} {state : String} (hgenerate : generateOAuthState env body link = .ok (data, state)) :
    GeneratedFrom env body link data state := by
  unfold generateOAuthState at hgenerate
  dsimp only at hgenerate
  split at hgenerate
  · cases hgenerate
  rename_i hcallback
  rw [bind_eq_ok_iff] at hgenerate
  obtain ⟨⟨codeVerifier, random⟩, hverifier, hgenerate⟩ := hgenerate
  rw [bind_eq_ok_iff] at hgenerate
  obtain ⟨⟨drawn, rest⟩, hstate, hresult⟩ := hgenerate
  simp only [Except.ok.injEq, Prod.mk.injEq] at hresult
  obtain ⟨rfl, rfl⟩ := hresult
  exact ⟨hcallback, randomStringFromAlphabet_ne_empty (by decide) hverifier,
    randomStringFromAlphabet_ne_empty (by decide) hstate, rfl, rfl, rfl, rfl⟩

end singleauth.core
