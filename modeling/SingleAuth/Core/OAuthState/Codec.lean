import SingleAuth.Lib.Json.Struct

open json

namespace singleauth.core

structure OAuthLinkState where
  (email userID : String)
deriving DecidableEq, Repr

/-- The state of an OAuth round trip. `raw` is the client's additional data
before the state is written, and the whole document after it is read. -/
structure OAuthStateData where
  (callbackURL codeVerifier errorURL newUserURL oauthState : String)
  link : Option OAuthLinkState
  expiresAt : Int64
  requestSignUp : Option Bool
  raw : Object

namespace OAuthLinkState

def zero : OAuthLinkState := ⟨"", ""⟩

def unmarshal (link : OAuthLinkState) (members : List (String × Value)) : Option OAuthLinkState := do
  let email ← Kind.string.read "email" link.email members
  let userID ← Kind.string.read "userId" link.userID members
  some ⟨email, userID⟩

def marshal (link : OAuthLinkState) : Value :=
  .obj [("email", .str link.email), ("userId", .str link.userID)]

def kind : Kind (Option OAuthLinkState) := Kind.struct zero unmarshal

theorem unmarshal_eq_some_iff {link got : OAuthLinkState} {members : List (String × Value)} :
    unmarshal link members = some got ↔
      Kind.string.read "email" link.email members = some got.email ∧
        Kind.string.read "userId" link.userID members = some got.userID := by
  cases got
  simp [unmarshal, Option.bind_eq_some_iff]

theorem unmarshal_isSome (link : OAuthLinkState) (members : List (String × Value)) :
    (unmarshal link members).isSome = (unmarshal zero members).isSome := by
  unfold unmarshal Kind.read
  split <;> split <;> rfl

/-- A written link is read back whatever link it is decoded over. -/
theorem unmarshal_marshal (link server : OAuthLinkState) :
    unmarshal link [("email", .str server.email), ("userId", .str server.userID)] = some server := by
  have hemail : spells "email" "userId" = false := by decide
  have huser : spells "userId" "email" = false := by decide
  simp [unmarshal, Kind.read, Kind.string, Kind.scalar, spelled, hemail, huser, values]

end OAuthLinkState

namespace OAuthStateData

def unmarshal (object : Object) : Option OAuthStateData := do
  let callbackURL ← Kind.string.read "callbackURL" "" object.entries
  let codeVerifier ← Kind.string.read "codeVerifier" "" object.entries
  let errorURL ← Kind.string.read "errorURL" "" object.entries
  let newUserURL ← Kind.string.read "newUserURL" "" object.entries
  let oauthState ← Kind.string.read "oauthState" "" object.entries
  let link ← OAuthLinkState.kind.read "link" none object.entries
  let expiresAt ← Kind.int64.read "expiresAt" 0 object.entries
  let requestSignUp ← (Kind.pointer Value.bool?).read "requestSignUp" none object.entries
  some ⟨callbackURL, codeVerifier, errorURL, newUserURL, oauthState, link, expiresAt, requestSignUp, object⟩

theorem unmarshal_eq_some_iff {object : Object} {got : OAuthStateData} :
    unmarshal object = some got ↔
      Kind.string.read "callbackURL" "" object.entries = some got.callbackURL ∧
      Kind.string.read "codeVerifier" "" object.entries = some got.codeVerifier ∧
      Kind.string.read "errorURL" "" object.entries = some got.errorURL ∧
      Kind.string.read "newUserURL" "" object.entries = some got.newUserURL ∧
      Kind.string.read "oauthState" "" object.entries = some got.oauthState ∧
      OAuthLinkState.kind.read "link" none object.entries = some got.link ∧
      Kind.int64.read "expiresAt" 0 object.entries = some got.expiresAt ∧
      (Kind.pointer Value.bool?).read "requestSignUp" none object.entries = some got.requestSignUp ∧
      object = got.raw := by
  cases got
  simp [unmarshal, Option.bind_eq_some_iff]

/-- The two states agree on everything the server chooses. -/
structure SameServerFields (left right : OAuthStateData) : Prop where
  callbackURL : left.callbackURL = right.callbackURL
  codeVerifier : left.codeVerifier = right.codeVerifier
  errorURL : left.errorURL = right.errorURL
  newUserURL : left.newUserURL = right.newUserURL
  oauthState : left.oauthState = right.oauthState
  link : left.link = right.link
  expiresAt : left.expiresAt = right.expiresAt
  requestSignUp : left.requestSignUp = right.requestSignUp

end OAuthStateData

/-- The document a state is written as: the server's fields over the client's
additional data, the optional ones only when they are set. -/
def marshalOAuthState (data : OAuthStateData) : Object :=
  let object := data.raw
  let object := object.set "callbackURL" (.str data.callbackURL)
  let object := object.set "codeVerifier" (.str data.codeVerifier)
  let object := object.set "expiresAt" (.ofInt64 data.expiresAt)
  let object := object.set "oauthState" (.str data.oauthState)
  let object := if data.errorURL ≠ "" then object.set "errorURL" (.str data.errorURL) else object
  let object := if data.newUserURL ≠ "" then object.set "newUserURL" (.str data.newUserURL) else object
  let object := match data.link with
    | some link => object.set "link" link.marshal
    | none => object
  match data.requestSignUp with
  | some flag => object.set "requestSignUp" (.bool flag)
  | none => object

/-- Why a stored state is not accepted: it does not decode, or it lacks a
field that every state has. -/
inductive OAuthStateDecodeError where
  | malformed
  | invalidPayload
deriving DecidableEq, Repr

def unmarshalOAuthState (object : Object) : Except OAuthStateDecodeError OAuthStateData :=
  match OAuthStateData.unmarshal object with
  | none => .error .malformed
  | some data =>
    if data.callbackURL = "" ∨ data.codeVerifier = "" ∨ data.expiresAt = 0 then .error .invalidPayload
    else .ok data

theorem unmarshalOAuthState_eq_ok_iff {object : Object} {got : OAuthStateData} :
    unmarshalOAuthState object = .ok got ↔
      OAuthStateData.unmarshal object = some got ∧ got.callbackURL ≠ "" ∧ got.codeVerifier ≠ "" ∧
        got.expiresAt ≠ 0 := by
  unfold unmarshalOAuthState
  cases OAuthStateData.unmarshal object with
  | none => simp
  | some data =>
    dsimp only
    split
    · rename_i hinvalid
      simp only [reduceCtorEq, Option.some.injEq, false_iff]
      rintro ⟨rfl, hcallback, hverifier, hexpires⟩
      rcases hinvalid with h | h | h
      · exact hcallback h
      · exact hverifier h
      · exact hexpires h
    rename_i hvalid
    simp only [not_or] at hvalid
    simp only [Except.ok.injEq, Option.some.injEq]
    constructor
    · rintro rfl
      exact ⟨rfl, hvalid⟩
    · exact fun hboth => hboth.1

end singleauth.core
