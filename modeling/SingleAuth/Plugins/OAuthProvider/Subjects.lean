import SingleAuth.Plugins.OAuthProvider.Endpoints

open dict json fallible text
namespace singleauth.oauthprovider

/-! ## Subjects -/

/-- The subject that clients of one sector see. Without a secret or a sector it
is the user's own id. -/
def serverPairwiseSubject (hmac : String → String → String) (secret userID sector : String) : String :=
  if secret = "" ∨ sector = "" then userID else hmac secret (sector ++ "\x00" ++ userID)

/-- The fields of a user that become claims. -/
structure UserRecord where
  id : String
  name : Option String := none
  image : Option String := none
  email : Option String := none
  emailVerified : Bool := false

def dots (token : String) : Nat := token.toList.count '.'

/-- The JWT plugin. A signed token has three parts, and where it verifies the
claims are those it was signed with, up to the registered ones that the
plugin writes itself. -/
structure JwtPlugin where
  sign : Object → Option String
  /-- The claims of a token that is valid as an access token at a time. -/
  verify : Int → String → Option Object
  dots_sign : ∀ {claims token}, sign claims = some token → dots token = 2
  verify_sign : ∀ {claims token now verified}, sign claims = some token → verify now token = some verified →
    ∀ name, name ∉ ["iss", "aud", "iat", "exp", "nbf"] → verified.get? name = claims.get? name

structure Server where
  config : TokenConfig
  disableJWTPlugin : Bool := false
  jwt : JwtPlugin
  pairwiseSecret : String := ""
  idTokenExpiresIn : Int
  issuer : String
  /-- The hash under which tokens are stored. -/
  hash : String → String
  /-- The keyed hash of a text, in base64url. -/
  hmac : String → String → String
  /-- The host of an address, `none` if it is none. -/
  urlHost : String → Option String
  decryptClientSecret : String → Option String
  signHS256 : Object → String → Option String
  customIDTokenClaims : Option (UserRecord → List String → ClientRow → Option Object) := none
  customAccessTokenClaims : Option (UserRecord → List String → ClientRow → String → Option Object) := none
  customUserInfoClaims : UserRecord → List String → Object → Option Object := fun _ _ _ => some Dict.empty

namespace Server

variable (server : Server)

/-- The settings the token endpoint gets from the server. -/
def tokenConfig : TokenConfig :=
  { server.config with
    signsJWT := !server.disableJWTPlugin
    signsIDToken := true
    storedToken := fun _ token => some (server.hash token) }

def resolveSubject (userID : String) (client : ClientRow) : Option String :=
  if client.subjectType ≠ "pairwise" then some userID
  else
    match client.redirectUris with
    | [] => some userID
    | redirect :: _ =>
      (server.urlHost redirect).map (serverPairwiseSubject server.hmac server.pairwiseSecret userID)

def resolveSubjectByClientID (store : TokenStore) (userID clientID : String) : Option String :=
  match store.clients.find? (fun client => client.clientId = clientID) with
  | none => some userID
  | some client => server.resolveSubject userID client

end Server

/-! ## Claims -/

def unixTime (time : Int) : Value := .num (.int (time / 1000000000))

/-- The Unix time of a time that was never set. -/
def zeroUnix : Value := .num (.int (-62135596800))

def setSome (claims : Object) (name : String) (value : Option String) : Object :=
  match value with
  | none => claims
  | some value => claims.set name (.str value)

def splitUserInfoName (name : String) : List String := (split ' ' name).filter (· ≠ "")

def splitUserInfoSpaces (scope : String) : List String := if scope = "" then [] else split ' ' scope

def claimString (value : Option Value) : String := (value.bind Value.string?).getD ""

def claimedScopes (claims : Object) : List String := splitUserInfoSpaces (claimString (claims.get? "scope"))

def claimedClient (claims : Object) : String :=
  let clientID := claimString (claims.get? "client_id")
  if clientID = "" then claimString (claims.get? "azp") else clientID

def profileClaims (user : UserRecord) (claims : Object) : Object :=
  let claims := setSome (setSome claims "name" user.name) "picture" user.image
  let parts := splitUserInfoName (user.name.getD "")
  if 1 < parts.length then
    (claims.set "given_name" (.str (" ".intercalate parts.dropLast))).set "family_name"
      (.str (parts.getLast?.getD ""))
  else claims

def emailClaims (user : UserRecord) (claims : Object) : Object :=
  (setSome claims "email" user.email).set "email_verified" (.bool user.emailVerified)

def userNormalClaims (user : UserRecord) (scopes : List String) : Object :=
  let claims := Dict.empty.set "sub" (.str user.id)
  let claims := if "profile" ∈ scopes then profileClaims user claims else claims
  if "email" ∈ scopes then emailClaims user claims else claims

/-- The claims of an ID token that no custom claim replaces. -/
def pinIDToken (server : Server) (now : Int) (client : ClientRow) (nonce subject : String) (claims : Object) : Object :=
  let claims := (claims.set "iss" (.str server.issuer)).set "sub" (.str subject)
  let claims := (claims.set "aud" (.str client.clientId)).set "iat" (unixTime now)
  let claims := claims.set "exp" (unixTime (now + server.idTokenExpiresIn))
  if nonce ≠ "" then claims.set "nonce" (.str nonce) else claims

/-- The claims of an access token that no custom claim replaces. -/
def pinAccessToken (now expiresAt : Int) (grant : Grant) (claims : Object) : Object :=
  let claims := (claims.set "sub" (.str grant.userID)).set "client_id" (.str grant.client.clientId)
  let claims := (claims.set "azp" (.str grant.client.clientId)).set "scope" (.str (" ".intercalate grant.scopes))
  let claims := (claims.set "aud" (.str grant.resource)).set "iat" (unixTime now)
  claims.set "exp" (unixTime expiresAt)

namespace Server

variable (server : Server)

def idTokenClaims (now : Int) (user : UserRecord) (grant : Grant) (nonce : String) : Option Object := do
  let subject ← server.resolveSubject user.id grant.client
  let pin := pinIDToken server now grant.client nonce subject
  let claims := pin (userNormalClaims user grant.scopes)
  let claims := claims.set "auth_time" (grant.authTime.elim zeroUnix unixTime)
  let claims := claims.set "acr" (.str "urn:mace:incommon:iap:bronze")
  let claims := if grant.client.enableEndSession ∧ grant.sessionID ≠ "" then claims.set "sid" (.str grant.sessionID)
    else claims
  match server.customIDTokenClaims with
  | none => some claims
  | some custom => (custom user grant.scopes grant.client).map fun extra => pin (claims.setAll extra.entries)

def accessTokenClaims (now expiresAt : Int) (user : UserRecord) (grant : Grant) : Option Object :=
  let pin := pinAccessToken now expiresAt grant
  let claims := pin Dict.empty
  let claims := if grant.sessionID ≠ "" then claims.set "sid" (.str grant.sessionID) else claims
  match server.customAccessTokenClaims with
  | none => some claims
  | some custom =>
    (custom user grant.scopes grant.client grant.resource).map fun extra => pin (claims.setAll extra.entries)

def signJWT (claims : Object) : Option String :=
  server.jwt.sign (if claimString (claims.get? "iss") = "" then claims.set "iss" (.str server.issuer) else claims)

/-- Without the JWT plugin an ID token is signed with the client's secret. A
client that has none gets no ID token. -/
def signIDToken (now : Int) (user : UserRecord) (grant : Grant) (nonce : String) : Option String := do
  let claims ← server.idTokenClaims now user grant nonce
  if server.disableJWTPlugin = false then server.signJWT claims
  else if grant.client.clientSecret = "" then some ""
  else server.signHS256 claims (← server.decryptClientSecret grant.client.clientSecret)

/-! ## Introspection and userinfo -/

/-- The claims that a client gets for an access token, `none` if it is not active
for it. -/
def introspectAccessToken (store : TokenStore) (now : Int) (client : ClientRow) (token : String) :
    Except TokenError (Option Object) :=
  if server.disableJWTPlugin = false ∧ dots token = 2 then
    match server.jwt.verify now token with
    | none => .ok none
    | some claims =>
      let issuedClient := claimedClient claims
      if issuedClient = "" ∨ issuedClient ≠ client.clientId then .ok none
      else .ok (some (((claims.set "active" (.bool true)).set "client_id" (.str issuedClient)).set "token_type"
        (.str "access_token")))
  else
    match withoutPresentation server.config.opaqueAccessTokenPrefix token with
    | none => .ok none
    | some raw =>
      match store.accessTokens.find? (fun row => row.token = server.hash raw) with
      | none => .ok none
      | some row =>
        if row.clientId ≠ client.clientId ∨ row.expiresAt ≤ now then .ok none
        else do
          let subject ← expect (server.resolveSubject (row.userId.getD "") client) .internal
          .ok (some (Dict.ofEntries
            [("active", .bool true), ("scope", .str (" ".intercalate row.scopes)), ("client_id", .str client.clientId),
              ("token_type", .str "access_token"), ("exp", unixTime row.expiresAt), ("iat", unixTime row.createdAt),
              ("sub", .str subject)]))

def introspectRefreshToken (store : TokenStore) (now : Int) (client : ClientRow) (token : String) :
    Except TokenError (Option Object) :=
  match withoutPresentation server.config.refreshTokenPrefix token with
  | none => .ok none
  | some raw =>
    match store.refreshTokens.find? (fun row => row.token = server.hash raw) with
    | none => .ok none
    | some row =>
      if row.clientId ≠ client.clientId ∨ row.revoked.isSome ∨ row.expiresAt ≤ now then .ok none
      else do
        let subject ← expect (server.resolveSubject row.userId client) .internal
        let claims := Dict.ofEntries
          [("active", .bool true), ("scope", .str (" ".intercalate row.scopes)), ("client_id", .str client.clientId),
            ("token_type", .str "refresh_token"), ("exp", unixTime row.expiresAt), ("iat", unixTime row.createdAt),
            ("sub", .str subject)]
        .ok (some (setSome claims "sid" (row.sessionId.bind nonEmpty)))

def inactiveClaims : Object := Dict.empty.set "active" (.bool false)

def invalidAccessToken : TokenError := .protocol 400 "invalid_request" "Invalid access token"

/-- The claims behind a presented access token. A token that does not verify as a
JWT is looked up in the table. -/
def validateAccessToken (store : TokenStore) (now : Int) (token : String) : Except TokenError Object :=
  let verified := if server.disableJWTPlugin = false ∧ dots token = 2 then server.jwt.verify now token else none
  match verified with
  | some claims => .ok claims
  | none => do
    let raw ← expect (withoutPresentation server.config.opaqueAccessTokenPrefix token) invalidAccessToken
    let row ← expect (store.accessTokens.find? (fun row => row.token = server.hash raw)) invalidAccessToken
    if row.expiresAt < now then .ok inactiveClaims
    else if row.clientId ≠ "" ∧
        (store.clients.find? (fun client => client.clientId = row.clientId)).all (·.disabled) then .ok inactiveClaims
    else .ok (Dict.ofEntries
      [("active", .bool true), ("client_id", .str row.clientId), ("sub", .str (row.userId.getD "")),
        ("scope", .str (" ".intercalate row.scopes)), ("exp", unixTime row.expiresAt)])

def userInfoClaims (store : TokenStore) (user : UserRecord) (scopes : List String) (claims : Object) :
    Except TokenError Object :=
  let result := userNormalClaims user scopes
  let clientID := claimedClient claims
  if clientID = "" then .ok result
  else do
    let subject ← expect (server.resolveSubjectByClientID store (claimString (claims.get? "sub")) clientID) .internal
    .ok (result.set "sub" (.str subject))

def userInfo (store : TokenStore) (users : List UserRecord) (now : Int) (authorization : String) :
    Except TokenError Object := do
  let token := withoutBearer authorization
  require (token ≠ "") (TokenError.protocol 401 "invalid_request" "authorization header not found")
  let claims ← server.validateAccessToken store now token
  let scopes := claimedScopes claims
  require ("openid" ∈ scopes) (TokenError.protocol 400 "invalid_scope" "Missing required scope")
  let userID := claimString (claims.get? "sub")
  require (userID ≠ "") (TokenError.protocol 400 "invalid_request" "user not found")
  let user ← expect (users.find? (fun user => user.id = userID))
    (TokenError.protocol 400 "invalid_request" "user not found")
  let result ← server.userInfoClaims store user scopes claims
  let additional ← expect (server.customUserInfoClaims user scopes claims) .internal
  .ok (result.setAll additional.entries)

/-! ## Issuing for a user -/

/-- No stored hash is the hash of a text that has the form of a JWT when it is
presented. -/
def Plain (store : TokenStore) : Prop :=
  ∀ row ∈ store.accessTokens, ∀ raw, row.token = server.hash raw →
    dots (server.config.opaqueAccessTokenPrefix ++ raw) ≠ 2

/-- A token request of a user at a known client. The generators do not make
tokens of the form of a JWT. -/
structure Issuing where
  client : ClientRow
  user : UserRecord
  sessionID : String := ""
  scopes : List String
  resource : String := ""
  referenceID : String := ""
  nonce : String := ""
  authTime : Option Int := none
  host : TokenHost
  original : Option RefreshTokenRow := none
  store : TokenStore
  client_named : client.clientId ≠ ""
  client_found : store.clients.find? (fun other => other.clientId = client.clientId) = some client
  store_plain : server.Plain store
  generated_plain : ∀ generated ∈ host.rawAccess, ∀ raw, server.hash generated = server.hash raw →
    dots (server.config.opaqueAccessTokenPrefix ++ raw) ≠ 2

namespace Issuing

variable {server} (issuing : server.Issuing)

def grant : Grant :=
  { client := issuing.client, user := some issuing.user.id, sessionID := issuing.sessionID, scopes := issuing.scopes,
    resource := issuing.resource, referenceID := issuing.referenceID, authTime := issuing.authTime }

def expiresAt : Int := issuing.host.now + server.config.accessTokenExpiresIn

def accessClaims : Option Object :=
  server.accessTokenClaims issuing.host.now issuing.expiresAt issuing.user issuing.grant

def idClaims : Option Object := server.idTokenClaims issuing.host.now issuing.user issuing.grant issuing.nonce

/-- Clock and generators of the request, and the server's signers. -/
def tokenHost : TokenHost :=
  { issuing.host with
    jwt := issuing.accessClaims.bind server.signJWT
    idToken := server.signIDToken issuing.host.now issuing.user issuing.grant issuing.nonce }

def issue : Except TokenError IssuedTokens × TokenStore :=
  issueDetailed server.tokenConfig issuing.tokenHost issuing.grant issuing.original issuing.store

def IssuesJWT : Prop := issuing.resource ≠ "" ∧ server.disableJWTPlugin = false

/-- A store at some time after the tokens were issued. The client is as it was,
and a token that is still there stands for what it stood for. -/
structure Later (later : TokenStore) : Prop where
  client_found : later.clients.find? (fun other => other.clientId = issuing.client.clientId) = some issuing.client
  plain : server.Plain later
  access_kept : ∀ {stored row issued}, later.accessTokens.find? (fun row => row.token = stored) = some row →
    issuing.issue.2.accessTokens.find? (fun row => row.token = stored) = some issued → row = issued
  refresh_kept : ∀ {stored row issued}, later.refreshTokens.find? (fun row => row.token = stored) = some row →
    issuing.issue.2.refreshTokens.find? (fun row => row.token = stored) = some issued →
    row.clientId = issued.clientId ∧ row.userId = issued.userId

/-- The subjects that the issued tokens carry and that the endpoints give for
them, at any time and to the client they were issued to. -/
inductive Shows (tokens : IssuedTokens) : Value → Prop where
  | idToken {claims subject} : tokens.idToken ≠ "" → issuing.idClaims = some claims →
      claims.get? "sub" = some subject → Shows tokens subject
  | accessToken {claims subject} : issuing.IssuesJWT → issuing.accessClaims = some claims →
      claims.get? "sub" = some subject → Shows tokens subject
  | introspectedAccess {later now claims subject} : issuing.Later later →
      server.introspectAccessToken later now issuing.client tokens.accessToken = .ok (some claims) →
      claims.get? "sub" = some subject → Shows tokens subject
  | introspectedRefresh {later now claims subject} : issuing.Later later → tokens.refreshToken ≠ "" →
      server.introspectRefreshToken later now issuing.client tokens.refreshToken = .ok (some claims) →
      claims.get? "sub" = some subject → Shows tokens subject
  | userInfo {later users now claims subject} : issuing.Later later →
      server.userInfo later users now ("Bearer " ++ tokens.accessToken) = .ok claims →
      claims.get? "sub" = some subject → Shows tokens subject

/-- The client has pairwise subjects and the server can make them. -/
def Pairwise : Prop := issuing.client.subjectType = "pairwise" ∧ server.pairwiseSecret ≠ ""

/-- Whatever subjects are shown are one, and for a pairwise client it is not the
user's id. -/
structure OneSubject (tokens : IssuedTokens) : Prop where
  agree : ∀ {left right}, issuing.Shows tokens left → issuing.Shows tokens right → left = right
  hidden : issuing.Pairwise → ∀ {subject}, issuing.Shows tokens subject → subject ≠ .str issuing.user.id

/-- Pairwise subjects are kept where the access token is opaque and the client's
first redirect URI has a host, and the custom userinfo claims put no other
subject in place of the resolved one. -/
structure KeepsSubject (tokens : IssuedTokens) : Prop where
  pairwise : issuing.Pairwise → ¬ issuing.IssuesJWT ∧ issuing.client.redirectUris ≠ [] ∧
    ∀ redirect ∈ issuing.client.redirectUris.head?, ∀ host ∈ server.urlHost redirect,
      host ≠ "" ∧ server.hmac server.pairwiseSecret (host ++ "\x00" ++ issuing.user.id) ≠ issuing.user.id
  custom : ∀ {later now claims user additional replaced resolved}, issuing.Later later → tokens.accessToken ≠ "" →
    server.validateAccessToken later now tokens.accessToken = .ok claims → "openid" ∈ claimedScopes claims →
    user.id = issuing.user.id → user.id ≠ "" →
    server.customUserInfoClaims user (claimedScopes claims) claims = some additional →
    additional.get? "sub" = some replaced →
    server.resolveSubject issuing.user.id issuing.client = some resolved → replaced = .str resolved

end Issuing

end Server

/-! ## What each place shows -/

theorem withoutPresentation_eq_some_iff {presentation token raw : String} :
    withoutPresentation presentation token = some raw ↔ token = presentation ++ raw := by
  rw [withoutPresentation, Option.map_eq_some_iff]
  constructor
  · rintro ⟨rest, hrest, rfl⟩
    apply String.ext
    rw [String.toList_append, String.toList_ofList]
    exact (List.isPrefixOf?_eq_some_iff_append_eq.mp hrest).symm
  · rintro rfl
    exact ⟨raw.toList, List.isPrefixOf?_eq_some_iff_append_eq.mpr (by simp), by simp⟩

theorem withoutBearer_bearer (token : String) : withoutBearer ("Bearer " ++ token) = token := by
  rw [withoutBearer, withoutPresentation_eq_some_iff.mpr rfl, Option.getD_some]

@[simp] theorem getD_nonEmpty (content : String) : (nonEmpty content).getD "" = content := by
  unfold nonEmpty
  split
  · next h => rw [h, Option.getD_none]
  · rfl

theorem get?_pinIDToken (server : Server) (now : Int) (client : ClientRow) (nonce subject : String)
    (claims : Object) : (pinIDToken server now client nonce subject claims).get? "sub" = some (.str subject) := by
  unfold pinIDToken
  split <;> simp [Dict.get?_set]

theorem get?_pinAccessToken (now expiresAt : Int) (grant : Grant) (claims : Object) :
    (pinAccessToken now expiresAt grant claims).get? "sub" = some (.str grant.userID) ∧
      (pinAccessToken now expiresAt grant claims).get? "client_id" = some (.str grant.client.clientId) := by
  unfold pinAccessToken
  constructor <;> simp [Dict.get?_set]

namespace Server

variable {server : Server}
  {claims : Object} {now : Int} {user : UserRecord} {token : String} {client : ClientRow} {store : TokenStore}
  {grant : Grant}

theorem idTokenClaims_sub {nonce : String}
    (h : server.idTokenClaims now user grant nonce = some claims) :
    ∃ subject, server.resolveSubject user.id grant.client = some subject ∧
      claims.get? "sub" = some (.str subject) := by
  obtain ⟨subject, hsubject, h⟩ := Option.bind_eq_some_iff.mp h
  refine ⟨subject, hsubject, ?_⟩
  dsimp only at h
  split at h
  · cases h
    split <;> simp [Dict.get?_set, get?_pinIDToken]
  · obtain ⟨extra, _, rfl⟩ := Option.map_eq_some_iff.mp h
    exact get?_pinIDToken ..

/-- A JWT access token carries the user's id, whatever the client. -/
theorem accessTokenClaims_sub {expiresAt : Int}
    (h : server.accessTokenClaims now expiresAt user grant = some claims) :
    claims.get? "sub" = some (.str grant.userID) ∧
      claims.get? "client_id" = some (.str grant.client.clientId) := by
  unfold accessTokenClaims at h
  dsimp only at h
  obtain ⟨hsub, hclient⟩ := get?_pinAccessToken now expiresAt grant Dict.empty
  split at h
  · cases h
    split <;> simp [Dict.get?_set, hsub, hclient]
  · obtain ⟨extra, _, rfl⟩ := Option.map_eq_some_iff.mp h
    exact get?_pinAccessToken ..

theorem dots_signJWT (h : server.signJWT claims = some token) : dots token = 2 :=
  server.jwt.dots_sign h

theorem verify_signJWT {verified : Object} {name : String}
    (hsign : server.signJWT claims = some token) (hverify : server.jwt.verify now token = some verified)
    (hname : name ∉ ["iss", "aud", "iat", "exp", "nbf"]) : verified.get? name = claims.get? name := by
  rw [server.jwt.verify_sign hsign hverify name hname]
  split
  · exact Dict.get?_set_of_ne claims _ fun h => hname (by simp [h])
  · rfl

theorem introspectAccessToken_jwt (hform : server.disableJWTPlugin = false ∧ dots token = 2)
    (h : server.introspectAccessToken store now client token = .ok (some claims)) :
    ∃ verified, server.jwt.verify now token = some verified ∧ claims.get? "sub" = verified.get? "sub" := by
  rw [introspectAccessToken, if_pos hform] at h
  split at h
  · cases h
  rename_i verified hverified
  dsimp only at h
  refine ⟨verified, hverified, ?_⟩
  split at h
  · cases h
  · cases h
    simp [Dict.get?_set]

/-- The answer for an opaque token is made from its row. -/
theorem introspectAccessToken_opaque (hform : ¬ (server.disableJWTPlugin = false ∧ dots token = 2))
    (h : server.introspectAccessToken store now client token = .ok (some claims)) :
    ∃ raw row subject, token = server.config.opaqueAccessTokenPrefix ++ raw ∧
      store.accessTokens.find? (fun row => row.token = server.hash raw) = some row ∧
      server.resolveSubject (row.userId.getD "") client = some subject ∧
      claims.get? "sub" = some (.str subject) := by
  rw [introspectAccessToken, if_neg hform] at h
  split at h
  · cases h
  rename_i raw hraw
  split at h
  · cases h
  rename_i row hrow
  split at h
  · cases h
  obtain ⟨subject, hsubject, h⟩ := bind_eq_ok_iff.mp h
  cases h
  exact ⟨raw, row, subject, withoutPresentation_eq_some_iff.mp hraw, hrow, expect_eq_ok_iff.mp hsubject,
    by simp [Dict.ofEntries, Dict.setAll, Dict.get?_set]⟩

theorem introspectRefreshToken_row (h : server.introspectRefreshToken store now client token = .ok (some claims)) :
    ∃ raw row subject, token = server.config.refreshTokenPrefix ++ raw ∧
      store.refreshTokens.find? (fun row => row.token = server.hash raw) = some row ∧
      server.resolveSubject row.userId client = some subject ∧ claims.get? "sub" = some (.str subject) := by
  unfold introspectRefreshToken at h
  split at h
  · cases h
  rename_i raw hraw
  split at h
  · cases h
  rename_i row hrow
  split at h
  · cases h
  obtain ⟨subject, hsubject, h⟩ := bind_eq_ok_iff.mp h
  cases h
  refine ⟨raw, row, subject, withoutPresentation_eq_some_iff.mp hraw, hrow, expect_eq_ok_iff.mp hsubject, ?_⟩
  unfold setSome
  split <;> simp [Dict.ofEntries, Dict.setAll, Dict.get?_set]

theorem validateAccessToken_claims
    (h : server.validateAccessToken store now token = .ok claims) (hscope : "openid" ∈ claimedScopes claims) :
    ((server.disableJWTPlugin = false ∧ dots token = 2) ∧ server.jwt.verify now token = some claims) ∨
      ∃ raw row, token = server.config.opaqueAccessTokenPrefix ++ raw ∧
        store.accessTokens.find? (fun row => row.token = server.hash raw) = some row ∧
        claims.get? "sub" = some (.str (row.userId.getD "")) ∧
        claims.get? "client_id" = some (.str row.clientId) := by
  have hinactive : "openid" ∉ claimedScopes inactiveClaims := by decide
  unfold validateAccessToken at h
  dsimp only at h
  split at h
  · next verified hverified =>
    cases h
    split at hverified
    · next hform => exact .inl ⟨hform, hverified⟩
    · cases hverified
  obtain ⟨raw, hraw, h⟩ := bind_eq_ok_iff.mp h
  obtain ⟨row, hrow, h⟩ := bind_eq_ok_iff.mp h
  split at h
  · cases h
    exact absurd hscope hinactive
  split at h
  · cases h
    exact absurd hscope hinactive
  · cases h
    refine .inr ⟨raw, row, withoutPresentation_eq_some_iff.mp (expect_eq_ok_iff.mp hraw),
      expect_eq_ok_iff.mp hrow, ?_, ?_⟩ <;> simp [Dict.ofEntries, Dict.setAll, Dict.get?_set]

variable {userID : String}

/-- Without pairwise subjects a subject is the user's id. -/
theorem resolveSubject_eq_id {subject : String}
    (hpublic : ¬ (client.subjectType = "pairwise" ∧ server.pairwiseSecret ≠ ""))
    (h : server.resolveSubject userID client = some subject) : subject = userID := by
  unfold resolveSubject at h
  split at h
  · cases h
    rfl
  rename_i hpairwise
  have hsecret : server.pairwiseSecret = "" := by
    by_contra hsecret
    exact hpublic ⟨not_not.mp hpairwise, hsecret⟩
  split at h
  · cases h
    rfl
  · obtain ⟨host, _, rfl⟩ := Option.map_eq_some_iff.mp h
    rw [serverPairwiseSubject, if_pos (.inl hsecret)]

/-- When a pairwise client does not see the user's id. -/
theorem resolveSubject_ne_id_iff (hpairwise : client.subjectType = "pairwise")
    (hsecret : server.pairwiseSecret ≠ "") :
    server.resolveSubject userID client ≠ some userID ↔
      client.redirectUris ≠ [] ∧ ∀ redirect ∈ client.redirectUris.head?, ∀ host ∈ server.urlHost redirect,
        host ≠ "" ∧ server.hmac server.pairwiseSecret (host ++ "\x00" ++ userID) ≠ userID := by
  rw [resolveSubject, if_neg (not_not_intro hpairwise)]
  cases client.redirectUris with
  | nil => simp
  | cons redirect rest =>
    cases hhost : server.urlHost redirect with
    | none => simp [hhost]
    | some host =>
      by_cases hsector : host = ""
      · simp [hhost, hsector, serverPairwiseSubject]
      · simp [hhost, hsector, serverPairwiseSubject, hsecret]

end Server

/-! ## The tokens of one request -/

variable {after store : TokenStore}

theorem find?_concat {ρ : Type} {rows : List ρ} {row : ρ} {counts : ρ → Bool} (hfresh : ∀ other ∈ rows, ¬ counts other)
    (hrow : counts row) : (rows ++ [row]).find? counts = some row := by
  rw [List.find?_append, List.find?_eq_none.mpr hfresh, Option.none_or, List.find?_cons_of_pos hrow]

theorem createAccessToken_find? {row : AccessTokenRow} (h : createAccessToken row store = some after) :
    after.accessTokens.find? (fun other => other.token = row.token) = some row := by
  obtain ⟨hfresh, rfl⟩ := by simpa [createAccessToken] using h
  exact find?_concat (fun other hother => by simp [hfresh other hother]) (by simp)

theorem createRefreshToken_find? {row : RefreshTokenRow} (h : createRefreshToken row store = some after) :
    after.refreshTokens.find? (fun other => other.token = row.token) = some row := by
  obtain ⟨hfresh, rfl⟩ := by simpa [createRefreshToken] using h
  exact find?_concat (fun other hother => by simp [hfresh other hother]) (by simp)

variable {host : TokenHost} {original : Option RefreshTokenRow}

theorem claimRefresh_clients (h : claimRefresh host original store = .ok after) : after.clients = store.clients := by
  cases original with
  | none =>
    cases h
    rfl
  | some refresh =>
    obtain ⟨rows, _, h⟩ := bind_eq_ok_iff.mp h
    cases h
    rfl

theorem issueDetailed_steps {config : TokenConfig} {grant : Grant} {tokens : IssuedTokens}
    (h : (issueDetailed config host grant original store).1 = .ok tokens) :
    ∃ claimed refreshID refreshed, claimRefresh host original store = .ok claimed ∧
      issueRefresh config host grant claimed = .ok (refreshID, tokens.refreshToken, refreshed) ∧
      issueAccess config host grant
        (host.now + if grant.user.isNone then config.m2mAccessTokenExpiresIn else config.accessTokenExpiresIn)
        refreshID refreshed = .ok (tokens.accessToken, (issueDetailed config host grant original store).2) := by
  unfold issueDetailed at h ⊢
  split at h
  · cases h
  rename_i haudience
  rw [if_neg haudience]
  cases hclaim : claimRefresh host original store with
  | error failure => rw [hclaim] at h; cases h
  | ok claimed =>
    simp only [hclaim] at h
    cases hrefresh : issueRefresh config host grant claimed with
    | error failure => simp only [hrefresh] at h; cases h
    | ok issued =>
      obtain ⟨refreshID, refreshToken, refreshed⟩ := issued
      simp only [hrefresh] at h
      split at h
      · cases h
      rename_i accessToken after haccess
      refine ⟨claimed, refreshID, refreshed, rfl, ?_⟩
      simp only [hrefresh, haccess]
      split at h
      · next hid =>
        rw [if_pos hid]
        split at h
        · cases h
        · next hidToken =>
          cases h
          simp only [and_self]
      rename_i hid
      rw [if_neg hid]
      cases h
      simp only [and_self]

namespace Server.Issuing

variable {server : Server} {issuing : server.Issuing} {tokens : IssuedTokens}

/-- The access token of an answer: a JWT with the user's id, or a text whose row
is in the table. -/
inductive IssuedAccess (issuing : server.Issuing) (token : String) : Prop where
  | jwt {claims} : issuing.IssuesJWT → issuing.accessClaims = some claims → server.signJWT claims = some token →
      issuing.issue.2.accessTokens = issuing.store.accessTokens → IssuedAccess issuing token
  | stored {raw row} : ¬ issuing.IssuesJWT → raw ∈ issuing.host.rawAccess →
      token = server.config.opaqueAccessTokenPrefix ++ raw →
      issuing.issue.2.accessTokens.find? (fun row => row.token = server.hash raw) = some row →
      row.clientId = issuing.client.clientId → row.userId = nonEmpty issuing.user.id →
      row.expiresAt = issuing.expiresAt → issuing.issue.2.accessTokens = issuing.store.accessTokens ++ [row] →
      IssuedAccess issuing token

theorem issuedAccess (h : issuing.issue.1 = .ok tokens) : IssuedAccess issuing tokens.accessToken := by
  obtain ⟨claimed, refreshID, refreshed, hclaim, hrefresh, haccess⟩ := issueDetailed_steps h
  obtain ⟨added, rfl, _⟩ := issueRefresh_ok hrefresh
  have hbefore := (claimRefresh_ok hclaim).2
  rw [show (issueDetailed server.tokenConfig issuing.tokenHost issuing.grant issuing.original issuing.store).2 =
    issuing.issue.2 from rfl] at haccess
  unfold issueAccess at haccess
  split at haccess
  · next hjwt =>
    obtain ⟨jwt, hsigned, haccess⟩ := bind_eq_ok_iff.mp haccess
    obtain ⟨htoken, hstore⟩ := Prod.mk.inj (Except.ok.inj haccess)
    obtain ⟨claims, hclaims, hsign⟩ := Option.bind_eq_some_iff.mp (expect_eq_ok_iff.mp hsigned)
    refine .jwt ⟨hjwt.1, by simpa [tokenConfig] using hjwt.2⟩ hclaims (htoken ▸ hsign) ?_
    rw [← hstore]
    exact hbefore
  rename_i hplain
  obtain ⟨raw, hraw, stored, hstored, created, hcreated, haccess⟩ := ok_of_bind₃ haccess
  obtain ⟨htoken, hstore⟩ := Prod.mk.inj (Except.ok.inj haccess)
  cases expect_eq_ok_iff.mp hstored
  have hfound := createAccessToken_find? (expect_eq_ok_iff.mp hcreated)
  refine .stored (fun hjwt => hplain ⟨hjwt.1, by simpa [tokenConfig] using hjwt.2⟩) (expect_eq_ok_iff.mp hraw)
    htoken.symm (hstore ▸ hfound) rfl rfl rfl ?_
  rw [← hstore, createAccessToken_some (expect_eq_ok_iff.mp hcreated)]
  exact congrArg (· ++ _) hbefore

theorem issuedRefresh (h : issuing.issue.1 = .ok tokens) (hgiven : tokens.refreshToken ≠ "") :
    ∃ raw row, tokens.refreshToken = server.config.refreshTokenPrefix ++ raw ∧
      issuing.issue.2.refreshTokens.find? (fun row => row.token = server.hash raw) = some row ∧
      row.clientId = issuing.client.clientId ∧ row.userId = issuing.user.id := by
  obtain ⟨claimed, refreshID, refreshed, _, hrefresh, haccess⟩ := issueDetailed_steps h
  obtain ⟨added, hafter, _⟩ := issueAccess_ok haccess
  have hrows : issuing.issue.2.refreshTokens = refreshed.refreshTokens := by
    rw [issue, hafter]
  unfold issueRefresh at hrefresh
  split at hrefresh
  · obtain ⟨raw, _, hrefresh⟩ := bind_eq_ok_iff.mp hrefresh
    obtain ⟨stored, hstored, created, hcreated, hrefresh⟩ := ok_of_bind₂ hrefresh
    obtain ⟨_, htoken, hstore⟩ := by simpa using Except.ok.inj hrefresh
    cases expect_eq_ok_iff.mp hstored
    have hfound := createRefreshToken_find? (expect_eq_ok_iff.mp hcreated)
    exact ⟨raw, _, htoken.symm, by rw [hrows, ← hstore]; exact hfound, rfl, rfl⟩
  · obtain ⟨_, htoken, _⟩ := by simpa using Except.ok.inj hrefresh
    exact absurd htoken hgiven

theorem not_jwt_form {raw : String} (hraw : raw ∈ issuing.host.rawAccess) :
    ¬ (server.disableJWTPlugin = false ∧ dots (server.config.opaqueAccessTokenPrefix ++ raw) = 2) :=
  fun hform => issuing.generated_plain raw hraw raw rfl hform.2

variable {later : TokenStore} {now : Int}

theorem resolveSubjectByClientID_later (hlater : issuing.Later later) (userID : String) :
    server.resolveSubjectByClientID later userID issuing.client.clientId =
      server.resolveSubject userID issuing.client := by
  rw [resolveSubjectByClientID, hlater.client_found]

variable {claims : Object} {resolved : String}

section

variable (h : issuing.issue.1 = .ok tokens)
include h

/-- Whatever the endpoints read from a valid access token is the user and the
client it was issued for. -/
theorem validateAccessToken_issued (hlater : issuing.Later later)
    (hvalid : server.validateAccessToken later now tokens.accessToken = .ok claims)
    (hscope : "openid" ∈ claimedScopes claims) :
    claimString (claims.get? "sub") = issuing.user.id ∧ claimedClient claims = issuing.client.clientId := by
  have hclaimed : ∀ {clientID : String}, claims.get? "client_id" = some (.str clientID) → clientID ≠ "" →
      claimedClient claims = clientID := by
    intro clientID hclient hnamed
    have hstring : claimString (claims.get? "client_id") = clientID := by rw [hclient]; rfl
    rw [claimedClient, hstring]
    exact if_neg hnamed
  rcases validateAccessToken_claims hvalid hscope with ⟨hform, hverify⟩ | ⟨raw, row, htoken, hrow, hsub, hclient⟩
  · cases issuedAccess h with
    | @jwt signed _ hsigned hsign =>
      obtain ⟨hsub, hclient⟩ := accessTokenClaims_sub hsigned
      rw [← verify_signJWT hsign hverify (by decide)] at hsub hclient
      exact ⟨by rw [hsub]; rfl, hclaimed hclient issuing.client_named⟩
    | stored _ hraw htoken =>
      rw [htoken] at hform
      exact absurd hform (not_jwt_form hraw)
  cases issuedAccess h with
  | jwt _ _ hsign =>
    -- a JWT is under no hash of the table
    have hform := dots_signJWT hsign
    rw [htoken] at hform
    exact absurd hform (hlater.plain row (List.mem_of_find?_eq_some hrow) raw (by simpa using List.find?_some hrow))
  | @stored issuedRaw issued _ _ hissued hfound hissuedClient hissuedUser =>
    obtain rfl := (String.append_right_inj _).mp (htoken.symm.trans hissued)
    cases hlater.access_kept hrow hfound
    rw [hissuedUser, getD_nonEmpty] at hsub
    rw [hissuedClient] at hclient
    exact ⟨by rw [hsub]; rfl, hclaimed hclient issuing.client_named⟩

/-- What a userinfo answer has under sub: what the custom claims put there, or
the resolved subject. -/
theorem userInfo_sub {users : List UserRecord} {result : Object} (hlater : issuing.Later later)
    (hinfo : server.userInfo later users now ("Bearer " ++ tokens.accessToken) = .ok result) :
    ∃ claims user additional subject, tokens.accessToken ≠ "" ∧
      server.validateAccessToken later now tokens.accessToken = .ok claims ∧ "openid" ∈ claimedScopes claims ∧
      user.id = issuing.user.id ∧ user.id ≠ "" ∧
      server.customUserInfoClaims user (claimedScopes claims) claims = some additional ∧
      server.resolveSubject issuing.user.id issuing.client = some subject ∧
      result.get? "sub" = (additional.get? "sub").or (some (.str subject)) := by
  unfold userInfo at hinfo
  simp only [withoutBearer_bearer] at hinfo
  obtain ⟨_, hgiven, claims, hvalid, _, hscope, hinfo⟩ := ok_of_bind₃ hinfo
  obtain ⟨_, hnamed, user, huser, hinfo⟩ := ok_of_bind₂ hinfo
  obtain ⟨normal, hnormal, additional, hadditional, hinfo⟩ := ok_of_bind₂ hinfo
  cases hinfo
  have hopenid := require_eq_ok_iff.mp hscope
  obtain ⟨hsub, hclient⟩ := validateAccessToken_issued h hlater hvalid hopenid
  unfold userInfoClaims at hnormal
  rw [hsub, hclient, if_neg issuing.client_named, resolveSubjectByClientID_later hlater] at hnormal
  obtain ⟨subject, hsubject, hnormal⟩ := bind_eq_ok_iff.mp hnormal
  cases hnormal
  have hid : user.id = claimString (claims.get? "sub") := by
    simpa using List.find?_some (expect_eq_ok_iff.mp huser)
  refine ⟨claims, user, additional, subject, require_eq_ok_iff.mp hgiven, hvalid, hopenid, hid.trans hsub, ?_,
    expect_eq_ok_iff.mp hadditional, expect_eq_ok_iff.mp hsubject, ?_⟩
  · rw [hid]
    exact require_eq_ok_iff.mp hnamed
  · rw [Dict.get?_setAll_entries, Dict.get?_set_self]

/-- A subject that is shown is the resolved one, or the user's id in a JWT. -/
theorem Shows.resolved_or_jwt (hkeeps : issuing.KeepsSubject tokens)
    {subject : Value} (hshows : issuing.Shows tokens subject) :
    (∃ resolved, server.resolveSubject issuing.user.id issuing.client = some resolved ∧ subject = .str resolved) ∨
      issuing.IssuesJWT ∧ subject = .str issuing.user.id := by
  cases hshows with
  | idToken _ hclaims hsub =>
    obtain ⟨resolved, hresolved, hpinned⟩ := idTokenClaims_sub hclaims
    exact .inl ⟨resolved, hresolved, Option.some.inj (hsub.symm.trans hpinned)⟩
  | accessToken hjwt hclaims hsub =>
    exact .inr ⟨hjwt, Option.some.inj (hsub.symm.trans (accessTokenClaims_sub hclaims).1)⟩
  | introspectedAccess hlater hanswer hsub =>
    cases issuedAccess h with
    | jwt hjwt hclaims hsign =>
      obtain ⟨verified, hverified, hsame⟩ := introspectAccessToken_jwt ⟨hjwt.2, dots_signJWT hsign⟩ hanswer
      have hraw := (accessTokenClaims_sub hclaims).1
      rw [← verify_signJWT hsign hverified (by decide), ← hsame, hsub] at hraw
      exact .inr ⟨hjwt, Option.some.inj hraw⟩
    | stored _ hraw htoken hfound _ huser =>
      obtain ⟨raw, row, resolved, hpresented, hrow, hresolved, hclaimed⟩ :=
        introspectAccessToken_opaque (htoken ▸ not_jwt_form hraw) hanswer
      obtain rfl := (String.append_right_inj _).mp (htoken.symm.trans hpresented)
      cases hlater.access_kept hrow hfound
      rw [huser, getD_nonEmpty] at hresolved
      exact .inl ⟨resolved, hresolved, Option.some.inj (hsub.symm.trans hclaimed)⟩
  | introspectedRefresh hlater hgiven hanswer hsub =>
    obtain ⟨issuedRaw, issued, htoken, hfound, _, huser⟩ := issuedRefresh h hgiven
    obtain ⟨raw, row, resolved, hpresented, hrow, hresolved, hclaimed⟩ := introspectRefreshToken_row hanswer
    obtain rfl := (String.append_right_inj _).mp (htoken.symm.trans hpresented)
    rw [(hlater.refresh_kept hrow hfound).2, huser] at hresolved
    exact .inl ⟨resolved, hresolved, Option.some.inj (hsub.symm.trans hclaimed)⟩
  | userInfo hlater hinfo hsub =>
    obtain ⟨claims, user, additional, resolved, hgiven, hvalid, hscope, hid, hnamed, hadditional, hresolved, hresult⟩ :=
      userInfo_sub h hlater hinfo
    refine .inl ⟨resolved, hresolved, ?_⟩
    rw [hsub] at hresult
    cases hcustom : additional.get? "sub" with
    | none =>
      rw [hcustom] at hresult
      exact Option.some.inj hresult
    | some replaced =>
      rw [hcustom] at hresult
      rw [Option.some.inj hresult]
      exact hkeeps.custom hlater hgiven hvalid hscope hid hnamed hadditional hcustom hresolved

theorem issue_clients : issuing.issue.2.clients = issuing.store.clients := by
  obtain ⟨claimed, refreshID, refreshed, hclaim, hrefresh, haccess⟩ := issueDetailed_steps h
  obtain ⟨_, hafter, _⟩ := issueAccess_ok haccess
  obtain ⟨_, rfl, _⟩ := issueRefresh_ok hrefresh
  have hclients := claimRefresh_clients hclaim
  rw [issue, hafter]
  exact hclients

/-- The store right after the request is one in which its tokens are read. -/
theorem later_issue : issuing.Later issuing.issue.2 where
  client_found := by rw [issue_clients h]; exact issuing.client_found
  plain := by
    intro row hrow raw hhash
    cases issuedAccess h with
    | jwt _ _ _ hrows => exact issuing.store_plain row (hrows ▸ hrow) raw hhash
    | @stored generated issued _ hgenerated _ hfound _ _ _ hrows =>
      rw [hrows, List.mem_append, List.mem_singleton] at hrow
      rcases hrow with hold | rfl
      · exact issuing.store_plain row hold raw hhash
      · have htoken : row.token = server.hash generated := by simpa using List.find?_some hfound
        exact issuing.generated_plain generated hgenerated raw (htoken.symm.trans hhash)
  access_kept hrow hissued := Option.some.inj (hrow.symm.trans hissued)
  refresh_kept hrow hissued := by
    cases hrow.symm.trans hissued
    exact ⟨rfl, rfl⟩

/-- An opaque token shows the resolved subject while it has not expired. -/
theorem shows_resolved (hstored : ¬ issuing.IssuesJWT)
    (hresolved : server.resolveSubject issuing.user.id issuing.client = some resolved) :
    issuing.Shows tokens (.str resolved) := by
  cases issuedAccess h with
  | jwt hjwt => exact absurd hjwt hstored
  | @stored raw row _ hraw htoken hfound hclient huser hexpires =>
    have hanswer : ∃ claims, server.introspectAccessToken issuing.issue.2 (issuing.expiresAt - 1) issuing.client
        tokens.accessToken = .ok (some claims) ∧ claims.get? "sub" = some (.str resolved) := by
      rw [introspectAccessToken, if_neg (htoken ▸ not_jwt_form hraw), withoutPresentation_eq_some_iff.mpr htoken]
      simp only [hfound, hclient, huser, getD_nonEmpty, hresolved, hexpires]
      have hactive : ¬ (issuing.client.clientId ≠ issuing.client.clientId ∨
          issuing.expiresAt ≤ issuing.expiresAt - 1) := by
        rintro (hother | hexpired)
        · exact hother rfl
        · omega
      rw [if_neg hactive]
      exact ⟨_, rfl, by simp [Dict.ofEntries, Dict.setAll, Dict.get?_set]⟩
    obtain ⟨claims, hanswer, hsub⟩ := hanswer
    exact .introspectedAccess (later_issue h) hanswer hsub

theorem shows_jwt (hjwt : issuing.IssuesJWT) : issuing.Shows tokens (.str issuing.user.id) := by
  cases issuedAccess h with
  | jwt _ hclaims => exact .accessToken hjwt hclaims (accessTokenClaims_sub hclaims).1
  | stored hstored => exact absurd hjwt hstored

/-- A subject among the custom claims is in the userinfo answer. -/
theorem shows_custom {additional : Object} {user : UserRecord} {replaced : Value} (hlater : issuing.Later later)
    (hgiven : tokens.accessToken ≠ "") (hvalid : server.validateAccessToken later now tokens.accessToken = .ok claims)
    (hscope : "openid" ∈ claimedScopes claims) (hid : user.id = issuing.user.id) (hnamed : user.id ≠ "")
    (hadditional : server.customUserInfoClaims user (claimedScopes claims) claims = some additional)
    (hsub : additional.get? "sub" = some replaced)
    (hresolved : server.resolveSubject issuing.user.id issuing.client = some resolved) :
    issuing.Shows tokens replaced := by
  obtain ⟨huser, hclient⟩ := validateAccessToken_issued h hlater hvalid hscope
  have hnormal : server.userInfoClaims later user (claimedScopes claims) claims =
      .ok ((userNormalClaims user (claimedScopes claims)).set "sub" (.str resolved)) := by
    rw [userInfoClaims]
    simp only [hclient, huser, resolveSubjectByClientID_later hlater, hresolved, issuing.client_named, if_false]
    rfl
  have hinfo : server.userInfo later [user] now ("Bearer " ++ tokens.accessToken) =
      .ok (((userNormalClaims user (claimedScopes claims)).set "sub" (.str resolved)).setAll additional.entries) := by
    unfold userInfo
    simp only [withoutBearer_bearer]
    have hfound : [user].find? (fun other => other.id = claimString (claims.get? "sub")) = some user :=
      List.find?_cons_of_pos (by simpa using hid.trans huser.symm)
    rw [hid, ← huser] at hnamed
    simp only [require, hgiven, hvalid, hscope, hnamed, hfound, hnormal, hadditional, expect, bind, Except.bind,
      ne_eq, not_false_eq_true, if_true]
  exact .userInfo hlater hinfo (by rw [Dict.get?_setAll_entries, hsub]; rfl)

end

/-- Tokens and endpoints agree on one subject exactly for pairwise clients with
opaque access tokens and a first redirect host, and for all other clients, as
long as the custom userinfo claims leave the subject. -/
theorem oneSubject_iff (h : issuing.issue.1 = .ok tokens) :
    issuing.OneSubject tokens ↔ issuing.KeepsSubject tokens := by
  constructor
  · intro hone
    refine ⟨fun hpairwise => ?_, ?_⟩
    · have hstored : ¬ issuing.IssuesJWT := fun hjwt => hone.hidden hpairwise (shows_jwt h hjwt) rfl
      refine ⟨hstored, (resolveSubject_ne_id_iff hpairwise.1 hpairwise.2).mp fun hid => ?_⟩
      exact hone.hidden hpairwise (shows_resolved h hstored hid) rfl
    intro later now claims user additional replaced resolved hlater hgiven hvalid hscope hid hnamed hadditional hsub
      hsubject
    have hinfo := shows_custom h hlater hgiven hvalid hscope hid hnamed hadditional hsub hsubject
    by_cases hjwt : issuing.IssuesJWT
    · have hpublic : ¬ issuing.Pairwise := fun hpairwise => hone.hidden hpairwise (shows_jwt h hjwt) rfl
      rw [resolveSubject_eq_id hpublic hsubject]
      exact hone.agree hinfo (shows_jwt h hjwt)
    · exact hone.agree hinfo (shows_resolved h hjwt hsubject)
  · intro hkeeps
    by_cases hpairwise : issuing.Pairwise
    · obtain ⟨hstored, hredirects⟩ := hkeeps.pairwise hpairwise
      have hapart := (resolveSubject_ne_id_iff hpairwise.1 hpairwise.2).mpr hredirects
      have hshown : ∀ {subject}, issuing.Shows tokens subject → ∃ resolved,
          server.resolveSubject issuing.user.id issuing.client = some resolved ∧ subject = .str resolved :=
        fun hshows => (hshows.resolved_or_jwt h hkeeps).resolve_right fun hjwt => hstored hjwt.1
      constructor
      · intro left right hleft hright
        obtain ⟨_, hfirst, rfl⟩ := hshown hleft
        obtain ⟨_, hsecond, rfl⟩ := hshown hright
        rw [Option.some.inj (hfirst.symm.trans hsecond)]
      · intro _ subject hshows hid
        obtain ⟨resolved, hresolved, rfl⟩ := hshown hshows
        exact hapart (hresolved.trans (congrArg some (Value.str.inj hid)))
    · have hshown : ∀ {subject}, issuing.Shows tokens subject → subject = .str issuing.user.id := by
        intro subject hshows
        rcases hshows.resolved_or_jwt h hkeeps with ⟨resolved, hresolved, rfl⟩ | ⟨_, hid⟩
        · rw [resolveSubject_eq_id hpairwise hresolved]
        · exact hid
      exact ⟨fun hleft hright => (hshown hleft).trans (hshown hright).symm, fun h => absurd h hpairwise⟩

end Server.Issuing

/-! ## A pairwise client that asks for a resource -/

/-- A plugin whose tokens never verify. -/
def signingOnly : JwtPlugin where
  sign _ := some "h.p.s"
  verify _ _ := none
  dots_sign h := by cases h; rfl
  verify_sign _ hverify := nomatch hverify

def pairwiseServer : Server where
  config := plainConfig
  jwt := signingOnly
  pairwiseSecret := "key"
  idTokenExpiresIn := 3600
  issuer := "https://auth"
  hash := id
  hmac secret content := secret ++ content
  urlHost := some
  decryptClientSecret := some
  signHS256 _ _ := none

def pairwiseClient : ClientRow := { clientId := "app", redirectUris := ["app.example"], subjectType := "pairwise" }

/-- The request of one user, for a resource or without one. -/
def pairwiseRequest (resource : String) : pairwiseServer.Issuing where
  client := pairwiseClient
  user := { id := "alice" }
  scopes := ["openid"]
  resource := resource
  host := { now := 0, rawRefresh := none, rawAccess := some "text", refreshRowID := "r", accessRowID := "a" }
  store := { clients := [pairwiseClient], users := ["alice"] }
  client_named := by decide
  client_found := rfl
  store_plain := nofun
  generated_plain := by
    rintro _ ⟨⟩ raw rfl
    decide

def pairwiseTokens (accessToken : String) : IssuedTokens :=
  { accessToken, expiresIn := 0, expiresAt := 0, refreshToken := "", scope := "openid", idToken := "h.p.s" }

namespace Server.Issuing

theorem oneSubject_opaque :
    (pairwiseRequest "").issue.1 = .ok (pairwiseTokens "text") ∧
      (pairwiseRequest "").OneSubject (pairwiseTokens "text") := by
  have hissue : (pairwiseRequest "").issue.1 = .ok (pairwiseTokens "text") := by decide
  refine ⟨hissue, (oneSubject_iff hissue).mpr ⟨fun _ => ⟨fun hjwt => hjwt.1 rfl, by decide, ?_⟩, ?_⟩⟩
  · rintro _ ⟨⟩ _ ⟨⟩
    decide
  · rintro later now claims user additional replaced resolved _ _ _ _ _ _ ⟨⟩ hsub
    cases hsub

/-- A pairwise client's JWT carries the user's own id, its ID token does not. -/
theorem jwt_with_user_id :
    (pairwiseRequest "https://api").issue.1 = .ok (pairwiseTokens "h.p.s") ∧ (pairwiseRequest "https://api").Pairwise ∧
      ¬ (pairwiseRequest "https://api").OneSubject (pairwiseTokens "h.p.s") := by
  have hissue : (pairwiseRequest "https://api").issue.1 = .ok (pairwiseTokens "h.p.s") := by decide
  have hpairwise : (pairwiseRequest "https://api").Pairwise := ⟨rfl, by decide⟩
  refine ⟨hissue, hpairwise, fun hone => ?_⟩
  exact hone.hidden hpairwise (shows_jwt hissue ⟨by decide, rfl⟩) rfl

end Server.Issuing

end singleauth.oauthprovider
