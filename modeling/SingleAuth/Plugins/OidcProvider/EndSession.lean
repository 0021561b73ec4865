import SingleAuth.Plugins.OidcProvider.Token

open dict json fallible text table
open singleauth.core

namespace singleauth.oidcprovider

/-- The decoders and the code that a signed token is checked with. A header is a
whole JSON document; of the claims only the first document is read. -/
structure HS256 where
  decodeString : String → Option (List UInt8)
  unmarshal : List UInt8 → Option Object
  decode : List UInt8 → Option Object
  hmac : String → String → List UInt8

/-- The claims of a token that was signed with the secret and has not expired. -/
def verifyHS256 (codec : HS256) (token secret : String) (now : Int) : Option Object :=
  match split '.' token with
  | [header, payload, signature] => do
    let members ← (codec.decodeString header).bind codec.unmarshal
    guard ((members.get? "alg").bind Value.string? = some "HS256")
    let signature ← codec.decodeString signature
    guard (signature = codec.hmac secret (header ++ "." ++ payload))
    let claims ← (codec.decodeString payload).bind codec.decode
    match claims.get? "exp" with
    | none => some claims
    | some expiry => do
      let expiry ← expiry.int64?
      guard (now / 1000000000 < expiry.toInt)
      some claims
  | _ => none

/-- The first audience of a token. -/
def audienceString : Value → String
  | .str audience => audience
  | .arr (.str audience :: _) => audience
  | _ => ""

/-- The session that a logout request carries: the id of its user record and its token. -/
structure LogoutSession where
  (userID token : String)
deriving DecidableEq, Repr

/-- A logout request. A header that is missing is empty. -/
structure EndSessionRequest where
  clock : Int
  baseURLResolved : Bool
  query : Dict String
  session : Except Failure (Option LogoutSession)
  (fetchSite origin referer : String)

def EndSessionRequest.param (request : EndSessionRequest) (name : String) : String :=
  (request.query.get? name).getD ""

structure EndSessionOptions where
  trustedClients : List Client
  useJWTPlugin : Bool
  verifyWithJWTPlugin : Option (String → Option Object)
  hs256 : HS256
  isTrustedOrigin : Option (String → Except Failure Bool)
  deleteSession : Option (String → Except Failure Unit)
  isAbsoluteURL : String → Bool

/-- What a hint is worth: the user it names and its audience, each empty if there
is none. -/
structure ValidatedHint where
  (userID clientID : String)
deriving DecidableEq, Repr

/-- The claims of the hint. Without the JWT plugin it is checked with the secret
of the client that the request names. -/
def hintClaims (options : EndSessionOptions) (request : EndSessionRequest) (store : Store) : Option Object :=
  let hint := request.param "id_token_hint"
  let clientID := request.param "client_id"
  if hint = "" then none
  else
    match if request.baseURLResolved && options.useJWTPlugin then options.verifyWithJWTPlugin else none with
    | some verify => verify hint
    | none =>
      if clientID = "" then none
      else
        match findClient options.trustedClients clientID store with
        | none => none
        | some client =>
          if client.clientSecret = "" then none
          else verifyHS256 options.hs256 hint client.clientSecret request.clock

def validatedHint (options : EndSessionOptions) (request : EndSessionRequest) (store : Store) : ValidatedHint :=
  match hintClaims options request store with
  | none => ⟨"", ""⟩
  | some claims => ⟨((claims.get? "sub").bind Value.string?).getD "", (claims.get? "aud").elim "" audienceString⟩

/-- The checks on the client and on the address to go to after the logout. -/
def checkLogoutClient (options : EndSessionOptions) (request : EndSessionRequest) (hint : ValidatedHint)
    (store : Store) : Except Failure Unit := do
  let clientID := request.param "client_id"
  let redirectURI := request.param "post_logout_redirect_uri"
  let validated ← (if clientID ≠ "" then do
    let _ ← expect (findClient options.trustedClients clientID store)
      (oauthError 400 "invalid_client" "Invalid client_id")
    require (hint.clientID = "" ∨ hint.clientID = clientID)
      (oauthError 400 "invalid_request" "client_id does not match the ID Token's audience")
    .ok clientID
  else .ok hint.clientID)
  if redirectURI = "" then .ok ()
  else do
    require (validated ≠ "") (oauthError 400 "invalid_request"
      "client_id is required when using post_logout_redirect_uri without a valid id_token_hint")
    let client ← expect (findClient options.trustedClients validated store)
      (oauthError 400 "invalid_client" "Invalid client")
    require (redirectURI ∈ client.redirectURLs)
      (oauthError 400 "invalid_request" "post_logout_redirect_uri is not registered for this client")

/-- Whether the request comes from this site or a trusted one, as its headers say. -/
def sameSite (options : EndSessionOptions) (request : EndSessionRequest) : Except Failure Bool :=
  let origin := if request.origin = "" then request.referer else request.origin
  if request.fetchSite ∈ ["same-origin", "same-site", "none"] then .ok true
  else if origin = "" then .ok false
  else
    match options.isTrustedOrigin with
    | none => .ok false
    | some trusted => (trusted origin).mapError (fun _ => internalError)

/-- A logout that ends something is made from the same site or hints at the
user of the session. -/
def checkLogoutOrigin (options : EndSessionOptions) (request : EndSessionRequest) (hint : ValidatedHint)
    (session : Option LogoutSession) : Except Failure Unit :=
  if hint.userID ≠ "" ∨ session.isSome then do
    let fromSite ← sameSite options request
    require (fromSite = true ∨ hint.userID ≠ "" ∧ hint.userID = session.elim "" LogoutSession.userID)
      (oauthError 403 "invalid_request"
        "Logout must be same-site or carry an id_token_hint for the current session")
  else .ok ()

def checkLogout (options : EndSessionOptions) (request : EndSessionRequest) (store : Store) :
    Except Failure (Option LogoutSession) := do
  let hint := validatedHint options request store
  checkLogoutClient options request hint store
  let session ← request.session
  checkLogoutOrigin options request hint session
  .ok session

/-- Whose tokens are deleted: those of the hint's user, else of the session's. -/
def logoutUser (hint : ValidatedHint) (session : Option LogoutSession) : String :=
  if hint.userID ≠ "" then hint.userID else session.elim "" LogoutSession.userID

inductive EndSessionAnswer where
  | redirected (redirectURI state : String)
  | success
deriving DecidableEq, Repr

/-- What is left to do when the tokens are gone. -/
def answerLogout (options : EndSessionOptions) (request : EndSessionRequest) (session : Option LogoutSession) :
    Except Failure EndSessionAnswer := do
  (match session, options.deleteSession with
  | some session, some delete =>
    if session.token ≠ "" then (delete session.token).mapError (fun _ => internalError) else .ok ()
  | _, _ => .ok ())
  let redirectURI := request.param "post_logout_redirect_uri"
  if redirectURI = "" then .ok .success
  else do
    require (options.isAbsoluteURL redirectURI)
      (oauthError 400 "invalid_request" "Invalid post_logout_redirect_uri format")
    .ok (.redirected redirectURI (request.param "state"))

def endSession (options : EndSessionOptions) (request : EndSessionRequest) (store : Store) :
    Except Failure EndSessionAnswer × Store :=
  match checkLogout options request store with
  | .error failure => (.error failure, store)
  | .ok session =>
    let userID := logoutUser (validatedHint options request store) session
    let tokens := if userID ≠ "" then deleteMany (fun token => token.userID = userID) store.accessTokens
      else store.accessTokens
    (answerLogout options request session, { store with accessTokens := tokens })

/-- The hint verifies under the secret of the client that the request names, and
names the user. -/
def HintNames (options : EndSessionOptions) (request : EndSessionRequest) (store : Store) (user : String) : Prop :=
  request.param "client_id" ≠ "" ∧
    ∃ client claims, findClient options.trustedClients (request.param "client_id") store = some client ∧
      client.clientSecret ≠ "" ∧
      verifyHS256 options.hs256 (request.param "id_token_hint") client.clientSecret request.clock = some claims ∧
      claims.get? "sub" = some (.str user)

theorem verifyHS256_empty (codec : HS256) (secret : String) (now : Int) : verifyHS256 codec "" secret now = none := rfl

variable {options : EndSessionOptions} {request : EndSessionRequest} {store : Store} {user : String}
  {session : Option LogoutSession} {row : AccessToken}

/-- Without the JWT plugin the claims of a hint are those that its client's
secret vouches for. -/
theorem hintClaims_eq_some_iff (hplugin : options.useJWTPlugin = false) {claims : Object} :
    hintClaims options request store = some claims ↔ request.param "client_id" ≠ "" ∧
      ∃ client, findClient options.trustedClients (request.param "client_id") store = some client ∧
        client.clientSecret ≠ "" ∧
        verifyHS256 options.hs256 (request.param "id_token_hint") client.clientSecret request.clock = some claims := by
  simp only [hintClaims, hplugin, Bool.and_false, Bool.false_eq_true, if_false]
  by_cases hhint : request.param "id_token_hint" = ""
  · simp [hhint, verifyHS256_empty]
  rw [if_neg hhint]
  by_cases hclientID : request.param "client_id" = ""
  · simp [hclientID]
  rw [if_neg hclientID]
  cases findClient options.trustedClients (request.param "client_id") store with
  | none => simp
  | some client => by_cases hsecret : client.clientSecret = "" <;> simp [hsecret, hclientID]

theorem validatedHint_userID_iff (hplugin : options.useJWTPlugin = false) (huser : user ≠ "") :
    (validatedHint options request store).userID = user ↔ HintNames options request store user := by
  have hclaims := @hintClaims_eq_some_iff options request store hplugin
  have hnames : HintNames options request store user ↔
      ∃ claims, hintClaims options request store = some claims ∧ claims.get? "sub" = some (.str user) := by
    simp only [hclaims, HintNames, ← exists_and_left, ← exists_and_right, and_assoc]
    exact exists_comm
  rw [hnames, validatedHint]
  cases hintClaims options request store with
  | none => simpa using huser.symm
  | some claims =>
    simp only [Option.some.injEq, exists_eq_left']
    cases claims.get? "sub" with
    | none => simpa using huser.symm
    | some value => cases value <;> simp [Value.string?, huser.symm]

theorem checkLogout_eq_ok_iff :
    checkLogout options request store = .ok session ↔
      checkLogoutClient options request (validatedHint options request store) store = .ok () ∧
        request.session = .ok session ∧
        checkLogoutOrigin options request (validatedHint options request store) session = .ok () := by
  simp [checkLogout, bind_eq_ok_iff, Unique.exists_iff]

/-- The rows that a logout deletes are all those of one user. -/
theorem endSession_deletes_iff (hrow : row ∈ store.accessTokens) :
    row ∉ (endSession options request store).2.accessTokens ↔
      ∃ session, checkLogout options request store = .ok session ∧ row.userID ≠ "" ∧
        row.userID = logoutUser (validatedHint options request store) session := by
  unfold endSession
  cases checkLogout options request store with
  | error failure => simp [hrow]
  | ok session =>
    simp only [Except.ok.injEq, exists_eq_left']
    by_cases huser : logoutUser (validatedHint options request store) session = ""
    · simp only [huser, ne_eq, not_true_eq_false, if_false, hrow, false_iff]
      exact fun hempty => hempty.1 hempty.2
    rw [if_pos huser, mem_deleteMany]
    constructor
    · intro hdeleted
      have heq : row.userID = logoutUser (validatedHint options request store) session := by
        simpa [hrow] using hdeleted
      exact ⟨heq ▸ huser, heq⟩
    · rintro ⟨_, heq⟩
      simp [heq]

/-- A row that a logout may delete: one of the session's user, or one of the
client that the request names and of the user whom its hint names. -/
def LogoutCovers (options : EndSessionOptions) (request : EndSessionRequest) (store : Store) (row : AccessToken) :
    Prop :=
  (∃ session, request.session = .ok (some session) ∧ row.userID = session.userID) ∨
    row.clientID = request.param "client_id" ∧ HintNames options request store row.userID

/-- A logout that its headers call same-site and whose hint names somebody other
than the session's user, when that user has a token of another client. -/
structure ForeignLogout (options : EndSessionOptions) (request : EndSessionRequest) (store : Store) (user : String) :
    Prop where
  client : checkLogoutClient options request (validatedHint options request store) store = .ok ()
  sameSite : sameSite options request = .ok true
  named : HintNames options request store user
  user_ne : user ≠ ""
  session : ∃ session, request.session = .ok session ∧ ∀ signedIn ∈ session, signedIn.userID ≠ user
  token : ∃ row ∈ store.accessTokens, row.userID = user ∧ row.clientID ≠ request.param "client_id"

/-- The hint decides whose tokens are deleted, whatever client they are of. -/
theorem ForeignLogout.deletes (hplugin : options.useJWTPlugin = false)
    (hforeign : ForeignLogout options request store user) (hrow : row ∈ store.accessTokens) (huser : row.userID = user) :
    row ∉ (endSession options request store).2.accessTokens := by
  obtain ⟨session, hsession, _⟩ := hforeign.session
  have hhint := (validatedHint_userID_iff hplugin hforeign.user_ne).mpr hforeign.named
  refine (endSession_deletes_iff hrow).mpr ⟨session, ?_, huser ▸ hforeign.user_ne, ?_⟩
  · refine checkLogout_eq_ok_iff.mpr ⟨hforeign.client, hsession, ?_⟩
    rw [checkLogoutOrigin, if_pos (Or.inl (hhint ▸ hforeign.user_ne)), bind_eq_ok_iff]
    exact ⟨true, hforeign.sameSite, require_eq_ok_iff.mpr (Or.inl rfl)⟩
  · rw [logoutUser, if_pos (hhint ▸ hforeign.user_ne), hhint]
    exact huser

/-- A hint that names somebody other than the session's user is only followed
from the same site. -/
theorem sameSite_of_checkLogoutOrigin {hint : ValidatedHint}
    (hcheck : checkLogoutOrigin options request hint session = .ok ()) (huser : hint.userID ≠ "")
    (hother : ∀ signedIn ∈ session, signedIn.userID ≠ hint.userID) : sameSite options request = .ok true := by
  rw [checkLogoutOrigin, if_pos (Or.inl huser)] at hcheck
  obtain ⟨fromSite, hsite, hrequired⟩ := bind_eq_ok_iff.mp hcheck
  rcases require_eq_ok_iff.mp hrequired with htrue | ⟨_, hmatches⟩
  · rw [hsite, htrue]
  · cases session with
    | none => exact absurd hmatches huser
    | some signedIn => exact absurd hmatches.symm (hother signedIn rfl)

/-- A logout deletes only what it covers exactly when it is not a same-site
logout of another user who has a token of another client. -/
theorem endSession_covered_iff {options : EndSessionOptions} (hplugin : options.useJWTPlugin = false)
    (request : EndSessionRequest) (store : Store) :
    (∀ row ∈ store.accessTokens, row ∉ (endSession options request store).2.accessTokens →
        LogoutCovers options request store row) ↔
      ¬ ∃ user, ForeignLogout options request store user := by
  constructor
  · rintro hcovered ⟨user, hforeign⟩
    obtain ⟨row, hrow, huser, hclient⟩ := hforeign.token
    obtain ⟨session, hsession, hother⟩ := hforeign.session
    rcases hcovered row hrow (hforeign.deletes hplugin hrow huser) with ⟨signedIn, hsignedIn, hsame⟩ | ⟨hsame, _⟩
    · obtain rfl := Except.ok.inj (hsession.symm.trans hsignedIn)
      exact hother signedIn rfl (hsame.symm.trans huser)
    · exact hclient hsame
  intro hnone row hrow hdeleted
  obtain ⟨session, hchecked, hnamed, huser⟩ := (endSession_deletes_iff hrow).mp hdeleted
  obtain ⟨hclient, hsession, horigin⟩ := checkLogout_eq_ok_iff.mp hchecked
  by_cases hhint : (validatedHint options request store).userID = ""
  · -- without a hint the session's user is logged out
    rw [logoutUser, if_neg (not_not_intro hhint)] at huser
    cases session with
    | none => exact absurd huser hnamed
    | some signedIn => exact Or.inl ⟨signedIn, hsession, huser⟩
  rw [logoutUser, if_pos hhint] at huser
  have hnames : HintNames options request store row.userID :=
    (validatedHint_userID_iff hplugin hnamed).mp huser.symm
  by_cases hother : ∀ signedIn ∈ session, signedIn.userID ≠ row.userID
  · right
    refine ⟨?_, hnames⟩
    by_contra hclientID
    refine hnone ⟨row.userID, hclient, ?_, hnames, hnamed, ⟨session, hsession, hother⟩, row, hrow, rfl, hclientID⟩
    exact sameSite_of_checkLogoutOrigin horigin hhint (huser ▸ hother)
  push Not at hother
  obtain ⟨signedIn, hmem, hsame⟩ := hother
  cases hmem
  exact Or.inl ⟨signedIn, hsession, hsame.symm⟩

/-- Texts as bytes; an underscore stands for a point, so that a code can hold one. -/
def plainBytes (text : String) : List UInt8 :=
  text.toList.map (fun c => if c = '_' then '.'.toNat.toUInt8 else c.toNat.toUInt8)

/-- A signed token in plain text: the code is the secret followed by what is signed. -/
def plainHS256 : HS256 where
  decodeString text := some (plainBytes text)
  unmarshal bytes := if bytes = plainBytes "header" then some (Dict.ofEntries [("alg", .str "HS256")]) else none
  decode bytes := if bytes = plainBytes "alice" then some (Dict.ofEntries [("sub", .str "alice")]) else none
  hmac secret input := plainBytes (secret ++ input)

def logoutOptions : EndSessionOptions where
  trustedClients := []
  useJWTPlugin := false
  verifyWithJWTPlugin := none
  hs256 := plainHS256
  isTrustedOrigin := none
  deleteSession := none
  isAbsoluteURL := fun _ => true

/-- A token of Alice that was issued to the client. -/
def logoutToken (clientID : String) : AccessToken :=
  ⟨clientID ++ "-access", clientID ++ "-refresh", 3600 * 1000000000, 604800 * 1000000000, clientID, "alice",
    "openid", 0⟩

def logoutStore (clientID : String) : Store :=
  ⟨[], [⟨"shop", "secret", "web", false, ["https://shop.example.com/cb"], false⟩], [logoutToken clientID], [],
    ["alice"]⟩

/-- Whoever knows the secret of the shop signs a hint for Alice with it. No
session is presented. -/
def logoutRequest : EndSessionRequest where
  clock := 0
  baseURLResolved := true
  query := Dict.ofEntries [("client_id", "shop"), ("id_token_hint", "header.alice.secretheader_alice")]
  session := .ok none
  fetchSite := "none"
  origin := ""
  referer := ""

/-- The shop's own tokens are covered by the hint. -/
theorem endSession_covered_iff_shop :
    logoutToken "shop" ∉ (endSession logoutOptions logoutRequest (logoutStore "shop")).2.accessTokens ∧
      ((∀ row ∈ (logoutStore "shop").accessTokens,
          row ∉ (endSession logoutOptions logoutRequest (logoutStore "shop")).2.accessTokens →
            LogoutCovers logoutOptions logoutRequest (logoutStore "shop") row) ↔
        ¬ ∃ user, ForeignLogout logoutOptions logoutRequest (logoutStore "shop") user) :=
  ⟨by decide, endSession_covered_iff rfl logoutRequest (logoutStore "shop")⟩

/-- With the secret of the shop Alice's tokens of the bank are deleted. -/
theorem endSession_deletes_tokens_of_other_clients :
    ¬ ∀ (request : EndSessionRequest) (store : Store), ∀ row ∈ store.accessTokens,
      row ∉ (endSession logoutOptions request store).2.accessTokens → LogoutCovers logoutOptions request store row := by
  intro hall
  have hdeleted :
      logoutToken "bank" ∉ (endSession logoutOptions logoutRequest (logoutStore "bank")).2.accessTokens := by
    decide
  rcases hall logoutRequest (logoutStore "bank") (logoutToken "bank") List.mem_cons_self hdeleted with
    ⟨session, hsession, _⟩ | ⟨hclient, _⟩
  · cases hsession
  · exact absurd hclient (by decide)

end singleauth.oidcprovider
