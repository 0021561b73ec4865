import SingleAuth.Core.OAuthState.Document
import SingleAuth.Plugins.Mcp.Endpoints

open json fallible
open singleauth.core

namespace singleauth.oidcprovider

namespace AuthorizationCodeValue

/-- A field whose name none of the three optional members spells is read from
the members that are always there. -/
private theorem read_before_optional {α : Type} (kind : Kind α) (name : String) (content : α)
    (members : List (String × Value)) (challenge method nonce : String)
    (hother : ∀ other ∈ ["codeChallenge", "codeChallengeMethod", "nonce"], spells name other = false) :
    kind.read name content (members ++ omitEmpty "codeChallenge" challenge ++
      omitEmpty "codeChallengeMethod" method ++ omitEmpty "nonce" nonce) = kind.read name content members := by
  have hchallenge : spells name "codeChallenge" = false := hother _ (by simp)
  have hmethod : spells name "codeChallengeMethod" = false := hother _ (by simp)
  have hnonce : spells name "nonce" = false := hother _ (by simp)
  rw [Kind.read, Kind.read]
  simp only [spelled_append, spelled_omitEmpty hchallenge, spelled_omitEmpty hmethod, spelled_omitEmpty hnonce,
    List.append_nil]

/-- A code's document is decoded to the value it was written for. -/
theorem unmarshal_marshal (value : AuthorizationCodeValue) : unmarshal value.marshal = some value := by
  simp only [marshal, unmarshal, unmarshalMembers]
  rw [read_before_optional _ "clientId" _ _ _ _ _ (by decide), read_before_optional _ "redirectURI" _ _ _ _ _ (by decide),
    read_before_optional _ "scope" _ _ _ _ _ (by decide), read_before_optional _ "userId" _ _ _ _ _ (by decide),
    read_before_optional _ "authTime" _ _ _ _ _ (by decide),
    read_before_optional _ "requireConsent" _ _ _ _ _ (by decide),
    read_before_optional _ "state" _ _ _ _ _ (by decide)]
  -- each optional text is read from the one member that spells its name
  rw [read_omitEmpty "codeChallenge" value.codeChallenge,
    read_omitEmpty "codeChallengeMethod" value.codeChallengeMethod, read_omitEmpty "nonce" value.nonce]
  rotate_left
  iterate 3
    · simp (disch := decide) only [spelled_append, spelled_omitEmpty]
      simp +decide [spelled]
  obtain ⟨_, _, scope, _, _, _, state, _, _, _⟩ := value
  cases scope <;> cases state <;>
    simp +decide [Kind.read, spelled, values, Kind.string, Kind.scalar, Kind.bool, Kind.int64, Kind.pointer,
      strings_admits, strings_store]

end AuthorizationCodeValue

variable {client : Client} {store : Store} {trusted : List Client} {authorized : AuthorizedCode}

theorem findClient_clientID {clientID : String}
    (hfind : findClient trusted clientID store = some client) : client.clientID = clientID := by
  rw [findClient, Option.or_eq_some_iff] at hfind
  rcases hfind with htrusted | ⟨_, hregistered⟩
  · simpa using List.find?_some htrusted
  · simpa using List.find?_some hregistered

variable {redirectURI : String} {options : AuthorizeOptions} {request : AuthorizeRequest}
  {check : Store → Option VerificationRow → Except Failure AuthorizationCodeValue} {token : AccessToken}

theorem checkClient_ok {describe : String → String} {find : String → Option Client}
    (hcheck : checkClient describe find request = .ok (client, redirectURI)) :
    find (request.param "client_id") = some client := by
  unfold checkClient at hcheck
  obtain ⟨_, _, _, _, found, hfound, hcheck⟩ := ok_of_bind₃ hcheck
  obtain ⟨_, _, _, _, _, _, hcheck⟩ := ok_of_bind₃ hcheck
  cases hcheck
  exact expect_eq_ok_iff.mp hfound

/-- The user of the request's session, empty without one. -/
def AuthorizeRequest.user (request : AuthorizeRequest) : String :=
  match request.session with
  | .ok (some session) => session.userID
  | _ => ""

/-- What stands behind a code: the session, the client and the check of the code
challenge. -/
structure Authorizes (options : AuthorizeOptions) (request : AuthorizeRequest) (session : SessionState)
    (client : Client) (authorized : AuthorizedCode) : Prop where
  session_eq : request.session = .ok (some session)
  userID : authorized.value.userID = session.userID
  clientID : authorized.value.clientID = client.clientID
  challenge : checkChallenge options.toLower options.requirePKCE options.allowPlainCodeChallengeMethod
    authorized.value.redirectURI request =
      .ok (authorized.value.codeChallenge, authorized.value.codeChallengeMethod)

theorem Authorizes.userID_eq {session : SessionState}
    (hauthorizes : Authorizes options request session client authorized) :
    authorized.value.userID = request.user := by
  rw [hauthorizes.userID, AuthorizeRequest.user, hauthorizes.session_eq]

section

variable (hauthorized : authorizedCode options request store = .ok authorized)
include hauthorized

theorem authorizedCode_authorizes :
    ∃ session client, findClient options.trustedClients (request.param "client_id") store = some client ∧
      Authorizes options request session client authorized := by
  unfold authorizedCode at hauthorized
  split at hauthorized
  · cases hauthorized
  · cases hauthorized
  · cases hauthorized
  rename_i session prompts hsession _
  unfold authorizeInSession at hauthorized
  obtain ⟨⟨client, redirectURI⟩, hclient, hauthorized⟩ := bind_eq_ok_iff.mp hauthorized
  obtain ⟨scopes, _, hauthorized⟩ := bind_eq_ok_iff.mp hauthorized
  obtain ⟨⟨challenge, method⟩, hchallenge, hauthorized⟩ := bind_eq_ok_iff.mp hauthorized
  obtain ⟨code, _, _, _, hauthorized⟩ := ok_of_bind₂ hauthorized
  cases hauthorized
  exact ⟨session, client, checkClient_ok hclient, hsession, rfl, rfl, hchallenge⟩

/-- A code is kept for the user of the request's session and for the client the
request names. -/
theorem authorizedCode_ok :
    authorized.value.userID = request.user ∧ authorized.value.clientID = request.param "client_id" := by
  obtain ⟨session, client, hclient, hauthorizes⟩ := authorizedCode_authorizes hauthorized
  exact ⟨hauthorizes.userID_eq, hauthorizes.clientID.trans (findClient_clientID hclient)⟩

end

/-- What a token endpoint knows of a code it accepts: the row's document and
that it is for the client that presents it. -/
structure Redeems (request : TokenRequest) (row : VerificationRow) (value : AuthorizationCodeValue) : Prop where
  decoded : AuthorizationCodeValue.unmarshal row.value = some value
  clientID_eq : value.clientID = request.clientID
  clientID_ne : value.clientID ≠ ""
  redirectURI_ne : value.redirectURI ≠ ""

variable {options : TokenOptions} {request : TokenRequest} {now : Int}

/-- A code is accepted with its challenge met. -/
theorem checkCode_ok {verification : Option VerificationRow} {value : AuthorizationCodeValue}
    (hcheck : checkCode options trusted request store verification = .ok value) :
    checkCodeChallenge options value request.codeVerifier = .ok () ∧
      ∃ row, verification = some row ∧ Redeems request row value := by
  unfold checkCode at hcheck
  obtain ⟨row, hrow, _, hclientID, _, _, hcheck⟩ := ok_of_bind₃ hcheck
  obtain ⟨_, _, _, hredirect, _, _, hcheck⟩ := ok_of_bind₃ hcheck
  obtain ⟨_, _, decoded, hdecoded, _, hsameClient, hcheck⟩ := ok_of_bind₃ hcheck
  obtain ⟨_, hsameRedirect, _, _, hcheck⟩ := ok_of_bind₂ hcheck
  obtain ⟨_, _, _, hchallenge, hcheck⟩ := ok_of_bind₂ hcheck
  cases hcheck
  rw [require_eq_ok_iff] at hclientID hredirect hsameClient hsameRedirect
  exact ⟨hchallenge, row, expect_eq_ok_iff.mp hrow, expect_eq_ok_iff.mp hdecoded, hsameClient,
    hsameClient ▸ hclientID, hsameRedirect ▸ hredirect⟩

/-- The row that stands behind an issued token. -/
structure IssuedFor (request : TokenRequest) (store : Store) (token : AccessToken) (row : VerificationRow)
    (value : AuthorizationCodeValue) : Prop where
  mem : row ∈ store.verifications
  identifier : row.identifier = request.code
  redeems : Redeems request row value
  userID : token.userID = value.userID
  clientID : token.clientID = value.clientID

/-- Exchanging a code adds at most one token row, for the user and the client of
the code's row, and no verification row. The code was consumed, and its challenge met. -/
structure Exchanges (options : TokenOptions) (request : TokenRequest) (store : Store)
    (result : Except Failure AccessToken × Store) : Prop where
  rows : ∀ row ∈ result.2.verifications, row ∈ store.verifications
  tokens : match result.1 with
    | .error _ => result.2.accessTokens = store.accessTokens
    | .ok token => result.2.accessTokens = store.accessTokens ++ [token] ∧
      ∃ row value, IssuedFor request store token row value ∧
        (consumeStoredVerification request.clock request.code store.verifications).1 = some row ∧
        checkCodeChallenge options value request.codeVerifier = .ok ()

theorem mem_of_consumed {clock : Int} {code : String} :
    ∀ row ∈ (consumeStoredVerification clock code store.verifications).2, row ∈ store.verifications :=
  fun _ hrow => (mem_consumeStoredVerification hrow).1

theorem issueWith_exchanges (store : Store) (hcheck : ∀ {store verification value},
      check store verification = .ok value → checkCodeChallenge options value request.codeVerifier = .ok () ∧
        ∃ row, verification = some row ∧ Redeems request row value) :
    Exchanges options request store (issueWith check now options request store) := by
  have hfewer := @mem_of_consumed store request.clock request.code
  unfold issueWith
  split
  · exact ⟨fun row hrow => hrow, rfl⟩
  split
  · exact ⟨fun row hrow => hrow, rfl⟩
  cases hconsume : consumeStoredVerification request.clock request.code store.verifications with
  | mk verification rows =>
    rw [hconsume] at hfewer
    dsimp only
    cases hchecked : check { store with verifications := rows } verification with
    | error failure => exact ⟨hfewer, rfl⟩
    | ok value =>
      cases drawTokens request.random [upperAlphabet, lowerAlphabet] with
      | error failure => exact ⟨hfewer, rfl⟩
      | ok drawn =>
        obtain ⟨hchallenge, row, rfl, hredeems⟩ := hcheck hchecked
        obtain ⟨hmem, hidentifier, _⟩ := consumeStoredVerification_some hconsume
        exact ⟨hfewer, rfl, row, value, ⟨hmem, hidentifier, hredeems, rfl, hredeems.clientID_eq.symm⟩,
          congrArg Prod.fst hconsume, hchallenge⟩

theorem checkRefresh_ok (hcheck : checkRefresh options trusted request store = .ok token) :
    token ∈ store.accessTokens ∧ token.clientID = request.clientID := by
  unfold checkRefresh at hcheck
  obtain ⟨_, _, found, hfound, _, hclient, hcheck⟩ := ok_of_bind₃ hcheck
  obtain ⟨_, _, _, _, hcheck⟩ := ok_of_bind₂ hcheck
  obtain ⟨_, _, _, _, hcheck⟩ := ok_of_bind₂ hcheck
  cases hcheck
  exact ⟨List.mem_of_find?_eq_some (expect_eq_ok_iff.mp hfound), require_eq_ok_iff.mp hclient⟩

/-- A refresh adds at most one token row, for the user and the client of the row
it refreshes. -/
def Refreshes (store : Store) (result : Except Failure (AccessToken × AccessToken) × Store) : Prop :=
  (∃ failure, result = (.error failure, store)) ∨
    ∃ old token, result = (.ok (old, token), { store with accessTokens := store.accessTokens ++ [token] }) ∧
      old ∈ store.accessTokens ∧ token.userID = old.userID ∧ token.clientID = old.clientID

theorem refreshWith_refreshes {check : Store → Except Failure AccessToken} (store : Store)
    (hcheck : ∀ {token}, check store = .ok token → token ∈ store.accessTokens ∧ token.clientID = request.clientID) :
    Refreshes store (refreshWith check now options request store) := by
  unfold refreshWith
  cases hchecked : check store with
  | error failure => exact .inl ⟨failure, rfl⟩
  | ok old =>
    cases drawTokens request.random [lowerAlphabet, upperAlphabet] with
    | error failure => exact .inl ⟨failure, rfl⟩
    | ok drawn =>
      obtain ⟨hmem, hclientID⟩ := hcheck hchecked
      exact .inr ⟨old, _, rfl, hmem, rfl, hclientID.symm⟩

/-- What stands behind an accepted consent: the session and the newest row of the
code, which waits for consent, and the one row that is added for it. -/
structure Accepts (request : ConsentRequest) (before after : Store) (code : String) (session : SessionState)
    (row added : VerificationRow) (value : AuthorizationCodeValue) : Prop where
  session : request.session = .ok session
  accept : request.accept = some true
  latest : latestVerification request.code before.verifications = some row
  decoded : AuthorizationCodeValue.unmarshal row.value = some value
  awaits : value.requireConsent = true
  rows : after.verifications = (consumeStoredVerification request.clock request.code before.verifications).2 ++ [added]
  identifier : added.identifier = code
  added_value : added.value = { value with requireConsent := false }.marshal

/-- A consent request touches no token row. It adds a verification row only when
the consent is accepted. -/
structure Consents (request : ConsentRequest) (store : Store) (result : Except Failure ConsentAnswer × Store) :
    Prop where
  tokens : result.2.accessTokens = store.accessTokens
  rows : match result.1 with
    | .ok (.accepted _ code _) => ∃ session row added value, Accepts request store result.2 code session row added value
    | _ => ∀ row ∈ result.2.verifications, row ∈ store.verifications

theorem consentWith_consents (codeExpiresIn : Int) (sentState : Option String → Option String)
    (request : ConsentRequest) (store : Store) :
    Consents request store (consentWith codeExpiresIn sentState request store) := by
  unfold consentWith
  cases hcheck : checkConsent request with
  | error failure => exact ⟨rfl, fun row hrow => hrow⟩
  | ok accept =>
    obtain ⟨session, hsession, given, hgiven, _, _, hok⟩ := ok_of_bind₃ hcheck
    cases hok
    have haccept := expect_eq_ok_iff.mp hgiven
    dsimp only
    cases hlatest : latestVerification request.code store.verifications with
    | none => exact ⟨rfl, fun row hrow => hrow⟩
    | some row =>
      dsimp only
      split
      · exact ⟨rfl, fun other hother => (List.mem_filter.mp hother).1⟩
      cases hdecoded : AuthorizationCodeValue.unmarshal row.value with
      | none => exact ⟨rfl, fun other hother => hother⟩
      | some value =>
        dsimp only
        split
        · exact ⟨rfl, fun other hother => hother⟩
        rename_i hawaits
        split
        · exact ⟨rfl, mem_of_consumed⟩
        split
        · exact ⟨rfl, mem_of_consumed⟩
        rename_i haccepted
        unfold acceptConsent
        cases randomString request.random 32 [lowerAlphabet, upperAlphabet, digitAlphabet] with
        | error failure => exact ⟨rfl, mem_of_consumed⟩
        | ok drawn =>
          exact ⟨rfl, session, row, _, value, hsession, by simpa [haccept] using haccepted, hlatest, hdecoded,
            by simpa using hawaits, rfl, rfl, rfl⟩

/-- The stored state of an OAuth round trip decodes as a code's value exactly
when the client's additional data does: no server member spells one of the
ten names. -/
theorem unmarshal_marshalOAuthState (data : OAuthStateData) :
    AuthorizationCodeValue.unmarshal (.obj (marshalOAuthState data).entries) =
      AuthorizationCodeValue.unmarshal (.obj data.raw.entries) := by
  simp only [AuthorizationCodeValue.unmarshal, AuthorizationCodeValue.unmarshalMembers]
  simp (disch := decide) only [read_marshalOAuthState]

end singleauth.oidcprovider

namespace singleauth.mcp

open singleauth.oidcprovider

variable {store : Store}

theorem findClient_clientID {clientID : String} {client : Client}
    (hfind : findClient clientID store = some client) : client.clientID = clientID := by
  simpa using List.find?_some hfind

variable {authorized : AuthorizedCode} {options : AuthorizeOptions} {request : AuthorizeRequest}

theorem authorizedCode_authorizes (hauthorized : authorizedCode options request store = .ok authorized) :
    authorized.value.requireConsent = decide (request.param "prompt" = "consent") ∧
      ∃ session client, findClient (request.param "client_id") store = some client ∧
        Authorizes options request session client authorized := by
  unfold authorizedCode at hauthorized
  split at hauthorized
  · cases hauthorized
  · cases hauthorized
  rename_i session hsession
  unfold authorizeInSession at hauthorized
  obtain ⟨⟨client, redirectURI⟩, hclient, scopes, _, hauthorized⟩ := ok_of_bind₂ hauthorized
  obtain ⟨⟨challenge, method⟩, hchallenge, code, _, hauthorized⟩ := ok_of_bind₂ hauthorized
  cases hauthorized
  exact ⟨rfl, session, client, checkClient_ok hclient, hsession, rfl, rfl, hchallenge⟩

theorem authorizedCode_ok (hauthorized : authorizedCode options request store = .ok authorized) :
    authorized.value.userID = request.user ∧ authorized.value.clientID = request.param "client_id" := by
  obtain ⟨_, session, client, hclient, hauthorizes⟩ := authorizedCode_authorizes hauthorized
  exact ⟨hauthorizes.userID_eq, hauthorizes.clientID.trans (findClient_clientID hclient)⟩

theorem checkCode_ok {options : TokenOptions} {request : TokenRequest}
    {verification : Option VerificationRow} {value : AuthorizationCodeValue}
    (hcheck : checkCode options request store verification = .ok value) :
    checkCodeChallenge options value request.codeVerifier = .ok () ∧
      ∃ row, verification = some row ∧ Redeems request row value := by
  unfold checkCode at hcheck
  obtain ⟨row, hrow, _, hclientID, _, _, hcheck⟩ := ok_of_bind₃ hcheck
  obtain ⟨_, _, _, hredirect, _, _, hcheck⟩ := ok_of_bind₃ hcheck
  obtain ⟨_, _, _, _, decoded, hdecoded, hcheck⟩ := ok_of_bind₃ hcheck
  obtain ⟨_, hsameClient, _, hsameRedirect, hcheck⟩ := ok_of_bind₂ hcheck
  obtain ⟨_, _, _, hchallenge, hcheck⟩ := ok_of_bind₂ hcheck
  cases hcheck
  rw [require_eq_ok_iff] at hclientID hredirect hsameClient hsameRedirect
  exact ⟨hchallenge, row, expect_eq_ok_iff.mp hrow, expect_eq_ok_iff.mp hdecoded, hsameClient,
    hsameClient ▸ hclientID, hsameRedirect ▸ hredirect⟩

theorem checkRefresh_ok {request : TokenRequest} {token : AccessToken}
    (hcheck : checkRefresh request store = .ok token) :
    token ∈ store.accessTokens ∧ token.clientID = request.clientID := by
  unfold checkRefresh at hcheck
  obtain ⟨_, _, found, hfound, _, hclient, hcheck⟩ := ok_of_bind₃ hcheck
  obtain ⟨_, _, _, _, _, _, hcheck⟩ := ok_of_bind₃ hcheck
  obtain ⟨_, _, _, _, hcheck⟩ := ok_of_bind₂ hcheck
  cases hcheck
  exact ⟨List.mem_of_find?_eq_some (expect_eq_ok_iff.mp hfound), require_eq_ok_iff.mp hclient⟩

end singleauth.mcp
