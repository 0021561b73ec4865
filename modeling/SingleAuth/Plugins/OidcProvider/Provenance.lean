import SingleAuth.Core.OAuthState.Store
import SingleAuth.Lib.Transition
import SingleAuth.Plugins.OidcProvider.Spec

open dict json transition
open singleauth.core

namespace singleauth.oidcprovider

/-- The two plugins whose endpoints share the tables. -/
inductive Plugin where
  | oidcProvider
  | mcp
deriving DecidableEq, Repr

structure Settings where
  authorize : Plugin → AuthorizeOptions
  token : Plugin → TokenOptions

/-- The trusted clients of the configuration; only one of the plugins has them. -/
def Settings.trustedClients (settings : Settings) : List Client := (settings.authorize .oidcProvider).trustedClients

namespace Plugin

def authorizedCode (settings : Settings) (plugin : Plugin) (request : AuthorizeRequest) (store : Store) :
    Except AuthorizeAnswer AuthorizedCode :=
  match plugin with
  | .oidcProvider => oidcprovider.authorizedCode (settings.authorize plugin) request store
  | .mcp => singleauth.mcp.authorizedCode (settings.authorize plugin) request store

def authorizeQuery (settings : Settings) (plugin : Plugin) (request : AuthorizeRequest) (store : Store) :
    AuthorizeAnswer × Store :=
  match plugin with
  | .oidcProvider => oidcprovider.authorizeQuery (settings.authorize plugin) request store
  | .mcp => singleauth.mcp.authorizeQuery (settings.authorize plugin) request store

def consent (settings : Settings) (plugin : Plugin) (request : ConsentRequest) (store : Store) :
    Except Failure ConsentAnswer × Store :=
  match plugin with
  | .oidcProvider => oidcprovider.consent (settings.authorize plugin).codeExpiresIn request store
  | .mcp => singleauth.mcp.oauthConsent (settings.authorize plugin).codeExpiresIn request store

def issueForCode (settings : Settings) (plugin : Plugin) (request : TokenRequest) (store : Store) :
    Except Failure AccessToken × Store :=
  match plugin with
  | .oidcProvider => oidcprovider.issueForCode (settings.token plugin) settings.trustedClients request store
  | .mcp => singleauth.mcp.issueForCode (settings.token plugin) request store

def authorizationCodeGrant (settings : Settings) (plugin : Plugin) (request : TokenRequest) (store : Store) :
    Except Failure AccessToken × Store :=
  match plugin with
  | .oidcProvider =>
    oidcprovider.authorizationCodeGrant (settings.token plugin) settings.trustedClients request store
  | .mcp => singleauth.mcp.authorizationCodeGrant (settings.token plugin) request store

def refreshGrant (settings : Settings) (plugin : Plugin) (request : TokenRequest) (store : Store) :
    Except Failure (AccessToken × AccessToken) × Store :=
  match plugin with
  | .oidcProvider => oidcprovider.refreshGrant (settings.token plugin) settings.trustedClients request store
  | .mcp => singleauth.mcp.refreshGrant (settings.token plugin) request store

variable (settings : Settings) (plugin : Plugin)

/-- A token row is issued or not before the endpoint knows what it answers. -/
theorem authorizationCodeGrant_store (request : TokenRequest) (store : Store) :
    (plugin.authorizationCodeGrant settings request store).2 = (plugin.issueForCode settings request store).2 := by
  cases plugin <;> rfl

/-- The code that an authorize request leads to is kept with its value. -/
theorem authorizeQuery_store (request : AuthorizeRequest) (store : Store) :
    (plugin.authorizeQuery settings request store).2 =
      match plugin.authorizedCode settings request store with
      | .error _ => store
      | .ok authorized => keepCode request.clock (settings.authorize plugin).codeExpiresIn authorized store := by
  cases plugin with
  | oidcProvider =>
    simp only [authorizeQuery, authorizedCode, oidcprovider.authorizeQuery]
    cases oidcprovider.authorizedCode (settings.authorize .oidcProvider) request store <;> rfl
  | mcp =>
    simp only [authorizeQuery, authorizedCode, singleauth.mcp.authorizeQuery]
    cases singleauth.mcp.authorizedCode (settings.authorize .mcp) request store <;> rfl

variable {settings plugin} {store : Store} {authorized : AuthorizedCode} {request : AuthorizeRequest}

section

variable (hauthorized : plugin.authorizedCode settings request store = .ok authorized)
include hauthorized

theorem authorizedCode_ok :
    authorized.value.userID = request.user ∧ authorized.value.clientID = request.param "client_id" := by
  cases plugin with
  | oidcProvider => exact oidcprovider.authorizedCode_ok hauthorized
  | mcp => exact singleauth.mcp.authorizedCode_ok hauthorized

theorem authorizedCode_authorizes :
    ∃ session client, Authorizes (settings.authorize plugin) request session client authorized := by
  cases plugin with
  | oidcProvider =>
    obtain ⟨session, client, _, hauthorizes⟩ := oidcprovider.authorizedCode_authorizes hauthorized
    exact ⟨session, client, hauthorizes⟩
  | mcp =>
    obtain ⟨_, session, client, _, hauthorizes⟩ := singleauth.mcp.authorizedCode_authorizes hauthorized
    exact ⟨session, client, hauthorizes⟩

end

/-- Both consent endpoints are one, up to what they answer. -/
theorem consent_consents (settings : Settings) (plugin : Plugin) (request : ConsentRequest) (store : Store) :
    Consents request store (plugin.consent settings request store) := by
  cases plugin <;> exact consentWith_consents _ _ request store

theorem consent_accepted {request : ConsentRequest} {redirectURI code : String} {state : Option String}
    (hanswer : (plugin.consent settings request store).1 = .ok (.accepted redirectURI code state)) :
    ∃ session row added value,
      Accepts request store (plugin.consent settings request store).2 code session row added value := by
  have hrows := (plugin.consent_consents settings request store).rows
  rwa [hanswer] at hrows

theorem issueForCode_exchanges (settings : Settings) (plugin : Plugin) (request : TokenRequest) (store : Store) :
    Exchanges (settings.token plugin) request store (plugin.issueForCode settings request store) := by
  cases plugin with
  | oidcProvider => exact issueWith_exchanges store oidcprovider.checkCode_ok
  | mcp => exact issueWith_exchanges store singleauth.mcp.checkCode_ok

/-- The record of a code that was exchanged. Its challenge was met. -/
theorem issueForCode_presented {request : TokenRequest}
    {token : AccessToken} (hissued : (plugin.issueForCode settings request store).1 = .ok token) :
    ∃ row value, (consumeStoredVerification request.clock request.code store.verifications).1 = some row ∧
      AuthorizationCodeValue.unmarshal row.value = some value ∧
      checkCodeChallenge (settings.token plugin) value request.codeVerifier = .ok () := by
  have htokens := (plugin.issueForCode_exchanges settings request store).tokens
  rw [hissued] at htokens
  obtain ⟨-, row, value, hissued, hrow, hchallenge⟩ := htokens
  exact ⟨row, value, hrow, hissued.redeems.decoded, hchallenge⟩

theorem refreshGrant_refreshes (settings : Settings) (plugin : Plugin) (request : TokenRequest) (store : Store) :
    Refreshes store (plugin.refreshGrant settings request store) := by
  cases plugin with
  | oidcProvider => exact refreshWith_refreshes store oidcprovider.checkRefresh_ok
  | mcp => exact refreshWith_refreshes store singleauth.mcp.checkRefresh_ok

end Plugin

inductive Request where
  | social (env : StateEnvironment) (body : Object) (link : Option OAuthLinkState)
  | callback (clock : Int) (skipStateCookieCheck : Bool) (cookie : Option String) (state : String)
  | registerClient (client : Client)
  | authorize (plugin : Plugin) (request : AuthorizeRequest)
  | consent (plugin : Plugin) (request : ConsentRequest)
  | token (plugin : Plugin) (request : TokenRequest)

inductive Event where
  | authorized (code user client : String)
  | consented (old new : String)
  | granted (code : String) (token : AccessToken)
  | refreshed (old new : AccessToken)
deriving DecidableEq, Repr

/-- The code goes back, possibly through consents, to an authorize request for
the client in a session of the user. -/
inductive CodeFrom (log : List Event) : String → String → String → Prop where
  | authorized {code user client : String} (hevent : .authorized code user client ∈ log) :
    CodeFrom log code user client
  | consented {old new user client : String} (hold : CodeFrom log old user client)
    (hevent : .consented old new ∈ log) : CodeFrom log new user client

/-- The token goes back, possibly through refreshes, to such a code. -/
inductive TokenFrom (log : List Event) : AccessToken → String → String → Prop where
  | granted {code user client : String} {token : AccessToken} (hcode : CodeFrom log code user client)
    (hevent : .granted code token ∈ log) : TokenFrom log token user client
  | refreshed {user client : String} {old new : AccessToken} (hold : TokenFrom log old user client)
    (hevent : .refreshed old new ∈ log) : TokenFrom log new user client

variable {client user : String} {log : List Event} {history : History} {settings : Settings}
  {code : String} {longer : List Event} {token : AccessToken} {request : Request}

theorem CodeFrom.mono (hcode : CodeFrom log code user client)
    (hlonger : ∀ event ∈ log, event ∈ longer) : CodeFrom longer code user client := by
  induction hcode with
  | authorized hevent => exact .authorized (hlonger _ hevent)
  | consented _ hevent ih => exact .consented ih (hlonger _ hevent)

theorem TokenFrom.mono (htoken : TokenFrom log token user client) (hlonger : ∀ event ∈ log, event ∈ longer) :
    TokenFrom longer token user client := by
  induction htoken with
  | granted hcode hevent => exact .granted (hcode.mono hlonger) (hlonger _ hevent)
  | refreshed _ hevent ih => exact .refreshed ih (hlonger _ hevent)

/-- Behind every code and every token stands an authorize request of its user
for its client. -/
theorem CodeFrom.authorized_mem
    (hcode : CodeFrom log code user client) : ∃ first, .authorized first user client ∈ log := by
  induction hcode with
  | authorized hevent => exact ⟨_, hevent⟩
  | consented _ _ ih => exact ih

theorem TokenFrom.authorized_mem
    (htoken : TokenFrom log token user client) : ∃ first, .authorized first user client ∈ log := by
  induction htoken with
  | granted hcode _ => exact hcode.authorized_mem
  | refreshed _ _ ih => exact ih

/-- What a request does to the tables, and what is recorded of it. -/
def effect (settings : Settings) (store : Store) : Request → Store × List Event
  | .social env body link =>
    let rows := (startOAuth env body link store.verifications).2
    ({ store with verifications := rows }, [])
  | .callback clock skip cookie state =>
    let rows := (parseOAuthState clock skip cookie state store.verifications).2
    ({ store with verifications := rows }, [])
  | .registerClient client => ({ store with applications := store.applications ++ [client] }, [])
  | .authorize plugin request =>
    ((plugin.authorizeQuery settings request store).2,
      match plugin.authorizedCode settings request store with
      | .error _ => []
      | .ok authorized => [.authorized authorized.code request.user (request.param "client_id")])
  | .consent plugin request =>
    ((plugin.consent settings request store).2,
      match (plugin.consent settings request store).1 with
      | .ok (.accepted _ code _) => [.consented request.code code]
      | _ => [])
  | .token plugin request =>
    if request.grantType = "refresh_token" then
      ((plugin.refreshGrant settings request store).2,
        match (plugin.refreshGrant settings request store).1 with
        | .error _ => []
        | .ok (old, token) => [.refreshed old token])
    else
      ((plugin.authorizationCodeGrant settings request store).2,
        match (plugin.issueForCode settings request store).1 with
        | .error _ => []
        | .ok token => [.granted request.code token])

/-- The random string a request draws as an identifier of the verification table. -/
def draws (settings : Settings) (store : Store) : Request → Option String
  | .social env body link => (generateOAuthState env body link).toOption.map Prod.snd
  | .authorize plugin request => (plugin.authorizedCode settings request store).toOption.map AuthorizedCode.code
  | .consent plugin request =>
    match (plugin.consent settings request store).1 with
    | .ok (.accepted _ code _) => some code
    | _ => none
  | _ => none

/-- The server, with a record of what happened so far and of the codes and
states that were drawn. -/
structure History where
  store : Store
  log : List Event
  drawn : List String

def handle (settings : Settings) (history : History) (request : Request) : History where
  store := (effect settings history.store request).1
  log := history.log ++ (effect settings history.store request).2
  drawn := history.drawn ++ (draws settings history.store request).toList

/-- Random codes and states are pairwise distinct. -/
def Fresh (settings : Settings) (history : History) (request : Request) : Prop :=
  ∀ text, draws settings history.store request = some text → text ∉ history.drawn

/-- The additional data of a request to start an OAuth round trip is not the
value of a code with a client and an address to redirect to. -/
def CarriesNoCode : Request → Prop
  | .social _ body _ =>
    ∀ value, AuthorizationCodeValue.unmarshal (.obj (additionalData body).entries) = some value →
      value.clientID = "" ∨ value.redirectURI = ""
  | _ => True

/-- A server before any request. Its clients and users are arbitrary. -/
structure Initial (history : History) : Prop where
  rows : history.store.verifications = []
  tokens : history.store.accessTokens = []
  log : history.log = []
  drawn : history.drawn = []

/-- Every token goes back to an authorize request for its client in a session of
its user. -/
def TokensAuthorized (history : History) : Prop :=
  ∀ token ∈ history.store.accessTokens, TokenFrom history.log token token.userID token.clientID

/-- A row that a token endpoint could redeem goes back to an authorize request. -/
def RowAuthorized (log : List Event) (row : VerificationRow) : Prop :=
  ∀ value, AuthorizationCodeValue.unmarshal row.value = some value → value.clientID ≠ "" → value.redirectURI ≠ "" →
    CodeFrom log row.identifier value.userID value.clientID

structure Invariant (history : History) : Prop where
  rows : ∀ row ∈ history.store.verifications, RowAuthorized history.log row
  tokens : TokensAuthorized history

theorem Initial.invariant (hinitial : Initial history) : Invariant history where
  rows := by simp [hinitial.rows]
  tokens := by simp [TokensAuthorized, hinitial.tokens]

section

variable (hinvariant : Invariant history)
include hinvariant

/-- A request keeps the invariant when whatever it adds is accounted for in the
record that it leaves. -/
theorem Invariant.of_effect
    (hrows : ∀ row ∈ (effect settings history.store request).1.verifications, row ∈ history.store.verifications ∨
      RowAuthorized (history.log ++ (effect settings history.store request).2) row)
    (htokens : ∀ token ∈ (effect settings history.store request).1.accessTokens,
      token ∈ history.store.accessTokens ∨
        TokenFrom (history.log ++ (effect settings history.store request).2) token token.userID token.clientID) :
    Invariant (handle settings history request) where
  rows row hrow := by
    rcases hrows row hrow with hold | hnew
    · intro value hvalue hclient hredirect
      exact (hinvariant.rows row hold value hvalue hclient hredirect).mono (fun _ => List.mem_append_left _)
    · exact hnew
  tokens token htoken := by
    rcases htokens token htoken with hold | hnew
    · exact (hinvariant.tokens token hold).mono (fun _ => List.mem_append_left _)
    · exact hnew

theorem Invariant.social {env : StateEnvironment} {body : Object} {link : Option OAuthLinkState}
    (hplain : CarriesNoCode (.social env body link)) :
    Invariant (handle settings history (.social env body link)) := by
  refine hinvariant.of_effect ?_ (fun token htoken => Or.inl htoken)
  intro row hrow
  dsimp only [effect, startOAuth] at hrow ⊢
  cases hgenerate : generateOAuthState env body link with
  | error failure =>
    rw [hgenerate] at hrow
    exact Or.inl hrow
  | ok generated =>
    rw [hgenerate] at hrow
    rcases table.mem_concat.mp hrow with hold | rfl
    · exact Or.inl hold
    right
    intro value hvalue hclient hredirect
    rw [unmarshal_marshalOAuthState, (generateOAuthState_spec hgenerate).raw_eq] at hvalue
    rcases hplain value hvalue with hempty | hempty
    · exact absurd hempty hclient
    · exact absurd hempty hredirect

theorem Invariant.authorize (plugin : Plugin) (request : AuthorizeRequest) :
    Invariant (handle settings history (.authorize plugin request)) := by
  cases hauthorized : plugin.authorizedCode settings request history.store with
  | error answer =>
    refine hinvariant.of_effect ?_ ?_ <;> simp only [effect, Plugin.authorizeQuery_store, hauthorized]
    · exact fun row hrow => Or.inl hrow
    · exact fun token htoken => Or.inl htoken
  | ok authorized =>
    obtain ⟨huser, hclient⟩ := Plugin.authorizedCode_ok hauthorized
    refine hinvariant.of_effect ?_ ?_ <;> simp only [effect, Plugin.authorizeQuery_store, hauthorized]
    · intro row hrow
      rcases table.mem_concat.mp hrow with hold | rfl
      · exact Or.inl hold
      right
      intro value hvalue _ _
      rw [AuthorizationCodeValue.unmarshal_marshal] at hvalue
      cases hvalue
      rw [huser, hclient]
      exact .authorized List.mem_concat_self
    · exact fun token htoken => Or.inl htoken

theorem Invariant.consent (plugin : Plugin) (request : ConsentRequest) :
    Invariant (handle settings history (.consent plugin request)) := by
  obtain ⟨htokens, hrows⟩ := plugin.consent_consents settings request history.store
  refine hinvariant.of_effect ?_ (fun token htoken => Or.inl (htokens ▸ htoken))
  split at hrows
  · rename_i _ code _ hanswer
    simp only [effect, hanswer]
    obtain ⟨session, row, added, value, haccepts⟩ := hrows
    obtain ⟨hmem, hidentifier⟩ := latestVerification_some haccepts.latest
    intro other hother
    rw [haccepts.rows] at hother
    rcases table.mem_concat.mp hother with hold | rfl
    · exact Or.inl (mem_consumeStoredVerification hold).1
    right
    intro decoded hdecodes hclient hredirect
    rw [haccepts.added_value, AuthorizationCodeValue.unmarshal_marshal] at hdecodes
    cases hdecodes
    rw [haccepts.identifier]
    -- the new code stands for what the old one stood for
    have hold := hinvariant.rows row hmem value haccepts.decoded hclient hredirect
    rw [hidentifier] at hold
    exact .consented (hold.mono (fun _ => List.mem_append_left _))
      List.mem_concat_self
  · exact fun row hrow => Or.inl (hrows row hrow)

theorem Invariant.issue (plugin : Plugin) {request : TokenRequest} (hgrant : request.grantType ≠ "refresh_token") :
    Invariant (handle settings history (.token plugin request)) := by
  obtain ⟨hrows, htokens⟩ := plugin.issueForCode_exchanges settings request history.store
  split at htokens <;> refine hinvariant.of_effect ?_ ?_ <;>
    simp only [effect, hgrant, if_false, Plugin.authorizationCodeGrant_store]
  · exact fun row hrow => Or.inl (hrows row hrow)
  · exact fun token htoken => Or.inl (htokens ▸ htoken)
  · exact fun row hrow => Or.inl (hrows row hrow)
  rename_i issued hissued
  rw [hissued]
  obtain ⟨hadded, row, value, ⟨hmem, hidentifier, hredeems, huser, hclient⟩, -⟩ := htokens
  intro token htoken
  rw [hadded] at htoken
  rcases table.mem_concat.mp htoken with hold | rfl
  · exact Or.inl hold
  right
  rw [huser, hclient]
  have hcode := hinvariant.rows row hmem value hredeems.decoded hredeems.clientID_ne hredeems.redirectURI_ne
  rw [hidentifier] at hcode
  exact .granted (hcode.mono (fun _ => List.mem_append_left _))
    List.mem_concat_self

theorem Invariant.refresh (plugin : Plugin) {request : TokenRequest} (hgrant : request.grantType = "refresh_token") :
    Invariant (handle settings history (.token plugin request)) := by
  rcases plugin.refreshGrant_refreshes settings request history.store with
    ⟨failure, hrefresh⟩ | ⟨old, new, hrefresh, hold, huser, hclient⟩
  all_goals
    refine hinvariant.of_effect ?_ ?_ <;> simp only [effect, hgrant, if_true, hrefresh]
    · exact fun row hrow => Or.inl hrow
  · exact fun token htoken => Or.inl htoken
  intro token htoken
  rcases table.mem_concat.mp htoken with hbefore | rfl
  · exact Or.inl hbefore
  right
  rw [huser, hclient]
  exact .refreshed ((hinvariant.tokens old hold).mono (fun _ => List.mem_append_left _)) List.mem_concat_self

theorem Invariant.step (hplain : CarriesNoCode request) : Invariant (handle settings history request) := by
  cases request with
  | social env body link => exact hinvariant.social hplain
  | callback clock skip cookie state =>
    exact hinvariant.of_effect (fun row hrow => Or.inl (mem_parseOAuthState hrow)) (fun token htoken => Or.inl htoken)
  | registerClient client =>
    exact hinvariant.of_effect (fun row hrow => Or.inl hrow) (fun token htoken => Or.inl htoken)
  | authorize plugin request => exact hinvariant.authorize plugin request
  | consent plugin request => exact hinvariant.consent plugin request
  | token plugin request =>
    by_cases hgrant : request.grantType = "refresh_token"
    · exact hinvariant.refresh plugin hgrant
    · exact hinvariant.issue plugin hgrant

end

/-- In every history whose OAuth requests do not carry a code's value as
additional data, every token of both plugins was authorized by its user for
its client. -/
theorem tokens_authorized (settings : Settings) {start history : History} (hinitial : Initial start)
    (hreached : Reached (handle settings) (fun _ request => CarriesNoCode request) start history) :
    TokensAuthorized history := by
  have hinvariant : Invariant history :=
    hreached.invariant Invariant hinitial.invariant (fun _ _ hbefore hallowed => hbefore.step hallowed)
  exact hinvariant.tokens

def sampleSettings : Settings where
  authorize _ :=
    { trustedClients := []
      scopes := ["openid"]
      defaultScope := "openid"
      requirePKCE := false
      allowPlainCodeChallengeMethod := true
      codeExpiresIn := 600 * 1000000000
      consentPage := ""
      toLower := id }
  token _ :=
    { accessTokenExpiresIn := 3600 * 1000000000
      refreshTokenExpiresIn := 604800 * 1000000000
      requirePKCE := false
      pkceChallenge := id
      verifyClientSecret := fun kept given => .ok (kept = given)
      idToken := fun _ => .ok "" }

def sampleStart : History where
  store := ⟨[], [⟨"app", "", "public", false, ["https://app.example.com/cb"], true⟩], [], [], ["victim"]⟩
  log := []
  drawn := []

theorem sampleStart_initial : Initial sampleStart := ⟨rfl, rfl, rfl, rfl⟩

/-- The code and the state that a random source of zero bytes yields. -/
def sampleCode : String := String.ofList (List.replicate 32 'a')

/-- The token row of the user that the client gets for this code. -/
def sampleToken : AccessToken :=
  ⟨String.ofList (List.replicate 32 'a'), String.ofList (List.replicate 32 'A'), 3600 * 1000000000,
    604800 * 1000000000, "app", "victim", "openid", 0⟩

def sampleAuthorize : Request :=
  .authorize .oidcProvider ⟨0, List.replicate 40 0, .ok (some ⟨"victim", "victim", some 0⟩),
    Dict.ofEntries [("client_id", "app"), ("response_type", "code"), ("redirect_uri", "https://app.example.com/cb")]⟩

def sampleExchange : Request :=
  .token .oidcProvider ⟨0, List.replicate 80 0, "authorization_code", "app", "", sampleCode,
    "https://app.example.com/cb", "verifier", ""⟩

/-- A client that was authorized by the user gets a token of theirs. -/
theorem tokens_authorized_exchange :
    (handle sampleSettings (handle sampleSettings sampleStart sampleAuthorize) sampleExchange).store.accessTokens =
        [sampleToken] ∧
      TokensAuthorized (handle sampleSettings (handle sampleSettings sampleStart sampleAuthorize) sampleExchange) := by
  refine ⟨by decide, ?_⟩
  exact tokens_authorized sampleSettings sampleStart_initial (.next (.next .start trivial) trivial)

/-- A social sign-in whose additional data is the value of a code. -/
def codeInjection : Request :=
  .social ⟨"https://auth.example.com", 0, some (List.replicate 400 0)⟩
    (Dict.ofEntries [("provider", .str "github"),
      ("additionalData", .obj [("clientId", .str "app"), ("redirectURI", .str "https://app.example.com/cb"),
        ("scope", .arr [.str "openid"]), ("userId", .str "victim")])]) none

/-- The state string of a social sign-in whose additional data is a code's value
is exchanged for a token of a user who never authorized anything. -/
theorem issueForCode_accepts_oauth_state :
    ¬ ∀ history, Reached (handle sampleSettings) (Fresh sampleSettings) sampleStart history →
      TokensAuthorized history := by
  intro hall
  have hreached : Reached (handle sampleSettings) (Fresh sampleSettings) sampleStart
      (handle sampleSettings (handle sampleSettings sampleStart codeInjection) sampleExchange) := by
    refine Reached.next (Reached.next Reached.start ?_) ?_
    · intro text _
      simp [sampleStart]
    · intro text hdraws
      cases hdraws
  have htokens : (handle sampleSettings (handle sampleSettings sampleStart codeInjection)
      sampleExchange).store.accessTokens = [sampleToken] := by set_option maxRecDepth 20000 in decide
  have hlog : (handle sampleSettings (handle sampleSettings sampleStart codeInjection) sampleExchange).log =
      [.granted sampleCode sampleToken] := by set_option maxRecDepth 20000 in decide
  have hfrom := hall _ hreached sampleToken (by rw [htokens]; exact List.mem_singleton_self _)
  obtain ⟨code, hevent⟩ := hfrom.authorized_mem
  rw [hlog] at hevent
  cases List.mem_singleton.mp hevent

end singleauth.oidcprovider
