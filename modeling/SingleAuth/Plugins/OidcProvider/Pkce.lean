import SingleAuth.Plugins.OidcProvider.Provenance

open dict fallible
open singleauth.core

namespace singleauth.oidcprovider

/-- What is kept of the code challenge of an authorize request. -/
structure Challenged (options : AuthorizeOptions) (request : AuthorizeRequest) (challenge method : String) : Prop where
  challenge_eq : challenge = request.param "code_challenge"
  required : options.requirePKCE = true → challenge ≠ ""
  method : challenge ≠ "" → method = "s256" ∨ options.allowPlainCodeChallengeMethod = true ∧ method = "plain"

variable {request : AuthorizeRequest}

theorem checkChallenge_ok {options : AuthorizeOptions} {redirectURI : String} {challenge method : String}
    (hcheck : checkChallenge options.toLower options.requirePKCE options.allowPlainCodeChallengeMethod redirectURI
      request = .ok (challenge, method)) : Challenged options request challenge method := by
  unfold checkChallenge at hcheck
  obtain ⟨_, hpkce, _, _, hcheck⟩ := ok_of_bind₂ hcheck
  rw [require_eq_ok_iff] at hpkce
  have hrequired : options.requirePKCE = true → request.param "code_challenge" ≠ "" := by
    intro hon
    rcases hpkce with hoff | hgiven
    · rw [hon] at hoff
      cases hoff
    · exact hgiven.1
  split at hcheck
  · rename_i hnone
    cases hcheck
    exact ⟨rfl, hrequired, fun hgiven => absurd hnone hgiven⟩
  · obtain ⟨_, hmethod, hcheck⟩ := bind_eq_ok_iff.mp hcheck
    cases hcheck
    exact ⟨rfl, hrequired, fun _ => require_eq_ok_iff.mp hmethod⟩

/-- The client that a token request names, as the plugin finds it. -/
def Plugin.findClient (settings : Settings) (plugin : Plugin) (clientID : String) (store : Store) : Option Client :=
  match plugin with
  | .oidcProvider => oidcprovider.findClient settings.trustedClients clientID store
  | .mcp => singleauth.mcp.findClient clientID store

/-- The row is that of the code which an authorize request made, or of a code
that a consent made in its place. The tables may be any at each request. -/
inductive CodeOf (settings : Settings) (plugin : Plugin) (request : AuthorizeRequest) : VerificationRow → Prop where
  | authorized {store : Store} {row : VerificationRow}
    (hrow : row ∈ (plugin.authorizeQuery settings request store).2.verifications)
    (hnew : row ∉ store.verifications) : CodeOf settings plugin request row
  | consented {consenter : Plugin} {consent : ConsentRequest} {store : Store} {old row : VerificationRow}
    {redirectURI code : String} {state : Option String} (hold : CodeOf settings plugin request old)
    (hlatest : latestVerification consent.code store.verifications = some old)
    (hanswer : (consenter.consent settings consent store).1 = .ok (.accepted redirectURI code state))
    (hrow : row ∈ (consenter.consent settings consent store).2.verifications)
    (hnew : row ∉ store.verifications) : CodeOf settings plugin request row

/-- The record of a code keeps the challenge of its authorize request. -/
theorem CodeOf.challenged {settings : Settings} {plugin : Plugin} {row : VerificationRow}
    (hcode : CodeOf settings plugin request row) :
    ∃ value, AuthorizationCodeValue.unmarshal row.value = some value ∧
      Challenged (settings.authorize plugin) request value.codeChallenge value.codeChallengeMethod := by
  induction hcode with
  | @authorized store row hrow hnew =>
    rw [Plugin.authorizeQuery_store] at hrow
    cases hauthorized : plugin.authorizedCode settings request store with
    | error answer =>
      rw [hauthorized] at hrow
      exact absurd hrow hnew
    | ok authorized =>
      rw [hauthorized] at hrow
      have hadded := (List.mem_append.mp hrow).resolve_left hnew
      rw [List.mem_singleton.mp hadded]
      obtain ⟨_, _, hauthorizes⟩ := Plugin.authorizedCode_authorizes hauthorized
      exact ⟨authorized.value, AuthorizationCodeValue.unmarshal_marshal _, checkChallenge_ok hauthorizes.challenge⟩
  | @consented consenter consent store old row _ _ _ _ hlatest hanswer hrow hnew ih =>
    obtain ⟨session, latest, added, value, haccepts⟩ := consenter.consent_accepted hanswer
    obtain rfl := Option.some.inj (hlatest.symm.trans haccepts.latest)
    obtain ⟨kept, hkept, hchallenged⟩ := ih
    obtain rfl := Option.some.inj (hkept.symm.trans haccepts.decoded)
    rw [haccepts.rows] at hrow
    have hadded : row = added := by
      rcases List.mem_append.mp hrow with hleft | hadded
      · exact absurd (mem_consumeStoredVerification hleft).1 hnew
      · exact List.mem_singleton.mp hadded
    refine ⟨{ kept with requireConsent := false }, ?_, hchallenged⟩
    rw [hadded, haccepts.added_value]
    exact AuthorizationCodeValue.unmarshal_marshal _

/-- A public client exchanges the code of the row for a token. -/
structure PublicRedemption (settings : Settings) (plugin : Plugin) (request : TokenRequest) (store : Store)
    (row : VerificationRow) (token : AccessToken) : Prop where
  consumed : (consumeStoredVerification request.clock request.code store.verifications).1 = some row
  issued : (plugin.issueForCode settings request store).1 = .ok token
  client : ∃ client, plugin.findClient settings request.clientID store = some client ∧ client.type = "public"

/-- The exchange was bound to the authorize request by its code challenge. -/
structure BoundByPkce (options : AuthorizeOptions) (digest : String → String) (request : AuthorizeRequest)
    (method codeVerifier : String) : Prop where
  challenge : request.param "code_challenge" ≠ ""
  verifier : method = "plain" ∧ codeVerifier = request.param "code_challenge" ∨
    method = "s256" ∧ digest codeVerifier = request.param "code_challenge"
  plain : method = "plain" → options.allowPlainCodeChallengeMethod = true

/-- The public clients of both plugins are bound by PKCE exactly when the
authorize request had a code challenge or was made to have one. -/
theorem boundByPkce_iff {settings : Settings} {plugin redeemer : Plugin} {request : AuthorizeRequest}
    {row : VerificationRow} (hcode : CodeOf settings plugin request row) {exchange : TokenRequest} {store : Store}
    {token : AccessToken} (hredemption : PublicRedemption settings redeemer exchange store row token) :
    (∃ value, AuthorizationCodeValue.unmarshal row.value = some value ∧
        BoundByPkce (settings.authorize plugin) (settings.token redeemer).pkceChallenge request
          value.codeChallengeMethod exchange.codeVerifier) ↔
      (settings.authorize plugin).requirePKCE = true ∨ request.param "code_challenge" ≠ "" := by
  obtain ⟨value, hdecoded, hchallenged⟩ := hcode.challenged
  obtain ⟨presented, checked, hpresented, hchecked, hcheck⟩ := redeemer.issueForCode_presented hredemption.issued
  obtain rfl := Option.some.inj (hredemption.consumed.symm.trans hpresented)
  obtain rfl := Option.some.inj (hdecoded.symm.trans hchecked)
  constructor
  · rintro ⟨_, _, hbound⟩
    exact Or.inr hbound.challenge
  intro hgiven
  have hchallenge : value.codeChallenge ≠ "" := by
    rcases hgiven with hrequired | hgiven
    · exact hchallenged.required hrequired
    · rw [hchallenged.challenge_eq]
      exact hgiven
  rw [checkCodeChallenge, if_neg hchallenge, require_eq_ok_iff, hchallenged.challenge_eq] at hcheck
  refine ⟨value, hdecoded, hchallenged.challenge_eq ▸ hchallenge, ?_, ?_⟩
  · rcases hchallenged.method hchallenge with hmethod | ⟨_, hmethod⟩
    · rw [hmethod, if_neg (by decide)] at hcheck
      exact Or.inr ⟨hmethod, hcheck⟩
    · rw [hmethod, if_pos rfl] at hcheck
      exact Or.inl ⟨hmethod, hcheck⟩
  intro hplain
  rcases hchallenged.method hchallenge with hmethod | ⟨hallowed, _⟩
  · rw [hplain] at hmethod
    exact absurd hmethod (by decide)
  · exact hallowed

/-- An authorize request for a public client, with the parameters of a challenge
or without. -/
def pkceAuthorize (challenge : List (String × String)) : AuthorizeRequest :=
  ⟨0, List.replicate 40 0, .ok (some ⟨"victim", "victim", some 0⟩),
    Dict.ofEntries ([("client_id", "app"), ("response_type", "code"), ("redirect_uri", "https://app.example.com/cb")] ++
      challenge)⟩

/-- The row that it leaves. -/
def pkceRow (challenge method : String) : VerificationRow where
  identifier := sampleCode
  value := AuthorizationCodeValue.marshal
    ⟨"app", "https://app.example.com/cb", some ["openid"], "victim", 0, false, none, challenge, method, ""⟩
  expiresAt := 600 * 1000000000
  createdAt := 0

def pkceExchange (codeVerifier : String) : TokenRequest :=
  ⟨0, List.replicate 80 0, "authorization_code", "app", "", sampleCode, "https://app.example.com/cb", codeVerifier, ""⟩

def pkceStore (row : VerificationRow) : Store := { sampleStart.store with verifications := [row] }

/-- A client that gave a challenge and presents its verifier. -/
theorem boundByPkce_iff_plain :
    PublicRedemption sampleSettings .mcp (pkceExchange "verifier") (pkceStore (pkceRow "verifier" "plain"))
        (pkceRow "verifier" "plain") sampleToken ∧
      ((∃ value, AuthorizationCodeValue.unmarshal (pkceRow "verifier" "plain").value = some value ∧
          BoundByPkce (sampleSettings.authorize .oidcProvider) (sampleSettings.token .mcp).pkceChallenge
            (pkceAuthorize [("code_challenge", "verifier"), ("code_challenge_method", "plain")])
            value.codeChallengeMethod "verifier") ↔
        (sampleSettings.authorize .oidcProvider).requirePKCE = true ∨
          (pkceAuthorize [("code_challenge", "verifier"), ("code_challenge_method", "plain")]).param
            "code_challenge" ≠ "") := by
  have hcode : CodeOf sampleSettings .oidcProvider
      (pkceAuthorize [("code_challenge", "verifier"), ("code_challenge_method", "plain")])
      (pkceRow "verifier" "plain") := by
    have hrows : (Plugin.oidcProvider.authorizeQuery sampleSettings (pkceAuthorize [("code_challenge", "verifier"),
        ("code_challenge_method", "plain")]) sampleStart.store).2.verifications = [pkceRow "verifier" "plain"] := rfl
    exact .authorized (hrows ▸ List.mem_singleton_self _) List.not_mem_nil
  have hredemption : PublicRedemption sampleSettings .mcp (pkceExchange "verifier")
      (pkceStore (pkceRow "verifier" "plain")) (pkceRow "verifier" "plain") sampleToken :=
    ⟨rfl, by decide, _, rfl, rfl⟩
  exact ⟨hredemption, boundByPkce_iff hcode hredemption⟩

/-- With either plugin a public client that gave no challenge exchanges its code
with any verifier. -/
theorem public_client_without_challenge (plugin : Plugin) :
    CodeOf sampleSettings plugin (pkceAuthorize []) (pkceRow "" "") ∧
      PublicRedemption sampleSettings plugin (pkceExchange "anything") (pkceStore (pkceRow "" "")) (pkceRow "" "")
        sampleToken := by
  have hrows : (plugin.authorizeQuery sampleSettings (pkceAuthorize []) sampleStart.store).2.verifications =
      [pkceRow "" ""] := by cases plugin <;> rfl
  refine ⟨.authorized (hrows ▸ List.mem_singleton_self _) List.not_mem_nil, rfl, ?_, ?_⟩
  · cases plugin <;> decide
  · cases plugin <;> exact ⟨_, rfl, rfl⟩

theorem public_client_not_bound :
    ¬ ∀ (plugin redeemer : Plugin) (request : AuthorizeRequest) (row : VerificationRow) (exchange : TokenRequest)
      (store : Store) (token : AccessToken), CodeOf sampleSettings plugin request row →
      PublicRedemption sampleSettings redeemer exchange store row token →
      ∃ value, AuthorizationCodeValue.unmarshal row.value = some value ∧
        BoundByPkce (sampleSettings.authorize plugin) (sampleSettings.token redeemer).pkceChallenge request
          value.codeChallengeMethod exchange.codeVerifier := by
  intro hall
  obtain ⟨hcode, hredemption⟩ := public_client_without_challenge .oidcProvider
  obtain ⟨_, _, hbound⟩ := hall _ _ _ _ _ _ _ hcode hredemption
  exact hbound.challenge rfl

end singleauth.oidcprovider
