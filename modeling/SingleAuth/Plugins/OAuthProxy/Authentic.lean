import SingleAuth.Lib.Transition
import SingleAuth.Plugins.OAuthProxy.Endpoint
import SingleAuth.Plugins.OAuthProxy.Payload

open dict json transition fallible
open singleauth.core

namespace singleauth.oauthproxy

/-- The requests of a history. A callback that the plugin passes on is handled
by the core. -/
inductive Request where
  | signIn (request : SignInRequest)
  | callback (request : CallbackRequest)
  | coreCallback (clock : Int) (skipStateCookieCheck : Bool) (cookie : Option String) (state : String)
  | proxyCallback (request : ProxyCallbackRequest)

/-- The server with a record of what the providers answered and who was signed in. -/
structure History where
  server : Server
  log : List Event

/-- Everybody was signed in with what a provider had answered about them. -/
def ProfilesAuthentic (log : List Event) : Prop :=
  ∀ providerID id email emailVerified, .signedIn providerID id email emailVerified ∈ log →
    .fetched providerID id (some email) emailVerified ∈ log

/-- A server before any request: nothing is stored and nothing encrypted. -/
structure Initial (history : History) : Prop where
  rows : history.server.verifications = []
  encrypted : history.server.encrypted = []
  log : history.log = []

section

variable {F : Type} (host : Host F) (strategy : StateStrategy) (maxAge : Int)

def effect (server : Server) : Request → Server × List Event
  | .signIn request => ((signIn host strategy request server).2, [])
  | .callback request => (beforeCallback host request server).2
  | .coreCallback clock skip cookie state =>
    let rows := (parseOAuthState clock skip cookie state server.verifications).2
    ({ server with verifications := rows }, [])
  | .proxyCallback request => (proxyCallback host strategy maxAge request server).2

def handle (history : History) (request : Request) : History where
  server := (effect host strategy maxAge history.server request).1
  log := history.log ++ (effect host strategy maxAge history.server request).2

/-- The additional data of a request to start an OAuth round trip does not name
a profile. -/
def CarriesNoProfile : Request → Prop
  | .signIn request => ¬ NamesProfile host (additionalData request.body)
  | _ => True

/-- The profile that a document decodes to, if it does, is what a provider answered. -/
def Vouched (log : List Event) (document : Value) : Prop :=
  ∀ payload, decodePassthroughPayload host document = some payload →
    .fetched payload.account.providerID payload.userInfo.id (some payload.userInfo.email)
      payload.userInfo.emailVerified ∈ log

/-- No row decodes as a profile, and a ciphertext only as one that is vouched for. -/
structure Server.Sound (log : List Event) (server : Server) : Prop where
  rows : ∀ row ∈ server.verifications, decodePassthroughPayload host row.value = none
  encrypted : ∀ entry ∈ server.encrypted, Vouched host log entry.2

structure Invariant (history : History) : Prop where
  sound : history.server.Sound host history.log
  authentic : ProfilesAuthentic history.log

end

section

variable {F : Type} {host : Host F} {history : History} {request : SignInRequest}

theorem Initial.invariant (hinitial : Initial history) : Invariant host history where
  sound := ⟨by simp [hinitial.rows], by simp [hinitial.encrypted]⟩
  authentic := by simp [ProfilesAuthentic, hinitial.log]

theorem vouched_of_undecodable {document : Value} (hnone : decodePassthroughPayload host document = none)
    (log : List Event) : Vouched host log document := by
  intro payload hpayload
  rw [hnone] at hpayload
  cases hpayload

namespace Server

variable {log : List Event} {server : Server}

theorem Sound.mono (hsound : server.Sound host log) (events : List Event) : server.Sound host (log ++ events) where
  rows := hsound.rows
  encrypted entry hentry payload hpayload :=
    List.mem_append_left _ (hsound.encrypted entry hentry payload hpayload)

theorem Sound.of_rows (hsound : server.Sound host log) {rows : List VerificationRow}
    (hrows : ∀ row ∈ rows, decodePassthroughPayload host row.value = none) :
    Sound host log { server with verifications := rows } :=
  ⟨hrows, hsound.encrypted⟩

variable {plaintext : Value}

theorem Sound.encrypt (hsound : server.Sound host log) (hvouched : Vouched host log plaintext)
    (text : String) : (server.encrypt text plaintext).Sound host log where
  rows := hsound.rows
  encrypted entry hentry := by
    rcases table.mem_concat.mp hentry with hold | rfl
    · exact hsound.encrypted entry hold
    · exact hvouched

theorem Sound.decrypt (hsound : server.Sound host log) {text : String}
    (hdecrypt : server.decrypt text = some plaintext) : Vouched host log plaintext := by
  obtain ⟨before, behind, hsplit, _⟩ := List.lookup_eq_some_iff.mp hdecrypt
  exact hsound.encrypted (text, plaintext) (by rw [hsplit]; simp)

end Server

/-- The rewriting of the callback URL leaves the additional data alone. -/
theorem beforeSignIn_additionalData {body : Object}
    (hbefore : beforeSignIn host request = .ok body) : additionalData body = additionalData request.body := by
  unfold beforeSignIn at hbefore
  split at hbefore
  · cases hbefore
    rfl
  obtain ⟨currentURL, _, hbefore⟩ := bind_eq_ok_iff.mp hbefore
  obtain ⟨original, _, hbefore⟩ := bind_eq_ok_iff.mp hbefore
  cases hbefore
  rw [additionalData, additionalData, Dict.get?_set_of_ne _ _ (by decide)]

variable {log : List Event} {server : Server}

section

variable (hsound : server.Sound host log) (strategy : StateStrategy)
include hsound

theorem statePlaintextFromSignIn_sound (request : SignInRequest) (state : String) :
    (statePlaintextFromSignIn strategy request state server).2.Sound host log ∧
      ∀ plaintext, (statePlaintextFromSignIn strategy request state server).1 = some plaintext →
        Vouched host log plaintext := by
  cases strategy with
  | cookie =>
    refine ⟨hsound, fun plaintext hplaintext => ?_⟩
    obtain ⟨text, _, hdecrypt⟩ := Option.bind_eq_some_iff.mp hplaintext
    exact hsound.decrypt hdecrypt
  | database =>
    refine ⟨hsound.of_rows (fun row hrow => hsound.rows row (List.mem_filter.mp hrow).1), ?_⟩
    intro plaintext hplaintext
    obtain ⟨row, hlatest, rfl⟩ := Option.map_eq_some_iff.mp hplaintext
    exact vouched_of_undecodable (hsound.rows row (latestVerification_some hlatest).1) log

theorem afterSignIn_sound (request : SignInRequest) (state : String) :
    (afterSignIn strategy request state server).Sound host log := by
  obtain ⟨hafter, hvouched⟩ := statePlaintextFromSignIn_sound hsound strategy request state
  unfold afterSignIn
  split
  · exact hsound
  dsimp only
  split
  · rename_i value inner hvalue _
    have hinner := hafter.encrypt (hvouched value hvalue) inner
    split
    · exact hinner.encrypt (vouched_of_undecodable (decodePassthroughPayload_package host _) log) _
    · exact hinner
  · exact hafter

/-- Starting a round trip leaves nothing that decodes as a profile, when the
additional data names none. -/
theorem signIn_sound (hplain : ¬ NamesProfile host (additionalData request.body)) :
    (signIn host strategy request server).2.Sound host log := by
  unfold signIn
  cases hbefore : beforeSignIn host request with
  | error failure => exact hsound
  | ok body =>
    dsimp only
    cases hgenerate : generateOAuthState request.env body request.link with
    | error failure => exact hsound
    | ok generated =>
      obtain ⟨data, state⟩ := generated
      have hraw : data.raw = additionalData request.body := by
        rw [(generateOAuthState_spec hgenerate).raw_eq, beforeSignIn_additionalData hbefore]
      have hnone : decodePassthroughPayload host (.obj (marshalOAuthState data).entries) = none := by
        rw [Option.eq_none_iff_forall_ne_some]
        intro payload hpayload
        exact hplain (hraw ▸ namesProfile_of_decode host hpayload)
      dsimp only
      cases hkeep : keepState strategy request data state server with
      | none => exact hsound
      | some kept =>
        refine afterSignIn_sound ?_ strategy request state
        cases strategy with
        | cookie =>
          obtain ⟨text, _, rfl⟩ := Option.map_eq_some_iff.mp hkeep
          exact hsound.encrypt (vouched_of_undecodable hnone log) text
        | database =>
          cases hkeep
          refine hsound.of_rows (fun row hrow => ?_)
          rcases table.mem_concat.mp hrow with hold | rfl
          · exact hsound.rows row hold
          · exact hnone

/-- A profile is encrypted only with the record of the provider's answer. -/
theorem beforeCallback_sound (request : CallbackRequest) :
    (beforeCallback host request server).2.1.Sound host
      (log ++ (beforeCallback host request server).2.2) := by
  unfold beforeCallback
  split
  · exact hsound.mono []
  dsimp only
  split
  · exact hsound.mono []
  rename_i provider tokens userInfo _
  split
  · exact hsound.mono _
  rename_i hemail
  split
  · exact hsound.mono _
  split
  · exact hsound.mono _
  refine Server.Sound.encrypt (hsound.mono _) ?_ _
  intro payload hpayload
  obtain ⟨huser, hprovider⟩ := decodePassthroughPayload_marshal host hpayload
  have hsome : userInfo.email = some (userInfo.email.getD "") := by
    cases hcase : userInfo.email with
    | none => simp [hcase] at hemail
    | some email => rfl
  rw [huser, hprovider]
  refine List.mem_append_right _ ?_
  simp only [passthroughPayload, ← hsome]
  exact List.mem_singleton_self _

theorem consumeProxyState_sound (clock : Int) (cookie : Option String) (state : String) :
    (consumeProxyState host strategy clock cookie state server).2.Sound host log := by
  have hfind : Server.Sound host log
      { server with verifications := (findStoredVerification clock state server.verifications).2 } :=
    hsound.of_rows (fun row hrow => hsound.rows row (List.mem_filter.mp hrow).1)
  unfold consumeProxyState
  split
  · exact hsound
  cases strategy with
  | cookie =>
    dsimp only
    split
    · exact hsound
    · split <;> exact hsound
  | database =>
    dsimp only
    split
    · exact hfind
    · split
      · exact hfind
      · exact hfind.of_rows (fun row hrow => hfind.rows row (mem_consumeStoredVerification hrow).1)

/-- The proxy callback encrypts nothing, and it signs in only with a profile
that a ciphertext decodes to. -/
theorem proxyCallback_sound (maxAge : Int) (request : ProxyCallbackRequest) :
    (proxyCallback host strategy maxAge request server).2.1.Sound host log ∧
      ∀ event ∈ (proxyCallback host strategy maxAge request server).2.2,
        ∃ providerID id email emailVerified, event = .signedIn providerID id email emailVerified ∧
          .fetched providerID id (some email) emailVerified ∈ log := by
  unfold proxyCallback
  cases hopen : openProfile host request server with
  | error answer => exact ⟨hsound, by simp⟩
  | ok payload =>
    dsimp only
    have hconsume := consumeProxyState_sound hsound strategy request.clock request.cookie payload.state
    split
    · exact ⟨hsound, by simp⟩
    split
    · exact ⟨hconsume, by simp⟩
    refine ⟨hconsume, ?_⟩
    intro event hevent
    dsimp only at hevent
    split at hevent
    · rw [List.mem_singleton.mp hevent]
      obtain ⟨_, _, _, _, _, _, hopen⟩ := ok_of_bind₃ hopen
      obtain ⟨_, _, plaintext, hdecrypt, hopen⟩ := ok_of_bind₂ hopen
      exact ⟨_, _, _, _, rfl, hsound.decrypt (expect_eq_ok_iff.mp hdecrypt) payload (expect_eq_ok_iff.mp hopen)⟩
    · cases hevent

end

theorem ProfilesAuthentic.append {events : List Event} (hauthentic : ProfilesAuthentic log)
    (hevents : ∀ providerID id email emailVerified, .signedIn providerID id email emailVerified ∈ events →
      .fetched providerID id (some email) emailVerified ∈ log ++ events) : ProfilesAuthentic (log ++ events) := by
  intro providerID id email emailVerified hmem
  rcases List.mem_append.mp hmem with hold | hnew
  · exact List.mem_append_left _ (hauthentic providerID id email emailVerified hold)
  · exact hevents providerID id email emailVerified hnew

theorem Invariant.step {strategy : StateStrategy} {maxAge : Int} {request : Request}
    (hinvariant : Invariant host history) (hplain : CarriesNoProfile host request) :
    Invariant host (handle host strategy maxAge history request) := by
  cases request with
  | signIn request =>
    exact ⟨(signIn_sound hinvariant.sound strategy hplain).mono [], hinvariant.authentic.append (by simp [effect])⟩
  | callback request =>
    refine ⟨beforeCallback_sound hinvariant.sound request, hinvariant.authentic.append ?_⟩
    intro providerID id email emailVerified hmem
    -- a callback signs nobody in by itself
    have hnone : .signedIn providerID id email emailVerified ∉ (beforeCallback host request history.server).2.2 := by
      unfold beforeCallback
      dsimp only
      repeat' split
      all_goals simp
    exact absurd hmem hnone
  | coreCallback clock skip cookie state =>
    refine ⟨Server.Sound.mono ?_ [], hinvariant.authentic.append (by simp [effect])⟩
    exact hinvariant.sound.of_rows (fun row hrow => hinvariant.sound.rows row (mem_parseOAuthState hrow))
  | proxyCallback request =>
    obtain ⟨hsound, hevents⟩ := proxyCallback_sound hinvariant.sound strategy maxAge request
    refine ⟨hsound.mono _, hinvariant.authentic.append ?_⟩
    intro providerID id email emailVerified hmem
    obtain ⟨_, _, _, _, hevent, hfetched⟩ := hevents _ hmem
    cases hevent
    exact List.mem_append_left _ hfetched

end

/-- In every history whose sign-ins do not name a profile in their additional
data, the proxy callback signs in only with what a provider has answered. -/
theorem proxyCallback_profiles_authentic {F : Type} (host : Host F) (strategy : StateStrategy) (maxAge : Int)
    {start history : History} (hinitial : Initial start)
    (hreached : Reached (handle host strategy maxAge) (fun _ request => CarriesNoProfile host request) start history) :
    ProfilesAuthentic history.log := by
  have hinvariant : Invariant host history :=
    hreached.invariant (Invariant host) hinitial.invariant (fun _ _ hbefore hallowed => hbefore.step hallowed)
  exact hinvariant.authentic

/-- Whole numbers of milliseconds, which floating-point numbers represent exactly. -/
def sampleHost : Host Int where
  parseFloat
    | .int value => some value
    | .dec mantissa exponent =>
      some (if 0 ≤ exponent then mantissa * 10 ^ exponent.toNat else mantissa / 10 ^ (-exponent).toNat)
  formatFloat := .int
  ofMillis := Int64.toInt
  isZero value := value = 0
  le left right := left ≤ right
  timeFromMilliseconds value := value * 1000000
  parseTime _ := none
  formatTime _ := ""
  isAbsoluteURL url := url ≠ ""
  callbackURLFromState url := url
  proxyCallbackURL current original := current ++ "/oauth-proxy-callback?callbackURL=" ++ original
  providerCallbackURL base id := base ++ "/callback/" ++ id

def sampleMaxAge : Int := 60 * 1000000000

def sampleStart : History := ⟨⟨[], []⟩, []⟩

theorem sampleStart_initial : Initial sampleStart := ⟨rfl, rfl, rfl⟩

def sampleProvider : Provider where
  id := "github"
  disableImplicitSignUp := false
  disableSignUp := false
  validateAuthorizationCode _ _ _ := some ⟨"access", "", "", none, none, ["user"]⟩
  getUserInfo _ _ := some ⟨"7", "User", "", some "user@example.com", true⟩

def sampleSignIn : Request :=
  .signIn
    { env := ⟨"https://preview.example.com", 0, some (List.replicate 400 0)⟩
      body := Dict.ofEntries [("provider", .str "github")]
      link := none
      skipProxy := false
      currentURL := .ok "https://preview.example.com"
      baseURL := .ok "https://preview.example.com"
      cookieText := some "cookie"
      innerText := some "inner"
      packageText := some "package" }

def sampleCallback : Request :=
  .callback
    { clock := 0
      body := some Dict.empty
      query := some [("code", "code"), ("state", "package")]
      providerID := "github"
      providers := fun _ => some sampleProvider
      baseURL := .ok "https://auth.example.com"
      defaultErrorURL := "https://auth.example.com/error"
      parseAuthorizationUser := fun _ => none
      profileText := some "profile" }

/-- A request to the proxy callback with these two ciphertexts. -/
def sampleProxyCallback (profile cookie : String) : Request :=
  .proxyCallback
    { clock := 0
      callbackURL := "https://preview.example.com"
      trusted := .ok true
      profile := profile
      cookie := some cookie
      defaultErrorURL := "https://preview.example.com/error"
      handleOAuthUser := fun _ => .signedIn false }

def sampleRun (requests : List Request) : History :=
  requests.foldl (handle sampleHost .cookie sampleMaxAge) sampleStart

/-- A user who authorized at the provider is signed in with the provider's answer. -/
theorem proxyCallback_profiles_authentic_run :
    (sampleRun [sampleSignIn, sampleCallback, sampleProxyCallback "profile" "cookie"]).log =
        [.fetched "github" "7" (some "user@example.com") true, .signedIn "github" "7" "user@example.com" true] ∧
      ProfilesAuthentic (sampleRun [sampleSignIn, sampleCallback, sampleProxyCallback "profile" "cookie"]).log := by
  refine ⟨by set_option maxRecDepth 20000 in decide, ?_⟩
  have hplain : CarriesNoProfile sampleHost sampleSignIn := by
    intro hnames
    have hmissing : (timestampMilliseconds sampleHost
        ((additionalData (Dict.ofEntries [("provider", .str "github")])).get? "timestamp")).isSome = false := by
      decide
    exact absurd hnames.1 (by rw [hmissing]; decide)
  exact proxyCallback_profiles_authentic sampleHost .cookie sampleMaxAge sampleStart_initial
    (.next (.next (.next .start hplain) trivial) trivial)

/-- A plain sign-in; its cookie and its state are told to the client. -/
def plainSignIn : Request :=
  .signIn
    { env := ⟨"https://auth.example.com", 0, some (List.replicate 400 0)⟩
      body := Dict.ofEntries [("provider", .str "github")]
      link := none
      skipProxy := true
      currentURL := .ok ""
      baseURL := .ok ""
      cookieText := some "first"
      innerText := none
      packageText := none }

/-- A sign-in whose additional data is a profile for the state of the first. -/
def profileInjection : Request :=
  .signIn
    { env := ⟨"https://auth.example.com", 0, some (List.replicate 400 1)⟩
      body := Dict.ofEntries [("provider", .str "github"),
        ("additionalData", .obj [("account", .obj [("providerId", .str "github")]),
          ("state", .str (String.ofList (List.replicate 32 'a'))), ("timestamp", .num (.int 0)),
          ("userInfo", .obj [("email", .str "victim@example.com"), ("emailVerified", .bool true),
            ("id", .str "attacker")])])]
      link := none
      skipProxy := true
      currentURL := .ok ""
      baseURL := .ok ""
      cookieText := some "second"
      innerText := none
      packageText := none }

/-- The state cookie of a sign-in whose additional data is a profile is accepted
as that profile, which no provider ever answered. -/
theorem proxyCallback_accepts_state_cookie :
    ¬ ∀ history, Reached (handle sampleHost .cookie sampleMaxAge) (fun _ _ => True) sampleStart history →
      ProfilesAuthentic history.log := by
  intro hall
  have hlog : (sampleRun [plainSignIn, profileInjection, sampleProxyCallback "second" "first"]).log =
      [.signedIn "github" "attacker" "victim@example.com" true] := by set_option maxRecDepth 20000 in decide
  have hreached : Reached (handle sampleHost .cookie sampleMaxAge) (fun _ _ => True) sampleStart
      (sampleRun [plainSignIn, profileInjection, sampleProxyCallback "second" "first"]) :=
    .next (.next (.next .start trivial) trivial) trivial
  have hfetched := hall _ hreached "github" "attacker" "victim@example.com" true
    (by rw [hlog]; exact List.mem_singleton_self _)
  rw [hlog] at hfetched
  cases List.mem_singleton.mp hfetched

end singleauth.oauthproxy
