import SingleAuth.Core.Verification
import SingleAuth.Plugins.OAuthProvider.Client

open dict json fallible
open singleauth.core

namespace singleauth.oauthprovider

/-- A registration request: its body, if it is a JSON object, its session, what
the configured generators and the random source yield for it, and whether
the row can be stored. -/
structure RegistrationRequest where
  clock : Int
  body : Option Object
  session : Except Failure (Option Session)
  (generatedClientID generatedClientSecret : String)
  (randomClientID randomClientSecret : Except Failure String)
  stored : Except Failure Unit

def serverInternalError : Failure := .api 500 "INTERNAL_SERVER_ERROR" "Internal Server Error"

/-- A generated text, or a random one when the generator yields none. -/
def generatedOr (generated : String) (random : Except Failure String) : Except Failure String :=
  if generated = "" then random.mapError (fun _ => serverInternalError) else .ok generated

/-- The owner of a new client. Without a session the client keeps what it came
with, and a session without a reference does not touch the reference. -/
def ownedBy (options : ServerOptions) (session : Option Session) (client : Client) : Except Failure Client :=
  match session with
  | none => .ok client
  | some session => do
    let reference ← (options.clientReference session).mapError (fun _ => serverInternalError)
    if reference ≠ "" then .ok { client with referenceID := reference, userID := "" }
    else .ok { client with userID := session.userID }

def persistClient (options : ServerOptions) (request : RegistrationRequest) (client : Client)
    (session : Option Session) (registration : Bool) : Except Failure ClientRecord := do
  validateClient options client registration
  let clientID ← generatedOr request.generatedClientID request.randomClientID
  let isPublic := decide (client.tokenEndpointAuthMethod = "none")
  let clientSecret ← (if isPublic then .ok client.clientSecret
    else do
      let plain ← generatedOr request.generatedClientSecret request.randomClientSecret
      (options.storeClientSecret plain).mapError (fun _ => serverInternalError))
  let now := wholeSecond request.clock
  let issued := { client with
    clientID := clientID
    isPublic := isPublic
    clientSecret := clientSecret
    clientIDIssuedAt := Int64.ofInt (now / 1000000000) }
  let owned ← ownedBy options session issued
  request.stored.mapError (fun _ => serverInternalError)
  .ok (clientToRecord owned now)

/-- What a registration assumes when the client says nothing. -/
def withDefaults (options : ServerOptions) (client : Client) : Client :=
  { client with
    grantTypes := if client.grantTypes.getD [] = [] then some ["authorization_code"] else client.grantTypes
    responseTypes := if client.responseTypes.getD [] = [] then some ["code"] else client.responseTypes
    scope := if client.scope = "" then " ".intercalate (options.clientRegistrationDefaultScopes.getD options.scopes)
      else client.scope }

/-- How the client authenticates: without a session it becomes a public client. -/
def withAuthentication (session : Option Session) (client : Client) : Except Failure Client :=
  match session with
  | none => do
    require ("client_credentials" ∉ client.grantTypes.getD [])
      (.api 400 "INVALID_CLIENT_METADATA" "client_credentials grant requires authenticated registration")
    .ok { client with
      tokenEndpointAuthMethod := "none"
      isPublic := true
      type := if client.type = "web" then "" else client.type }
  | some _ =>
    .ok (if client.tokenEndpointAuthMethod = "" then { client with tokenEndpointAuthMethod := "client_secret_basic" }
      else client)

/-- Dynamic client registration. The row that is stored is the result. -/
def registerClient (options : ServerOptions) (request : RegistrationRequest) : Except Failure ClientRecord := do
  require (options.allowDynamicClientRegistration = true)
    (.api 403 "ACCESS_DENIED" "Client registration is disabled")
  let body ← expect request.body (.api 400 "INVALID_CLIENT_METADATA" "Invalid request body")
  require ((body.get? "skip_consent").isNone = true)
    (.api 400 "INVALID_CLIENT_METADATA" "skip_consent cannot be set during dynamic client registration")
  let session ← request.session
  require (session.isSome = true ∨ options.allowUnauthenticatedClientRegistration = true)
    (.api 401 "INVALID_TOKEN" "Authentication required for client registration")
  let client ← expect (decodeServerClient body) (.api 400 "INVALID_CLIENT_METADATA" "Invalid request body")
  let client ← withAuthentication session (withDefaults options client)
  persistClient options request client session true

/-- The last value of the wanted type among the members that spell a name. -/
def lastSpelled {α : Type} (get : Value → Option α) (name : String) (body : Object) : Option α :=
  lastOf get (values (spelled name body.entries))

variable {body : Object} {client : Client} {options : ServerOptions} {session : Option Session}

private theorem read_scalar_eq {α : Type} {get : Value → Option α} {name : String} {zero content : α}
    (hread : (Kind.scalar get).read name zero body.entries = some content) :
    content = (lastSpelled get name body).getD zero := by
  rw [lastSpelled, ← foldl_scalar]
  exact (Kind.read_eq_some_iff.mp hread).2.symm

/-- What a client has of what only the server grants. -/
def Client.privileges (client : Client) : String × Bool × Bool × String :=
  (client.userID, client.skipConsent, client.enableEndSession, client.referenceID)

def askedPrivileges (body : Object) : String × Bool × Bool × String :=
  ((lastSpelled Value.string? "user_id" body).getD "", (lastSpelled Value.bool? "skip_consent" body).getD false,
    (lastSpelled Value.bool? "enable_end_session" body).getD false,
    (lastSpelled Value.string? "reference_id" body).getD "")

/-- The four fields that a client should not choose are decoded from the last
member of their spelling. -/
theorem decodeServerClient_some (hdecode : decodeServerClient body = some client) :
    client.privileges = askedPrivileges body := by
  unfold decodeServerClient at hdecode
  -- One field is read after the other; the four named here are the 5th, 24th, 25th and 28th.
  iterate 4 obtain ⟨_, _, hdecode⟩ := Option.bind_eq_some_iff.mp hdecode
  obtain ⟨_, huser, hdecode⟩ := Option.bind_eq_some_iff.mp hdecode
  iterate 18 obtain ⟨_, _, hdecode⟩ := Option.bind_eq_some_iff.mp hdecode
  obtain ⟨_, hskip, hdecode⟩ := Option.bind_eq_some_iff.mp hdecode
  obtain ⟨_, hend, hdecode⟩ := Option.bind_eq_some_iff.mp hdecode
  iterate 2 obtain ⟨_, _, hdecode⟩ := Option.bind_eq_some_iff.mp hdecode
  obtain ⟨_, hreference, hdecode⟩ := Option.bind_eq_some_iff.mp hdecode
  obtain ⟨_, _, hdecode⟩ := Option.bind_eq_some_iff.mp hdecode
  cases hdecode
  simp only [Client.privileges, askedPrivileges, read_scalar_eq huser, read_scalar_eq hskip, read_scalar_eq hend,
    read_scalar_eq hreference]

/-- The user and the reference that a session makes the owner of a client. -/
def sessionOwner (options : ServerOptions) : Option Session → Option String × Option String
  | none => (none, none)
  | some session =>
    match options.clientReference session with
    | .error _ => (none, none)
    | .ok reference => if reference = "" then (nonEmpty session.userID, none) else (none, some reference)

/-- The stored client has no privileges of its own choice. -/
@[mk_iff]
structure GrantsNothing (options : ServerOptions) (session : Option Session) (record : ClientRecord) : Prop where
  skipConsent : record.skipConsent = false
  enableEndSession : record.enableEndSession = false
  userId : record.userId = (sessionOwner options session).1
  referenceId : record.referenceId = (sessionOwner options session).2

/-- A registration asks for nothing that only the server grants: the last member
spelled like each of the four fields does not set it, the two owners only
where the session does not overwrite them. -/
@[mk_iff]
structure AsksNothing (options : ServerOptions) (session : Option Session) (body : Object) : Prop where
  skipConsent : lastSpelled Value.bool? "skip_consent" body ≠ some true
  enableEndSession : lastSpelled Value.bool? "enable_end_session" body ≠ some true
  userID : session = none → ∀ id, lastSpelled Value.string? "user_id" body = some id → id = ""
  referenceID : (∀ owner, session = some owner → options.clientReference owner = .ok "") →
    ∀ id, lastSpelled Value.string? "reference_id" body = some id → id = ""

theorem ownedBy_ok {owned : Client} (howned : ownedBy options session client = .ok owned) :
    owned.skipConsent = client.skipConsent ∧ owned.enableEndSession = client.enableEndSession ∧
      match session with
      | none => owned.userID = client.userID ∧ owned.referenceID = client.referenceID
      | some session => ∃ reference, options.clientReference session = .ok reference ∧
        if reference = "" then owned.userID = session.userID ∧ owned.referenceID = client.referenceID
        else owned.userID = "" ∧ owned.referenceID = reference := by
  cases session with
  | none =>
    cases howned
    exact ⟨rfl, rfl, rfl, rfl⟩
  | some session =>
    obtain ⟨reference, hreference, howned⟩ := bind_eq_ok_iff.mp howned
    have hresolved := mapError_eq_ok_iff.mp hreference
    split at howned
    · rename_i hne
      cases howned
      exact ⟨rfl, rfl, reference, hresolved, by simp [hne]⟩
    rename_i hempty
    cases howned
    have hreference : reference = "" := by simpa using hempty
    exact ⟨rfl, rfl, reference, hresolved, by simp [hreference]⟩

variable {record : ClientRecord} {request : RegistrationRequest}

theorem withAuthentication_ok {got : Client} (hgot : withAuthentication session client = .ok got) :
    got.privileges = client.privileges := by
  cases session with
  | none =>
    obtain ⟨_, _, hgot⟩ := bind_eq_ok_iff.mp hgot
    cases hgot
    rfl
  | some session =>
    unfold withAuthentication at hgot
    cases hgot
    split <;> rfl

/-- A registered client is stored with the privileges it was decoded with, and
with the owner it was decoded with where the session does not overwrite it. -/
theorem registerClient_ok (hregister : registerClient options request = .ok record)
    (hbody : request.body = some body) (hsession : request.session = .ok session) :
    ∃ issued owned, ownedBy options session issued = .ok owned ∧
      record = clientToRecord owned (wholeSecond request.clock) ∧ issued.privileges = askedPrivileges body := by
  unfold registerClient at hregister
  obtain ⟨_, _, _, hfound, hregister⟩ := ok_of_bind₂ hregister
  rw [expect_eq_ok_iff, hbody] at hfound
  cases hfound
  obtain ⟨_, _, _, hresolved, hregister⟩ := ok_of_bind₂ hregister
  rw [hsession] at hresolved
  cases hresolved
  obtain ⟨_, _, client, hdecode, prepared, hprepared, hregister⟩ := ok_of_bind₃ hregister
  obtain ⟨_, _, clientID, _, clientSecret, _, hregister⟩ := ok_of_bind₃ hregister
  obtain ⟨owned, howned, _, _, hregister⟩ := ok_of_bind₂ hregister
  cases hregister
  have hdecoded := decodeServerClient_some (expect_eq_ok_iff.mp hdecode)
  exact ⟨_, owned, howned, rfl, (withAuthentication_ok hprepared).trans hdecoded⟩

private theorem getD_false_iff (last : Option Bool) : last.getD false = false ↔ last ≠ some true := by
  rcases last with _ | _ | _ <;> simp

private theorem nonEmpty_getD_iff (last : Option String) :
    nonEmpty (last.getD "") = none ↔ ∀ id, last = some id → id = "" := by
  cases last <;> simp [nonEmpty]

/-- A registration that succeeds grants nothing exactly when its body asks for
nothing. -/
theorem registerClient_grants_nothing_iff {options : ServerOptions} {request : RegistrationRequest}
    {record : ClientRecord} {body : Object} {session : Option Session}
    (hregister : registerClient options request = .ok record) (hbody : request.body = some body)
    (hsession : request.session = .ok session) :
    GrantsNothing options session record ↔ AsksNothing options session body := by
  obtain ⟨issued, owned, howned, rfl, hasked⟩ := registerClient_ok hregister hbody hsession
  simp only [Client.privileges, askedPrivileges, Prod.mk.injEq] at hasked
  obtain ⟨huser, hskip, hend, hreference⟩ := hasked
  obtain ⟨hownedSkip, hownedEnd, howner⟩ := ownedBy_ok howned
  rw [grantsNothing_iff, asksNothing_iff, ← getD_false_iff, ← getD_false_iff, ← hskip, ← hend, ← hownedSkip,
    ← hownedEnd, ← nonEmpty_getD_iff, ← nonEmpty_getD_iff, ← huser, ← hreference]
  refine and_congr_right fun _ => and_congr_right fun _ => ?_
  dsimp only [clientToRecord]
  -- the owner is the decoded one, or the session's
  cases session with
  | none =>
    rw [howner.1, howner.2]
    simp [sessionOwner]
  | some owner =>
    obtain ⟨reference, hresolved, howner⟩ := howner
    by_cases hempty : reference = ""
    · rw [if_pos hempty] at howner
      rw [howner.1, howner.2]
      simp [sessionOwner, hresolved, hempty]
    · rw [if_neg hempty] at howner
      rw [howner.1, howner.2]
      simp [sessionOwner, hresolved, hempty, nonEmpty]

def sampleOptions : ServerOptions where
  allowDynamicClientRegistration := true
  allowUnauthenticatedClientRegistration := true
  clientRegistrationDefaultScopes := none
  clientRegistrationAllowedScopes := none
  scopes := ["openid"]
  grantTypes := ["authorization_code"]
  pairwiseSecret := ""
  clientReference _ := .ok ""
  storeClientSecret secret := .ok secret
  isSafeURL uri := uri ≠ ""
  urlHost uri := uri

def sampleRequest (body : Object) : RegistrationRequest :=
  ⟨0, some body, .ok none, "", "", .ok "client", .ok "secret", .ok ()⟩

def plainBody : Object := Dict.ofEntries [("redirect_uris", .arr [.str "https://app.example.com/cb"])]

/-- A registration with nothing but a redirect address is granted nothing. -/
theorem registerClient_grants_nothing_plain :
    ∃ record, registerClient sampleOptions (sampleRequest plainBody) = .ok record ∧
      (GrantsNothing sampleOptions none record ↔ AsksNothing sampleOptions none plainBody) ∧
      GrantsNothing sampleOptions none record := by
  cases hregister : registerClient sampleOptions (sampleRequest plainBody) with
  | error failure =>
    have hok : (registerClient sampleOptions (sampleRequest plainBody)).toOption.isSome = true := by decide
    rw [hregister] at hok
    cases hok
  | ok record =>
    have hiff := registerClient_grants_nothing_iff hregister rfl rfl
    refine ⟨record, rfl, hiff, hiff.mpr ⟨by decide, by decide, ?_, ?_⟩⟩
    · intro _ id hid
      have hnone : lastSpelled Value.string? "user_id" plainBody = none := by decide
      rw [hnone] at hid
      cases hid
    intro _ id hid
    have hnone : lastSpelled Value.string? "reference_id" plainBody = none := by decide
    rw [hnone] at hid
    cases hid

/-- A registration that asks for a privilege under another spelling, for another
under its own, and for an owner. -/
def privilegedBody : Object :=
  Dict.ofEntries [("redirect_uris", .arr [.str "https://app.example.com/cb"]), ("Skip_Consent", .bool true),
    ("enable_end_session", .bool true), ("user_id", .str "victim")]

/-- It gets all of them. -/
theorem registerClient_grants_privileges :
    ∃ record, registerClient sampleOptions (sampleRequest privilegedBody) = .ok record ∧
      record.skipConsent = true ∧ record.enableEndSession = true ∧ record.userId = some "victim" ∧
      ¬ GrantsNothing sampleOptions none record := by
  cases hregister : registerClient sampleOptions (sampleRequest privilegedBody) with
  | error failure =>
    have hok : (registerClient sampleOptions (sampleRequest privilegedBody)).toOption.isSome = true := by
      decide
    rw [hregister] at hok
    cases hok
  | ok record =>
    have hfields : (registerClient sampleOptions (sampleRequest privilegedBody)).toOption.map
        (fun record => (record.skipConsent, record.enableEndSession, record.userId)) =
          some (true, true, some "victim") := by decide
    rw [hregister] at hfields
    simp only [Except.toOption, Option.map_some, Option.some.injEq, Prod.mk.injEq] at hfields
    obtain ⟨hskip, hend, huser⟩ := hfields
    refine ⟨record, rfl, hskip, hend, huser, fun hnothing => ?_⟩
    rw [hnothing.skipConsent] at hskip
    cases hskip

end singleauth.oauthprovider
