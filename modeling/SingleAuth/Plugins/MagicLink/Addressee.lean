import SingleAuth.Core.OAuthState.Document
import SingleAuth.Lib.Transition
import SingleAuth.Plugins.MagicLink.Verify

open dict json transition
open singleauth.core

namespace singleauth.magiclink

/-- The requests of a history: sign-in or link requests that start an OAuth
round trip, their callbacks, magic-link requests and verifications. -/
inductive Request where
  | social (env : StateEnvironment) (body : Object) (link : Option OAuthLinkState)
  | callback (clock : Int) (skipStateCookieCheck : Bool) (cookie : Option String) (state : String)
  | magicLink (clock : Int) (random : List UInt8) (delivered : Bool) (body : Object)
  | verify (request : VerifyRequest)

/-- The server, with a record of what happened so far: the random strings drawn,
the tokens generated with the address each was generated for, and the
tokens accepted with the user each signed in. -/
structure History where
  store : Store
  drawn : List String
  generated : List (String × String)
  accepted : List (String × User)

/-- The random string a request draws as an identifier of the verification table. -/
def draws (options : Options) : Request → Option String
  | .social env body link => (generateOAuthState env body link).toOption.map Prod.snd
  | .magicLink _ random _ body => (prepareMagicLink options random body).toOption.map MagicLink.token
  | _ => none

def handle (options : Options) (history : History) : Request → History
  | .social env body link =>
    let rows := (startOAuth env body link history.store.verifications).2
    { history with
      store := { history.store with verifications := rows }
      drawn := history.drawn ++ (draws options (.social env body link)).toList }
  | .callback clock skip cookie state =>
    let rows := (parseOAuthState clock skip cookie state history.store.verifications).2
    { history with store := { history.store with verifications := rows } }
  | .magicLink clock random delivered body =>
    let link := (prepareMagicLink options random body).toOption
    { history with
      store := (signInMagicLink options clock random delivered body history.store).2
      drawn := history.drawn ++ (link.map MagicLink.token).toList
      generated := history.generated ++ (link.map (fun link => (link.token, link.email))).toList }
  | .verify request =>
    match magicLinkVerify options request history.store with
    | (.signedIn user _, store) =>
      { history with store := store, accepted := history.accepted ++ [(request.token, user)] }
    | (_, store) => { history with store := store }

/-- Random strings are pairwise distinct: a request draws one that no earlier
request drew. -/
def Fresh (options : Options) (history : History) (request : Request) : Prop :=
  ∀ text, draws options request = some text → text ∉ history.drawn

/-- The additional data of a request to start an OAuth round trip is not a
magic-link payload with an address. -/
def CarriesNoPayload : Request → Prop
  | .social _ body _ =>
    ∀ payload, Payload.unmarshal (.obj (additionalData body).entries) = some payload → payload.email = ""
  | _ => True

/-- A server whose verification table is empty, before any request. -/
structure Initial (history : History) : Prop where
  rows : history.store.verifications = []
  users : history.store.DistinctUsers
  drawn : history.drawn = []
  generated : history.generated = []
  accepted : history.accepted = []

/-- Whoever a token signed in has the address the token was generated for, up to
case, and no token was accepted twice. -/
structure SignsInAddressee (options : Options) (history : History) : Prop where
  addressed : ∀ token user, (token, user) ∈ history.accepted →
    ∃ address, (token, address) ∈ history.generated ∧ user.email = options.toLower address
  once : (history.accepted.map Prod.fst).Nodup

/-- What every history keeps: a row that decodes to an address is one of the
magic links that were generated, and no row is left of a token that was
accepted. -/
structure Invariant (options : Options) (history : History) : Prop where
  users : history.store.DistinctUsers
  rows_drawn : ∀ row ∈ history.store.verifications, row.identifier ∈ history.drawn
  rows_generated : ∀ row ∈ history.store.verifications, ∀ payload, Payload.unmarshal row.value = some payload →
    payload.email ≠ "" → (row.identifier, payload.email) ∈ history.generated
  rows_unaccepted : ∀ row ∈ history.store.verifications, row.identifier ∉ history.accepted.map Prod.fst
  accepted_drawn : ∀ token ∈ history.accepted.map Prod.fst, token ∈ history.drawn
  signsIn : SignsInAddressee options history

variable {history : History} {options : Options}

theorem Initial.invariant (hinitial : Initial history) :
    Invariant options history where
  users := hinitial.users
  rows_drawn := by simp [hinitial.rows]
  rows_generated := by simp [hinitial.rows]
  rows_unaccepted := by simp [hinitial.rows]
  accepted_drawn := by simp [hinitial.accepted]
  signsIn := ⟨by simp [hinitial.accepted], by simp [hinitial.accepted]⟩

/-- The stored state of an OAuth round trip decodes as a payload exactly when
the client's additional data does: no server member spells an address or a
name. -/
theorem unmarshal_marshalOAuthState (data : OAuthStateData) :
    Payload.unmarshal (.obj (marshalOAuthState data).entries) = Payload.unmarshal (.obj data.raw.entries) := by
  have hemail : ∀ server ∈ serverNames, spells "email" server = false := by decide
  have hname : ∀ server ∈ serverNames, spells "name" server = false := by decide
  simp only [Payload.unmarshal, read_marshalOAuthState _ _ data hemail, read_marshalOAuthState _ _ data hname]

/-- A kept link decodes to the address it was generated for. -/
theorem unmarshal_encodeVerificationValue (email : String) (name : Option String) :
    Payload.unmarshal (encodeVerificationValue email name) = some ⟨email, name⟩ := by
  have hemail : spells "email" "name" = false := by decide
  have hname : spells "name" "email" = false := by decide
  cases name with
  | none =>
    simp [Payload.unmarshal, encodeVerificationValue, Kind.read, Kind.string, Kind.scalar, spelled, values, hname]
  | some text =>
    simp [Payload.unmarshal, encodeVerificationValue, Kind.read, Kind.string, Kind.scalar, Kind.pointer, spelled,
      values, hname, hemail]

section

variable (hinvariant : Invariant options history)
include hinvariant

theorem Invariant.of_fewer_rows
    {store : Store} (hrows : ∀ row ∈ store.verifications, row ∈ history.store.verifications)
    (husers : store.DistinctUsers) : Invariant options { history with store := store } where
  users := husers
  rows_drawn row hrow := hinvariant.rows_drawn row (hrows row hrow)
  rows_generated row hrow := hinvariant.rows_generated row (hrows row hrow)
  rows_unaccepted row hrow := hinvariant.rows_unaccepted row (hrows row hrow)
  accepted_drawn := hinvariant.accepted_drawn
  signsIn := ⟨hinvariant.signsIn.addressed, hinvariant.signsIn.once⟩

/-- A row under a fresh identifier keeps the invariant, when it does not decode
to an address or its address is recorded with it. -/
theorem Invariant.of_new_row
    (row : VerificationRow) (hfresh : row.identifier ∉ history.drawn) (added : List (String × String))
    (hrow : ∀ payload, Payload.unmarshal row.value = some payload → payload.email ≠ "" →
      (row.identifier, payload.email) ∈ added) :
    Invariant options { history with
      store := { history.store with verifications := history.store.verifications ++ [row] }
      drawn := history.drawn ++ [row.identifier]
      generated := history.generated ++ added } where
  users := hinvariant.users
  rows_drawn other hother := by
    rcases table.mem_concat.mp hother with hold | rfl
    · exact List.mem_append_left _ (hinvariant.rows_drawn other hold)
    · exact List.mem_concat_self
  rows_generated other hother payload hpayload hemail := by
    rcases table.mem_concat.mp hother with hold | rfl
    · exact List.mem_append_left _ (hinvariant.rows_generated other hold payload hpayload hemail)
    · exact List.mem_append_right _ (hrow payload hpayload hemail)
  rows_unaccepted other hother := by
    rcases table.mem_concat.mp hother with hold | rfl
    · exact hinvariant.rows_unaccepted other hold
    · exact fun haccepted => hfresh (hinvariant.accepted_drawn _ haccepted)
  accepted_drawn token htoken := List.mem_append_left _ (hinvariant.accepted_drawn token htoken)
  signsIn := by
    refine ⟨fun token user hmem => ?_, hinvariant.signsIn.once⟩
    obtain ⟨address, hgenerated, hemail⟩ := hinvariant.signsIn.addressed token user hmem
    exact ⟨address, List.mem_append_left _ hgenerated, hemail⟩

variable {body : Object}

theorem Invariant.social {env : StateEnvironment} {link : Option OAuthLinkState}
    (hfresh : Fresh options history (.social env body link)) (hplain : CarriesNoPayload (.social env body link)) :
    Invariant options (handle options history (.social env body link)) := by
  cases hgenerate : generateOAuthState env body link with
  | error failure => simpa [handle, startOAuth, draws, hgenerate, Except.toOption] using hinvariant
  | ok generated =>
    obtain ⟨data, state⟩ := generated
    have hnew : state ∉ history.drawn := hfresh state (by simp [draws, hgenerate, Except.toOption])
    have hkept := hinvariant.of_new_row
      ⟨state, .obj (marshalOAuthState data).entries, env.clock + oauthStateLifetime, env.clock⟩ hnew []
      fun payload hpayload hemail => by
        rw [unmarshal_marshalOAuthState, (generateOAuthState_spec hgenerate).raw_eq] at hpayload
        exact absurd (hplain payload hpayload) hemail
    simpa [handle, startOAuth, draws, hgenerate, Except.toOption, createStoredVerification] using hkept

theorem Invariant.magicLink {clock : Int} {random : List UInt8} {delivered : Bool}
    (hfresh : Fresh options history (.magicLink clock random delivered body)) :
    Invariant options (handle options history (.magicLink clock random delivered body)) := by
  cases hprepare : prepareMagicLink options random body with
  | error failure => simpa [handle, signInMagicLink, hprepare, Except.toOption] using hinvariant
  | ok link =>
    have hnew : link.token ∉ history.drawn := hfresh link.token (by simp [draws, hprepare, Except.toOption])
    have hkept := hinvariant.of_new_row
      ⟨link.token, encodeVerificationValue link.email link.name, clock + options.expiresIn, clock⟩ hnew
      [(link.token, link.email)] fun payload hpayload _ => by
        rw [unmarshal_encodeVerificationValue] at hpayload
        cases hpayload
        exact List.mem_singleton_self _
    simpa [handle, signInMagicLink, hprepare, Except.toOption, createStoredVerification] using hkept

theorem Invariant.verify (request : VerifyRequest) : Invariant options (handle options history (.verify request)) := by
  unfold handle
  dsimp only
  split
  · rename_i user session store hverify
    obtain ⟨hrows, husers, hsignedIn⟩ := magicLinkVerify_spec hinvariant.users hverify
    obtain ⟨⟨row, hrow, hidentifier, payload, hpayload, hemail, huser⟩, hleft⟩ := hsignedIn user session rfl
    have hgenerated := hinvariant.rows_generated row hrow payload hpayload hemail
    have hunaccepted := hinvariant.rows_unaccepted row hrow
    have hdrawn := hinvariant.rows_drawn row hrow
    rw [hidentifier] at hgenerated hunaccepted hdrawn
    have hbase := hinvariant.of_fewer_rows hrows husers
    refine ⟨husers, hbase.rows_drawn, hbase.rows_generated, ?_, ?_, ?_, ?_⟩
    · intro other hother
      rw [List.map_append, List.mem_append, not_or]
      exact ⟨hbase.rows_unaccepted other hother, by simpa using hleft other hother⟩
    · intro token htoken
      rw [List.map_append, List.mem_append] at htoken
      rcases htoken with hold | hnew
      · exact hinvariant.accepted_drawn token hold
      · rw [show token = request.token by simpa using hnew]
        exact hdrawn
    · intro token other hmem
      rcases List.mem_append.mp hmem with hold | hnew
      · exact hinvariant.signsIn.addressed token other hold
      · obtain ⟨rfl, rfl⟩ : token = request.token ∧ other = user := by simpa using hnew
        exact ⟨payload.email, hgenerated, huser⟩
    rw [List.map_append, List.nodup_append]
    refine ⟨hinvariant.signsIn.once, by simp, ?_⟩
    intro token htoken other hother hsame
    have hnew : other = request.token := by simpa using hother
    exact hunaccepted (hnew ▸ hsame ▸ htoken)
  · rename_i store _ hverify
    obtain ⟨hrows, husers, _⟩ := magicLinkVerify_spec hinvariant.users hverify
    exact hinvariant.of_fewer_rows hrows husers

theorem Invariant.step {request : Request} (hfresh : Fresh options history request)
    (hplain : CarriesNoPayload request) : Invariant options (handle options history request) := by
  cases request with
  | social env body link => exact hinvariant.social hfresh hplain
  | callback clock skip cookie state =>
    exact hinvariant.of_fewer_rows (fun row hrow => mem_parseOAuthState hrow) hinvariant.users
  | magicLink clock random delivered body => exact hinvariant.magicLink hfresh
  | verify request => exact hinvariant.verify request

end

/-- In every history whose OAuth requests carry no payload as additional data,
a magic link signs in only its addressee, and only once. -/
theorem magicLink_signs_in_addressee (options : Options) {start history : History} (hinitial : Initial start)
    (hreached : Reached (handle options)
      (fun history request => Fresh options history request ∧ CarriesNoPayload request) start history) :
    SignsInAddressee options history := by
  have hinvariant : Invariant options history :=
    hreached.invariant (Invariant options) hinitial.invariant
      (fun _ _ hbefore hallowed => hbefore.step hallowed.1 hallowed.2)
  exact hinvariant.signsIn

def sampleOptions : Options where
  expiresIn := 300 * 1000000000
  disableSignUp := false
  validEmail text := text ≠ ""
  toLower text := String.ofList (text.toList.map Char.toLower)

def sampleStart : History where
  store := ⟨[], [⟨"u1", "victim@example.com", "Victim", true⟩], [], []⟩
  drawn := []
  generated := []
  accepted := []

theorem sampleStart_initial : Initial sampleStart := by
  refine ⟨rfl, ?_, rfl, rfl, rfl⟩
  simp [Store.DistinctUsers, sampleStart]

/-- The string that a random source of zero bytes yields, as a token and as a state. -/
def sampleToken : String := String.ofList (List.replicate 32 'a')

def sampleLink : Request :=
  .magicLink 0 (List.replicate 40 0) true (Dict.ofEntries [("email", .str "Victim@example.com")])

def sampleVerify : Request := .verify ⟨1, sampleToken, .ok (), "u2", some "session"⟩

/-- A link that is requested and then verified signs in its addressee. -/
theorem magicLink_signs_in_requester :
    (handle sampleOptions (handle sampleOptions sampleStart sampleLink) sampleVerify).accepted =
        [(sampleToken, ⟨"u1", "victim@example.com", "Victim", true⟩)] ∧
      SignsInAddressee sampleOptions (handle sampleOptions (handle sampleOptions sampleStart sampleLink) sampleVerify) := by
  refine ⟨by decide, ?_⟩
  refine magicLink_signs_in_addressee sampleOptions sampleStart_initial
    (Reached.next (Reached.next Reached.start ⟨?_, trivial⟩) ⟨?_, trivial⟩)
  · intro text _
    simp [sampleStart]
  · intro text hdraws
    cases hdraws

/-- A social sign-in whose additional data names an address. -/
def payloadInjection : Request :=
  .social ⟨"https://auth.example.com", 0, some (List.replicate 400 0)⟩
    (Dict.ofEntries [("provider", .str "github"),
      ("additionalData", .obj [("email", .str "victim@example.com")])]) none

/-- The state string of a social sign-in whose additional data names an address
is accepted as a magic link for that address, which nobody requested. -/
theorem magicLinkVerify_accepts_oauth_state :
    ¬ ∀ history, Reached (handle sampleOptions) (Fresh sampleOptions) sampleStart history →
      SignsInAddressee sampleOptions history := by
  intro hall
  have hreached : Reached (handle sampleOptions) (Fresh sampleOptions) sampleStart
      (handle sampleOptions (handle sampleOptions sampleStart payloadInjection) sampleVerify) := by
    refine Reached.next (Reached.next Reached.start ?_) ?_
    · intro text _
      simp [sampleStart]
    · intro text hdraws
      cases hdraws
  have haccepted : (handle sampleOptions (handle sampleOptions sampleStart payloadInjection) sampleVerify).accepted =
      [(sampleToken, ⟨"u1", "victim@example.com", "Victim", true⟩)] := by decide +kernel
  have hgenerated : (handle sampleOptions (handle sampleOptions sampleStart payloadInjection) sampleVerify).generated =
      [] := by decide +kernel
  obtain ⟨address, hmem, _⟩ := (hall _ hreached).addressed sampleToken ⟨"u1", "victim@example.com", "Victim", true⟩
    (by rw [haccepted]; exact List.mem_singleton_self _)
  rw [hgenerated] at hmem
  cases hmem

end singleauth.magiclink
