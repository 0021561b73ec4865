import SingleAuth.Plugins.OidcProvider.Provenance

open dict transition
open singleauth.core

namespace singleauth.oidcprovider

def Plugin.afterLogin (plugin : Plugin) (login : LoginRequest) : Except Failure (Option AuthorizeRequest) :=
  match plugin with
  | .oidcProvider => oidcprovider.afterLogin login
  | .mcp => singleauth.mcp.afterLogin login

/-- A request that waits for consent is sent to the user: the MCP plugin without
a consent page sends its code to the client instead. -/
def AsksForConsent (settings : Settings) (plugin : Plugin) (request : AuthorizeRequest) : Prop :=
  plugin = .mcp → (settings.authorize .mcp).consentPage ≠ "" ∨ request.param "prompt" ≠ "consent"

variable {plugin : Plugin} {settings : Settings} {code : String}
  {request : AuthorizeRequest} {store : Store}

/-- A code is sent to the client, to the page that asks for consent or to the
login page. In the first case it waits for nothing. -/
theorem Plugin.authorizeQuery_answer {authorized : AuthorizedCode}
    (hauthorized : plugin.authorizedCode settings request store = .ok authorized)
    (hasks : AsksForConsent settings plugin request) :
    (plugin.authorizeQuery settings request store).1 = .loginAgain authorized.code ∨
      (plugin.authorizeQuery settings request store).1 = .consent authorized.code ∨
      (plugin.authorizeQuery settings request store).1 =
          .redirected authorized.value.redirectURI authorized.code ∧
        authorized.value.requireConsent = false := by
  cases plugin with
  | oidcProvider =>
    simp only [Plugin.authorizedCode] at hauthorized
    simp only [Plugin.authorizeQuery, oidcprovider.authorizeQuery, hauthorized]
    split
    · exact Or.inl rfl
    split
    · exact Or.inr (Or.inl rfl)
    · rename_i hconsent
      exact Or.inr (Or.inr ⟨rfl, by simpa using hconsent⟩)
  | mcp =>
    simp only [Plugin.authorizedCode] at hauthorized
    simp only [Plugin.authorizeQuery, singleauth.mcp.authorizeQuery, hauthorized]
    split
    · exact Or.inr (Or.inl rfl)
    rename_i hpage
    refine Or.inr (Or.inr ⟨rfl, ?_⟩)
    rcases hasks rfl with hconfigured | hprompt
    · simpa [hconfigured] using hpage
    · simpa [(singleauth.mcp.authorizedCode_authorizes hauthorized).1] using hprompt

inductive FlowRequest where
  | authorize (plugin : Plugin) (request : AuthorizeRequest)
  | login (plugin : Plugin) (request : LoginRequest)
  | consent (plugin : Plugin) (request : ConsentRequest)
  | token (plugin : Plugin) (request : TokenRequest)

/-- What is recorded of a flow: the answers that carry a code with the user in
whose session it was made, the consents that were accepted and the codes that
tokens were issued for, both with the record of the code. -/
inductive FlowEvent where
  | answered (plugin : Plugin) (user : String) (answer : AuthorizeAnswer)
  | consented (session : Option SessionState) (accept : Option Bool) (record : Option AuthorizationCodeValue)
    (code : String)
  | granted (code : String) (record : Option AuthorizationCodeValue)
deriving DecidableEq, Repr

structure Flow where
  store : Store
  log : List FlowEvent

variable {log : List FlowEvent} {flow : Flow} {event : FlowEvent}

def consentedRecord (request : ConsentRequest) (store : Store) : Option AuthorizationCodeValue :=
  (latestVerification request.code store.verifications).bind (fun row => AuthorizationCodeValue.unmarshal row.value)

def presentedRecord (request : TokenRequest) (store : Store) : Option AuthorizationCodeValue :=
  (consumeStoredVerification request.clock request.code store.verifications).1.bind
    (fun row => AuthorizationCodeValue.unmarshal row.value)

/-- What an authorize request does to the tables and what is recorded of it. -/
def authorizeEffect (settings : Settings) (plugin : Plugin) (request : AuthorizeRequest) (store : Store) :
    Store × Option FlowEvent :=
  ((plugin.authorizeQuery settings request store).2,
    match plugin.authorizedCode settings request store with
    | .error _ => none
    | .ok _ => some (.answered plugin request.user (plugin.authorizeQuery settings request store).1))

/-- What a request does to the tables and what is recorded of it. -/
def flowEffect (settings : Settings) (store : Store) : FlowRequest → Store × Option FlowEvent
  | .authorize plugin request => authorizeEffect settings plugin request store
  | .login plugin login =>
    match plugin.afterLogin login with
    | .ok (some request) => authorizeEffect settings plugin request store
    | _ => (store, none)
  | .consent plugin request =>
    ((plugin.consent settings request store).2,
      match (plugin.consent settings request store).1 with
      | .ok (.accepted _ code _) =>
        some (.consented request.session.toOption request.accept (consentedRecord request store) code)
      | _ => none)
  | .token plugin request =>
    if request.grantType = "refresh_token" then ((plugin.refreshGrant settings request store).2, none)
    else
      ((plugin.authorizationCodeGrant settings request store).2,
        match (plugin.issueForCode settings request store).1 with
        | .error _ => none
        | .ok _ => some (.granted request.code (presentedRecord request store)))

def Flow.step (settings : Settings) (flow : Flow) (request : FlowRequest) : Flow where
  store := (flowEffect settings flow.store request).1
  log := flow.log ++ (flowEffect settings flow.store request).2.toList

/-- No token was issued for a code whose record waits for consent. -/
def AwaitingConsentUseless (log : List FlowEvent) : Prop :=
  ∀ code record, .granted code record ∈ log → ∃ value, record = some value ∧ value.requireConsent = false

/-- No token was issued for a code that an answer took to the login page. -/
def AwaitingLoginUseless (log : List FlowEvent) : Prop :=
  ∀ code record, .granted code record ∈ log → ∀ user, .answered .oidcProvider user (.loginAgain code) ∉ log

/-- Every code that the consent endpoint made was accepted in a session of the
user in the record of the code that was consented to. -/
def ConsentedByUser (log : List FlowEvent) : Prop :=
  ∀ session accept record code, .consented session accept record code ∈ log →
    ∃ signedIn value, session = some signedIn ∧ accept = some true ∧ record = some value ∧
      signedIn.userID = value.userID

/-- A code that still waits for login or consent is of no use. -/
structure PendingUseless (log : List FlowEvent) : Prop where
  consent : AwaitingConsentUseless log
  login : AwaitingLoginUseless log
  accepted : ConsentedByUser log

namespace FlowEvent

def made : FlowEvent → Option String
  | .answered _ _ (.loginAgain code) => some code
  | .answered _ _ (.consent code) => some code
  | .answered _ _ (.redirected _ code) => some code
  | .consented _ _ _ code => some code
  | _ => none

/-- The code that was sent to the client's address, if one was. -/
def sent : FlowEvent → Option String
  | .answered _ _ (.redirected _ code) => some code
  | .consented _ _ _ code => some code
  | _ => none

theorem made_of_sent {event : FlowEvent} {code : String} (hsent : event.sent = some code) : event.made = some code := by
  cases event with
  | answered plugin user answer => cases answer <;> simp_all [sent, made]
  | consented session accept record code => exact hsent
  | granted code record => simp [sent] at hsent

end FlowEvent

def madeCodes (log : List FlowEvent) : List String := log.filterMap FlowEvent.made

def sentCodes (log : List FlowEvent) : List String := log.filterMap FlowEvent.sent

theorem mem_madeCodes_of_mem_sentCodes (hsent : code ∈ sentCodes log) : code ∈ madeCodes log := by
  obtain ⟨event, hevent, hcode⟩ := List.mem_filterMap.mp hsent
  exact List.mem_filterMap.mpr ⟨event, hevent, FlowEvent.made_of_sent hcode⟩

theorem mem_madeCodes (hevent : event ∈ log) (hmade : event.made = some code) : code ∈ madeCodes log :=
  List.mem_filterMap.mpr ⟨event, hevent, hmade⟩

/-- The code that a request makes was not made before. -/
def MakesFresh (settings : Settings) (flow : Flow) (request : FlowRequest) : Prop :=
  ∀ event ∈ (flowEffect settings flow.store request).2, ∀ code, event.made = some code → code ∉ madeCodes flow.log

/-- What the parties keep to that the endpoints do not check: requests that wait
for consent are shown to the user, consent to a code is given in a session of
a user who was asked for it, and a client presents a code only once it was
sent there. -/
def KeepsOrder (settings : Settings) (flow : Flow) : FlowRequest → Prop
  | .authorize plugin request => AsksForConsent settings plugin request
  | .login plugin login => ∀ request, plugin.afterLogin login = .ok (some request) →
      AsksForConsent settings plugin request
  | .consent _ request => ∀ session, request.session = .ok session → request.code ∈ madeCodes flow.log →
      ∃ plugin, .answered plugin session.userID (.consent request.code) ∈ flow.log
  | .token _ request => request.code ∈ madeCodes flow.log → request.code ∈ sentCodes flow.log

def Orderly (settings : Settings) (flow : Flow) (request : FlowRequest) : Prop :=
  MakesFresh settings flow request ∧ KeepsOrder settings flow request

structure Flow.Initial (flow : Flow) : Prop where
  rows : flow.store.verifications = []
  log : flow.log = []

/-- A row of the table is the record of a code that was made. It was not sent to
the client while it waits for consent, and whoever was asked for consent is
its user. -/
structure RowHeld (log : List FlowEvent) (row : VerificationRow) (value : AuthorizationCodeValue) : Prop where
  decoded : AuthorizationCodeValue.unmarshal row.value = some value
  made : row.identifier ∈ madeCodes log
  awaiting : value.requireConsent = true → row.identifier ∉ sentCodes log
  asked : ∀ plugin user, .answered plugin user (.consent row.identifier) ∈ log → user = value.userID

/-- What is recorded of a grant or a consent is as it should be. -/
def FlowEvent.Sound (log : List FlowEvent) : FlowEvent → Prop
  | .answered _ _ _ => True
  | .consented session accept record _ =>
    ∃ signedIn value, session = some signedIn ∧ accept = some true ∧ record = some value ∧
      signedIn.userID = value.userID
  | .granted code record => code ∈ sentCodes log ∧ ∃ value, record = some value ∧ value.requireConsent = false

structure FlowInvariant (flow : Flow) : Prop where
  rows : ∀ row ∈ flow.store.verifications, ∃ value, RowHeld flow.log row value
  sound : ∀ event ∈ flow.log, event.Sound flow.log
  login : ∀ plugin user code, .answered plugin user (.loginAgain code) ∈ flow.log → code ∉ sentCodes flow.log

theorem Flow.Initial.invariant (hinitial : flow.Initial) : FlowInvariant flow where
  rows := by simp [hinitial.rows]
  sound := by simp [hinitial.log]
  login := by simp [hinitial.log]

section Extend

variable {log : List FlowEvent} {event : Option FlowEvent}
  (hfresh : ∀ new ∈ event, ∀ code, new.made = some code → code ∉ madeCodes log)

theorem sentCodes_append (log : List FlowEvent) (event : Option FlowEvent) :
    sentCodes (log ++ event.toList) = sentCodes log ++ (event.bind FlowEvent.sent).toList := by
  cases event with
  | none => simp [sentCodes]
  | some new => cases hsent : new.sent <;> simp [sentCodes, hsent]

theorem madeCodes_append (log : List FlowEvent) (event : Option FlowEvent) :
    madeCodes (log ++ event.toList) = madeCodes log ++ (event.bind FlowEvent.made).toList := by
  cases event with
  | none => simp [madeCodes]
  | some new => cases hmade : new.made <;> simp [madeCodes, hmade]

include hfresh

/-- A code that was made before is not sent by an answer that makes a new one. -/
theorem mem_sentCodes_append_iff {code : String} (hmade : code ∈ madeCodes log) :
    code ∈ sentCodes (log ++ event.toList) ↔ code ∈ sentCodes log := by
  rw [sentCodes_append, List.mem_append, or_iff_left]
  intro hnew
  obtain ⟨new, hevent, hsent⟩ := Option.bind_eq_some_iff.mp (Option.mem_toList.mp hnew)
  exact hfresh new hevent code (FlowEvent.made_of_sent hsent) hmade

theorem RowHeld.append {row : VerificationRow} {value : AuthorizationCodeValue} (hheld : RowHeld log row value) :
    RowHeld (log ++ event.toList) row value where
  decoded := hheld.decoded
  made := by
    rw [madeCodes_append]
    exact List.mem_append_left _ hheld.made
  awaiting hawaits := by
    rw [mem_sentCodes_append_iff hfresh hheld.made]
    exact hheld.awaiting hawaits
  asked plugin user hanswered := by
    rcases List.mem_append.mp hanswered with hold | hnew
    · exact hheld.asked plugin user hold
    · exact absurd hheld.made (hfresh _ (Option.mem_toList.mp hnew) _ rfl)

theorem FlowEvent.Sound.append {old : FlowEvent} (hsound : old.Sound log) : old.Sound (log ++ event.toList) := by
  cases old with
  | answered plugin user answer => trivial
  | consented session accept record code => exact hsound
  | granted code record =>
    refine ⟨?_, hsound.2⟩
    rw [mem_sentCodes_append_iff hfresh (mem_madeCodes_of_mem_sentCodes hsound.1)]
    exact hsound.1

/-- A request keeps the invariant when what it records is sound and every row it
adds is held. -/
theorem FlowInvariant.extend {flow : Flow} (hinvariant : FlowInvariant flow) (hlog : flow.log = log) {store : Store}
    (hrows : ∀ row ∈ store.verifications, row ∈ flow.store.verifications ∨
      ∃ value, RowHeld (log ++ event.toList) row value)
    (hsound : ∀ new ∈ event, new.Sound log) : FlowInvariant ⟨store, log ++ event.toList⟩ := by
  subst hlog
  refine ⟨?_, ?_, ?_⟩
  · intro row hrow
    rcases hrows row hrow with hold | hnew
    · obtain ⟨value, hheld⟩ := hinvariant.rows row hold
      exact ⟨value, hheld.append hfresh⟩
    · exact hnew
  · intro recorded hrecorded
    rcases List.mem_append.mp hrecorded with hold | hnew
    · exact (hinvariant.sound recorded hold).append hfresh
    · exact (hsound recorded (Option.mem_toList.mp hnew)).append hfresh
  intro plugin user code hanswered
  rcases List.mem_append.mp hanswered with hold | hnew
  · rw [mem_sentCodes_append_iff hfresh (mem_madeCodes hold rfl)]
    exact hinvariant.login plugin user code hold
  -- the answer to the login page sends its code nowhere
  obtain rfl := Option.mem_toList.mp hnew
  intro hsent
  rw [sentCodes_append] at hsent
  simp only [Option.bind_some, FlowEvent.sent, Option.toList_none, List.append_nil] at hsent
  exact hfresh _ rfl code rfl (mem_madeCodes_of_mem_sentCodes hsent)

end Extend

/-- A request that nothing is recorded of and that adds no row. -/
theorem FlowInvariant.quiet (hinvariant : FlowInvariant flow)
    (hrows : ∀ row ∈ store.verifications, row ∈ flow.store.verifications) :
    FlowInvariant ⟨store, flow.log ++ (none : Option FlowEvent).toList⟩ :=
  hinvariant.extend (fun _ hevent => by cases hevent) rfl (fun row hrow => Or.inl (hrows row hrow))
    (fun _ hevent => by cases hevent)

/-- The record of a new code. All that is known of it is the event that made it. -/
theorem RowHeld.new {row : VerificationRow} {value : AuthorizationCodeValue}
    (hfresh : row.identifier ∉ madeCodes log) (hmade : event.made = some row.identifier)
    (hdecoded : AuthorizationCodeValue.unmarshal row.value = some value)
    (hsent : value.requireConsent = true → event.sent = none)
    (hasked : ∀ plugin user, event = .answered plugin user (.consent row.identifier) → user = value.userID) :
    RowHeld (log ++ [event]) row value where
  decoded := hdecoded
  made := mem_madeCodes List.mem_concat_self hmade
  awaiting hawaits hcode := by
    simp only [sentCodes, List.filterMap_append, List.filterMap_cons, hsent hawaits, List.filterMap_nil,
      List.append_nil] at hcode
    exact hfresh (mem_madeCodes_of_mem_sentCodes hcode)
  asked plugin user hanswered := by
    rcases List.mem_append.mp hanswered with hold | hnew
    · exact absurd (mem_madeCodes hold rfl) hfresh
    · exact hasked plugin user (List.mem_singleton.mp hnew).symm

section

variable (hinvariant : FlowInvariant flow)
include hinvariant

theorem FlowInvariant.authorize
    (hfresh : ∀ event ∈ (authorizeEffect settings plugin request flow.store).2, ∀ code, event.made = some code →
      code ∉ madeCodes flow.log)
    (hasks : AsksForConsent settings plugin request) :
    FlowInvariant ⟨(authorizeEffect settings plugin request flow.store).1,
      flow.log ++ (authorizeEffect settings plugin request flow.store).2.toList⟩ := by
  refine hinvariant.extend hfresh rfl ?_ ?_
  · intro row hrow
    simp only [authorizeEffect, Plugin.authorizeQuery_store] at hfresh hrow ⊢
    cases hauthorized : plugin.authorizedCode settings request flow.store with
    | error answer =>
      rw [hauthorized] at hrow
      exact Or.inl hrow
    | ok authorized =>
      rw [hauthorized] at hfresh hrow
      rcases table.mem_concat.mp hrow with hold | rfl
      · exact Or.inl hold
      right
      have huser := (Plugin.authorizedCode_ok hauthorized).1
      have hdecoded := AuthorizationCodeValue.unmarshal_marshal authorized.value
      rcases Plugin.authorizeQuery_answer hauthorized hasks with hanswer | hanswer | ⟨hanswer, hfinished⟩ <;>
        rw [hanswer] at hfresh ⊢
      · exact ⟨_, RowHeld.new (hfresh _ rfl _ rfl) rfl hdecoded (fun _ => rfl) (fun _ _ hevent => by cases hevent)⟩
      · refine ⟨_, RowHeld.new (hfresh _ rfl _ rfl) rfl hdecoded (fun _ => rfl) ?_⟩
        intro _ _ hevent
        cases hevent
        exact huser.symm
      refine ⟨_, RowHeld.new (hfresh _ rfl _ rfl) rfl hdecoded ?_ (fun _ _ hevent => by cases hevent)⟩
      intro hawaits
      rw [hfinished] at hawaits
      cases hawaits
  · intro event hevent
    simp only [authorizeEffect] at hevent
    split at hevent
    · cases hevent
    · cases hevent
      trivial

section

variable {request : ConsentRequest} (horderly : Orderly settings flow (.consent plugin request))
include horderly

/-- A session that was asked for consent to a code accepts: the new code waits
for nothing, and it is the session's user whose code it was. -/
theorem FlowInvariant.accepted {redirectURI : String} {state : Option String}
    (hanswer : (plugin.consent settings request flow.store).1 = .ok (.accepted redirectURI code state)) :
    FlowInvariant (flow.step settings (.consent plugin request)) := by
  obtain ⟨hfresh, hasked⟩ := horderly
  obtain ⟨session, row, added, value, haccepts⟩ := plugin.consent_accepted hanswer
  refine hinvariant.extend hfresh rfl ?_ ?_
  · simp only [MakesFresh, flowEffect, hanswer] at hfresh ⊢
    intro other hother
    rw [haccepts.rows] at hother
    rcases table.mem_concat.mp hother with hold | rfl
    · exact Or.inl (mem_consumeStoredVerification hold).1
    right
    have hdecoded := AuthorizationCodeValue.unmarshal_marshal { value with requireConsent := false }
    rw [← haccepts.added_value] at hdecoded
    refine ⟨_, RowHeld.new ?_ ?_ hdecoded (fun hawaits => by cases hawaits) (fun _ _ hevent => by cases hevent)⟩
    · rw [haccepts.identifier]
      exact hfresh _ rfl _ rfl
    · rw [haccepts.identifier]
      rfl
  · obtain ⟨hmem, hidentifier⟩ := latestVerification_some haccepts.latest
    obtain ⟨held, hheld⟩ := hinvariant.rows row hmem
    obtain rfl : held = value := Option.some.inj (hheld.decoded.symm.trans haccepts.decoded)
    have hmade := hheld.made
    rw [hidentifier] at hmade
    obtain ⟨asking, hanswered⟩ := hasked session haccepts.session hmade
    rw [← hidentifier] at hanswered
    simp only [flowEffect, hanswer]
    intro event hevent
    cases hevent
    exact ⟨session, held, by simp [haccepts.session, Except.toOption], haccepts.accept,
      by simp [consentedRecord, haccepts.latest, hheld.decoded], hheld.asked asking _ hanswered⟩

theorem FlowInvariant.consent : FlowInvariant (flow.step settings (.consent plugin request)) := by
  have hrows := (plugin.consent_consents settings request flow.store).2
  cases hanswer : (plugin.consent settings request flow.store).1 with
  | error failure =>
    rw [hanswer] at hrows
    simp only [Flow.step, flowEffect, hanswer]
    exact hinvariant.quiet hrows
  | ok answer =>
    cases answer with
    | denied redirectURI =>
      rw [hanswer] at hrows
      simp only [Flow.step, flowEffect, hanswer]
      exact hinvariant.quiet hrows
    | accepted redirectURI code state => exact hinvariant.accepted horderly hanswer

end

/-- A code that was sent to the client waits for nothing when it is exchanged. -/
theorem FlowInvariant.issue {request : TokenRequest} (horderly : Orderly settings flow (.token plugin request))
    (hgrant : request.grantType ≠ "refresh_token") :
    FlowInvariant (flow.step settings (.token plugin request)) := by
  have hrows := (plugin.issueForCode_exchanges settings request flow.store).1
  rw [← Plugin.authorizationCodeGrant_store] at hrows
  cases hissued : (plugin.issueForCode settings request flow.store).1 with
  | error failure =>
    simp only [Flow.step, flowEffect, hgrant, if_false, hissued]
    exact hinvariant.quiet hrows
  | ok token =>
    refine hinvariant.extend horderly.1 rfl ?_ ?_ <;> simp only [flowEffect, hgrant, if_false, hissued]
    · exact fun row hrow => Or.inl (hrows row hrow)
    obtain ⟨row, value, hconsumed, hdecoded, _⟩ := plugin.issueForCode_presented hissued
    obtain ⟨hmem, hidentifier, _⟩ := consumeStoredVerification_some (Prod.ext hconsumed rfl)
    obtain ⟨held, hheld⟩ := hinvariant.rows row hmem
    obtain rfl : held = value := Option.some.inj (hheld.decoded.symm.trans hdecoded)
    have hmade := hheld.made
    rw [hidentifier] at hmade
    have hsent := horderly.2 hmade
    intro event hevent
    cases hevent
    refine ⟨hsent, held, by simp [presentedRecord, hconsumed, hdecoded], ?_⟩
    rw [← hidentifier] at hsent
    exact Bool.eq_false_iff.mpr (fun hawaits => hheld.awaiting hawaits hsent)

theorem FlowInvariant.refresh {request : TokenRequest} (hgrant : request.grantType = "refresh_token") :
    FlowInvariant (flow.step settings (.token plugin request)) := by
  simp only [Flow.step, flowEffect, hgrant, if_true]
  apply hinvariant.quiet
  rcases plugin.refreshGrant_refreshes settings request flow.store with ⟨failure, hrefresh⟩ | ⟨old, token, hrefresh, -⟩
  all_goals
    rw [hrefresh]
    exact fun row hrow => hrow

theorem FlowInvariant.step {request : FlowRequest} (horderly : Orderly settings flow request) :
    FlowInvariant (flow.step settings request) := by
  cases request with
  | authorize plugin request => exact hinvariant.authorize horderly.1 horderly.2
  | login plugin login =>
    obtain ⟨hfresh, hasks⟩ := horderly
    simp only [MakesFresh, Flow.step, flowEffect] at hfresh ⊢
    split at hfresh
    · rename_i request hcontinued
      exact hinvariant.authorize hfresh (hasks request hcontinued)
    · exact hinvariant.quiet (fun row hrow => hrow)
  | consent plugin request => exact hinvariant.consent horderly
  | token plugin request =>
    by_cases hgrant : request.grantType = "refresh_token"
    · exact hinvariant.refresh hgrant
    · exact hinvariant.issue horderly hgrant

end

/-- In every flow whose parties keep to the order of the protocol a code that
waits for login or consent is of no use. -/
theorem pending_useless (settings : Settings) {start flow : Flow} (hinitial : start.Initial)
    (hreached : Reached (Flow.step settings) (Orderly settings) start flow) : PendingUseless flow.log := by
  have hinvariant : FlowInvariant flow :=
    hreached.invariant FlowInvariant hinitial.invariant (fun _ _ hbefore horderly => hbefore.step horderly)
  exact ⟨fun _ _ hgranted => (hinvariant.sound _ hgranted).2,
    fun _ _ hgranted _ hanswered => hinvariant.login _ _ _ hanswered (hinvariant.sound _ hgranted).1,
    fun _ _ _ _ hconsented => hinvariant.sound _ hconsented⟩

/-- The settings of a server that asks for consent. -/
def flowSettings : Settings where
  authorize plugin := { sampleSettings.authorize plugin with consentPage := "https://auth.example.com/consent" }
  token := sampleSettings.token

/-- A server with a client that needs consent and one that does not. -/
def flowStart : Flow where
  store := ⟨[], [⟨"app", "", "public", false, ["https://app.example.com/cb"], false⟩,
    ⟨"own", "", "public", false, ["https://own.example.com/cb"], true⟩], [], [], ["alice", "mallory"]⟩
  log := []

def flowAuthorize (plugin : Plugin) (client prompt : String) : FlowRequest :=
  .authorize plugin ⟨0, List.replicate 40 0, .ok (some ⟨"alice", "alice", some 0⟩),
    Dict.ofEntries [("client_id", client), ("response_type", "code"),
      ("redirect_uri", "https://" ++ client ++ ".example.com/cb"), ("prompt", prompt)]⟩

/-- A user accepts the use of Alice's code. -/
def flowConsent (user : String) : FlowRequest :=
  .consent .oidcProvider ⟨0, List.replicate 40 1, .ok ⟨user, user, some 0⟩, some true, sampleCode, ""⟩

def flowExchange (plugin : Plugin) (client code : String) : FlowRequest :=
  .token plugin ⟨0, List.replicate 80 0, "authorization_code", client, "", code,
    "https://" ++ client ++ ".example.com/cb", "verifier", ""⟩

def flowRun (requests : List FlowRequest) : Flow := requests.foldl (Flow.step flowSettings) flowStart

/-- The record of Alice's code. -/
def flowRecord (client : String) (requireConsent : Bool) : AuthorizationCodeValue :=
  ⟨client, "https://" ++ client ++ ".example.com/cb", some ["openid"], "alice", 0, requireConsent, none, "", "", ""⟩

def consentCode : String := String.ofList (List.replicate 32 'b')

/-- Alice consents, and the client exchanges the code it is sent then. -/
theorem pending_useless_consented :
    (flowRun [flowAuthorize .oidcProvider "app" "", flowConsent "alice",
        flowExchange .oidcProvider "app" consentCode]).store.accessTokens.length = 1 ∧
      PendingUseless (flowRun [flowAuthorize .oidcProvider "app" "", flowConsent "alice",
        flowExchange .oidcProvider "app" consentCode]).log := by
  refine ⟨by decide, pending_useless flowSettings ⟨rfl, rfl⟩ (.next (.next (.next .start ?_) ?_) ?_)⟩
  · refine ⟨?_, fun hmcp => by cases hmcp⟩
    change ∀ event ∈ _, ∀ code ∈ FlowEvent.made event, _
    decide
  · refine ⟨?_, ?_⟩
    · change ∀ event ∈ _, ∀ code ∈ FlowEvent.made event, _
      decide
    · intro session hsession _
      cases hsession
      exact ⟨.oidcProvider, by decide⟩
  · refine ⟨?_, fun _ => by decide⟩
    change ∀ event ∈ _, ∀ code ∈ FlowEvent.made event, _
    decide

/-- The token endpoints do not look at what a code waits for, and the consent
endpoint does not look at whose code it is: a code of the MCP plugin is
exchanged from the consent page, a code of the provider from the login page,
and another user consents in Alice's place. -/
theorem pending_codes_are_of_use :
    (¬ ∀ flow, Reached (Flow.step flowSettings) (fun _ _ => True) flowStart flow → AwaitingConsentUseless flow.log) ∧
      (¬ ∀ flow, Reached (Flow.step flowSettings) (fun _ _ => True) flowStart flow → AwaitingLoginUseless flow.log) ∧
      ¬ ∀ flow, Reached (Flow.step flowSettings) (fun _ _ => True) flowStart flow → ConsentedByUser flow.log := by
  have hreached : ∀ requests, Reached (Flow.step flowSettings) (fun _ _ => True) flowStart (flowRun requests) :=
    fun requests => Reached.start.foldl (fun _ _ _ => trivial)
  refine ⟨fun huseless => ?_, fun huseless => ?_, fun hconsented => ?_⟩
  · obtain ⟨value, hrecord, hfinished⟩ := huseless _
      (hreached [flowAuthorize .mcp "app" "consent", flowExchange .mcp "app" sampleCode])
      sampleCode (some (flowRecord "app" true)) (by decide)
    cases hrecord
    cases hfinished
  · have hlog : (flowRun [flowAuthorize .oidcProvider "own" "login",
        flowExchange .oidcProvider "own" sampleCode]).log =
        [.answered .oidcProvider "alice" (.loginAgain sampleCode),
          .granted sampleCode (some (flowRecord "own" false))] := by decide
    have hlogin := huseless _
      (hreached [flowAuthorize .oidcProvider "own" "login", flowExchange .oidcProvider "own" sampleCode])
    rw [hlog] at hlogin
    exact hlogin sampleCode _ (List.mem_cons_of_mem _ List.mem_cons_self) "alice" List.mem_cons_self
  obtain ⟨session, value, hsession, _, hrecord, huser⟩ := hconsented _
    (hreached [flowAuthorize .oidcProvider "app" "", flowConsent "mallory"])
    (some ⟨"mallory", "mallory", some 0⟩) (some true) (some (flowRecord "app" true)) consentCode (by decide)
  cases hsession
  cases hrecord
  revert huser
  decide

end singleauth.oidcprovider
