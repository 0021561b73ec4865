import SingleAuth.Plugins.OAuthProvider.Consent

open dict fallible text transition
open singleauth.core

namespace singleauth.oauthprovider

/-! ## Requests that ask for a login -/

/-- The prompts of an authorization request, none if it is turned down before they are read. -/
def requestPrompts (options : AuthorizeOptions) (input : Dict String) : List String :=
  match resolveRequest options input with
  | .error _ => []
  | .ok query => ((authorizationPrompts (param query "prompt")).toOption).getD []

/-- A request that asks for a login is answered with the login page or not at all. -/
inductive AuthorizeAnswer.LoginFirst : AuthorizeAnswer → Prop where
  | failed (failure : Failure) : LoginFirst (.failed failure)
  | error (redirectURI state code description : String) : LoginFirst (.error redirectURI state code description)
  | loginPage (query : Dict String) : LoginFirst (.loginPage query)

variable {input : Dict String} {options : AuthorizeOptions}

theorem authorizeGrant_login (host : AuthorizeHost)
    (store : ServerStore) (hlogin : "login" ∈ requestPrompts options input) :
    ∃ answer, authorizeGrant options host input false store = .error answer ∧ answer.LoginFirst := by
  unfold requestPrompts at hlogin
  unfold authorizeGrant
  cases hquery : resolveRequest options input with
  | error answer =>
    obtain ⟨state, code, description, rfl⟩ := resolveRequest_error hquery
    exact ⟨_, rfl, .error ..⟩
  | ok query =>
    rw [hquery] at hlogin
    dsimp only at hlogin
    simp only [bind, Except.bind]
    cases hrequest : validateAuthorizationRequest options query store with
    | error refusal => exact ⟨_, rfl, .error ..⟩
    | ok request =>
      simp only [Except.mapError]
      cases hprompts : authorizationPrompts (param query "prompt") with
      | error description => exact ⟨_, rfl, .error ..⟩
      | ok prompts =>
        rw [hprompts] at hlogin
        have hmem : "login" ∈ prompts := hlogin
        dsimp only
        cases host.session false with
        | error failure => exact ⟨_, rfl, .failed _⟩
        | ok session =>
          simp only [require, hmem, true_or, and_self, not_true_eq_false, if_false]
          by_cases hnone : "none" ∈ prompts
          · rw [if_pos hnone]
            exact ⟨_, rfl, .error ..⟩
          · rw [if_neg hnone]
            exact ⟨_, rfl, .loginPage _⟩

/-! ## Histories of a browser -/

/-- How the pages carry a query: the signed text, and the signature that is found in a text. -/
structure PageSigning where
  sign : Dict String → Int → String
  signature : String → String

/-- A flow: the prompts of the request that began it, when that request was answered with the login page, and how
many logins there had been by then. -/
structure Flow where
  prompts : List String
  shownAt : Option Int
  logins : Nat
  deriving DecidableEq

/-- A code, with the session it was issued in and a flow that it was issued in. -/
structure CodeIssue where
  grant : AuthorizationGrant
  session : SignedIn
  flow : Flow

/-- The provider and what has happened so far. A session comes with the number of logins before its own, and a page
with its signature and its flow. -/
structure LoginHistory where
  clock : Int
  logins : Nat := 0
  sessions : List (SignedIn × Nat) := []
  pages : List (String × Flow) := []
  codes : List CodeIssue := []
  store : ServerStore

inductive LoginInput where
  /-- A login creates a session. -/
  | login (time : Int) (session : SignedIn)
  | request (host : AuthorizeHost) (request : AuthorizationRequest)
  /-- Sessions end, and the tables change in any way. -/
  | change (time : Int) (ended : SignedIn → Bool) (store : ServerStore)

def AuthorizationRequest.oauthQuery : AuthorizationRequest → Option String
  | .authorize _ => none
  | .proceed body => body.map ContinueBody.oauthQuery
  | .consent body => body.map ConsentBody.oauthQuery

def AuthorizationRequest.session (host : AuthorizeHost) (request : AuthorizationRequest) : Option SignedIn :=
  match host.session request.strict with
  | .ok found => found
  | .error _ => none

def AuthorizeAnswer.page? : AuthorizeAnswer → Option (Dict String)
  | .loginPage query => some query
  | .consentPage query => some query
  | _ => none

def AuthorizeAnswer.isLoginPage : AuthorizeAnswer → Bool
  | .loginPage _ => true
  | _ => false

def AuthorizeAnswer.isCode : AuthorizeAnswer → Bool
  | .redirected _ _ _ => true
  | _ => false

variable {approved : Approved} {session : SignedIn}

/-- A code is issued for the session that the request acts in. -/
theorem AuthorizationRequest.approved_session {provider : Provider} {host : AuthorizeHost} {store : ServerStore}
    {request : AuthorizationRequest} (h : request.approved provider host store = .ok approved)
    (hsession : request.session host = some session) :
    approved.grant.sessionID = session.sessionID := by
  have hfound : host.session request.strict = .ok (some session) := by
    unfold AuthorizationRequest.session at hsession
    split at hsession
    · next hok => rw [hok, hsession]
    · cases hsession
  have hauthorize : ∀ {input continued}, authorizeGrant provider.options host input continued store = .ok approved →
      host.session false = .ok (some session) → approved.grant.sessionID = session.sessionID := by
    intro input continued hgrant hfalse
    obtain ⟨_, _, _, signedIn, _, _, -, -, -, hsignedIn, -, -, -, -, rfl⟩ := authorizeGrant_steps hgrant
    cases hfalse.symm.trans hsignedIn
    rfl
  cases request with
  | authorize query => exact hauthorize h hfound
  | proceed body =>
    obtain ⟨query, _, h⟩ := bind_eq_ok_iff.mp h
    exact hauthorize h hfound
  | consent body =>
    obtain ⟨⟨granted, signedIn⟩, hgrant, rfl⟩ := map_eq_ok_iff.mp h
    obtain ⟨_, _, _, _, _, hsignedIn, -, -, -, -, -, -, rfl⟩ := consentGrant_steps hgrant
    cases hfound.symm.trans hsignedIn
    rfl

namespace LoginHistory

variable (provider : Provider) (signing : PageSigning)

/-- The flows of the pages whose signature a request presents. -/
def presented (history : LoginHistory) (request : AuthorizationRequest) : List Flow :=
  (history.pages.filter fun page => request.oauthQuery.map signing.signature = some page.1).map (·.2)

/-- The flows that a request belongs to: an authorization request begins one. -/
def flows (history : LoginHistory) (host : AuthorizeHost) : AuthorizationRequest → List Flow
  | .authorize input =>
    [{ prompts := requestPrompts provider.options input
       shownAt := if ((AuthorizationRequest.authorize input).respond provider host history.store).1.isLoginPage then
         some host.now else none
       logins := history.logins }]
  | request => history.presented signing request

def shownPages (history : LoginHistory) (host : AuthorizeHost) (request : AuthorizationRequest) :
    List (String × Flow) :=
  match (request.respond provider host history.store).1.page? with
  | some query =>
    (history.flows provider signing host request).map
      fun flow => (signing.signature (signing.sign query host.now), flow)
  | none => []

def issuedCodes (history : LoginHistory) (host : AuthorizeHost) (request : AuthorizationRequest) : List CodeIssue :=
  match request.approved provider host history.store, request.session host,
    (request.respond provider host history.store).1.isCode with
  | .ok approved, some session, true =>
    (history.flows provider signing host request).map fun flow => ⟨approved.grant, session, flow⟩
  | _, _, _ => []

def step (history : LoginHistory) : LoginInput → LoginHistory
  | .login time session =>
    { history with
      clock := time
      logins := history.logins + 1
      sessions := ({ session with createdAt := some time }, history.logins) :: history.sessions }
  | .request host request =>
    { history with
      clock := host.now
      pages := history.shownPages provider signing host request ++ history.pages
      codes := history.issuedCodes provider signing host request ++ history.codes
      store := (request.respond provider host history.store).2 }
  | .change time ended store =>
    { history with clock := time, sessions := history.sessions.filter fun entry => !ended entry.1, store }

/-- Time does not run backwards, and a request acts in a session that there is. -/
def Admissible (history : LoginHistory) : LoginInput → Prop
  | .login time _ => history.clock ≤ time
  | .request host _ => history.clock ≤ host.now ∧
    ∀ strict session, host.session strict = .ok (some session) → ∃ before, (session, before) ∈ history.sessions
  | .change time _ _ => history.clock ≤ time

/-- A request that presents a page of a flow which asked for a login acts in a session of a login that came after
the flow began. -/
def LoggedInSince (history : LoginHistory) : LoginInput → Prop
  | .request host request => ∀ flow ∈ history.presented signing request, "login" ∈ flow.prompts →
    ∀ session, request.session host = some session →
      ∃ before, (session, before) ∈ history.sessions ∧ flow.logins ≤ before
  | _ => True

/-- Every code of a flow that asked for a login is of a session that was created after the login page was shown. -/
def LoginForced (history : LoginHistory) : Prop :=
  ∀ code ∈ history.codes, "login" ∈ code.flow.prompts →
    ∃ shown created, code.flow.shownAt = some shown ∧ code.grant.sessionID = code.session.sessionID ∧
      code.session.createdAt = some created ∧ shown ≤ created

/-! ### What a run keeps -/

/-- What holds of a flow that began in the past. -/
structure Begun (history : LoginHistory) (flow : Flow) : Prop where
  logins_le : flow.logins ≤ history.logins
  shown_of_login : "login" ∈ flow.prompts → flow.shownAt.isSome
  shown_le : ∀ shown ∈ flow.shownAt, shown ≤ history.clock
  later : ∀ shown ∈ flow.shownAt, ∀ entry ∈ history.sessions, flow.logins ≤ entry.2 →
    ∃ created, entry.1.createdAt = some created ∧ shown ≤ created

structure Consistent (history : LoginHistory) : Prop where
  sessions_before : ∀ entry ∈ history.sessions, entry.2 < history.logins
  pages_begun : ∀ page ∈ history.pages, history.Begun page.2
  forced : history.LoginForced

variable {provider signing} {flow : Flow} {history : LoginHistory} {request : AuthorizationRequest}

/-- A flow that began stays so while time goes on and each new session is created at the present time. -/
theorem Begun.mono {after : LoginHistory} (hbegun : history.Begun flow)
    (hclock : history.clock ≤ after.clock) (hlogins : history.logins ≤ after.logins)
    (hsessions : ∀ entry ∈ after.sessions, entry ∈ history.sessions ∨ entry.1.createdAt = some after.clock) :
    after.Begun flow where
  logins_le := hbegun.logins_le.trans hlogins
  shown_of_login := hbegun.shown_of_login
  shown_le shown hshown := (hbegun.shown_le shown hshown).trans hclock
  later shown hshown entry hentry hlater := by
    rcases hsessions entry hentry with hold | hnew
    · exact hbegun.later shown hshown entry hold hlater
    · exact ⟨after.clock, hnew, (hbegun.shown_le shown hshown).trans hclock⟩

variable {host : AuthorizeHost}

/-- What a request shows or issues belongs to flows that began, and an authorization request which asks for a login
shows nothing but the login page. -/
theorem begun_of_flows (hconsistent : history.Consistent) (htime : history.clock ≤ host.now)
    (hflow : flow ∈ history.flows provider signing host request)
    (hpage : (request.respond provider host history.store).1.page? ≠ none) :
    (history.step provider signing (.request host request)).Begun flow := by
  have hpresented : flow ∈ history.presented signing request →
      (history.step provider signing (.request host request)).Begun flow := by
    intro hmem
    obtain ⟨page, hpage, rfl⟩ := List.mem_map.mp hmem
    have hbegun := hconsistent.pages_begun page (List.mem_of_mem_filter hpage)
    exact hbegun.mono htime (Nat.le_refl history.logins) fun entry hentry => .inl hentry
  cases request with
  | authorize input =>
    rw [List.mem_singleton.mp hflow]
    refine ⟨Nat.le_refl _, fun hlogin => ?_, fun shown hshown => ?_, fun shown _ entry hentry hlater => ?_⟩
    · have hfirst : ((AuthorizationRequest.authorize input).respond provider host history.store).1.LoginFirst := by
        obtain ⟨answer, hanswer, hfirst⟩ := authorizeGrant_login host history.store hlogin
        rw [AuthorizationRequest.respond, authorizeValues, hanswer]
        exact hfirst
      have hanswer : ((AuthorizationRequest.authorize input).respond provider host history.store).1.isLoginPage := by
        cases hshown : ((AuthorizationRequest.authorize input).respond provider host history.store).1 with
        | loginPage query => rfl
        | consentPage query =>
          rw [hshown] at hfirst
          cases hfirst
        | failed | error | redirected => exact absurd (congrArg AuthorizeAnswer.page? hshown) hpage
      rw [if_pos hanswer]
      rfl
    · split at hshown
      · cases hshown
        exact Int.le_refl _
      · cases hshown
    · exact absurd (hconsistent.sessions_before entry hentry) (Nat.not_lt.mpr hlater)
  | proceed body => exact hpresented hflow
  | consent body => exact hpresented hflow

/-- A code is issued in a flow that asked for a login only in a session of a later login. -/
theorem forced_of_flows (hconsistent : history.Consistent)
    (hsince : history.LoggedInSince signing (.request host request))
    (happroved : request.approved provider host history.store = .ok approved)
    (hsession : request.session host = some session) (hflow : flow ∈ history.flows provider signing host request)
    (hlogin : "login" ∈ flow.prompts) :
    ∃ shown created, flow.shownAt = some shown ∧ approved.grant.sessionID = session.sessionID ∧
      session.createdAt = some created ∧ shown ≤ created := by
  have hpresented : flow ∈ history.presented signing request → ∃ shown created, flow.shownAt = some shown ∧
      approved.grant.sessionID = session.sessionID ∧ session.createdAt = some created ∧ shown ≤ created := by
    intro hmem
    obtain ⟨before, hentry, hlater⟩ := hsince flow hmem hlogin session hsession
    obtain ⟨page, hpage, rfl⟩ := List.mem_map.mp hmem
    have hbegun := hconsistent.pages_begun page (List.mem_of_mem_filter hpage)
    obtain ⟨shown, hshown⟩ := Option.isSome_iff_exists.mp (hbegun.shown_of_login hlogin)
    obtain ⟨created, hcreated, hle⟩ := hbegun.later shown hshown _ hentry hlater
    exact ⟨shown, created, hshown, AuthorizationRequest.approved_session happroved hsession, hcreated, hle⟩
  cases request with
  | authorize input =>
    -- the request that begins such a flow issues nothing itself
    rw [List.mem_singleton.mp hflow] at hlogin
    obtain ⟨answer, hanswer, -⟩ := authorizeGrant_login host history.store hlogin
    change authorizeGrant provider.options host input false history.store = .ok approved at happroved
    rw [hanswer] at happroved
    cases happroved
  | proceed body => exact hpresented hflow
  | consent body => exact hpresented hflow

theorem Consistent.step {input : LoginInput} (hconsistent : history.Consistent)
    (hadmissible : history.Admissible input) (hsince : history.LoggedInSince signing input) :
    (history.step provider signing input).Consistent := by
  cases input with
  | login time session =>
    have hsessions : ∀ entry ∈ (history.step provider signing (.login time session)).sessions,
        entry = ({ session with createdAt := some time }, history.logins) ∨ entry ∈ history.sessions :=
      fun _ hentry => List.mem_cons.mp hentry
    refine ⟨fun entry hentry => ?_, fun page hpage => ?_, hconsistent.forced⟩
    · change entry.2 < history.logins + 1
      rcases hsessions entry hentry with rfl | hold
      · exact Nat.lt_succ_self _
      · exact (hconsistent.sessions_before entry hold).trans (Nat.lt_succ_self _)
    refine (hconsistent.pages_begun page hpage).mono ?_ ?_ fun entry hentry => ?_
    · exact hadmissible
    · exact Nat.le_succ history.logins
    · rcases hsessions entry hentry with rfl | hold
      · exact .inr rfl
      · exact .inl hold
  | request host request =>
    refine ⟨hconsistent.sessions_before, fun page hpage => ?_, fun code hcode => ?_⟩
    · rcases List.mem_append.mp hpage with hnew | hold
      · unfold shownPages at hnew
        split at hnew
        · next query hquery =>
          obtain ⟨flow, hflow, rfl⟩ := List.mem_map.mp hnew
          exact begun_of_flows hconsistent hadmissible.1 hflow (by rw [hquery]; exact Option.some_ne_none _)
        · cases hnew
      · have hbegun := hconsistent.pages_begun page hold
        exact hbegun.mono hadmissible.1 (Nat.le_refl history.logins) fun entry hentry => .inl hentry
    · rcases List.mem_append.mp hcode with hnew | hold
      · unfold issuedCodes at hnew
        split at hnew
        · next approved session happroved hsession _ =>
          obtain ⟨flow, hflow, rfl⟩ := List.mem_map.mp hnew
          exact forced_of_flows hconsistent hsince happroved hsession hflow
        · cases hnew
      · exact hconsistent.forced code hold
  | change time ended store =>
    have hsessions : ∀ entry ∈ (history.step provider signing (.change time ended store)).sessions,
        entry ∈ history.sessions := fun _ hentry => List.mem_of_mem_filter hentry
    refine ⟨fun entry hentry => hconsistent.sessions_before entry (hsessions entry hentry), fun page hpage => ?_,
      hconsistent.forced⟩
    have hbegun := hconsistent.pages_begun page hpage
    exact hbegun.mono hadmissible (Nat.le_refl history.logins) fun entry hentry => .inl (hsessions entry hentry)

/-- Nothing has happened yet. -/
structure Initial (history : LoginHistory) : Prop where
  sessions_nil : history.sessions = []
  pages_nil : history.pages = []
  codes_nil : history.codes = []

theorem Initial.consistent (h : history.Initial) : history.Consistent where
  sessions_before entry hentry := by
    rw [h.sessions_nil] at hentry
    cases hentry
  pages_begun page hpage := by
    rw [h.pages_nil] at hpage
    cases hpage
  forced code hcode := by
    rw [h.codes_nil] at hcode
    cases hcode

/-- In every run in which the pages of a flow that asked for a login are presented only in sessions of later logins,
every code of such a flow is of a session created after the login page was shown. -/
theorem login_forced {start history : LoginHistory} (hinitial : start.Initial)
    (hreached : Reached (step provider signing)
      (fun history input => history.Admissible input ∧ history.LoggedInSince signing input) start history) :
    history.LoginForced := by
  have hconsistent : history.Consistent :=
    hreached.invariant Consistent hinitial.consistent fun _ _ hconsistent hallowed =>
      hconsistent.step hallowed.1 hallowed.2
  exact hconsistent.forced

/-! A client whose user has consented asks for a login. -/

private def loginQuery : Dict String := (openQuery "app").set "prompt" "login"

private def loginProvider (created : Int) : Provider where
  config := plainConfig
  options :=
    { openOptions "app" with
      verifySignedQuery := fun text _ => if text = "page" then some loginQuery else none
      times := onlyTime created }
  pkceChallenge := ("#" ++ ·)

private def loginSigning : PageSigning where
  sign _ _ := "page"
  signature := id

private def loginSession (created : Int) : SignedIn := { openSession "alice" with createdAt := some created }

private def loginStart : LoginHistory where
  clock := 0
  store :=
    { tokens := { clients := [openClient "app" "admin"], users := ["alice"] }
      consents := [{ id := "1", clientId := "app", userId := "alice", scopes := ["admin"] }] }

private def loginHost (now created : Int) : AuthorizeHost :=
  { openHost "alice" with now := now, session := fun _ => .ok (some (loginSession created)) }

private def loginAsked : LoginInput := .request (loginHost 10 0) (.authorize loginQuery)

private def loginContinued (now created : Int) : LoginInput :=
  .request (loginHost now created) (.proceed (some { oauthQuery := "page" }))

private theorem loginHost_admissible {now created : Int} {before : Nat} (htime : history.clock ≤ now)
    (hsession : (loginSession created, before) ∈ history.sessions) :
    history.Admissible (.request (loginHost now created) request) := by
  refine ⟨htime, ?_⟩
  rintro strict session ⟨⟩
  exact ⟨before, hsession⟩

private def loginRun (created : Int) (inputs : List LoginInput) : LoginHistory :=
  inputs.foldl (step (loginProvider created) loginSigning) loginStart

private def oldLogin : LoginInput := .login 0 (openSession "alice")

private def newLogin : LoginInput := .login 20 (openSession "alice")

/-- The user logs in when asked, and the code is issued in the new session. -/
theorem login_forced_fresh :
    (loginRun 20 [oldLogin, loginAsked, newLogin, loginContinued 21 20]).codes.length = 1 ∧
      (loginRun 20 [oldLogin, loginAsked, newLogin, loginContinued 21 20]).LoginForced := by
  have hinitial : loginStart.Initial := ⟨rfl, rfl, rfl⟩
  let allowed : LoginHistory → LoginInput → Prop :=
    fun history input => history.Admissible input ∧ history.LoggedInSince loginSigning input
  have hold : allowed loginStart oldLogin := ⟨Int.le_refl (0 : Int), trivial⟩
  have hnew : allowed (loginRun 20 [oldLogin, loginAsked]) newLogin := ⟨show (10 : Int) ≤ 20 by decide, trivial⟩
  have hasked : allowed (loginRun 20 [oldLogin]) loginAsked :=
    ⟨loginHost_admissible (show (0 : Int) ≤ 10 by decide) List.mem_cons_self, fun _ hflow => nomatch hflow⟩
  have hsince : (loginRun 20 [oldLogin, loginAsked, newLogin]).LoggedInSince loginSigning (loginContinued 21 20) := by
    rintro flow hflow - session ⟨⟩
    have hlogins : ∀ flow ∈ (loginRun 20 [oldLogin, loginAsked, newLogin]).presented loginSigning
        (.proceed (some { oauthQuery := "page" })), flow.logins ≤ 1 := by decide
    exact ⟨1, List.mem_cons_self, hlogins flow hflow⟩
  have hcontinued : allowed (loginRun 20 [oldLogin, loginAsked, newLogin]) (loginContinued 21 20) :=
    ⟨loginHost_admissible (show (20 : Int) ≤ 21 by decide) List.mem_cons_self, hsince⟩
  have hreached : Reached (step (loginProvider 20) loginSigning) allowed loginStart
      (loginRun 20 [oldLogin, loginAsked, newLogin, loginContinued 21 20]) :=
    (((Reached.start.next hold).next hasked).next hnew).next hcontinued
  exact ⟨by decide, login_forced hinitial hreached⟩

/-- A session from before the request goes on with the page that asks for a login, and gets the code. -/
theorem login_not_forced : ∃ history, Reached (step (loginProvider 0) loginSigning) Admissible loginStart history ∧
    ¬ history.LoginForced := by
  have hold : Admissible loginStart oldLogin := Int.le_refl (0 : Int)
  have hasked : Admissible (loginRun 0 [oldLogin]) loginAsked :=
    loginHost_admissible (show (0 : Int) ≤ 10 by decide) List.mem_cons_self
  have hcontinued : Admissible (loginRun 0 [oldLogin, loginAsked]) (loginContinued 11 0) :=
    loginHost_admissible (show (10 : Int) ≤ 11 by decide) List.mem_cons_self
  refine ⟨_, ((Reached.start.next hold).next hasked).next hcontinued, fun hforced => ?_⟩
  have hcodes : (⟨["login"], some 10, 1⟩, some 0) ∈ (loginRun 0 [oldLogin, loginAsked, loginContinued 11 0]).codes.map
      fun code => (code.flow, code.session.createdAt) := by decide
  obtain ⟨code, hcode, hsame⟩ := List.mem_map.mp hcodes
  obtain ⟨hflow, hsession⟩ := Prod.mk.inj hsame
  have hlogin : "login" ∈ code.flow.prompts := by
    rw [hflow]
    exact List.mem_singleton_self _
  obtain ⟨shown, created, hshown, -, hcreated, hle⟩ := hforced code hcode hlogin
  rw [hflow, Option.some.injEq] at hshown
  rw [hsession, Option.some.injEq] at hcreated
  omega

end LoginHistory

end singleauth.oauthprovider
