import SingleAuth.Core.Sessions
import SingleAuth.Plugins.Admin.UpdateUser

open dict fallible text transition
open singleauth.core singleauth.storage singleauth.coreroutes

namespace singleauth.admin

/-! ## Impersonation -/

/-- The plugin with what it needs to impersonate users. -/
structure ImpersonationPlugin where
  options : Options
  adminRoles : List String := ["admin"]
  allowImpersonatingAdmins : Bool := false
  impersonationSessionDuration : Int := hour
  library : Library
  sessions : SessionOptions

namespace ImpersonationPlugin

variable (plugin : ImpersonationPlugin)

def isAdminUser (user : User) : Bool :=
  plugin.options.adminUserIDs.contains user.id ||
    (split ',' user.role).any fun item => (plugin.adminRoles.map trimSpace).contains item

/-- The session for a request that passes all checks, with the token that was drawn for
it. The hooks of the database may still refuse it. -/
def impersonateUser (now : Int) (store : Store) (actor : Option Actor) (body : Record) (token : String)
    (refused : Except Failure Unit) : Except Failure (Session × User) := do
  let actor ← expect actor (.api 401 "UNAUTHORIZED" "Unauthorized")
  require (actor.may plugin.options "impersonate")
    (adminError 403 "YOU_ARE_NOT_ALLOWED_TO_IMPERSONATE_USERS" "You are not allowed to impersonate users")
  let userID ← requiredCoercedString plugin.library body "userId"
  let target ← expect (store.users.find? fun user => user.id = userID) userNotFound
  require (plugin.isAdminUser target = true →
      plugin.allowImpersonatingAdmins = true ∨ actor.may plugin.options "impersonate-admins" = true)
    (adminError 403 "YOU_CANNOT_IMPERSONATE_ADMINS" "You cannot impersonate admins")
  refused
  .ok (createSessionRecord plugin.sessions now token userID true
    { expiresAt := some (now + plugin.impersonationSessionDuration), impersonatedBy := some actor.id }, target)

end ImpersonationPlugin

/-! ## Histories -/

/-- The end of an impersonation. -/
structure Limit where
  token : String
  term : Int
  deriving DecidableEq

/-- A session that was returned to a client. -/
structure Returned where
  token : String
  time : Int
  deriving DecidableEq

structure ImpersonationState where
  store : Store
  /-- What the server has signed into session_data cookies. -/
  issued : List SessionCachePayload := []
  /-- The tokens that were drawn for sessions. -/
  drawn : List String := []
  limits : List Limit := []
  returned : List Returned := []

inductive SessionCall where
  | impersonate (actor : Option Actor) (body : Record) (token : String) (refused : Except Failure Unit)
  /-- Any other session. -/
  | signIn (user : User) (token : String) (dontRemember : Bool)
  | getSession (request : Request)
  | updateSession (request : Request) (fields : Except Failure Unit)
  | signOut (request : Request)

structure TimedCall where
  time : Int
  call : SessionCall

namespace ImpersonationState

variable (plugin : ImpersonationPlugin) (state : ImpersonationState)

/-- Store a new session and set its cookies. An impersonation adds its limit. -/
def created (session : Session) (user : User) (dontRemember : Bool) (added : List Limit) : ImpersonationState :=
  { state with
    store := { state.store with sessions := state.store.sessions ++ [session] }
    issued := issuedBy (setSessionCookies plugin.sessions session user dontRemember) ++ state.issued
    drawn := session.token :: state.drawn
    limits := added ++ state.limits }

def absorb (outcome : Outcome) : ImpersonationState :=
  { state with store := outcome.store, issued := issuedBy outcome.cookies ++ state.issued }

def step (state : ImpersonationState) (input : TimedCall) : ImpersonationState :=
  match input.call with
  | .impersonate actor body token refused =>
    match plugin.impersonateUser input.time state.store actor body token refused with
    | .error _ => state
    | .ok (session, user) =>
      state.created plugin session user true [⟨token, input.time + plugin.impersonationSessionDuration⟩]
  | .signIn user token dontRemember =>
    let session := createSessionRecord plugin.sessions input.time token user.id dontRemember {}
    state.created plugin session user dontRemember []
  | .getSession request =>
    let outcome := getSession plugin.sessions input.time state.store request
    match outcome.answer with
    | .ok (some answer) =>
      { state.absorb outcome with returned := ⟨answer.session.token, input.time⟩ :: state.returned }
    | _ => state.absorb outcome
  | .updateSession request fields => state.absorb (updateSession plugin.sessions input.time state.store request fields)
  | .signOut request => state.absorb (signOut state.store request)

/-- No stored session of an impersonation outlasts it, and none was returned later. -/
def OnTime : Prop :=
  (∀ limit ∈ state.limits, ∀ session ∈ state.store.sessions, session.token = limit.token →
    ∀ expiresAt, session.expiresAt = some expiresAt → expiresAt ≤ limit.term) ∧
  ∀ limit ∈ state.limits, ∀ returned ∈ state.returned, returned.token = limit.token → returned.time ≤ limit.term

/-- A session_data cookie with a right signature was signed by the server. -/
def Genuine (data : SessionData) : Prop :=
  ∀ payload expiresAt, data = .opened payload expiresAt → payload ∈ state.issued

/-- The request does not renew an impersonation past its end. -/
def Unextended (time : Int) (request : Request) : Prop :=
  Renews plugin.sessions time state.store request →
    ∀ limit ∈ state.limits, request.token = some limit.token → time + plugin.sessions.expiresIn ≤ limit.term

/-- Tokens are drawn once, cookies are genuine, and no impersonation is renewed past
its end. -/
def Admitted (input : TimedCall) : Prop :=
  match input.call with
  | .impersonate _ _ token _ => token ∉ state.drawn
  | .signIn _ token _ => token ∉ state.drawn
  | .getSession request => state.Genuine request.sessionData ∧ state.Unextended plugin input.time request
  | .updateSession _ _ | .signOut _ => True

/-! ## On time in every history -/

/-- A record of a session is from a token that was drawn, and ends with the
impersonation that it is of. -/
structure Within (drawn : List String) (limits : List Limit) (session : Session) : Prop where
  drawn : session.token ∈ drawn
  ends : ∀ limit ∈ limits, session.token = limit.token →
    ∃ expiresAt, session.expiresAt = some expiresAt ∧ expiresAt ≤ limit.term

structure Invariant : Prop where
  stored : ∀ session ∈ state.store.sessions, Within state.drawn state.limits session
  signed : ∀ payload ∈ state.issued, Within state.drawn state.limits payload.session
  limited : ∀ limit ∈ state.limits, limit.token ∈ state.drawn
  returned : ∀ returned ∈ state.returned, returned.token ∈ state.drawn ∧
    ∀ limit ∈ state.limits, returned.token = limit.token → returned.time ≤ limit.term

section

variable {plugin} {state} {drawn : List String} {limits : List Limit}

theorem toMillisecond_le (time : Int) : secondary.toMillisecond time ≤ time := by
  unfold secondary.toMillisecond secondary.unixMilli
  omega

variable {session : Session}

theorem Within.publicSession (h : Within drawn limits session) :
    Within drawn limits (publicSession session) where
  drawn := h.drawn
  ends limit hlimit htoken := by
    obtain ⟨expiresAt, hexpires, hends⟩ := h.ends limit hlimit htoken
    refine ⟨secondary.toMillisecond expiresAt, ?_, (toMillisecond_le expiresAt).trans hends⟩
    rw [coreroutes.publicSession, hexpires, Option.map_some]

variable {added : List Limit} {token : String}

/-- A token that is drawn anew, and limits on it, do not concern a session that was
there. -/
theorem Within.drawnAnew (h : Within drawn limits session) (hfresh : token ∉ drawn)
    (hadded : ∀ limit ∈ added, limit.token = token) :
    Within (token :: drawn) (added ++ limits) session where
  drawn := List.mem_cons_of_mem _ h.drawn
  ends limit hlimit htoken := by
    rcases List.mem_append.mp hlimit with hnew | hold
    · have hsame : session.token = token := htoken.trans (hadded limit hnew)
      exact absurd (hsame ▸ h.drawn) hfresh
    · exact h.ends limit hold htoken

section

variable (h : state.Invariant)
include h

theorem Invariant.onTime : state.OnTime := by
  refine ⟨fun limit hlimit session hsession htoken expiresAt hexpires => ?_,
    fun limit hlimit returned hreturned => (h.returned returned hreturned).2 limit hlimit⟩
  obtain ⟨ending, hending, hends⟩ := (h.stored session hsession).ends limit hlimit htoken
  obtain rfl := Option.some.inj (hexpires.symm.trans hending)
  exact hends

theorem Invariant.absorb {outcome : Outcome}
    (hkept : coreroutes.Kept (Within state.drawn state.limits) outcome) : (state.absorb outcome).Invariant where
  stored := hkept.stored
  signed payload hpayload := (List.mem_append.mp hpayload).elim (hkept.signed payload) (h.signed payload)
  limited := h.limited
  returned := h.returned

/-- A new session keeps the invariant, along with the limit that it may have. -/
theorem Invariant.created (hfresh : session.token ∉ state.drawn) (user : User)
    (dontRemember : Bool) (hadded : ∀ limit ∈ added, limit.token = session.token ∧
      ∃ expiresAt, session.expiresAt = some expiresAt ∧ expiresAt ≤ limit.term) :
    (state.created plugin session user dontRemember added).Invariant := by
  have hnames : ∀ limit ∈ added, limit.token = session.token := fun limit hlimit => (hadded limit hlimit).1
  have hsession : Within (session.token :: state.drawn) (added ++ state.limits) session := by
    refine ⟨List.mem_cons_self, fun limit hlimit htoken => ?_⟩
    rcases List.mem_append.mp hlimit with hnew | hold
    · exact (hadded limit hnew).2
    · exact absurd (htoken ▸ h.limited limit hold) hfresh
  refine ⟨fun other hother => ?_, fun payload hpayload => ?_, fun limit hlimit => ?_, fun returned hreturned => ?_⟩
  · rcases List.mem_append.mp hother with hold | hnew
    · exact (h.stored other hold).drawnAnew hfresh hnames
    · exact List.mem_singleton.mp hnew ▸ hsession
  · rcases List.mem_append.mp hpayload with hnew | hold
    · exact mem_issuedBy_setSessionCookies hnew ▸ hsession.publicSession
    · exact (h.signed payload hold).drawnAnew hfresh hnames
  · rcases List.mem_append.mp hlimit with hnew | hold
    · exact hnames limit hnew ▸ List.mem_cons_self
    · exact List.mem_cons_of_mem _ (h.limited limit hold)
  obtain ⟨hdrawn, htimes⟩ := h.returned returned hreturned
  refine ⟨List.mem_cons_of_mem _ hdrawn, fun limit hlimit htoken => ?_⟩
  rcases List.mem_append.mp hlimit with hnew | hold
  · have hsame : returned.token = session.token := htoken.trans (hnames limit hnew)
    exact absurd (hsame ▸ hdrawn) hfresh
  · exact htimes limit hold htoken

/-- Reading the session keeps the invariant, and what it returns is on time. -/
theorem Invariant.getSession {time : Int} {request : Request}
    (hgenuine : state.Genuine request.sessionData) (hunextended : state.Unextended plugin time request) :
    (state.step plugin ⟨time, .getSession request⟩).Invariant := by
  have hsound : Sound (Within state.drawn state.limits) time
      (coreroutes.getSession plugin.sessions time state.store request) := by
    refine getSession_sound (fun _ hsession => hsession.publicSession) h.stored
      (fun payload expiresAt hopened => h.signed payload (hgenuine payload expiresAt hopened)) ?_
    intro hrenews session hsession htoken
    refine ⟨(h.stored session hsession).drawn, fun limit hlimit hsame => ⟨_, rfl, ?_⟩⟩
    exact hunextended hrenews limit hlimit (hsame ▸ htoken)
  have habsorbed := h.absorb hsound.toKept
  unfold step
  dsimp only
  split
  · next answer hanswer =>
    refine ⟨habsorbed.stored, habsorbed.signed, habsorbed.limited, fun returned hreturned => ?_⟩
    rcases List.mem_cons.mp hreturned with rfl | hold
    · obtain ⟨session, hwithin, htoken, hlive⟩ := hsound.answered answer hanswer
      refine ⟨htoken ▸ hwithin.drawn, fun limit hlimit hsame => ?_⟩
      obtain ⟨expiresAt, hexpires, hends⟩ := hwithin.ends limit hlimit (htoken.trans hsame)
      exact (hlive expiresAt hexpires).trans hends
    · exact habsorbed.returned returned hold
  · exact habsorbed

theorem Invariant.step {input : TimedCall} (hadmitted : state.Admitted plugin input) :
    (state.step plugin input).Invariant := by
  obtain ⟨time, call⟩ := input
  cases call with
  | impersonate actor body token refused =>
    unfold ImpersonationState.step
    dsimp only
    split
    · exact h
    rename_i session user himpersonated
    obtain ⟨_, _, _, _, _, _, himpersonated⟩ := ok_of_bind₃ himpersonated
    obtain ⟨_, _, _, _, _, _, himpersonated⟩ := ok_of_bind₃ himpersonated
    obtain ⟨hsession, _⟩ := Prod.mk.inj (Except.ok.inj himpersonated)
    have hfresh : session.token ∉ state.drawn := hsession ▸ hadmitted
    refine h.created hfresh user true fun limit hlimit => ?_
    rw [List.mem_singleton.mp hlimit, ← hsession]
    exact ⟨rfl, _, rfl, le_refl _⟩
  | signIn user token dontRemember =>
    have hfresh : (createSessionRecord plugin.sessions time token user.id dontRemember {}).token ∉ state.drawn :=
      hadmitted
    exact h.created hfresh user dontRemember fun _ hnone => absurd hnone List.not_mem_nil
  | getSession request => exact h.getSession hadmitted.1 hadmitted.2
  | updateSession request fields =>
    exact h.absorb (updateSession_kept (fun _ hsession => hsession.publicSession) h.stored
      fun _ hsession => ⟨hsession.drawn, hsession.ends⟩)
  | signOut request => exact h.absorb (signOut_kept h.stored)

end

/-- Impersonations end on time, unless one is renewed past its end. -/
theorem impersonations_end {start state : ImpersonationState} (hlimits : start.limits = [])
    (hreturned : start.returned = [])
    (hstored : ∀ session ∈ start.store.sessions, session.token ∈ start.drawn)
    (hissued : ∀ payload ∈ start.issued, payload.session.token ∈ start.drawn)
    (hreached : Reached (ImpersonationState.step plugin) (ImpersonationState.Admitted plugin) start state) :
    state.OnTime := by
  have hstart : start.Invariant :=
    ⟨fun session hsession => ⟨hstored session hsession, by simp [hlimits]⟩,
      fun payload hpayload => ⟨hissued payload hpayload, by simp [hlimits]⟩, by simp [hlimits], by simp [hreturned]⟩
  exact (hreached.invariant Invariant hstart fun _ _ h hadmitted => h.step hadmitted).onTime

end

end ImpersonationState

/-! ## An impersonation without the cookie -/

def plainImpersonation : ImpersonationPlugin where
  options := {}
  library := memory.textLibrary
  sessions := {}

def impersonator : Actor := { id := "a", role := "admin" }

def memberStore : ImpersonationState where
  store := { users := [{ id := "m", role := "user" }] }

def impersonateMember : TimedCall :=
  ⟨0, .impersonate (some impersonator) (.ofEntries [("userId", .string "m")]) "t" (.ok ())⟩

/-- The client reads the session of the impersonation, with or without the cookie that
came with it. -/
def readAt (time : Int) (dontRemember : Bool) : TimedCall := ⟨time, .getSession { token := some "t", dontRemember }⟩

theorem impersonations_end_kept_cookie :
    ([impersonateMember, readAt second true, readAt (2 * hour) true].foldl (ImpersonationState.step plainImpersonation)
      memberStore).OnTime := by
  have hread : ∀ (state : ImpersonationState) (time : Int), state.Admitted plainImpersonation (readAt time true) := by
    refine fun state time => ⟨fun _ _ hopened => SessionData.noConfusion hopened, ?_⟩
    rintro ⟨_, _, _, _, _, _, _, _, _, _, _, hforget, _⟩
    cases hforget
  have hreached : Reached (ImpersonationState.step plainImpersonation) (ImpersonationState.Admitted plainImpersonation)
      memberStore ([impersonateMember, readAt second true, readAt (2 * hour) true].foldl
        (ImpersonationState.step plainImpersonation) memberStore) :=
    ((Reached.start.next (show memberStore.Admitted plainImpersonation impersonateMember from List.not_mem_nil)).next
      (hread _ second)).next (hread _ (2 * hour))
  exact ImpersonationState.impersonations_end rfl rfl (by decide) (by intro _ h; cases h) hreached

/-- Without the cookie a read renews the session for a week, and two hours later it is
still returned. -/
theorem impersonation_renewed :
    ¬ ([impersonateMember, readAt second false, readAt (2 * hour) false].foldl
      (ImpersonationState.step plainImpersonation) memberStore).OnTime := by
  intro hontime
  have hlate : 2 * hour ≤ hour := hontime.2 ⟨"t", hour⟩ (by decide) ⟨"t", 2 * hour⟩ (by decide) rfl
  exact absurd hlate (by decide)

/-! ## Administrators -/

section

-- the functions of the strings package
variable (toLower : String → String) (equalFold : String → String → Bool) (options : Options)

/-- A name in the table of roles stands for an admin role, whatever the case. -/
def sameRole (name role : String) : Bool :=
  match options.roles with
  | some _ => toLower name = toLower role
  | none => equalFold name role

def invalidAdminRoles (roles : List String) : String :=
  "Invalid admin roles: " ++ ", ".intercalate roles ++ ". Admin roles must be defined in the 'roles' configuration."

/-- The admin roles of a new plugin. With a table of roles all that are wrong are named,
with the default one only the first. -/
def normalizeAdminRoles : Option (List String) → Except String (List String)
  | none => .ok ["admin"]
  | some adminRoles =>
    let known := (options.roles.getD defaultRoles).entries
    let invalid := adminRoles.filter fun role => !known.any fun entry => sameRole toLower equalFold options entry.1 role
    if invalid = [] then .ok adminRoles
    else .error (invalidAdminRoles (if options.roles.isSome then invalid else invalid.take 1))

end

/-- A plugin with admin roles that New has accepted. -/
structure AcceptedPlugin extends ImpersonationPlugin where
  toLower : String → String
  equalFold : String → String → Bool
  configured : Option (List String)
  accepted : normalizeAdminRoles toLower equalFold options configured = .ok adminRoles

namespace AcceptedPlugin

variable (plugin : AcceptedPlugin)

/-- The user is listed, or has a role of the table that is named as an admin role. -/
def Administrator (user : User) : Prop :=
  user.id ∈ plugin.options.adminUserIDs ∨
    ∃ name ∈ split ',' user.role, ((plugin.options.roles.getD defaultRoles).get? name).isSome ∧
      ∃ role ∈ plugin.adminRoles, sameRole plugin.toLower plugin.equalFold plugin.options name role = true

/-- An actor without the permission gets no session of an administrator. -/
def Spares (actor : Actor) (target : User) : Prop :=
  plugin.allowImpersonatingAdmins = false → actor.may plugin.options "impersonate-admins" = false →
    plugin.Administrator target → ∀ now store body token refused session,
      plugin.impersonateUser now store (some actor) body token refused ≠ .ok (session, target)

/-- Who may impersonate gets a session of any user that is not taken for an administrator. -/
theorem exists_created (actor : Actor) (target : User) (hmay : actor.may plugin.options "impersonate" = true)
    (hother : ¬ plugin.isAdminUser target = true) :
    ∃ session, plugin.impersonateUser 0 { users := [target] } (some actor)
      (.ofEntries [("userId", .string target.id)]) "" (.ok ()) = .ok (session, target) := by
  simp [ImpersonationPlugin.impersonateUser, require, expect, hmay, hother, requiredCoercedString, Dict.ofEntries,
    Dict.setAll, Dict.get?_set, bind, Except.bind]

/-- An administrator is spared by all who may impersonate exactly if the user is listed, or a role is spelled
like the admin role. -/
theorem spares_iff (actor : Actor) (target : User) :
    plugin.Spares actor target ↔
      (plugin.allowImpersonatingAdmins = false → actor.may plugin.options "impersonate-admins" = false →
        plugin.Administrator target → actor.may plugin.options "impersonate" = true →
          target.id ∈ plugin.options.adminUserIDs ∨
            ∃ name ∈ split ',' target.role, name ∈ plugin.adminRoles.map trimSpace) := by
  have hadmin : plugin.isAdminUser target = true ↔ target.id ∈ plugin.options.adminUserIDs ∨
      ∃ name ∈ split ',' target.role, name ∈ plugin.adminRoles.map trimSpace := by
    simp [ImpersonationPlugin.isAdminUser]
  refine forall₃_congr fun hoff hactor _ => ?_
  rw [← hadmin]
  constructor
  · intro hnever hmay
    by_contra hother
    obtain ⟨session, hcreated⟩ := plugin.exists_created actor target hmay hother
    exact hnever _ _ _ _ _ session hcreated
  · intro hspelled now store body token refused session hcreated
    obtain ⟨_, hexpected, _, hmay, _, _, hcreated⟩ := ok_of_bind₃ hcreated
    cases hexpected
    obtain ⟨found, _, _, hallowed, _, _, hcreated⟩ := ok_of_bind₃ hcreated
    obtain ⟨_, rfl⟩ := Prod.mk.inj (Except.ok.inj hcreated)
    have hpermitted := require_eq_ok_iff.mp hallowed (hspelled (require_eq_ok_iff.mp hmay))
    simp [hoff, hactor] at hpermitted

end AcceptedPlugin

/-- The admin role is configured in another case than the default table has it. -/
def capitalized : AcceptedPlugin where
  toImpersonationPlugin := { plainImpersonation with adminRoles := ["Admin"] }
  toLower := String.toLower
  equalFold left right := left.toList.map Char.toLower = right.toList.map Char.toLower
  configured := some ["Admin"]
  accepted := by decide

/-- One administrator impersonates another. -/
theorem administrator_impersonated : ¬ capitalized.Spares impersonator { id := "m", role := "admin" } := by
  intro hspares
  have hadministrator : capitalized.Administrator { id := "m", role := "admin" } :=
    .inr ⟨"admin", by decide, by decide, "Admin", by decide, by decide⟩
  obtain ⟨session, hcreated⟩ := capitalized.exists_created impersonator { id := "m", role := "admin" }
    (by decide) (by decide)
  exact hspares rfl (by decide) hadministrator _ _ _ _ _ session hcreated

end singleauth.admin
