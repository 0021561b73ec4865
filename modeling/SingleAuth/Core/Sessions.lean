import SingleAuth.Core.Random
import SingleAuth.Core.Secondary.Time

open fallible
open singleauth.core

namespace singleauth.coreroutes

/-! ## Sessions and their cookies

Times and durations are nanoseconds. -/

def second : Int := 1000000000

def hour : Int := 3600 * second

def defaultSessionExpiresIn : Int := 7 * 24 * hour

def defaultSessionUpdateAge : Int := 24 * hour

def defaultCookieCacheMaxAge : Int := 300 * second

structure CookieCacheOptions where
  enabled : Bool := false
  maxAge : Int := defaultCookieCacheMaxAge
  version : String := "1"
  refreshCache : Bool := false
  refreshCacheUpdateAge : Option Int := none

structure SessionOptions where
  expiresIn : Int := defaultSessionExpiresIn
  stateless : Bool := false
  updateAge : Option Int := none
  disableSessionRefresh : Bool := false
  deferSessionRefresh : Bool := false
  cookieCache : CookieCacheOptions := {}

structure Session where
  (token userID : String)
  /-- The expiry, if the record has a time there. -/
  expiresAt : Option Int
  updatedAt : Int
  impersonatedBy : Option String := none
  deriving DecidableEq

structure User where
  id : String
  role : String := ""
  deriving DecidableEq

structure Store where
  sessions : List Session := []
  users : List User := []

/-- What the server signs into a session_data cookie. -/
structure SessionCachePayload where
  session : Session
  user : User
  version : String

/-- The session_data cookie of a request: with one that was signed, its payload and its
own expiry, however the strategy of the cache encodes them. -/
inductive SessionData where
  | absent
  | invalid
  | opened (payload : SessionCachePayload) (expiresAt : Int)

structure Query where
  disableCookieCache : Bool := false
  disableRefresh : Bool := false

/-- The calls to the adapter that fail. -/
structure Faults where
  find : Bool := false
  delete : Bool := false
  update : Bool := false

structure Request where
  method : String := "GET"
  /-- The token of the session cookie, if its signature is right. -/
  token : Option String
  /-- The parameters, if the query can be parsed. -/
  query : Option Query := some {}
  /-- A signed dont_remember cookie is there. -/
  dontRemember : Bool := false
  sessionData : SessionData := .absent
  /-- The framework asks not to refresh. -/
  skipRefresh : Bool := false
  faults : Faults := {}

inductive SetCookie where
  /-- The session token, as a cookie that outlives the browser or not. -/
  | sessionToken (token : String) (lasting : Bool)
  | dontRemember
  | sessionData (payload : SessionCachePayload) (lasting : Bool)
  | expireSession
  | expireSessionData

structure Answer where
  session : Session
  user : User
  needsRefresh : Option Bool := none

structure Outcome where
  store : Store
  cookies : List SetCookie := []
  answer : Except Failure (Option Answer)

def unauthorized : Failure := .api 401 "UNAUTHORIZED" "Unauthorized"

def failedToGetSession (status : Nat) : Failure := .api status "FAILED_TO_GET_SESSION" "Failed to get session"

def internalServerError : Failure := .api 500 "INTERNAL_SERVER_ERROR" "Internal Server Error"

/-- The session as clients see it: times to the millisecond. -/
def publicSession (session : Session) : Session :=
  { session with
    expiresAt := session.expiresAt.map secondary.toMillisecond
    updatedAt := secondary.toMillisecond session.updatedAt }

namespace Store

variable (store : Store)

def findStoredSession (token : String) : Option (Session × User) := do
  let session ← store.sessions.find? fun session => session.token = token
  let user ← store.users.find? fun user => user.id = session.userID
  some (session, user)

/-- Change the session of a token. The updated session is returned. -/
def updateStoredSession (token : String) (change : Session → Session) : Store × Option Session :=
  let sessions := store.sessions.map fun session => if session.token = token then change session else session
  ({ store with sessions }, (store.sessions.find? fun session => session.token = token).map change)

def deleteStoredSession (token : String) : Store :=
  { store with sessions := store.sessions.filter fun session => session.token ≠ token }

end Store

/-- What a new session has in place of the usual values. -/
structure SessionOverride where
  expiresAt : Option Int := none
  impersonatedBy : Option String := none

def createSessionRecord (options : SessionOptions) (now : Int) (token userID : String) (dontRemember : Bool)
    (override : SessionOverride) : Session where
  token := token
  userID := userID
  expiresAt := some (override.expiresAt.getD (now + if dontRemember then 24 * hour else options.expiresIn))
  updatedAt := now
  impersonatedBy := override.impersonatedBy

/-! ## The cookie cache -/

variable (options : SessionOptions)

def cachePayload (session : Session) (user : User) : SessionCachePayload where
  session := publicSession session
  user := user
  version := options.cookieCache.version

def setCompactSessionCookie (session : Session) (user : User) (dontRemember : Bool) : List SetCookie :=
  [.sessionData (cachePayload options session user) (!dontRemember)]

def setSessionCookies (session : Session) (user : User) (dontRemember : Bool) : List SetCookie :=
  [.sessionToken session.token (!dontRemember)] ++ (if dontRemember then [.dontRemember] else []) ++
    if options.cookieCache.enabled then setCompactSessionCookie options session user dontRemember else []

/-- The refreshed cache has its whole lifetime, also for a session that is not to be
remembered. -/
def refreshCachedSessionCookies (session : Session) (user : User) (dontRemember : Bool) : List SetCookie :=
  setCompactSessionCookie options session user false ++ [.sessionToken session.token (!dontRemember)]

def embeddedSessionExpired (session : Session) (now : Int) : Bool := session.expiresAt.any (· < now)

def cacheVersion (payload : SessionCachePayload) : String := if payload.version = "" then "1" else payload.version

def cachedSession (now : Int) (data : SessionData) : Option (SessionCachePayload × Int) :=
  match data with
  | .opened payload expiresAt =>
    if options.cookieCache.enabled ∧ cacheVersion payload = options.cookieCache.version ∧
        embeddedSessionExpired payload.session now = false ∧ now ≤ expiresAt then some (payload, expiresAt)
    else none
  | _ => none

def hasSessionDataCookie : SessionData → Bool
  | .absent => false
  | _ => true

def cookieCacheRefreshAge : Option Int :=
  let cache := options.cookieCache
  if (cache.refreshCache = false ∧ cache.refreshCacheUpdateAge = none) ∨ options.stateless = false then none
  else some (cache.refreshCacheUpdateAge.getD ((cache.maxAge.tdiv second).tdiv 5 * second))

/-! ## Endpoints -/

/-- Whether a session is old enough to be refreshed. -/
def needsRefresh (now expiresAt : Int) (request : Request) : Bool :=
  expiresAt - options.expiresIn + options.updateAge.getD defaultSessionUpdateAge ≤ now ∧
    options.disableSessionRefresh = false ∧ request.skipRefresh = false

/-- GET requests leave the refresh to a POST request. -/
def defers (request : Request) : Bool := options.deferSessionRefresh ∧ request.method ≠ "POST"

/-- The answer from the store, for a request that the cache does not answer. -/
def getStoredSession (now : Int) (store : Store) (request : Request) (token : String) (query : Query) : Outcome :=
  if request.faults.find then { store, answer := .error (failedToGetSession 500) }
  else
    match store.findStoredSession token with
    | none => { store, cookies := [.expireSession], answer := .ok none }
    | some (session, user) =>
      let answer := { session := publicSession session, user }
      match session.expiresAt.filter (now ≤ ·) with
      | none =>
        if defers options request then { store, cookies := [.expireSession], answer := .ok none }
        else if request.faults.delete then { store, answer := .error (failedToGetSession 500) }
        else { store := store.deleteStoredSession token, cookies := [.expireSession], answer := .ok none }
      | some expiresAt =>
        if request.dontRemember ∨ query.disableRefresh then { store, answer := .ok (some answer) }
        else if defers options request then
          { store
            cookies := if options.cookieCache.enabled then setCompactSessionCookie options session user false else []
            answer := .ok (some { answer with needsRefresh := some (needsRefresh options now expiresAt request) }) }
        else if needsRefresh options now expiresAt request then
          if request.faults.update then { store, answer := .error (failedToGetSession 500) }
          else
            match store.updateStoredSession token fun session =>
                { session with updatedAt := now, expiresAt := some (now + options.expiresIn) } with
            | (store, none) => { store, cookies := [.expireSession], answer := .error (failedToGetSession 401) }
            | (store, some updated) =>
              { store
                cookies := setSessionCookies options updated user false
                answer := .ok (some { session := publicSession updated, user }) }
        else
          { store
            cookies := if options.cookieCache.enabled then setCompactSessionCookie options session user false else []
            answer := .ok (some answer) }

def getSession (now : Int) (store : Store) (request : Request) : Outcome :=
  if request.method = "POST" ∧ options.deferSessionRefresh = false then
    { store
      answer := .error (.api 405 "METHOD_NOT_ALLOWED_DEFER_SESSION_REQUIRED"
        "POST method requires deferSessionRefresh to be enabled in session config") }
  else
    match request.token with
    | none => { store, answer := .ok none }
    | some token =>
      match request.query with
      | none => { store, answer := .error (.api 400 "VALIDATION_ERROR" "Validation Error") }
      | some query =>
        match (if query.disableCookieCache then none else cachedSession options now request.sessionData) with
        | some (payload, expiresAt) =>
          let due := (cookieCacheRefreshAge options).any (expiresAt - now < ·) && !request.skipRefresh
          { store
            cookies :=
              if due then refreshCachedSessionCookies options payload.session payload.user request.dontRemember else []
            answer := .ok (some { session := payload.session, user := payload.user }) }
        | none =>
          let outcome := getStoredSession options now store request token query
          if query.disableCookieCache = false ∧ hasSessionDataCookie request.sessionData then
            { outcome with cookies := .expireSessionData :: outcome.cookies }
          else outcome

/-- The session that a request acts in. -/
def sessionForEndpoint (now : Int) (store : Store) (request : Request) (authoritative : Bool) :
    Except Failure (Session × User) := do
  let token ← expect request.token unauthorized
  match (if authoritative ∧ options.stateless = false then none else cachedSession options now request.sessionData) with
  | some (payload, _) => .ok (payload.session, payload.user)
  | none =>
    require (request.faults.find = false) internalServerError
    let (session, user) ← expect (store.findStoredSession token) unauthorized
    let _ ← expect (session.expiresAt.filter (now ≤ ·)) unauthorized
    .ok (session, user)

/-- Write additional fields of a session; `fields` is what is wrong with them, if
anything is. -/
def updateSession (now : Int) (store : Store) (request : Request) (fields : Except Failure Unit) : Outcome :=
  match (do
    let current ← sessionForEndpoint options now store request false
    fields
    require (request.faults.update = false) internalServerError
    .ok current) with
  | .error failure => { store, answer := .error failure }
  | .ok (current, user) =>
    match store.updateStoredSession current.token fun session => { session with updatedAt := now } with
    | (store, none) => { store, cookies := [.expireSession], answer := .error (failedToGetSession 401) }
    | (store, some updated) =>
      { store
        cookies := setSessionCookies options updated user false
        answer := .ok (some { session := publicSession updated, user }) }

def signOut (store : Store) (request : Request) : Outcome where
  store :=
    match request.token with
    | some token => if request.faults.delete then store else store.deleteStoredSession token
    | none => store
  cookies := if request.token.isSome ∧ request.faults.delete then [] else [.expireSession]
  answer := if request.token.isSome ∧ request.faults.delete then .error internalServerError else .ok none

/-! ## What endpoints keep -/

/-- The payloads that an answer signs. -/
def issuedBy (cookies : List SetCookie) : List SessionCachePayload :=
  cookies.filterMap fun cookie =>
    match cookie with
    | .sessionData payload _ => some payload
    | _ => none

/-- The request is due to renew the session of its token: the cache does not answer it,
the session has not expired, and nothing in the request or the options asks to
leave the session as it is. -/
def Renews (now : Int) (store : Store) (request : Request) : Prop :=
  ∃ token query session user expiresAt,
    request.token = some token ∧ request.query = some query ∧
      (query.disableCookieCache = false → cachedSession options now request.sessionData = none) ∧
      store.findStoredSession token = some (session, user) ∧ session.expiresAt = some expiresAt ∧ now ≤ expiresAt ∧
      request.dontRemember = false ∧ query.disableRefresh = false ∧ defers options request = false ∧
      needsRefresh options now expiresAt request = true

section

variable {options} {session : Session} {user : User} {token : String}

theorem findStoredSession_some {store : Store}
    (h : store.findStoredSession token = some (session, user)) : session ∈ store.sessions ∧ session.token = token := by
  obtain ⟨found, hfound, h⟩ := Option.bind_eq_some_iff.mp h
  obtain ⟨_, _, h⟩ := Option.bind_eq_some_iff.mp h
  obtain ⟨rfl, _⟩ := Prod.mk.inj (Option.some.inj h)
  exact ⟨List.mem_of_find?_eq_some hfound, by simpa using List.find?_some hfound⟩

variable {expiresAt : Int} {payload : SessionCachePayload} {change : Session → Session}

theorem cachedSession_some {now : Int} {data : SessionData}
    (h : cachedSession options now data = some (payload, expiresAt)) :
    data = .opened payload expiresAt ∧ ∀ embedded, payload.session.expiresAt = some embedded → now ≤ embedded := by
  unfold cachedSession at h
  split at h
  · split at h
    · next hvalid =>
      obtain ⟨rfl, rfl⟩ := Prod.mk.inj (Option.some.inj h)
      refine ⟨rfl, fun embedded hembedded => ?_⟩
      have hexpired := hvalid.2.2.1
      rw [embeddedSessionExpired, hembedded, Option.any_some, decide_eq_false_iff_not] at hexpired
      exact Int.not_lt.mp hexpired
    · cases h
  · cases h

variable {property : Session → Prop} {store : Store}

theorem stored_update (hstored : ∀ session ∈ store.sessions, property session)
    (hchange : ∀ session ∈ store.sessions, session.token = token → property (change session)) :
    ∀ session ∈ (store.updateStoredSession token change).1.sessions, property session := by
  intro changed hchanged
  obtain ⟨session, hsession, rfl⟩ := List.mem_map.mp hchanged
  split
  · next htoken => exact hchange session hsession htoken
  · exact hstored session hsession

theorem updateStoredSession_some {updated : Session}
    (h : (store.updateStoredSession token change).2 = some updated) :
    ∃ session ∈ store.sessions, session.token = token ∧ updated = change session := by
  obtain ⟨session, hfound, rfl⟩ := Option.map_eq_some_iff.mp h
  exact ⟨session, List.mem_of_find?_eq_some hfound, by simpa using List.find?_some hfound, rfl⟩

theorem stored_delete (hstored : ∀ session ∈ store.sessions, property session) :
    ∀ session ∈ (store.deleteStoredSession token).sessions, property session :=
  fun session hsession => hstored session (List.mem_of_mem_filter hsession)

/-- The session cookies carry no other session than the one they are set for. -/
theorem mem_issuedBy_setSessionCookies {dontRemember : Bool}
    (h : payload ∈ issuedBy (setSessionCookies options session user dontRemember)) :
    payload.session = publicSession session := by
  unfold issuedBy setSessionCookies setCompactSessionCookie at h
  cases dontRemember <;> cases hcache : options.cookieCache.enabled <;> simp [hcache] at h <;> rw [h] <;> rfl

/-! ### Reading the session -/

/-- An outcome in which all records of sessions have a property, those stored and
those signed. -/
structure Kept (property : Session → Prop) (outcome : Outcome) : Prop where
  stored : ∀ session ∈ outcome.store.sessions, property session
  signed : ∀ payload ∈ issuedBy outcome.cookies, property payload.session

/-- The session that is returned has a record with the property, too, and one that has
not expired. -/
structure Sound (property : Session → Prop) (now : Int) (outcome : Outcome) : Prop extends Kept property outcome where
  answered : ∀ answer, outcome.answer = .ok (some answer) →
    ∃ session, property session ∧ session.token = answer.session.token ∧
      ∀ expiresAt, session.expiresAt = some expiresAt → now ≤ expiresAt

variable {now : Int} {request : Request} {token : String} {query : Query}

/-- The cache cookie that is set along with an answer. -/
theorem issuedBy_cache :
    ∀ payload ∈ issuedBy
        (if options.cookieCache.enabled then setCompactSessionCookie options session user false else []),
      payload.session = publicSession session := by
  intro payload hpayload
  split at hpayload
  · rw [List.mem_singleton.mp hpayload]
    rfl
  · cases hpayload

variable (hpublic : ∀ session, property session → property (publicSession session))
  (hstored : ∀ session ∈ store.sessions, property session)
include hstored

theorem Sound.of_failure {failure : Failure} : Sound property now { store, answer := .error failure } :=
  ⟨⟨hstored, by simp [issuedBy]⟩, by simp⟩

theorem Sound.of_none : Sound property now { store, cookies := [.expireSession], answer := .ok none } :=
  ⟨⟨hstored, by simp [issuedBy]⟩, by simp⟩

include hpublic

theorem Sound.of_shown (hsession : session ∈ store.sessions) (hexpires : session.expiresAt = some expiresAt)
    (hlive : now ≤ expiresAt) {cookies : List SetCookie}
    (hcookies : ∀ payload ∈ issuedBy cookies, payload.session = publicSession session) (needsRefresh : Option Bool) :
    Sound property now
      { store, cookies, answer := .ok (some { session := publicSession session, user, needsRefresh }) } where
  stored := hstored
  signed payload hpayload := hcookies payload hpayload ▸ hpublic session (hstored session hsession)
  answered := by
    rintro _ ⟨⟩
    refine ⟨session, hstored session hsession, rfl, fun other hother => ?_⟩
    obtain rfl := Option.some.inj (hexpires.symm.trans hother)
    exact hlive

/-- What holds of all sessions in the store holds of what the store's answer leaves,
if it still holds of a session that the request renews. -/
theorem getStoredSession_sound
    (hrenewed : ∀ {session user expiresAt}, store.findStoredSession token = some (session, user) →
      session.expiresAt = some expiresAt → now ≤ expiresAt → request.dontRemember = false →
      query.disableRefresh = false → defers options request = false →
      needsRefresh options now expiresAt request = true →
      ∀ session ∈ store.sessions, session.token = token →
        property { session with updatedAt := now, expiresAt := some (now + options.expiresIn) }) :
    Sound property now (getStoredSession options now store request token query) := by
  unfold getStoredSession
  split
  · exact .of_failure hstored
  split
  · exact .of_none hstored
  next session user hfound =>
  obtain ⟨hsession, htoken⟩ := findStoredSession_some hfound
  split
  · split
    · exact .of_none hstored
    split
    · exact .of_failure hstored
    · exact .of_none (stored_delete hstored)
  next expiresAt hexpires =>
  obtain ⟨hexpires, hlive⟩ := Option.filter_eq_some_iff.mp hexpires
  have hlive : now ≤ expiresAt := by simpa using hlive
  split
  · exact .of_shown hpublic hstored hsession hexpires hlive (by simp [issuedBy]) none
  next hactive =>
  split
  · exact .of_shown hpublic hstored hsession hexpires hlive issuedBy_cache _
  next hdefers =>
  split
  · next hneeds =>
    split
    · exact .of_failure hstored
    have hchange := hrenewed hfound hexpires hlive (by simpa using fun h => hactive (.inl h))
      (by simpa using fun h => hactive (.inr h)) (by simpa using hdefers) hneeds
    have hupdated := stored_update hstored hchange
    split
    · next hupdate =>
      rw [hupdate] at hupdated
      exact ⟨⟨hupdated, by simp [issuedBy]⟩, by simp⟩
    rename_i changed updated hupdate
    obtain ⟨other, hother, hotherToken, hvalue⟩ := updateStoredSession_some (congrArg Prod.snd hupdate)
    rw [hupdate] at hupdated
    refine ⟨⟨hupdated, fun payload hpayload => ?_⟩, ?_⟩
    · rw [mem_issuedBy_setSessionCookies hpayload, hvalue]
      exact hpublic _ (hchange other hother hotherToken)
    -- what was found had not expired, whatever it is renewed to
    rintro _ ⟨⟩
    refine ⟨session, hstored session hsession, ?_, fun _ hstill => ?_⟩
    · rw [hvalue]
      exact htoken.trans hotherToken.symm
    · obtain rfl := Option.some.inj (hexpires.symm.trans hstill)
      exact hlive
  · exact .of_shown hpublic hstored hsession hexpires hlive issuedBy_cache none

/-- The property of what the request's session_data cookie holds. -/
def SignedData (property : Session → Prop) (data : SessionData) : Prop :=
  ∀ payload expiresAt, data = .opened payload expiresAt → property payload.session

theorem getSession_sound (hdata : SignedData property request.sessionData)
    (hrenewed : Renews options now store request → ∀ session ∈ store.sessions, request.token = some session.token →
      property { session with updatedAt := now, expiresAt := some (now + options.expiresIn) }) :
    Sound property now (getSession options now store request) := by
  unfold getSession
  split
  · exact .of_failure hstored
  split
  · exact ⟨⟨hstored, by simp [issuedBy]⟩, by simp⟩
  next token htoken =>
  split
  · exact .of_failure hstored
  next query hquery =>
  split
  · next payload expiresAt hcached =>
    have hcached : cachedSession options now request.sessionData = some (payload, expiresAt) := by
      split at hcached
      · cases hcached
      · exact hcached
    obtain ⟨hopened, hlive⟩ := cachedSession_some hcached
    have hproperty := hdata payload expiresAt hopened
    refine ⟨⟨hstored, fun signed hsigned => ?_⟩, ?_⟩
    · dsimp only at hsigned
      split at hsigned
      · rw [List.mem_singleton.mp hsigned]
        exact hpublic _ hproperty
      · cases hsigned
    · rintro _ ⟨⟩
      exact ⟨payload.session, hproperty, rfl, hlive⟩
  · next hcached =>
    have hread : Sound property now (getStoredSession options now store request token query) := by
      refine getStoredSession_sound hpublic hstored ?_
      intro session user expiresAt hfound hexpires hlive hforget hrefresh hdefers hneeds other hother hotherToken
      refine hrenewed ⟨token, query, session, user, expiresAt, htoken, hquery, ?_, hfound, hexpires, hlive, hforget,
        hrefresh, hdefers, hneeds⟩ other hother (hotherToken ▸ htoken)
      intro hcache
      rwa [hcache] at hcached
    split
    · exact ⟨⟨hread.stored, hread.signed⟩, hread.answered⟩
    · exact hread

/-! ### Other endpoints -/

theorem updateSession_kept {fields : Except Failure Unit}
    (htouched : ∀ session, property session → property { session with updatedAt := now }) :
    Kept property (updateSession options now store request fields) := by
  unfold updateSession
  split
  · exact ⟨hstored, by simp [issuedBy]⟩
  next current user _ =>
  have hchange : ∀ session ∈ store.sessions, session.token = current.token →
      property { session with updatedAt := now } :=
    fun session hsession _ => htouched session (hstored session hsession)
  have hupdated := stored_update hstored hchange
  split
  · next hupdate =>
    rw [hupdate] at hupdated
    exact ⟨hupdated, by simp [issuedBy]⟩
  rename_i changed updated hupdate
  obtain ⟨other, hother, hotherToken, hvalue⟩ := updateStoredSession_some (congrArg Prod.snd hupdate)
  rw [hupdate] at hupdated
  refine ⟨hupdated, fun payload hpayload => ?_⟩
  rw [mem_issuedBy_setSessionCookies hpayload, hvalue]
  exact hpublic _ (hchange other hother hotherToken)

omit hpublic in
theorem signOut_kept : Kept property (signOut store request) := by
  refine ⟨?_, ?_⟩
  · unfold signOut
    dsimp only
    split
    · split
      · exact hstored
      · exact stored_delete hstored
    · exact hstored
  intro payload hpayload
  unfold signOut at hpayload
  dsimp only at hpayload
  split at hpayload <;> cases hpayload

end

end singleauth.coreroutes
