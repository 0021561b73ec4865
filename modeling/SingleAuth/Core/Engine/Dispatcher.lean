import SingleAuth.Core.Engine.Registry

open bytes fallible singleauth.contract

namespace singleauth.engine

/-- The pieces of host code that a dispatch runs, in the order they run. -/
inductive Event (η : Type) where
  | onRequest
  | middleware
  | beforeHook
  | endpointMiddleware
  | handler (endpoint : Endpoint η)
  | afterHook
  | onResponse
  deriving DecidableEq

/-- The request-local state. `values` stands for all that host code stores
there or in the world outside, `trace` records what has run. -/
structure Context (η σ : Type) where
  request : Request
  values : σ
  routePath : Bytes := []
  endpoint : Option (RouteMatch η) := none
  trace : List (Event η) := []

/-- Host code run at one stage. It may replace the request and the values, but
the route path and the matched endpoint are the dispatcher's own. -/
abbrev Stage (η σ α : Type) := Context η σ → Except Failure α × Request × σ

def Context.perform {η σ α : Type} (ctx : Context η σ) (event : Event η) (stage : Stage η σ α) :
    Except Failure α × Context η σ :=
  let (result, request, values) := stage ctx
  (result, { ctx with request, values, trace := ctx.trace ++ [event] })

/-- A response and an error, as stages return them. A failure without a
response of its own is answered by the response made from it. -/
structure Outcome (ρ : Type) where
  response : Option ρ
  failure : Option Failure
  deriving DecidableEq

def Outcome.fail {ρ : Type} (failure : Failure) : Outcome ρ := ⟨none, some failure⟩
def Outcome.answer {ρ : Type} (response : ρ) : Outcome ρ := ⟨some response, none⟩

structure OnRequestResult (ρ : Type) where
  request : Option Request := none
  response : Option ρ := none
  deriving DecidableEq

/-- What a middleware does with its continuation: return without it, or call it
and go on with what it returned, any number of times. -/
inductive Script (ρ σ : Type) where
  | finish (outcome : Outcome ρ) (request : Request) (values : σ)
  | next (request : Request) (values : σ) (resume : Outcome ρ → Request → σ → Script ρ σ)

structure Middleware (unicode : Unicode) (η ρ σ : Type) where
  path : Bytes
  pattern : RoutePattern
  compiled : compileRoutePattern unicode path = .ok pattern
  handler : Context η σ → Script ρ σ

structure BeforeHook (η ρ σ : Type) where
  matcher : Option (Stage η σ Bool)
  handler : Stage η σ (Option ρ)

structure AfterHook (η ρ σ : Type) where
  matcher : Option (Stage η σ Bool)
  handler : Outcome ρ → Stage η σ (Option ρ)

/-- The stages in the order of the pipeline: those of the user first, then
those of the plugins. -/
structure DispatcherOptions (η ρ σ : Type) where
  basePath : Bytes := []
  disabledPaths : List Bytes := []
  skipTrailingSlashes : Bool := false
  initializeContext : Option (Stage η σ Unit) := none
  onRequest : List (Stage η σ (OnRequestResult ρ)) := []
  middleware : List (Bytes × (Context η σ → Script ρ σ)) := []
  beforeHooks : List (BeforeHook η ρ σ) := []
  afterHooks : List (AfterHook η ρ σ) := []
  onResponse : List (Outcome ρ → Stage η σ (Option ρ)) := []

structure Dispatcher (unicode : Unicode) (η ρ σ : Type) where
  registry : Registry unicode η
  basePath : Bytes
  disabled : List Bytes
  skipTrailingSlashes : Bool
  initializeContext : Option (Stage η σ Unit)
  onRequest : List (Stage η σ (OnRequestResult ρ))
  middleware : List (Middleware unicode η ρ σ)
  beforeHooks : List (BeforeHook η ρ σ)
  afterHooks : List (AfterHook η ρ σ)
  onResponse : List (Outcome ρ → Stage η σ (Option ρ))

/-- What the functions that endpoints carry do, and when the context of a
request counts as cancelled. -/
structure Host (η ρ σ : Type) where
  use : η → Stage η σ (Option ρ)
  handle : η → Stage η σ ρ
  cancelled : σ → Bool

/-! ## Construction -/

inductive DispatcherError where
  | basePathPattern (cause : PatternError)
  | basePathNotStatic
  | disabledPath (path : Bytes) (cause : PatternError)
  | middlewarePath (path : Bytes) (cause : PatternError)
  deriving DecidableEq

def RouteSegment.isStatic : RouteSegment → Bool
  | .static _ => true
  | _ => false

def normalizeBasePath (unicode : Unicode) (basePath : Bytes) : Except DispatcherError Bytes :=
  if basePath = [] ∨ basePath = [slash] then .ok []
  else do
    let trimmed := trimRight slash basePath
    let pattern ← (compileRoutePattern unicode trimmed).mapError .basePathPattern
    require (pattern.segments.all RouteSegment.isStatic) .basePathNotStatic
    .ok trimmed

def compileMiddleware {unicode : Unicode} {η ρ σ : Type} (declaration : Bytes × (Context η σ → Script ρ σ)) :
    Except DispatcherError (Middleware unicode η ρ σ) :=
  match hcompiled : compileRoutePattern unicode declaration.1 with
  | .error cause => .error (.middlewarePath declaration.1 cause)
  | .ok pattern => .ok { path := declaration.1, pattern, compiled := hcompiled, handler := declaration.2 }

def newDispatcher {unicode : Unicode} {η ρ σ : Type} (registry : Registry unicode η)
    (options : DispatcherOptions η ρ σ) : Except DispatcherError (Dispatcher unicode η ρ σ) := do
  let basePath ← normalizeBasePath unicode options.basePath
  let _ ← options.disabledPaths.mapM fun path =>
    (compileRoutePattern unicode path).mapError (.disabledPath path)
  let middleware ← options.middleware.mapM compileMiddleware
  .ok { registry, basePath, disabled := options.disabledPaths, skipTrailingSlashes := options.skipTrailingSlashes,
        initializeContext := options.initializeContext, onRequest := options.onRequest, middleware,
        beforeHooks := options.beforeHooks, afterHooks := options.afterHooks, onResponse := options.onResponse }

/-! ## Errors of the pipeline -/

def internalError (code message : String) : Failure :=
  .api { status := statusInternalServerError, code, message }

def requestCancelled : Failure := internalError "REQUEST_CANCELLED" "Request cancelled"

def invalidOnRequestResult : Failure :=
  internalError "INVALID_ON_REQUEST_RESULT" "onRequest must return either a request or a response"

def hookMatcherError : Failure :=
  internalError "HOOK_MATCHER_ERROR"
    "An error occurred during hook matcher execution. Check the logs for more details."

section

variable {unicode : Unicode} {η ρ σ : Type}

/-! ## Route paths -/

def Dispatcher.relativePath (d : Dispatcher unicode η ρ σ) (rawPath : Bytes) : Except APIError Bytes :=
  let path := before questionMark rawPath
  if path.head? ≠ some slash then .error invalidPath
  else if d.basePath = [] then .ok path
  else if (d.basePath ++ [slash]).isPrefixOf path then .ok (trimPrefix d.basePath path)
  else .error notFound

/-- The route path that hooks see, and the error that is still to be reported
when the path lies outside the base path. -/
structure Resolution where
  routePath : Bytes
  outsideBasePath : Bool
  failure : Option APIError
  deriving DecidableEq

def Dispatcher.onRequestRoutePath (d : Dispatcher unicode η ρ σ) (rawPath : Bytes) : Resolution :=
  match d.relativePath rawPath with
  | .ok routePath => ⟨routePath, false, none⟩
  | .error failure =>
    let path := before questionMark rawPath
    if path.head? ≠ some slash then ⟨[], false, some failure⟩ else ⟨path, true, some failure⟩

/-! ## The endpoint pipeline -/

/-- A hook without matcher always applies. -/
def matchHook (matcher : Option (Stage η σ Bool)) (ctx : Context η σ) : Except Failure Bool × Context η σ :=
  match matcher with
  | none => (.ok true, ctx)
  | some matcher =>
    let (matched, request, values) := matcher ctx
    (matched.mapError (fun _ => hookMatcherError), { ctx with request, values })

/-- `none` when no before hook ended the dispatch. -/
def runBeforeHooks (host : Host η ρ σ) : List (BeforeHook η ρ σ) → Context η σ → Option (Outcome ρ) × Context η σ
  | [], ctx => (none, ctx)
  | hook :: rest, ctx =>
    match matchHook hook.matcher ctx with
    | (.error failure, ctx) => (some (.fail failure), ctx)
    | (.ok false, ctx) => runBeforeHooks host rest ctx
    | (.ok true, ctx) =>
      if host.cancelled ctx.values then (some (.fail requestCancelled), ctx)
      else
        match ctx.perform .beforeHook hook.handler with
        | (.error failure, ctx) => (some (.fail failure), ctx)
        | (.ok (some response), ctx) => (some (.answer response), ctx)
        | (.ok none, ctx) => runBeforeHooks host rest ctx

/-- Endpoint middleware, then the handler. A validated endpoint lacks neither. -/
def runEndpointHandler (host : Host η ρ σ) (endpoint : Endpoint η) :
    List (Option η) → Context η σ → Outcome ρ × Context η σ
  | [], ctx =>
    match endpoint.handler with
    | none => (.fail .unknown, ctx)
    | some handler =>
      match ctx.perform (.handler endpoint) (host.handle handler) with
      | (.error failure, ctx) => (.fail failure, ctx)
      | (.ok response, ctx) => (.answer response, ctx)
  | none :: _, ctx =>
    (.fail (internalError "ENDPOINT_MIDDLEWARE_REQUIRED" "Endpoint middleware is required"), ctx)
  | some middleware :: rest, ctx =>
    match ctx.perform .endpointMiddleware (host.use middleware) with
    | (.error failure, ctx) => (.fail failure, ctx)
    | (.ok (some response), ctx) => (.answer response, ctx)
    | (.ok none, ctx) => runEndpointHandler host endpoint rest ctx

/-- After hooks see the current outcome and may replace it. A typed error lets
later hooks replace it in turn, any other ends the loop. -/
def runAfterHooks (host : Host η ρ σ) : List (AfterHook η ρ σ) → Outcome ρ → Context η σ → Outcome ρ × Context η σ
  | [], outcome, ctx => (outcome, ctx)
  | hook :: rest, outcome, ctx =>
    match matchHook hook.matcher ctx with
    | (.error failure, ctx) => (.fail failure, ctx)
    | (.ok false, ctx) => runAfterHooks host rest outcome ctx
    | (.ok true, ctx) =>
      if host.cancelled ctx.values then (.fail requestCancelled, ctx)
      else
        match ctx.perform .afterHook (hook.handler outcome) with
        | (.error .unknown, ctx) => (.fail .unknown, ctx)
        | (.error (.api error), ctx) => runAfterHooks host rest (.fail (.api error)) ctx
        | (.ok (some response), ctx) => runAfterHooks host rest (.answer response) ctx
        | (.ok none, ctx) => runAfterHooks host rest outcome ctx

def Dispatcher.runEndpointPipeline (d : Dispatcher unicode η ρ σ) (host : Host η ρ σ) (endpoint : Endpoint η)
    (ctx : Context η σ) : Outcome ρ × Context η σ :=
  match runBeforeHooks host d.beforeHooks ctx with
  | (some outcome, ctx) => (outcome, ctx)
  | (none, ctx) =>
    if host.cancelled ctx.values then (.fail requestCancelled, ctx)
    else
      match runEndpointHandler host endpoint endpoint.use ctx with
      | (⟨response, some .unknown⟩, ctx) => (⟨response, some .unknown⟩, ctx)
      | (outcome, ctx) => runAfterHooks host d.afterHooks outcome ctx

/-! ## Middleware and dispatch -/

def Script.run (following : Context η σ → Outcome ρ × Context η σ) :
    Script ρ σ → Context η σ → Outcome ρ × Context η σ
  | .finish outcome request values, ctx => (outcome, { ctx with request, values })
  | .next request values resume, ctx =>
    let (outcome, ctx) := following { ctx with request, values }
    (resume outcome ctx.request ctx.values).run following ctx

/-- The end of the middleware chain: match the route path and run the endpoint. -/
def Dispatcher.route (d : Dispatcher unicode η ρ σ) (host : Host η ρ σ) (ctx : Context η σ) :
    Outcome ρ × Context η σ :=
  match d.registry.find ctx.request.method ctx.routePath d.skipTrailingSlashes with
  | .error error => (.fail (.api error), ctx)
  | .ok found => d.runEndpointPipeline host found.endpoint { ctx with endpoint := some found }

def Dispatcher.chain (d : Dispatcher unicode η ρ σ) (host : Host η ρ σ) :
    List (Middleware unicode η ρ σ) → Context η σ → Outcome ρ × Context η σ
  | [], ctx => d.route host ctx
  | middleware :: rest, ctx =>
    if host.cancelled ctx.values then (.fail requestCancelled, ctx)
    else (middleware.handler ctx).run (d.chain host rest) { ctx with trace := ctx.trace ++ [.middleware] }

def Dispatcher.runMiddleware (d : Dispatcher unicode η ρ σ) (host : Host η ρ σ) (ctx : Context η σ) :
    Outcome ρ × Context η σ :=
  match decodeRequestPath ctx.routePath with
  | none => (.fail (.api invalidPath), ctx)
  | some segments =>
    let matching := d.middleware.filter fun middleware =>
      (middleware.pattern.matchRequest segments d.skipTrailingSlashes).isSome
    d.chain host matching ctx

/-- The loop over onRequest hooks: the outcome of the hook that ended the
dispatch, or the resolution of the path that stands at its end. -/
def Dispatcher.runOnRequest (d : Dispatcher unicode η ρ σ) (host : Host η ρ σ) :
    List (Stage η σ (OnRequestResult ρ)) → Resolution → Context η σ → Except (Outcome ρ) Resolution × Context η σ
  | [], resolution, ctx => (.ok resolution, ctx)
  | hook :: rest, resolution, ctx =>
    if host.cancelled ctx.values then (.error (.fail requestCancelled), ctx)
    else
      match ctx.perform .onRequest hook with
      | (.error failure, ctx) => (.error (.fail failure), ctx)
      | (.ok ⟨some _, some _⟩, ctx) => (.error (.fail invalidOnRequestResult), ctx)
      | (.ok ⟨none, some response⟩, ctx) => (.error (.answer response), ctx)
      | (.ok ⟨none, none⟩, ctx) => d.runOnRequest host rest resolution ctx
      | (.ok ⟨some request, none⟩, ctx) =>
        match d.onRequestRoutePath request.RawPath with
        | ⟨_, false, some failure⟩ => (.error (.fail (.api failure)), { ctx with request })
        | replaced => d.runOnRequest host rest replaced { ctx with request, routePath := replaced.routePath }

/-- The part of the dispatch before the response is finished. -/
def Dispatcher.run (d : Dispatcher unicode η ρ σ) (host : Host η ρ σ) (request : Request) (ctx : Context η σ) :
    Outcome ρ × Context η σ :=
  match d.onRequestRoutePath request.RawPath with
  | ⟨_, false, some failure⟩ => (.fail (.api failure), ctx)
  | resolution =>
    let ctx := { ctx with routePath := resolution.routePath }
    if resolution.routePath ∈ d.disabled ∧ resolution.outsideBasePath = false then (.fail (.api notFound), ctx)
    else
      match d.runOnRequest host d.onRequest resolution ctx with
      | (.error outcome, ctx) => (outcome, ctx)
      | (.ok ⟨_, true, some failure⟩, ctx) => (.fail (.api failure), ctx)
      | (.ok _, ctx) => d.runMiddleware host ctx

def finishHTTP (host : Host η ρ σ) : List (Outcome ρ → Stage η σ (Option ρ)) → Outcome ρ → Context η σ →
    Outcome ρ × Context η σ
  | [], outcome, ctx => (outcome, ctx)
  | hook :: rest, outcome, ctx =>
    if host.cancelled ctx.values then (.fail requestCancelled, ctx)
    else
      match ctx.perform .onResponse (hook outcome) with
      | (.error failure, ctx) => (.fail failure, ctx)
      | (.ok (some response), ctx) => finishHTTP host rest { outcome with response := some response } ctx
      | (.ok none, ctx) => finishHTTP host rest outcome ctx

def Dispatcher.newContext (d : Dispatcher unicode η ρ σ) (request : Request) (values : σ) :
    Except Failure Unit × Context η σ :=
  match d.initializeContext with
  | none => (.ok (), { request, values })
  | some install =>
    let (result, request, values) := install { request, values }
    (result, { request, values })

def Dispatcher.dispatch (d : Dispatcher unicode η ρ σ) (host : Host η ρ σ) (request : Request) (values : σ) :
    Outcome ρ × Context η σ :=
  match d.newContext request values with
  | (.error failure, ctx) => finishHTTP host d.onResponse (.fail failure) ctx
  | (.ok (), ctx) =>
    let (outcome, ctx) := d.run host request ctx
    finishHTTP host d.onResponse outcome ctx

end

end singleauth.engine
