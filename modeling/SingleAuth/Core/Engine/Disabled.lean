import SingleAuth.Core.Engine.Dispatcher

open bytes fallible singleauth.contract

namespace singleauth.engine

section

variable {unicode : Unicode} {η ρ σ : Type}

/-! ## Stages that run no handler -/

/-- The route path is kept and no handler has run in between. -/
structure Context.Quiet (first second : Context η σ) : Prop where
  routePath : second.routePath = first.routePath
  handlers : ∀ endpoint, .handler endpoint ∈ second.trace → Event.handler endpoint ∈ first.trace

theorem Context.Quiet.refl (ctx : Context η σ) : ctx.Quiet ctx := ⟨rfl, fun _ h => h⟩

variable {first second ctx : Context η σ} {d : Dispatcher unicode η ρ σ} {endpoint : Endpoint η} {host : Host η ρ σ}
  {request : Request}

theorem Context.Quiet.trans {third : Context η σ} (hfirst : first.Quiet second)
    (hsecond : second.Quiet third) : first.Quiet third :=
  ⟨hsecond.routePath.trans hfirst.routePath, fun endpoint h => hfirst.handlers endpoint (hsecond.handlers endpoint h)⟩

variable {next : Context η σ} {path : Bytes}

theorem perform_quiet {α : Type} {event : Event η} {stage : Stage η σ α}
    {result : Except Failure α} (hevent : ∀ endpoint, event ≠ .handler endpoint)
    (h : ctx.perform event stage = (result, next)) : ctx.Quiet next := by
  cases h
  refine ⟨rfl, fun endpoint hmem => ?_⟩
  rcases List.mem_append.mp hmem with hold | hnew
  · exact hold
  · rw [List.mem_singleton] at hnew
    exact absurd hnew.symm (hevent endpoint)

theorem matchHook_quiet {matcher : Option (Stage η σ Bool)} {result : Except Failure Bool}
    (h : matchHook matcher ctx = (result, next)) : ctx.Quiet next := by
  cases matcher <;> cases h <;> exact ⟨rfl, fun _ h => h⟩

theorem runBeforeHooks_quiet (host : Host η ρ σ) (hooks : List (BeforeHook η ρ σ)) (ctx : Context η σ) :
    ctx.Quiet (runBeforeHooks host hooks ctx).2 := by
  induction hooks generalizing ctx with
  | nil => exact .refl ctx
  | cons hook rest ih =>
    unfold runBeforeHooks
    split
    · next hmatch => exact matchHook_quiet hmatch
    · next hmatch => exact (matchHook_quiet hmatch).trans (ih _)
    rename_i hmatch
    apply (matchHook_quiet hmatch).trans
    split
    · exact .refl _
    split
    · next hperform => exact perform_quiet (by simp) hperform
    · next hperform => exact perform_quiet (by simp) hperform
    · next hperform => exact (perform_quiet (by simp) hperform).trans (ih _)

theorem runAfterHooks_quiet (host : Host η ρ σ) (hooks : List (AfterHook η ρ σ)) (outcome : Outcome ρ)
    (ctx : Context η σ) : ctx.Quiet (runAfterHooks host hooks outcome ctx).2 := by
  induction hooks generalizing outcome ctx with
  | nil => exact .refl ctx
  | cons hook rest ih =>
    unfold runAfterHooks
    split
    · next hmatch => exact matchHook_quiet hmatch
    · next hmatch => exact (matchHook_quiet hmatch).trans (ih _ _)
    rename_i hmatch
    apply (matchHook_quiet hmatch).trans
    split
    · exact .refl _
    split
    · next hperform => exact perform_quiet (by simp) hperform
    all_goals
      next hperform => exact (perform_quiet (by simp) hperform).trans (ih _ _)

/-! ## Handlers run on the match of the route path -/

/-- All functions of the endpoint are there, as of every one that was validated. -/
def Endpoint.complete (endpoint : Endpoint η) : Bool := endpoint.handler.isSome && endpoint.use.all Option.isSome

/-- The registry finds the endpoint for the path, under some method. -/
def Dispatcher.Reaches (d : Dispatcher unicode η ρ σ) (routePath : Bytes) (endpoint : Endpoint η) : Prop :=
  endpoint.complete = true ∧
    ∃ method found, d.registry.find method routePath d.skipTrailingSlashes = .ok found ∧ found.endpoint = endpoint

/-- Every handler that has run belongs to an endpoint that is found for the route path of the context. -/
def Context.Routed (d : Dispatcher unicode η ρ σ) (ctx : Context η σ) : Prop :=
  ∀ endpoint, .handler endpoint ∈ ctx.trace → d.Reaches ctx.routePath endpoint

theorem Context.Routed.quiet (hrouted : first.Routed d) (hquiet : first.Quiet second) : second.Routed d := by
  intro endpoint hmem
  rw [hquiet.routePath]
  exact hrouted endpoint (hquiet.handlers endpoint hmem)

/-- A stage keeps the route path and runs only handlers matched on it. -/
def Keeps (d : Dispatcher unicode η ρ σ) (stage : Context η σ → Outcome ρ × Context η σ) : Prop :=
  ∀ ctx, ctx.Routed d → (stage ctx).2.routePath = ctx.routePath ∧ (stage ctx).2.Routed d

private theorem Context.Quiet.keeps (hquiet : first.Quiet second) (hrouted : first.Routed d) :
    second.routePath = first.routePath ∧ second.Routed d :=
  ⟨hquiet.routePath, hrouted.quiet hquiet⟩

theorem runEndpointHandler_keeps (host : Host η ρ σ)
    (uses : List (Option η)) (hrouted : ctx.Routed d) {method : String} {found : RouteMatch η}
    (hfound : d.registry.find method ctx.routePath d.skipTrailingSlashes = .ok found)
    (hendpoint : found.endpoint = endpoint)
    (huse : uses.all Option.isSome = true → endpoint.use.all Option.isSome = true) :
    (runEndpointHandler host endpoint uses ctx).2.routePath = ctx.routePath ∧
      (runEndpointHandler host endpoint uses ctx).2.Routed d := by
  induction uses generalizing ctx with
  | nil =>
    unfold runEndpointHandler
    split
    · exact ⟨rfl, hrouted⟩
    rename_i handler hhandler
    -- The only step that adds a handler to the trace: the one found for the route path.
    have hrun : (ctx.perform (.handler endpoint) (host.handle handler)).2.routePath = ctx.routePath ∧
        (ctx.perform (.handler endpoint) (host.handle handler)).2.Routed d := by
      refine ⟨rfl, fun other hmem => ?_⟩
      rcases List.mem_append.mp hmem with hold | hnew
      · exact hrouted other hold
      · rw [List.mem_singleton] at hnew
        cases hnew
        exact ⟨by rw [Endpoint.complete, hhandler, huse rfl]; rfl, method, found, hfound, hendpoint⟩
    split <;> next hperform => rw [hperform] at hrun; exact hrun
  | cons use rest ih =>
    unfold runEndpointHandler
    split
    · next h => cases h
    · exact ⟨rfl, hrouted⟩
    rename_i heq
    cases heq
    split
    · next hperform => exact (perform_quiet (by simp) hperform).keeps hrouted
    · next hperform => exact (perform_quiet (by simp) hperform).keeps hrouted
    rename_i hperform
    have hquiet := perform_quiet (by simp) hperform
    rw [← hquiet.routePath] at hfound ⊢
    exact ih (hrouted.quiet hquiet) hfound huse

theorem route_keeps : Keeps d (d.route host) := by
  intro ctx hrouted
  unfold Dispatcher.route
  split
  · exact ⟨rfl, hrouted⟩
  rename_i found hfound
  have hmatched : ctx.Quiet { ctx with endpoint := some found } := ⟨rfl, fun _ h => h⟩
  have hbefore := hmatched.trans (runBeforeHooks_quiet host d.beforeHooks _)
  unfold Dispatcher.runEndpointPipeline
  split
  · next hrun =>
    rw [hrun] at hbefore
    exact hbefore.keeps hrouted
  rename_i hrun
  rw [hrun] at hbefore
  split
  · exact hbefore.keeps hrouted
  rw [← hbefore.routePath] at hfound ⊢
  have hhandler := runEndpointHandler_keeps host found.endpoint.use (hrouted.quiet hbefore) hfound rfl id
  split
  · next hran =>
    rw [hran] at hhandler
    exact hhandler
  rename_i outcome ran _ hran
  rw [hran] at hhandler
  have hafter := runAfterHooks_quiet host d.afterHooks outcome ran
  exact ⟨hafter.routePath.trans hhandler.1, hhandler.2.quiet hafter⟩

theorem Script.run_keeps {following : Context η σ → Outcome ρ × Context η σ}
    (hfollowing : Keeps d following) (script : Script ρ σ) : Keeps d (script.run following) := by
  induction script with
  | finish outcome request values => exact fun ctx hrouted => ⟨rfl, hrouted⟩
  | next request values resume ih =>
    intro ctx hrouted
    have hcalled := hfollowing { ctx with request, values } hrouted
    obtain ⟨hpath, hresumed⟩ := ih (following { ctx with request, values }).1 _ _ _ hcalled.2
    exact ⟨hpath.trans hcalled.1, hresumed⟩

theorem chain_keeps (middleware : List (Middleware unicode η ρ σ)) : Keeps d (d.chain host middleware) := by
  induction middleware with
  | nil => exact route_keeps
  | cons first rest ih =>
    intro ctx hrouted
    unfold Dispatcher.chain
    split
    · exact ⟨rfl, hrouted⟩
    have hentered : ctx.Quiet { ctx with trace := ctx.trace ++ [.middleware] } := by
      refine ⟨rfl, fun endpoint hmem => ?_⟩
      simpa using hmem
    exact Script.run_keeps ih (first.handler ctx) _ (hrouted.quiet hentered)

theorem runMiddleware_keeps (host : Host η ρ σ) : Keeps d (d.runMiddleware host) := by
  intro ctx hrouted
  unfold Dispatcher.runMiddleware
  split
  · exact ⟨rfl, hrouted⟩
  · exact chain_keeps _ ctx hrouted

/-! ## Request hooks -/

/-- The three ways in which the path of a request resolves. -/
theorem onRequestRoutePath_cases (d : Dispatcher unicode η ρ σ) (rawPath : Bytes) :
    (∃ routePath, d.relativePath rawPath = .ok routePath ∧ d.onRequestRoutePath rawPath = ⟨routePath, false, none⟩) ∨
      (∃ failure, (before questionMark rawPath).head? ≠ some slash ∧
        d.onRequestRoutePath rawPath = ⟨[], false, some failure⟩) ∨
      ∃ path failure, d.relativePath rawPath = .error failure ∧
        d.onRequestRoutePath rawPath = ⟨path, true, some failure⟩ := by
  unfold Dispatcher.onRequestRoutePath
  cases hrelative : d.relativePath rawPath with
  | ok routePath => exact .inl ⟨routePath, rfl, rfl⟩
  | error failure =>
    dsimp only
    split
    · next hslash => exact .inr (.inl ⟨failure, hslash, rfl⟩)
    · exact .inr (.inr ⟨_, failure, rfl, rfl⟩)

/-- The hook puts no other requests in place than those on the given paths. -/
def ReplacesWithin (paths : Bytes → Prop) (hook : Stage η σ (OnRequestResult ρ)) : Prop :=
  ∀ ctx result request, (hook ctx).1 = .ok result → result.request = some request → paths request.RawPath

/-- The resolution of a path that the dispatch goes on with. -/
structure Dispatcher.Resolves (d : Dispatcher unicode η ρ σ) (rawPath : Bytes) (resolution : Resolution) : Prop where
  resolution_eq : d.onRequestRoutePath rawPath = resolution
  goesOn : ∀ path failure, resolution ≠ ⟨path, false, some failure⟩

/-- The path that stands after the hooks is one of those that they may put in place. -/
theorem runOnRequest_origin {paths : Bytes → Prop} (host : Host η ρ σ) (ctx : Context η σ) {rawPath : Bytes}
    (hraw : paths rawPath)
    {hooks : List (Stage η σ (OnRequestResult ρ))} (hhooks : ∀ hook ∈ hooks, ReplacesWithin paths hook)
    {resolution : Resolution} (hresolves : d.Resolves rawPath resolution)
    (hpath : ctx.routePath = resolution.routePath) :
    (∀ endpoint, .handler endpoint ∈ (d.runOnRequest host hooks resolution ctx).2.trace →
      Event.handler endpoint ∈ ctx.trace) ∧
    ∀ final, (d.runOnRequest host hooks resolution ctx).1 = .ok final →
      (d.runOnRequest host hooks resolution ctx).2.routePath = final.routePath ∧
        ∃ rawPath, paths rawPath ∧ d.Resolves rawPath final := by
  induction hooks generalizing ctx resolution rawPath with
  | nil =>
    refine ⟨fun _ h => h, fun final h => ?_⟩
    cases h
    exact ⟨hpath, rawPath, hraw, hresolves⟩
  | cons hook rest ih =>
    have hrest := fun other hmem => hhooks other (List.mem_cons_of_mem _ hmem)
    unfold Dispatcher.runOnRequest
    split
    · exact ⟨fun _ h => h, fun final h => by cases h⟩
    split
    · next hperform => exact ⟨(perform_quiet (by simp) hperform).handlers, fun final h => by cases h⟩
    · next hperform => exact ⟨(perform_quiet (by simp) hperform).handlers, fun final h => by cases h⟩
    · next hperform => exact ⟨(perform_quiet (by simp) hperform).handlers, fun final h => by cases h⟩
    · next next hperform =>
      have hquiet := perform_quiet (by simp) hperform
      obtain ⟨hhandlers, hfinal⟩ := ih _ hraw hrest hresolves (hquiet.routePath.trans hpath)
      exact ⟨fun endpoint hmem => hquiet.handlers endpoint (hhandlers endpoint hmem), hfinal⟩
    rename_i replaced next hperform
    have hquiet := perform_quiet (by simp) hperform
    have hwithin := hhooks hook List.mem_cons_self ctx _ replaced (congrArg Prod.fst hperform) rfl
    split
    · exact ⟨hquiet.handlers, fun final h => by cases h⟩
    · next hgoesOn =>
      obtain ⟨hhandlers, hfinal⟩ := ih { next with
        request := replaced, routePath := (d.onRequestRoutePath replaced.RawPath).routePath } hwithin hrest
        ⟨rfl, hgoesOn⟩ rfl
      exact ⟨fun endpoint hmem => hquiet.handlers endpoint (hhandlers endpoint hmem), hfinal⟩

/-! ## Disabled paths -/

/-- A route path begins with a slash and has no query. -/
theorem relativePath_ok {rawPath routePath : Bytes}
    (h : d.relativePath rawPath = .ok routePath) : routePath.head? = some slash ∧ questionMark ∉ routePath := by
  unfold Dispatcher.relativePath at h
  dsimp only at h
  have hquery := not_mem_before questionMark rawPath
  split at h
  · cases h
  rename_i hslash
  split at h
  · cases h
    exact ⟨not_not.mp hslash, hquery⟩
  split at h
  · next hprefix =>
    cases h
    obtain ⟨rest, hrest⟩ := List.isPrefixOf_iff_prefix.mp hprefix
    rw [← hrest, List.append_assoc] at hquery ⊢
    rw [trimPrefix_append]
    exact ⟨rfl, fun hmem => hquery (List.mem_append_right _ hmem)⟩
  · cases h

theorem newContext_trace (d : Dispatcher unicode η ρ σ) (request : Request) (values : σ) :
    (d.newContext request values).2.trace = [] := by
  unfold Dispatcher.newContext
  split <;> rfl

/-- Hooks on the response add nothing but themselves to the trace. -/
theorem finishHTTP_trace (host : Host η ρ σ) (hooks : List (Outcome ρ → Stage η σ (Option ρ))) (outcome : Outcome ρ)
    (ctx : Context η σ) :
    ∀ event ∈ (finishHTTP host hooks outcome ctx).2.trace, event ∈ ctx.trace ∨ event = .onResponse := by
  induction hooks generalizing outcome ctx with
  | nil => exact fun event hmem => .inl hmem
  | cons hook rest ih =>
    have hperformed : ∀ event ∈ (ctx.perform .onResponse (hook outcome)).2.trace,
        event ∈ ctx.trace ∨ event = .onResponse := by
      intro event hmem
      simpa [Context.perform] using hmem
    unfold finishHTTP
    split
    · exact fun event hmem => .inl hmem
    split
    · next hperform =>
      rw [hperform] at hperformed
      exact hperformed
    all_goals
      next hperform =>
      rw [hperform] at hperformed
      intro event hmem
      rcases ih _ _ event hmem with hold | hnew
      · exact hperformed event hold
      · exact .inr hnew

/-- The request is answered before any hook has seen it: its path is disabled, or it is none. -/
def Dispatcher.Blocks (d : Dispatcher unicode η ρ σ) (rawPath : Bytes) : Prop :=
  (∃ routePath ∈ d.disabled, d.relativePath rawPath = .ok routePath) ∨
    (before questionMark rawPath).head? ≠ some slash

/-- A handler that runs is found for the path as it arrived or for one that a hook has put in place. -/
theorem run_routed {paths : Bytes → Prop} (hhooks : ∀ hook ∈ d.onRequest, ReplacesWithin paths hook)
    (hraw : paths request.RawPath) (hstart : ctx.trace = [])
    (hran : .handler endpoint ∈ (d.run host request ctx).2.trace) :
    ¬ d.Blocks request.RawPath ∧
      ∃ rawPath routePath, paths rawPath ∧ d.relativePath rawPath = .ok routePath ∧ d.Reaches routePath endpoint := by
  have hnone : .handler endpoint ∉ ctx.trace := by simp [hstart]
  unfold Dispatcher.run at hran
  split at hran
  · exact absurd hran hnone
  rename_i hgoesOn
  dsimp only at hran
  split at hran
  · exact absurd hran hnone
  rename_i hallowed
  obtain ⟨hhandlers, hfinal⟩ := runOnRequest_origin host
    { ctx with routePath := (d.onRequestRoutePath request.RawPath).routePath } hraw hhooks ⟨rfl, hgoesOn⟩ rfl
  refine ⟨?_, ?_⟩
  · rintro (⟨routePath, hdisabled, hrelative⟩ | hslash)
    · apply hallowed
      simp only [Dispatcher.onRequestRoutePath, hrelative]
      exact ⟨hdisabled, trivial⟩
    · refine hgoesOn [] invalidPath ?_
      simp [Dispatcher.onRequestRoutePath, Dispatcher.relativePath, hslash]
  split at hran
  · next hrun =>
    rw [hrun] at hhandlers
    exact absurd (hhandlers _ hran) hnone
  · next hrun =>
    rw [hrun] at hhandlers
    exact absurd (hhandlers _ hran) hnone
  rename_i final after houtside hrun
  rw [hrun] at hhandlers hfinal
  obtain ⟨hpath, rawPath, hwithin, hresolves⟩ := hfinal final rfl
  have hrouted : after.Routed d := fun other hmem => absurd (hhandlers other hmem) (by simp [hstart])
  obtain ⟨hkept, hmatched⟩ := runMiddleware_keeps host after hrouted
  have hreaches := hmatched endpoint hran
  rw [hkept, hpath] at hreaches
  rcases onRequestRoutePath_cases d rawPath with ⟨routePath, hrelative, hok⟩ | ⟨failure, _, hfails⟩ |
    ⟨path, failure, _, hfails⟩
  · rw [← hresolves.resolution_eq, hok] at hreaches
    exact ⟨rawPath, routePath, hwithin, hrelative, hreaches⟩
  · exact absurd (hresolves.resolution_eq.symm.trans hfails) (hresolves.goesOn _ _)
  · exact absurd (hresolves.resolution_eq.symm.trans hfails) (houtside _ _)

theorem dispatch_routed (paths : Bytes → Prop) {values : σ} (hhooks : ∀ hook ∈ d.onRequest, ReplacesWithin paths hook)
    (hraw : paths request.RawPath) (hran : .handler endpoint ∈ (d.dispatch host request values).2.trace) :
    ¬ d.Blocks request.RawPath ∧
      ∃ rawPath routePath, paths rawPath ∧ d.relativePath rawPath = .ok routePath ∧ d.Reaches routePath endpoint := by
  have hstart := newContext_trace d request values
  unfold Dispatcher.dispatch at hran
  split at hran
  · next failure ctx hcontext =>
    rw [hcontext] at hstart
    dsimp only at hstart
    have hold := (finishHTTP_trace host d.onResponse (.fail failure) ctx _ hran).resolve_right nofun
    simp [hstart] at hold
  · next ctx hcontext =>
    rw [hcontext] at hstart
    exact run_routed hhooks hraw hstart ((finishHTTP_trace host d.onResponse _ _ _ hran).resolve_right nofun)

/-! ## When disabled paths are out of reach -/

/-- The host code that a dispatcher is given. -/
structure Stages (unicode : Unicode) (η ρ σ : Type) where
  initializeContext : Option (Stage η σ Unit) := none
  onRequest : List (Stage η σ (OnRequestResult ρ)) := []
  middleware : List (Middleware unicode η ρ σ) := []
  beforeHooks : List (BeforeHook η ρ σ) := []
  afterHooks : List (AfterHook η ρ σ) := []
  onResponse : List (Outcome ρ → Stage η σ (Option ρ)) := []

def Dispatcher.withStages (d : Dispatcher unicode η ρ σ) (stages : Stages unicode η ρ σ) : Dispatcher unicode η ρ σ :=
  { d with
    initializeContext := stages.initializeContext
    onRequest := stages.onRequest
    middleware := stages.middleware
    beforeHooks := stages.beforeHooks
    afterHooks := stages.afterHooks
    onResponse := stages.onResponse }

/-- Whatever host code there is, no handler of an endpoint on a disabled path runs for a request on the path,
as long as hooks put only requests on the same path or on other given ones in its place. -/
def Dispatcher.KeepsDisabled (d : Dispatcher unicode η ρ σ) (rawPath : Bytes) (paths : Bytes → Prop) : Prop :=
  ∀ (stages : Stages unicode η ρ σ) (host : Host η ρ σ) (request : Request) (values : σ) (endpoint : Endpoint η),
    (∀ hook ∈ stages.onRequest, ReplacesWithin (fun path => path = rawPath ∨ paths path) hook) →
      request.RawPath = rawPath → endpoint.path ∈ d.disabled →
        .handler endpoint ∉ ((d.withStages stages).dispatch host request values).2.trace

/-- One hook, which puts another request in place. -/
def opening (replaced : Request) : Stages unicode η ρ σ where
  onRequest := [fun ctx => (.ok { request := some replaced }, ctx.request, ctx.values)]

def openHost : Host η ρ σ where
  use _ ctx := (.ok none, ctx.request, ctx.values)
  handle _ ctx := (.error .unknown, ctx.request, ctx.values)
  cancelled _ := false

theorem runEndpointHandler_runs (endpoint : Endpoint η) {handler : η} (hhandler : endpoint.handler = some handler)
    (uses : List (Option η)) (huses : uses.all Option.isSome = true) (ctx : Context η σ) :
    .handler endpoint ∈ (runEndpointHandler (openHost : Host η ρ σ) endpoint uses ctx).2.trace := by
  induction uses generalizing ctx with
  | nil => simp [runEndpointHandler, hhandler, Context.perform, openHost]
  | cons use rest ih =>
    cases use with
    | none => cases huses
    | some middleware => exact ih huses _

theorem runMiddleware_runs (d : Dispatcher unicode η ρ σ) (replaced : Request) {found : RouteMatch η}
    (hcomplete : found.endpoint.complete = true)
    (hfound : d.registry.find ctx.request.method ctx.routePath d.skipTrailingSlashes = .ok found) :
    .handler found.endpoint ∈ ((d.withStages (opening replaced)).runMiddleware openHost ctx).2.trace := by
  obtain ⟨segments, hdecoded, _⟩ := find_ok hfound
  obtain ⟨hhandler, huses⟩ := Bool.and_eq_true_iff.mp hcomplete
  obtain ⟨handler, hhandler⟩ := Option.isSome_iff_exists.mp hhandler
  have hruns := runEndpointHandler_runs (ρ := ρ) found.endpoint hhandler found.endpoint.use huses
    { ctx with endpoint := some found }
  have hroute : (d.withStages (opening replaced)).route openHost ctx =
      (d.withStages (opening replaced)).runEndpointPipeline openHost found.endpoint
        { ctx with endpoint := some found } := by
    unfold Dispatcher.route
    rw [show (d.withStages (opening replaced)).registry.find ctx.request.method ctx.routePath
      (d.withStages (opening replaced)).skipTrailingSlashes = .ok found from hfound]
  unfold Dispatcher.runMiddleware
  rw [hdecoded]
  change _ ∈ ((d.withStages (opening replaced)).route openHost ctx).2.trace
  rw [hroute]
  unfold Dispatcher.runEndpointPipeline
  simp only [Dispatcher.withStages, opening, runBeforeHooks, runAfterHooks]
  split
  · next hcancelled => cases hcancelled
  · split <;> next hrun => rw [hrun] at hruns; exact hruns

theorem rawPath_of_ne {method : String} (h : path ≠ []) : Request.RawPath { method, rawPath := path } = path := if_neg h

/-- The hook leads to its own path, under its method. -/
theorem opening_runs (request : Request) {routePath : Bytes} (hblocks : ¬ d.Blocks request.RawPath)
    (hrelative : d.relativePath path = .ok routePath) (hreaches : d.Reaches routePath endpoint) (values : σ) :
    ∃ method, .handler endpoint ∈ ((d.withStages (opening { method, rawPath := path })).dispatch openHost request
      values).2.trace := by
  obtain ⟨hcomplete, method, found, hfound, rfl⟩ := hreaches
  refine ⟨method, ?_⟩
  set opened := d.withStages (opening { method, rawPath := path }) with hopened
  have hresolved : opened.onRequestRoutePath (Request.RawPath { method, rawPath := path }) =
      ⟨routePath, false, none⟩ := by
    rw [rawPath_of_ne (by rintro rfl; cases hrelative), Dispatcher.onRequestRoutePath]
    rw [show opened.relativePath path = .ok routePath from hrelative]
  have hhooks : opened.onRequest = [fun ctx => (.ok { request := some { method, rawPath := path } }, ctx.request,
    ctx.values)] := rfl
  have hruns : ∀ resolution : Resolution, ∃ ctx, opened.runOnRequest openHost opened.onRequest resolution
      { request, values, routePath := resolution.routePath } = (.ok ⟨routePath, false, none⟩, ctx) ∧
      .handler found.endpoint ∈ (opened.runMiddleware openHost ctx).2.trace := by
    intro resolution
    rw [hhooks]
    simp only [Dispatcher.runOnRequest, Context.perform, openHost, Bool.false_eq_true, if_false]
    rw [hresolved]
    exact ⟨_, rfl, runMiddleware_runs d _ hcomplete hfound⟩
  change _ ∈ (opened.run openHost request { request, values }).2.trace
  unfold Dispatcher.run
  rcases onRequestRoutePath_cases d request.RawPath with ⟨own, hown, hok⟩ | ⟨failure, hslash, _⟩ |
    ⟨path, failure, herror, hfails⟩
  · have hok : opened.onRequestRoutePath request.RawPath = ⟨own, false, none⟩ := hok
    rw [hok]
    dsimp only
    rw [if_neg fun hdisabled => hblocks (.inl ⟨own, hdisabled.1, hown⟩)]
    obtain ⟨ctx, hran, hmem⟩ := hruns ⟨own, false, none⟩
    rw [hran]
    exact hmem
  · exact absurd (.inr hslash) hblocks
  · have hfails : opened.onRequestRoutePath request.RawPath = ⟨path, true, some failure⟩ := hfails
    rw [hfails]
    dsimp only
    rw [if_neg fun hdisabled => by cases hdisabled.2]
    obtain ⟨ctx, hran, hmem⟩ := hruns ⟨path, true, some failure⟩
    rw [hran]
    exact hmem

/-- Disabled paths are out of reach exactly when the request is blocked, or neither its path nor one that a hook
may put in place is routed to an endpoint on a disabled path. -/
theorem keepsDisabled_iff [Inhabited σ] (d : Dispatcher unicode η ρ σ) (rawPath : Bytes) (paths : Bytes → Prop) :
    d.KeepsDisabled rawPath paths ↔ d.Blocks rawPath ∨ ∀ path routePath endpoint, path = rawPath ∨ paths path →
      d.relativePath path = .ok routePath → endpoint.path ∈ d.disabled → ¬ d.Reaches routePath endpoint := by
  constructor
  · intro hkeeps
    by_contra hopen
    obtain ⟨hblocks, hopen⟩ := not_or.mp hopen
    simp only [not_forall, not_not] at hopen
    obtain ⟨path, routePath, endpoint, hpath, hrelative, hdisabled, hreaches⟩ := hopen
    have hraw : Request.RawPath { method := "", rawPath } = rawPath :=
      rawPath_of_ne (by rintro rfl; exact hblocks (.inr nofun))
    obtain ⟨method, hran⟩ := opening_runs { method := "", rawPath } (hraw.symm ▸ hblocks) hrelative hreaches
      (default : σ)
    refine hkeeps _ _ _ _ _ (fun hook hmem ctx result request hok hrequest => ?_) hraw hdisabled hran
    rw [List.mem_singleton.mp hmem] at hok
    cases hok
    cases hrequest
    rw [rawPath_of_ne (by rintro rfl; cases hrelative)]
    exact hpath
  · rintro hguarded stages host request values endpoint hhooks rfl hdisabled hran
    obtain ⟨hblocks, path, routePath, hpath, hrelative, hreaches⟩ := dispatch_routed (d := d.withStages stages) _ hhooks
      (.inl rfl) hran
    rcases hguarded with hblocked | hguarded
    · exact hblocks hblocked
    · exact hguarded path routePath endpoint hpath hrelative hdisabled hreaches

end

/-! A registry with one endpoint on a disabled path. -/

private def disabledEndpoint : Endpoint Unit :=
  { name := "disabled", path := ascii "/disabled", methods := ["GET"], handler := some () }

private def textHost : Host Unit String Unit where
  use _ ctx := (.ok none, ctx.request, ())
  handle _ ctx := (.ok "disabled", ctx.request, ())
  cancelled _ := false

private def disabling : DispatcherOptions Unit String Unit := { disabledPaths := [ascii "/disabled"] }

private def getRequest (rawPath : String) : Request := { method := "GET", rawPath := ascii rawPath }

private def escapeReaches : Bool :=
  match newRegistry asciiUnicode [disabledEndpoint] [] with
  | .error _ => false
  | .ok registry =>
    match newDispatcher registry disabling with
    | .error _ => false
    | .ok d => decide (.handler disabledEndpoint ∈ (d.dispatch textHost (getRequest "/%64isabled") ()).2.trace)

/-- The handler of a disabled endpoint is reached through an escape. -/
theorem dispatch_reaches_disabled_handler :
    ¬ ∀ (core : List (Endpoint Unit)) (plugins : List (Plugin Unit)) (registry : Registry asciiUnicode Unit)
      (options : DispatcherOptions Unit String Unit) (d : Dispatcher asciiUnicode Unit String Unit)
      (host : Host Unit String Unit) (request : Request) (endpoint : Endpoint Unit),
      newRegistry asciiUnicode core plugins = .ok registry → newDispatcher registry options = .ok d →
        endpoint.path ∈ options.disabledPaths → .handler endpoint ∉ (d.dispatch host request ()).2.trace := by
  intro hclaim
  have hreaches : escapeReaches = true := by decide +kernel
  unfold escapeReaches at hreaches
  split at hreaches
  · cases hreaches
  rename_i registry hregistry
  split at hreaches
  · cases hreaches
  · next d hd =>
    exact hclaim _ _ registry disabling d textHost _ disabledEndpoint hregistry hd (by decide)
      (of_decide_eq_true hreaches)

end singleauth.engine
