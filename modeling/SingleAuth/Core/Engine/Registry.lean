import Mathlib.Data.List.Sort
import SingleAuth.Core.Contract
import SingleAuth.Core.Engine.Pattern
import SingleAuth.Lib.Text

open bytes fallible singleauth.contract

namespace singleauth.engine

/-- An endpoint declaration. `η` names the functions that declarations carry;
the other metadata, which only document generators read, is left out. -/
structure Endpoint (η : Type) where
  name : String
  path : Bytes
  methods : List String := []
  serverOnly : Bool := false
  use : List (Option η) := []
  /-- The metadata marks the endpoint as server-only. -/
  serverOnlyMetadata : Bool := false
  override : Bool := false
  handler : Option η
  pluginID : String := ""
  deriving DecidableEq

/-- The part of a plugin descriptor that the registry reads. -/
structure Plugin (η : Type) where
  id : String
  endpoints : List (Endpoint η)

inductive RegistryErrorKind where
  | invalidEndpoint
  | duplicateEndpointName
  | duplicatePluginID
  deriving DecidableEq

structure EndpointConflict where
  path : Bytes
  (method existingEndpoint existingPlugin newEndpoint newPlugin : String)
  deriving DecidableEq

inductive RegistryError where
  | registry (kind : RegistryErrorKind) (pluginID endpoint message : String) (cause : Option PatternError)
  | conflict (conflicts : List EndpointConflict)
  deriving DecidableEq

/-- A routable endpoint with its compiled path. -/
structure RegisteredRoute (unicode : Unicode) (η : Type) where
  endpoint : Endpoint η
  pattern : RoutePattern
  methods : List String
  order : Nat
  compiled : compileRoutePattern unicode endpoint.path = .ok pattern

structure Registry (unicode : Unicode) (η : Type) where
  endpoints : List (Endpoint η)
  routes : List (RegisteredRoute unicode η)

def anyMethod : String := "*"

private def invalidMethod (message : String) : Except String (List String) := .error message

/-- The loop over declared methods. `seen` holds those met so far. -/
def normalizeMethodsFrom (unicode : Unicode) (count : Nat) (seen : List String) :
    List String → Except String (List String)
  | [] => .ok []
  | declared :: rest =>
    let method := unicode.toUpper (text.trimSpace declared)
    if method = "" then invalidMethod "endpoint method must not be empty"
    else if method ∈ seen then invalidMethod ("endpoint method is declared more than once: " ++ method)
    else if method = anyMethod ∧ count ≠ 1 then invalidMethod "wildcard method must be the only declared method"
    else do
      let methods ← normalizeMethodsFrom unicode count (method :: seen) rest
      .ok (method :: methods)

def normalizeMethods (unicode : Unicode) (methods : List String) : Except String (List String) :=
  if methods = [] then .ok [anyMethod] else normalizeMethodsFrom unicode methods.length [] methods

/-- A declaration that passed validation. An endpoint without a path has no
pattern. -/
structure ValidEndpoint (unicode : Unicode) (η : Type) where
  endpoint : Endpoint η
  pattern : Option RoutePattern
  methods : List String
  compiled : ∀ found, pattern = some found → compileRoutePattern unicode endpoint.path = .ok found
  routable : endpoint.serverOnly = false → pattern.isSome

def invalidEndpoint {η : Type} (endpoint : Endpoint η) (message : String) (cause : Option PatternError := none) :
    RegistryError :=
  .registry .invalidEndpoint endpoint.pluginID endpoint.name message cause

def validateEndpoint {η : Type} (unicode : Unicode) (declaration : Endpoint η) :
    Except RegistryError (ValidEndpoint unicode η) :=
  let serverOnly := declaration.serverOnly || declaration.serverOnlyMetadata
  let marked := { declaration with serverOnly, serverOnlyMetadata := serverOnly }
  if marked.name = "" then .error (invalidEndpoint marked "endpoint name must not be empty")
  else if marked.handler.isNone then .error (invalidEndpoint marked "endpoint handler must not be nil")
  else if marked.use.any Option.isNone then .error (invalidEndpoint marked "endpoint middleware must not be nil")
  else if marked.path = [] then
    if hserver : serverOnly = true then
      match normalizeMethods unicode marked.methods with
      | .error message => .error (invalidEndpoint marked message)
      | .ok methods =>
        .ok { endpoint := { marked with methods }, pattern := none, methods, compiled := by simp,
              routable := by simp [marked, hserver] }
    else .error (invalidEndpoint marked "pathless endpoint must be server-only")
  else
    match hcompiled : compileRoutePattern unicode marked.path with
    | .error cause => .error (invalidEndpoint marked "invalid endpoint path" (some cause))
    | .ok pattern =>
      match normalizeMethods unicode marked.methods with
      | .error message => .error (invalidEndpoint marked message)
      | .ok methods =>
        .ok { endpoint := { marked with methods }, pattern := some pattern, methods,
              compiled := by rintro _ ⟨⟩; exact hcompiled, routable := by simp }

def intersectMethods (left right : List String) : List String :=
  match left.contains anyMethod, right.contains anyMethod with
  | true, true => [anyMethod]
  | true, false => right
  | false, true => left
  | false, false => left.filter right.contains

def validateEndpointOverride {η : Type} (unicode : Unicode) (existing replacement : Endpoint η) :
    Except RegistryError Unit := do
  let old ← validateEndpoint unicode existing
  let new ← validateEndpoint unicode replacement
  require (old.endpoint.serverOnly = new.endpoint.serverOnly)
    (invalidEndpoint replacement "override must retain server-only routing mode")
  require (old.endpoint.path = new.endpoint.path) (invalidEndpoint replacement "override must retain endpoint path")
  require (old.methods.contains anyMethod ∨ ∀ method ∈ new.methods, method ≠ anyMethod ∧ old.methods.contains method)
    (invalidEndpoint replacement "override methods must be a subset of the original endpoint methods")

/-! ## Building the registry -/

def checkPluginIDs {η : Type} (seen : List String) : List (Plugin η) → Except RegistryError Unit
  | [] => .ok ()
  | plugin :: rest =>
    if plugin.id = "" then .error (.registry .duplicatePluginID "" "" "plugin id must not be empty" none)
    else if plugin.id ∈ seen then
      .error (.registry .duplicatePluginID plugin.id "" "plugin id is already registered" none)
    else checkPluginIDs (plugin.id :: seen) rest

/-- One plugin endpoint joins the declarations, or takes the place of the first
one of its name. -/
def declareEndpoint {η : Type} (unicode : Unicode) (declarations : List (Endpoint η)) (endpoint : Endpoint η) :
    Except RegistryError (List (Endpoint η)) :=
  if endpoint.override then
    match declarations.find? (fun declared => declared.name = endpoint.name) with
    | none => .error (invalidEndpoint endpoint "override target is not registered")
    | some existing => do
      validateEndpointOverride unicode existing endpoint
      .ok (declarations.set (declarations.findIdx (fun declared => declared.name = endpoint.name)) endpoint)
  else .ok (declarations ++ [endpoint])

def declarations {η : Type} (unicode : Unicode) (core : List (Endpoint η)) (plugins : List (Plugin η)) :
    Except RegistryError (List (Endpoint η)) :=
  match core.find? Endpoint.override with
  | some endpoint =>
    .error (.registry .invalidEndpoint "" endpoint.name "core endpoint must not declare override" none)
  | none =>
    (plugins.flatMap (fun plugin => plugin.endpoints.map ({ · with pluginID := plugin.id }))).foldlM
      (declareEndpoint unicode) core

def conflictsWith {unicode : Unicode} {η : Type} (incoming existing : RegisteredRoute unicode η) :
    List EndpointConflict :=
  if existing.pattern.shape ≠ incoming.pattern.shape then []
  else (intersectMethods existing.methods incoming.methods).map fun method =>
    { path := incoming.endpoint.path, method, existingEndpoint := existing.endpoint.name,
      existingPlugin := existing.endpoint.pluginID, newEndpoint := incoming.endpoint.name,
      newPlugin := incoming.endpoint.pluginID }

/-- One turn of the loop that validates declarations and collects routes and
conflicts. A server-only endpoint never occupies a route. -/
def registerEndpoint {unicode : Unicode} {η : Type}
    (progress : Registry unicode η × List EndpointConflict) (declaration : Endpoint η) :
    Except RegistryError (Registry unicode η × List EndpointConflict) := do
  let valid ← validateEndpoint unicode declaration
  require (∀ registered ∈ progress.1.endpoints, registered.name ≠ valid.endpoint.name)
    (.registry .duplicateEndpointName valid.endpoint.pluginID valid.endpoint.name
      "endpoint name is already registered" none)
  let endpoints := progress.1.endpoints ++ [valid.endpoint]
  if valid.endpoint.serverOnly then .ok ({ progress.1 with endpoints }, progress.2)
  else
    match hpattern : valid.pattern with
    | none => .ok ({ progress.1 with endpoints }, progress.2)
    | some pattern =>
      let incoming : RegisteredRoute unicode η :=
        { endpoint := valid.endpoint, pattern, methods := valid.methods, order := progress.1.routes.length,
          compiled := valid.compiled pattern hpattern }
      let conflicts := progress.2 ++ progress.1.routes.flatMap (conflictsWith incoming)
      .ok ({ endpoints, routes := progress.1.routes ++ [incoming] }, conflicts)

def newRegistry {η : Type} (unicode : Unicode) (core : List (Endpoint η)) (plugins : List (Plugin η)) :
    Except RegistryError (Registry unicode η) := do
  checkPluginIDs [] plugins
  let declared ← declarations unicode core plugins
  let (registry, conflicts) ← declared.foldlM registerEndpoint (⟨[], []⟩, [])
  require (conflicts = []) (.conflict conflicts)
  .ok registry

/-! ## Matching -/

structure RouteMatch (η : Type) where
  endpoint : Endpoint η
  params : Params
  deriving DecidableEq

structure Candidate (unicode : Unicode) (η : Type) where
  route : RegisteredRoute unicode η
  params : Params

/-- More specific first, earlier first among equals. -/
def Candidate.precedes {unicode : Unicode} {η : Type} (left right : Candidate unicode η) : Bool :=
  match comparePatternSpecificity left.route.pattern right.route.pattern with
  | .eq => left.route.order ≤ right.route.order
  | .gt => true
  | .lt => false

def accepts (methods : List String) (method : String) : Bool :=
  methods.contains anyMethod || methods.contains method

/-- The routes whose pattern accepts the path, with the parameters. -/
def matching {unicode : Unicode} {η : Type} (registry : Registry unicode η) (segments : List Bytes)
    (skipTrailingSlashes : Bool) : List (Candidate unicode η) :=
  registry.routes.filterMap fun route =>
    (route.pattern.matchRequest segments skipTrailingSlashes).map fun params => { route, params }

/-- The methods that the routes of a path offer, without repetition. -/
def allowedMethods {unicode : Unicode} {η : Type} (refused : List (Candidate unicode η)) : List String :=
  refused.foldl (fun allowed candidate => candidate.route.methods.foldl (fun allowed method =>
    if method ≠ anyMethod ∧ ¬ allowed.contains method then allowed ++ [method] else allowed) allowed) []

def invalidPath : APIError := { status := statusBadRequest, code := "INVALID_PATH", message := "Invalid request path" }
def notFound : APIError := { status := statusNotFound, code := "NOT_FOUND", message := "Not Found" }

def methodNotAllowed (allowed : List String) : APIError :=
  { status := statusMethodNotAllowed, code := "METHOD_NOT_ALLOWED", message := "Method Not Allowed",
    headers := [⟨"Allow", ", ".intercalate allowed⟩] }

def Registry.find {unicode : Unicode} {η : Type} (registry : Registry unicode η) (method : String) (rawPath : Bytes)
    (skipTrailingSlashes : Bool) : Except APIError (RouteMatch η) :=
  match decodeRequestPath rawPath with
  | none => .error invalidPath
  | some segments =>
    let found := matching registry segments skipTrailingSlashes
    let admits := fun candidate : Candidate unicode η => accepts candidate.route.methods (unicode.toUpper method)
    let refused := found.filter (fun candidate => !admits candidate)
    match ((found.filter admits).insertionSort (fun left right => left.precedes right)).head? with
    | some selected => .ok { endpoint := selected.route.endpoint, params := selected.params }
    | none =>
      if allowedMethods refused = [] then .error notFound else .error (methodNotAllowed (allowedMethods refused))

/-- A match comes from a route of the registry whose pattern accepts the path. -/
theorem find_ok {unicode : Unicode} {η : Type} {registry : Registry unicode η} {method : String} {rawPath : Bytes}
    {skipTrailingSlashes : Bool} {found : RouteMatch η}
    (h : registry.find method rawPath skipTrailingSlashes = .ok found) :
    ∃ segments, decodeRequestPath rawPath = some segments ∧ ∃ route ∈ registry.routes,
      route.endpoint = found.endpoint ∧
        route.pattern.matchRequest segments skipTrailingSlashes = some found.params := by
  unfold Registry.find at h
  split at h
  · cases h
  rename_i segments hsegments
  refine ⟨segments, hsegments, ?_⟩
  dsimp only at h
  split at h
  · next selected hselected =>
    cases h
    have hmem := List.mem_of_mem_head? (Option.mem_def.mpr hselected)
    rw [List.mem_insertionSort, List.mem_filter, matching, List.mem_filterMap] at hmem
    obtain ⟨⟨route, hroute, hmatch⟩, -⟩ := hmem
    obtain ⟨params, hparams, rfl⟩ := Option.map_eq_some_iff.mp hmatch
    exact ⟨route, hroute, rfl, hparams⟩
  · split at h <;> cases h

end singleauth.engine
