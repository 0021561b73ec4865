import SingleAuth.Core.Engine.Dispatcher
import Mathlib.Data.List.Infix

open bytes singleauth.contract singleauth.engine

namespace singleauth.core

/-- The parts of the runtime that decide about the origin of a request. `none`
stands for an error of a resolver. -/
structure Auth (unicode : Unicode) where
  disableCSRFCheck : Option Bool := none
  disableOriginCheck : Option Bool := none
  skipOriginCheckPaths : List Bytes := []
  /-- The origins that follow from the base URL, static or of the request. -/
  baseOrigins : Request → Option (List String)
  configuredOrigins : List String := []
  pluginTrustedOrigins : List String := []
  /-- The user's resolver, then those of the plugins. -/
  resolvers : List (Request → Option (List String)) := []
  /-- The origins listed in the environment. -/
  environmentOrigins : List String := []
  /-- Scheme and host of a URL. -/
  parseURL : String → Option (String × String)
  wildcardMatch : String → String → Bool
  relativeRedirect : String → Bool

section

variable {unicode : Unicode}

def requestHeader (unicode : Unicode) (request : Request) (name : String) : String :=
  (Headers.get unicode request.headers name).1

def crossSiteNavigationLoginBlocked : APIError :=
  { status := statusForbidden, code := "CROSS_SITE_NAVIGATION_LOGIN_BLOCKED",
    message := "Cross-site navigation login blocked. This request appears to be a CSRF attack." }

def missingOrNullOrigin : APIError :=
  { status := statusForbidden, code := "MISSING_OR_NULL_ORIGIN", message := "Missing or null Origin" }

def invalidOrigin : APIError := { status := statusForbidden, code := "INVALID_ORIGIN", message := "Invalid origin" }

def internalServerError : APIError :=
  { status := statusInternalServerError, code := "INTERNAL_SERVER_ERROR", message := "Internal Server Error" }

/-! ## Exemptions -/

def optionEnabled (value : Option Bool) : Bool := value = some true

private def trimmedPath (path : Bytes) : Bytes :=
  if trimRight slash path = [] then [slash] else trimRight slash path

def Auth.skipsOriginPath (a : Auth unicode) (path : Bytes) : Bool :=
  a.skipOriginCheckPaths.any fun skip =>
    trimmedPath path = trimmedPath skip ||
      (trimmedPath skip ≠ [slash] && (trimmedPath skip ++ [slash]).isPrefixOf (trimmedPath path))

def Auth.shouldSkipOrigin (a : Auth unicode) (routePath : Bytes) : Bool :=
  optionEnabled a.disableOriginCheck || a.skipsOriginPath routePath

/-- Disabling the origin check disables the CSRF check too, unless the latter is
configured on its own. -/
def Auth.usesBackwardCompatibleOriginCSRF (a : Auth unicode) : Bool :=
  optionEnabled a.disableOriginCheck && a.disableCSRFCheck.isNone

def Auth.shouldSkipCSRF (a : Auth unicode) (routePath : Bytes) : Bool :=
  optionEnabled a.disableCSRFCheck || a.skipsOriginPath routePath || a.usesBackwardCompatibleOriginCSRF

/-! ## Origins -/

def Auth.trustedOrigins (a : Auth unicode) (request : Request) : Option (List String) := do
  let base ← a.baseOrigins request
  let resolved ← a.resolvers.mapM (fun resolve => resolve request)
  let trusted := base ++ a.configuredOrigins ++ a.pluginTrustedOrigins ++ resolved.flatten ++ a.environmentOrigins
  some (trusted.filter (· ≠ ""))

def Auth.matchesOriginPattern (a : Auth unicode) (candidate pattern : String) (allowRelative : Bool) : Bool :=
  if candidate.toList.head? = some '/' then allowRelative && a.relativeRedirect candidate
  else
    match a.parseURL candidate with
    | none => false
    | some (scheme, host) =>
      let web := scheme = "http" ∨ scheme = "https"
      if pattern.toList.any (fun c => c = '*' || c = '?') then
        if host = "" then false
        else if "://".toList <:+: pattern.toList then
          a.wildcardMatch pattern (if web then scheme ++ "://" ++ host else candidate)
        else a.wildcardMatch pattern host
      else if web ∨ scheme = "" then host ≠ "" && pattern = scheme ++ "://" ++ host
      else pattern.toList.isPrefixOf candidate.toList

/-- The origin that a request names, by the first of two headers. -/
def requestOrigin (unicode : Unicode) (request : Request) : String :=
  if requestHeader unicode request "Origin" = "" then requestHeader unicode request "Referer"
  else requestHeader unicode request "Origin"

def Auth.validateOriginHeader (a : Auth unicode) (request : Request) (force : Bool) : Option APIError :=
  if !force && !Headers.has unicode request.headers "Cookie" then none
  else
    let origin := requestOrigin unicode request
    if origin = "" ∨ origin = "null" then some missingOrNullOrigin
    else
      match a.trustedOrigins request with
      | none => some internalServerError
      | some trusted =>
        if trusted.any (fun pattern => a.matchesOriginPattern origin pattern false) then none else some invalidOrigin

/-! ## The CSRF check -/

def formPaths : List Bytes := [ascii "/sign-in/email", ascii "/sign-up/email"]

def hasMetadata (unicode : Unicode) (request : Request) : Bool :=
  ["Sec-Fetch-Site", "Sec-Fetch-Mode", "Sec-Fetch-Dest"].any fun name =>
    text.trimSpace (requestHeader unicode request name) ≠ ""

/-- The browser says that a page of another site navigated here. -/
def CrossSiteNavigation (unicode : Unicode) (request : Request) : Prop :=
  requestHeader unicode request "Sec-Fetch-Site" = "cross-site" ∧
    requestHeader unicode request "Sec-Fetch-Mode" = "navigate"

instance (request : Request) : Decidable (CrossSiteNavigation unicode request) := by
  unfold CrossSiteNavigation; infer_instance

/-- The check of a form endpoint, for a request without cookies. -/
def Auth.validateFormHeaders (a : Auth unicode) (request : Request) : Option APIError :=
  if hasMetadata unicode request then
    if CrossSiteNavigation unicode request then some crossSiteNavigationLoginBlocked
    else a.validateOriginHeader request true
  else if requestHeader unicode request "Origin" ≠ "" ∨ requestHeader unicode request "Referer" ≠ "" then
    a.validateOriginHeader request true
  else none

def Auth.validateRequestCSRFWithFormScope (a : Auth unicode) (routePath : Bytes) (request : Request)
    (forceForm : Bool) : Option APIError :=
  if a.shouldSkipCSRF routePath then none
  else if a.shouldSkipOrigin routePath then none
  else if Headers.has unicode request.headers "Cookie" then a.validateOriginHeader request false
  else if forceForm ∨ routePath ∈ formPaths then a.validateFormHeaders request
  else none

/-- The verdict on a request whose route path is `routePath`. -/
def Auth.validateRequestCSRF (a : Auth unicode) (routePath : Bytes) (request : Request) : Option APIError :=
  a.validateRequestCSRFWithFormScope routePath request false

end

end singleauth.core
