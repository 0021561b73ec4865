import SingleAuth.Core.Engine.Disabled
import SingleAuth.Core.Security

open bytes singleauth.contract singleauth.engine

namespace singleauth.core

section

variable {unicode : Unicode} {η ρ σ : Type}

/-! ## The verdict on a request without cookies -/

variable {request : Request} {routePath : Bytes} {d : Dispatcher unicode η ρ σ} {found : RouteMatch η}
  (a : Auth unicode)

theorem validateRequestCSRF_eq (hcookies : Headers.has unicode request.headers "Cookie" = false) :
    a.validateRequestCSRF routePath request =
      if a.shouldSkipCSRF routePath = false ∧ a.shouldSkipOrigin routePath = false ∧ routePath ∈ formPaths then
        a.validateFormHeaders request
      else none := by
  unfold Auth.validateRequestCSRF Auth.validateRequestCSRFWithFormScope
  cases a.shouldSkipCSRF routePath <;> cases a.shouldSkipOrigin routePath <;> simp [hcookies]

/-- The headers satisfy the form check: they name no origin and carry no fetch
metadata, or they name a trusted origin and no cross-site navigation. -/
def FormHeadersPass (request : Request) : Prop :=
  hasMetadata unicode request = false ∧ requestOrigin unicode request = "" ∨
    ¬ CrossSiteNavigation unicode request ∧ requestOrigin unicode request ∉ ["", "null"] ∧
      ∃ trusted, a.trustedOrigins request = some trusted ∧
        ∃ pattern ∈ trusted, a.matchesOriginPattern (requestOrigin unicode request) pattern false = true

theorem hasMetadata_of_crossSite (h : CrossSiteNavigation unicode request) : hasMetadata unicode request = true := by
  unfold hasMetadata
  rw [List.any_cons, h.1]
  rfl

theorem validateFormHeaders_crossSite (h : CrossSiteNavigation unicode request) :
    a.validateFormHeaders request = some crossSiteNavigationLoginBlocked := by
  rw [Auth.validateFormHeaders, if_pos (hasMetadata_of_crossSite h), if_pos h]

theorem validateOriginHeader_force_eq_none_iff (request : Request) :
    a.validateOriginHeader request true = none ↔
      requestOrigin unicode request ∉ ["", "null"] ∧ ∃ trusted, a.trustedOrigins request = some trusted ∧
        ∃ pattern ∈ trusted, a.matchesOriginPattern (requestOrigin unicode request) pattern false = true := by
  have hnull : requestOrigin unicode request ∉ ["", "null"] ↔
      ¬ (requestOrigin unicode request = "" ∨ requestOrigin unicode request = "null") := by simp
  rw [hnull]
  unfold Auth.validateOriginHeader
  by_cases horigin : requestOrigin unicode request = "" ∨ requestOrigin unicode request = "null"
  · simp [horigin]
  · cases htrusted : a.trustedOrigins request with
    | none => simp [horigin]
    | some trusted => simp [horigin]

private theorem requestOrigin_eq_empty_iff (request : Request) :
    requestOrigin unicode request = "" ↔
      ¬ (requestHeader unicode request "Origin" ≠ "" ∨ requestHeader unicode request "Referer" ≠ "") := by
  unfold requestOrigin
  by_cases horigin : requestHeader unicode request "Origin" = "" <;> simp [horigin]

theorem validateFormHeaders_eq_none_iff (request : Request) :
    a.validateFormHeaders request = none ↔ FormHeadersPass a request := by
  unfold FormHeadersPass
  rw [← validateOriginHeader_force_eq_none_iff]
  by_cases hcross : CrossSiteNavigation unicode request
  · simp [validateFormHeaders_crossSite a hcross, hasMetadata_of_crossSite hcross, hcross]
  unfold Auth.validateFormHeaders
  cases hmetadata : hasMetadata unicode request with
  | true => simp [hcross]
  | false =>
    by_cases horigin : requestOrigin unicode request = ""
    · have hheaders := (requestOrigin_eq_empty_iff request).mp horigin
      simp [hheaders, horigin]
    · have hheaders := not_not.mp (mt (requestOrigin_eq_empty_iff request).mpr horigin)
      simp [hheaders, horigin, hcross]

theorem validateFormHeaders_congr {first second : Request} (hheaders : first.headers = second.headers)
    (htrusted : a.trustedOrigins first = a.trustedOrigins second) :
    a.validateFormHeaders first = a.validateFormHeaders second := by
  have hheader : requestHeader unicode first = requestHeader unicode second := by
    funext name
    rw [requestHeader, hheaders, requestHeader]
  have hmetadata : hasMetadata unicode first = hasMetadata unicode second := by simp only [hasMetadata, hheader]
  have horigin : requestOrigin unicode first = requestOrigin unicode second := by simp only [requestOrigin, hheader]
  have hcross : CrossSiteNavigation unicode first ↔ CrossSiteNavigation unicode second := by
    simp only [CrossSiteNavigation, hheader]
  have hvalidate : a.validateOriginHeader first true = a.validateOriginHeader second true := by
    simp only [Auth.validateOriginHeader, horigin, hheaders, htrusted]
  simp only [Auth.validateFormHeaders, hmetadata, hcross, hvalidate, hheader]

/-! ## Spellings of the form endpoints -/

/-- The dispatcher resolves and matches the request. -/
structure RoutedTo (d : Dispatcher unicode η ρ σ) (request : Request) (routePath : Bytes) (found : RouteMatch η) :
    Prop where
  relative : d.relativePath request.RawPath = .ok routePath
  found : d.registry.find request.method routePath d.skipTrailingSlashes = .ok found

/-- Nothing in the path is escaped, and there is no trailing slash that routing
would skip. -/
def PlainSpelling (d : Dispatcher unicode η ρ σ) (routePath : Bytes) : Prop :=
  percent ∉ routePath ∧ (d.skipTrailingSlashes = false ∨ trailingSlash routePath = false)

private theorem formPaths_plain : ∀ path ∈ formPaths, StaticPath path ∧ trailingSlash path = false := by
  decide

/-- Among the spellings that reach a form endpoint, the plain one is the literal
path that the check knows. -/
theorem mem_formPaths_iff_plainSpelling (hrouted : RoutedTo d request routePath found)
    (hform : found.endpoint.path ∈ formPaths) :
    routePath ∈ formPaths ↔ PlainSpelling d routePath := by
  constructor
  · intro hliteral
    obtain ⟨hstatic, htrailing⟩ := formPaths_plain routePath hliteral
    exact ⟨hstatic.1, .inr htrailing⟩
  rintro ⟨hescaped, hslash⟩
  obtain ⟨segments, hdecoded, route, _, hroute, hmatch⟩ := find_ok hrouted.found
  obtain ⟨hhead, hquery⟩ := relativePath_ok hrouted.relative
  obtain ⟨hstatic, htrailing⟩ := formPaths_plain _ hform
  have hcompiled := route.compiled
  rw [hroute] at hcompiled
  have hskip : d.skipTrailingSlashes = false ∨ trailingSlash routePath = trailingSlash found.endpoint.path := by
    rwa [htrailing]
  rwa [matchRequest_static hcompiled hstatic hhead hquery hescaped hskip hdecoded hmatch]

/-- The request is subject to the form check: no configuration exempts its path,
and the path is spelled plainly. -/
def Guarded (d : Dispatcher unicode η ρ σ) (routePath : Bytes) : Prop :=
  a.shouldSkipCSRF routePath = false ∧ a.shouldSkipOrigin routePath = false ∧ PlainSpelling d routePath

/-- The verdict on a cookieless request to a form endpoint. -/
theorem validateRequestCSRF_form (hcookies : Headers.has unicode request.headers "Cookie" = false)
    (hrouted : RoutedTo d request routePath found) (hform : found.endpoint.path ∈ formPaths) :
    (Guarded a d routePath → a.validateRequestCSRF routePath request = a.validateFormHeaders request) ∧
      (¬ Guarded a d routePath → a.validateRequestCSRF routePath request = none) := by
  have hguarded : (a.shouldSkipCSRF routePath = false ∧ a.shouldSkipOrigin routePath = false ∧ routePath ∈ formPaths) ↔
      Guarded a d routePath := by
    rw [mem_formPaths_iff_plainSpelling hrouted hform, Guarded]
  rw [validateRequestCSRF_eq a hcookies]
  constructor
  · intro h
    rw [if_pos (hguarded.mpr h)]
  · intro h
    rw [if_neg (fun hchecked => h (hguarded.mp hchecked))]

/-- Two spellings of one form endpoint get the same verdict, and cross-site
navigations are refused under both, exactly when the requests are guarded
alike: both for a cross-site navigation, and otherwise both or neither, or
with headers that satisfy the check anyway. Resolvers of trusted origins are
assumed to answer alike for both paths. -/
theorem validateRequestCSRF_spelling_iff (a : Auth unicode) {d : Dispatcher unicode η ρ σ} {first second : Request}
    {firstPath secondPath : Bytes} {firstFound secondFound : RouteMatch η}
    (hsame : second = { first with rawPath := second.rawPath })
    (hcookies : Headers.has unicode first.headers "Cookie" = false)
    (hfirst : RoutedTo d first firstPath firstFound) (hsecond : RoutedTo d second secondPath secondFound)
    (hendpoint : firstFound.endpoint = secondFound.endpoint) (hform : firstFound.endpoint.path ∈ formPaths)
    (htrusted : a.trustedOrigins first = a.trustedOrigins second) :
    (a.validateRequestCSRF firstPath first = a.validateRequestCSRF secondPath second ∧
      (CrossSiteNavigation unicode first →
        a.validateRequestCSRF firstPath first ≠ none ∧ a.validateRequestCSRF secondPath second ≠ none)) ↔
    (CrossSiteNavigation unicode first → Guarded a d firstPath ∧ Guarded a d secondPath) ∧
      (¬ CrossSiteNavigation unicode first →
        (Guarded a d firstPath ↔ Guarded a d secondPath) ∨ FormHeadersPass a first) := by
  have hheaders : first.headers = second.headers := by rw [hsame]
  obtain ⟨hfirstChecked, hfirstFree⟩ := validateRequestCSRF_form a hcookies hfirst hform
  obtain ⟨hsecondChecked, hsecondFree⟩ :=
    validateRequestCSRF_form a (hheaders ▸ hcookies) hsecond (hendpoint ▸ hform)
  rw [← validateFormHeaders_congr a hheaders htrusted] at hsecondChecked
  rw [← validateFormHeaders_eq_none_iff]
  by_cases hnavigation : CrossSiteNavigation unicode first
  on_goal 1 => rw [validateFormHeaders_crossSite a hnavigation] at hfirstChecked hsecondChecked
  all_goals
    by_cases hone : Guarded a d firstPath <;> by_cases htwo : Guarded a d secondPath
    · simp [hone, htwo, hnavigation, hfirstChecked hone, hsecondChecked htwo]
    · simp [hone, htwo, hnavigation, hfirstChecked hone, hsecondFree htwo]
    · simp [hone, htwo, hnavigation, hfirstFree hone, hsecondChecked htwo, eq_comm]
    · simp [hone, htwo, hnavigation, hfirstFree hone, hsecondFree htwo]

end

/-! A server with the sign-in form, and a navigation from another site. -/

private def signInEmail : Endpoint Unit :=
  { name := "signInEmail", path := ascii "/sign-in/email", methods := ["POST"], handler := some () }

private def plainAuth : Auth asciiUnicode where
  baseOrigins _ := some ["https://app.example"]
  parseURL _ := none
  wildcardMatch _ _ := false
  relativeRedirect _ := false

private def navigation (rawPath : String) : Request :=
  { method := "POST", rawPath := ascii rawPath,
    headers := [⟨"Sec-Fetch-Site", "cross-site"⟩, ⟨"Sec-Fetch-Mode", "navigate"⟩] }

private abbrev FormDispatcher := Dispatcher asciiUnicode Unit String Unit

private def reachesForm (d : FormDispatcher) (rawPath routePath : String) : Bool :=
  d.relativePath (navigation rawPath).RawPath = .ok (ascii routePath) ∧
    d.registry.find (navigation rawPath).method (ascii routePath) d.skipTrailingSlashes = .ok ⟨signInEmail, []⟩

private def formReached : Bool :=
  match newRegistry asciiUnicode [signInEmail] [] with
  | .error _ => false
  | .ok registry =>
    match newDispatcher registry ({} : DispatcherOptions Unit String Unit) with
    | .error _ => false
    | .ok d =>
      reachesForm d "/sign-in/email" "/sign-in/email" && reachesForm d "/sign-in/email?next=/" "/sign-in/email" &&
        reachesForm d "/sign%2Din/email" "/sign%2Din/email"

private theorem exists_formDispatcher :
    ∃ registry, newRegistry asciiUnicode [signInEmail] [] = .ok registry ∧
      ∃ d : FormDispatcher, newDispatcher registry {} = .ok d ∧
        RoutedTo d (navigation "/sign-in/email") (ascii "/sign-in/email") ⟨signInEmail, []⟩ ∧
        RoutedTo d (navigation "/sign-in/email?next=/") (ascii "/sign-in/email") ⟨signInEmail, []⟩ ∧
        RoutedTo d (navigation "/sign%2Din/email") (ascii "/sign%2Din/email") ⟨signInEmail, []⟩ := by
  have hreached : formReached = true := by decide
  unfold formReached at hreached
  split at hreached
  · cases hreached
  rename_i registry hregistry
  split at hreached
  · cases hreached
  rename_i d hd
  simp only [reachesForm, Bool.and_eq_true, decide_eq_true_eq] at hreached
  obtain ⟨⟨hplain, hquery⟩, hescaped⟩ := hreached
  exact ⟨registry, hregistry, d, hd, ⟨hplain.1, hplain.2⟩, ⟨hquery.1, hquery.2⟩, ⟨hescaped.1, hescaped.2⟩⟩

theorem validateRequestCSRF_spelling_query :
    ∃ registry, newRegistry asciiUnicode [signInEmail] [] = .ok registry ∧
      ∃ d : FormDispatcher, newDispatcher registry {} = .ok d ∧
        RoutedTo d (navigation "/sign-in/email?next=/") (ascii "/sign-in/email") ⟨signInEmail, []⟩ ∧
        plainAuth.validateRequestCSRF (ascii "/sign-in/email") (navigation "/sign-in/email?next=/") ≠ none := by
  obtain ⟨registry, hregistry, d, hd, hplain, hquery, -⟩ := exists_formDispatcher
  have hguarded : Guarded plainAuth d (ascii "/sign-in/email") :=
    ⟨by decide, by decide, by decide, .inr (by decide)⟩
  have hverdicts := (validateRequestCSRF_spelling_iff plainAuth rfl (by decide) hplain hquery rfl
    (by decide) rfl).mpr ⟨fun _ => ⟨hguarded, hguarded⟩, fun _ => .inl Iff.rfl⟩
  exact ⟨registry, hregistry, d, hd, hquery, (hverdicts.2 (by decide)).2⟩

/-- An escaped hyphen takes the sign-in form out of the check. -/
theorem validateRequestCSRF_misses_escape :
    ¬ ∀ (core : List (Endpoint Unit)) (registry : Registry asciiUnicode Unit) (d : FormDispatcher)
      (first second : Request) (firstPath secondPath : Bytes) (firstFound secondFound : RouteMatch Unit),
      newRegistry asciiUnicode core [] = .ok registry → newDispatcher registry {} = .ok d →
      second = { first with rawPath := second.rawPath } → first.method ∉ ["GET", "HEAD", "OPTIONS"] →
      Headers.has asciiUnicode first.headers "Cookie" = false →
      RoutedTo d first firstPath firstFound → RoutedTo d second secondPath secondFound →
      firstFound.endpoint = secondFound.endpoint → firstFound.endpoint.path ∈ formPaths →
      plainAuth.validateRequestCSRF firstPath first = plainAuth.validateRequestCSRF secondPath second ∧
        (CrossSiteNavigation asciiUnicode first →
          plainAuth.validateRequestCSRF firstPath first ≠ none ∧
            plainAuth.validateRequestCSRF secondPath second ≠ none) := by
  intro hclaim
  obtain ⟨registry, hregistry, d, hd, hplain, -, hescaped⟩ := exists_formDispatcher
  have hverdicts := hclaim [signInEmail] registry d _ _ _ _ _ _ hregistry hd rfl (by decide) (by decide)
    hplain hescaped rfl (by decide)
  exact (hverdicts.2 (by decide)).2 (by decide)

end singleauth.core
