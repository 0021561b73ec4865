import SingleAuth.Core.Engine.Dispatcher
import SingleAuth.Security.RateLimit.Limiter

open bytes singleauth.contract singleauth.engine

namespace singleauth.ratelimit

/-! ## What the limiter leaves of a path -/

/-- Trimming takes slashes off the end, and leaves at least the root. -/
theorem trimmedPathname_last (pathname : Bytes) :
    trimmedPathname pathname = [slash] ∨ (trimmedPathname pathname).getLast? ≠ some slash := by
  unfold trimmedPathname
  split
  · exact .inl rfl
  · exact .inr (getLast?_trimRight slash pathname)

theorem trimmedPathname_append {pathname : Bytes} (hne : pathname ≠ []) :
    ∃ count, pathname = trimmedPathname pathname ++ List.replicate count slash := by
  obtain ⟨count, hcount⟩ := trimRight_append slash pathname
  unfold trimmedPathname
  split
  · next hempty =>
    rw [hempty, List.nil_append] at hcount
    cases count with
    | zero => exact absurd hcount hne
    | succ count => exact ⟨count, hcount⟩
  · exact ⟨count, hcount⟩

/-- The trimmed path has the base path in front of what is left. The base path alone leaves the root. -/
def Under (base pathname rest : Bytes) : Prop :=
  base ≠ [] ∧ (trimmedPathname pathname = base ∧ rest = [slash] ∨
    rest.head? = some slash ∧ trimmedPathname pathname = base ++ rest)

theorem append_ne_root {base : Bytes} (hbase : base ≠ []) (rest : Bytes) : base ++ slash :: rest ≠ [slash] := by
  simp [List.append_eq_cons_iff, hbase]

theorem stripBase_cases (basePath pathname : Bytes) :
    trimmedPathname pathname = stripBase basePath pathname ∨
      Under (trimRight slash basePath) pathname (stripBase basePath pathname) := by
  unfold stripBase
  dsimp only
  split
  · exact .inl rfl
  rename_i hbase
  split
  · next heq => exact .inr ⟨hbase, .inl ⟨heq, rfl⟩⟩
  split
  · next hprefix =>
    obtain ⟨rest, hrest⟩ := List.isPrefixOf_iff_prefix.mp hprefix
    rw [List.append_assoc, List.singleton_append] at hrest
    have hlast : (slash :: rest).getLast? ≠ some slash := by
      rcases trimmedPathname_last pathname with hroot | hlast
      · exact absurd (hrest.trans hroot) (append_ne_root hbase rest)
      rw [← hrest, List.getLast?_append] at hlast
      intro hslash
      rw [hslash] at hlast
      exact hlast rfl
    have htrimmed : trimmedPathname (slash :: rest) = slash :: rest := by
      rw [trimmedPathname, trimRight_of_getLast? hlast, if_neg (by simp)]
    rw [Under, ← hrest, List.drop_left, htrimmed]
    exact .inr ⟨hbase, .inr ⟨rfl, rfl⟩⟩
  · exact .inl rfl

/-- Two paths that stand for the same bytes do not differ by the base path alone. -/
theorem base_absurd {base rest decoded : Bytes} {count total : Nat} (hbase : base ≠ [])
    (hlast : base.getLast? ≠ some slash) (hrest : rest = [] ∨ rest.head? = some slash)
    (hwith : pathUnescape (base ++ rest ++ List.replicate count slash) = some decoded)
    (hwithout : pathUnescape (rest ++ List.replicate total slash) = some decoded)
    (hslashes : (∀ b ∈ decoded, b = slash) →
      (base ++ rest ++ List.replicate count slash).count slash = (rest ++ List.replicate total slash).count slash) :
    False := by
  obtain ⟨inner, hinner, rfl⟩ := pathUnescape_append_slashes hwith
  obtain ⟨tail, htail, heq⟩ := pathUnescape_append_slashes hwithout
  have hfront : ∃ front, pathUnescape base = some front := by
    apply Option.isSome_iff_exists.mp
    rcases hrest with rfl | hhead
    · rw [List.append_nil] at hinner
      rw [hinner]
      rfl
    cases rest with
    | nil => cases hhead
    | cons b rest =>
      cases hhead
      exact pathUnescape_isSome_of_slash (Option.isSome_of_mem hinner)
  obtain ⟨front, hfront⟩ := hfront
  rw [pathUnescape_append hfront, htail] at hinner
  cases hinner
  have hne := pathUnescape_ne_nil hfront hbase
  have htailSlashes := eq_of_shift hne heq
  have hall : ∀ b ∈ front ++ tail ++ List.replicate count slash, b = slash := by
    rw [heq]
    exact List.forall_mem_append.mpr ⟨htailSlashes, fun _ => List.eq_of_mem_replicate⟩
  have hfrontSlashes : ∀ b ∈ front, b = slash :=
    fun b hb => hall b (List.mem_append_left _ (List.mem_append_left _ hb))
  have hcount := hslashes hall
  have hlength := congrArg List.length heq
  have hlt := url.count_slash_lt hfront hfrontSlashes hbase hlast
  simp only [List.count_append, List.count_replicate_self, List.length_append, List.length_replicate] at hcount hlength
  omega

section

variable {basePath first second decoded : Bytes}

theorem ne_nil_of_pathUnescape {text : Bytes} (htext : pathUnescape text = some decoded) (hne : decoded ≠ []) :
    text ≠ [] := by
  rintro rfl
  cases htext
  exact hne rfl

/-- One of two paths that stand for the same bytes is not under the base path if what is left of the other one,
which is, is all of it. -/
theorem stripped_absurd (hfirst : pathUnescape first = some decoded) (hsecond : pathUnescape second = some decoded)
    (hne : decoded ≠ []) (hslashes : (∀ b ∈ decoded, b = slash) → first.count slash = second.count slash)
    {rest : Bytes} (hleft : trimmedPathname second = rest) (hunder : Under (trimRight slash basePath) first rest) :
    False := by
  obtain ⟨count, hcount⟩ := trimmedPathname_append (ne_nil_of_pathUnescape hfirst hne)
  obtain ⟨total, htotal⟩ := trimmedPathname_append (ne_nil_of_pathUnescape hsecond hne)
  have hlast := getLast?_trimRight slash basePath
  obtain ⟨hbase, ⟨hroot, hrest⟩ | ⟨hhead, hroot⟩⟩ := hunder
  · -- The base path alone, against nothing but slashes.
    have hslashed : second = [] ++ List.replicate (total + 1) slash := by
      rw [htotal, hleft, hrest]
      rfl
    rw [hroot, ← List.append_nil (trimRight slash basePath)] at hcount
    rw [hcount] at hfirst hslashes
    rw [hslashed] at hsecond hslashes
    exact base_absurd hbase hlast (.inl rfl) hfirst hsecond hslashes
  rw [hroot] at hcount
  rw [hleft] at htotal
  rw [hcount] at hfirst hslashes
  rw [htotal] at hsecond hslashes
  exact base_absurd hbase hlast (.inr hhead) hfirst hsecond hslashes

/-- A trimmed path does not end with the slash that would set it apart from the base path. -/
theorem trimmed_ne_base (hbase : trimRight slash basePath ≠ []) :
    trimmedPathname first ≠ trimRight slash basePath ++ [slash] := by
  intro heq
  rcases trimmedPathname_last first with hroot | hlast
  · exact append_ne_root hbase [] (heq.symm.trans hroot)
  · rw [heq, List.getLast?_concat] at hlast
    exact hlast rfl

variable (hfirst : pathUnescape first = some decoded) (hsecond : pathUnescape second = some decoded)
  (hne : decoded ≠ [])
include hfirst hsecond hne

/-- Paths that stand for the same bytes are the same if they are once they are trimmed. -/
theorem eq_of_trimmed (h : trimmedPathname first = trimmedPathname second) : first = second := by
  obtain ⟨count, hcount⟩ := trimmedPathname_append (ne_nil_of_pathUnescape hfirst hne)
  obtain ⟨total, htotal⟩ := trimmedPathname_append (ne_nil_of_pathUnescape hsecond hne)
  rw [hcount] at hfirst
  rw [htotal, ← h] at hsecond
  obtain ⟨inner, hinner, rfl⟩ := pathUnescape_append_slashes hfirst
  obtain ⟨other, hother, heq⟩ := pathUnescape_append_slashes hsecond
  rw [hinner] at hother
  cases hother
  have hsame : count = total := by simpa using List.append_cancel_left heq
  rw [hcount, htotal, ← h, hsame]

/-- Of two paths that stand for the same bytes and have as many slashes, the limiter leaves the same
only if they are the same. -/
theorem stripBase_injective (hslashes : (∀ b ∈ decoded, b = slash) → first.count slash = second.count slash)
    (h : stripBase basePath first = stripBase basePath second) : first = second := by
  apply eq_of_trimmed hfirst hsecond hne
  have hone := stripBase_cases basePath first
  have htwo := stripBase_cases basePath second
  rw [h] at hone
  rcases hone with hone | hone
  · rcases htwo with htwo | htwo
    · exact hone.trans htwo.symm
    · exact (stripped_absurd hsecond hfirst hne (fun hall => (hslashes hall).symm) hone htwo).elim
  rcases htwo with htwo | htwo
  · exact (stripped_absurd hfirst hsecond hne hslashes htwo hone).elim
  obtain ⟨hbase, ⟨hone, hroot⟩ | ⟨-, hone⟩⟩ := hone
  · obtain ⟨-, ⟨htwo, -⟩ | ⟨-, htwo⟩⟩ := htwo
    · exact hone.trans htwo.symm
    · rw [hroot] at htwo
      exact absurd htwo (trimmed_ne_base hbase)
  obtain ⟨-, ⟨-, hroot⟩ | ⟨-, htwo⟩⟩ := htwo
  · rw [hroot] at hone
    exact absurd hone (trimmed_ne_base hbase)
  · exact hone.trans htwo.symm

end

/-! ## Requests for one endpoint -/

/-- The path of a request that lies under the base path, its decoded segments and what the registry finds for it. -/
def Reaches {unicode : Unicode} {η ρ σ : Type} (d : Dispatcher unicode η ρ σ) (request : Request) (segments : List Bytes)
    (found : RouteMatch η) : Prop :=
  ∃ route, d.relativePath request.RawPath = .ok route ∧ decodeRequestPath route = some segments ∧
    d.registry.find request.method route d.skipTrailingSlashes = .ok found

/-- The path that the address of a request has, or the root where it cannot be read. -/
def pathname (library : Library) (requestURL : Bytes) : Bytes :=
  match url.parse library.authority requestURL with
  | none => [slash]
  | some parsed =>
    if parsed.scheme = [] ∨ parsed.host = [] ∨ parsed.escapedPath = [] then [slash] else parsed.escapedPath

theorem stripBase_root (basePath : Bytes) : stripBase basePath [slash] = [slash] := by
  have hroot : trimmedPathname [slash] = [slash] := by decide
  rcases stripBase_cases basePath [slash] with h | ⟨hbase, ⟨-, h⟩ | ⟨hhead, h⟩⟩
  · rw [← h, hroot]
  · exact h
  obtain ⟨rest, hrest⟩ := List.head?_eq_some_iff.mp hhead
  rw [hrest, hroot] at h
  exact absurd h.symm (append_ne_root hbase rest)

theorem normalizePathname_eq (library : Library) (requestURL basePath : Bytes) :
    normalizePathname library requestURL basePath = stripBase basePath (pathname library requestURL) := by
  unfold normalizePathname pathname
  cases url.parse library.authority requestURL with
  | none => exact (stripBase_root basePath).symm
  | some parsed =>
    dsimp only
    by_cases hnamed : parsed.scheme = [] ∨ parsed.host = []
    · rw [if_pos hnamed, if_pos (or_assoc.mp (.inl hnamed)), stripBase_root]
    · rw [if_neg hnamed]
      simp only [not_or] at hnamed
      simp only [hnamed.1, hnamed.2, false_or]

/-- The host and the path of a request have no byte that would end them early in the address. -/
def Plain (request : Request) : Prop :=
  (slash ∉ utf8 request.host ∧ questionMark ∉ utf8 request.host ∧ url.fragmentMark ∉ utf8 request.host) ∧
    questionMark ∉ request.RawPath ∧ url.fragmentMark ∉ request.RawPath ∧ request.RawPath.any url.isControl = false

instance (request : Request) : Decidable (Plain request) := inferInstanceAs (Decidable (_ ∧ _))

/-- The paths of two requests are written alike. Where a path holds a byte that no escaped path has,
what the limiter leaves of them is. -/
def SameSpelling (library : Library) (basePath : Bytes) (first second : Request) : Prop :=
  if Plain first ∧ Plain second then
    pathname library (requestInfo first).url = pathname library (requestInfo second).url
  else
    normalizePathname library (requestInfo first).url basePath =
      normalizePathname library (requestInfo second).url basePath

/-- The first custom rule for a path treats two requests alike. -/
def ResolvesAlike (library : Library) (limiter : Limiter) (path : Bytes) (first second : RequestInfo) : Prop :=
  ∀ custom, limiter.config.customRules.find? (CustomRule.applies library path) = some custom → custom.disabled = false →
    ∀ resolve, custom.resolve = some resolve →
      resolve first (limiter.resolveBuiltInAndPlugin path) = resolve second (limiter.resolveBuiltInAndPlugin path)

theorem selectRule_eq_iff (library : Library) (limiter : Limiter) (path : Bytes) (first second : RequestInfo) :
    limiter.selectRule library first path = limiter.selectRule library second path ↔
      ResolvesAlike library limiter path first second := by
  unfold Limiter.selectRule ResolvesAlike
  cases limiter.config.customRules.find? (CustomRule.applies library path) with
  | none => simp
  | some custom =>
    simp only [Option.some.injEq, forall_eq']
    cases custom.disabled with
    | true => simp
    | false => cases custom.resolve <;> simp

variable {segments : List Bytes}

theorem decodeRequestPath_ok {route : Bytes} (hquery : questionMark ∉ route)
    (h : decodeRequestPath route = some segments) :
    route.head? = some slash ∧ pathUnescape route = some (slash :: join slash segments) ∧
      route.count slash = max 1 segments.length := by
  unfold decodeRequestPath at h
  rw [before_eq_self hquery] at h
  dsimp only at h
  split at h
  · next hhead =>
    obtain ⟨rest, rfl⟩ := List.head?_eq_some_iff.mp hhead
    have hslash : slash ≠ percent := by decide
    rw [pathUnescape_cons_of_ne hslash, List.count_cons_self]
    unfold splitPath at h
    split at h
    · next hroot =>
      cases hroot
      cases h
      exact ⟨rfl, rfl, rfl⟩
    rw [trimPrefix_singleton_cons] at h
    have hrest := pathUnescape_join h
    have hlength := length_of_mapM h
    rw [join, List.intercalate_splitOn] at hrest
    rw [length_splitOn] at hlength
    refine ⟨rfl, ?_, ?_⟩
    · rw [hrest]
      rfl
    · omega
  · cases h

def addressScheme (request : Request) : Bytes :=
  ascii (if request.scheme = "http" ∨ request.scheme = "https" then request.scheme else "http")

def addressHost (request : Request) : Bytes := utf8 (if request.host = "" then "localhost" else request.host)

def addressQuery (request : Request) : Bytes :=
  if request.rawQuery = "" then [] else questionMark :: utf8 request.rawQuery

theorem requestInfo_url (request : Request) : (requestInfo request).url =
    addressScheme request ++ ascii "://" ++ addressHost request ++ (request.RawPath ++ addressQuery request) := rfl

theorem addressScheme_cases (request : Request) :
    addressScheme request = ascii "http" ∨ addressScheme request = ascii "https" := by
  unfold addressScheme
  split
  · next hgiven => exact hgiven.imp (congrArg ascii) (congrArg ascii)
  · exact .inl rfl

theorem addressQuery_cases (request : Request) :
    addressQuery request = [] ∨ (addressQuery request).head? = some questionMark := by
  unfold addressQuery
  split
  · exact .inl rfl
  · exact .inr rfl

/-- The host that the address of a request gives, if it can be read and names one. -/
def addressed (library : Library) (request : Request) : Option Bytes :=
  (url.gate library.authority (addressHost request) (addressQuery request)).bind fun named =>
    if named = [] then none else some named

theorem pathUnescape_head {text decoded : Bytes} (hhead : text.head? = some slash)
    (h : pathUnescape text = some decoded) : decoded.head? = some slash := by
  obtain ⟨rest, rfl⟩ := List.head?_eq_some_iff.mp hhead
  rw [pathUnescape_cons_of_ne (by decide)] at h
  obtain ⟨decoded, -, rfl⟩ := Option.map_eq_some_iff.mp h
  rfl

/-- Beside the path of a request, its host and query alone decide what path its address has. -/
theorem pathname_of_plain (library : Library) {request : Request} (hplain : Plain request)
    (hhead : request.RawPath.head? = some slash) :
    pathname library (requestInfo request).url =
      ((addressed library request).bind fun _ => (pathUnescape request.RawPath).map (url.spelling request.RawPath)).getD
        [slash] := by
  obtain ⟨hhost, hpath⟩ := hplain
  have hnamed : slash ∉ addressHost request ∧ questionMark ∉ addressHost request ∧
      url.fragmentMark ∉ addressHost request := by
    unfold addressHost
    split
    · decide
    · exact hhost
  have hscheme : addressScheme request ≠ [] := by
    rcases addressScheme_cases request with h | h <;> rw [h] <;> decide
  unfold pathname addressed
  rw [requestInfo_url, url.parse_pieces (addressScheme_cases request) hnamed hhead hpath library.authority
    (addressQuery_cases request)]
  cases url.gate library.authority (addressHost request) (addressQuery request) with
  | none => rfl
  | some named =>
    simp only [Option.bind_some, url.setPath]
    cases hdecoded : pathUnescape request.RawPath with
    | none => simp
    | some path =>
      have hpathHead := pathUnescape_head hhead hdecoded
      have hstar : path ≠ ascii "*" := by
        rintro rfl
        cases hpathHead
      have hspelling : url.spelling request.RawPath path ≠ [] := by
        intro hempty
        have hunescaped := url.pathUnescape_spelling hdecoded
        rw [hempty] at hunescaped
        cases hunescaped
        cases hpathHead
      have hescaped := url.escapedPath_setPath hdecoded hstar
        { scheme := addressScheme request, host := named, path := [], rawPath := [] }
      simp only [Option.map_some, hescaped, hscheme, hspelling, false_or, or_false]
      by_cases hempty : named = []
      · simp [hempty]
      · simp [hempty]

section

variable {unicode : Unicode} {η ρ σ : Type} {d : Dispatcher unicode η ρ σ} {request : Request}
  {segments : List Bytes} {found : RouteMatch η}

/-- What the path of a request that reaches an endpoint stands for, and the slashes it has, are in its segments. -/
theorem Reaches.decoded (h : Reaches d request segments found) (hquery : questionMark ∉ request.RawPath) :
    request.RawPath.head? = some slash ∧
      pathUnescape request.RawPath = (pathUnescape d.basePath).map (· ++ slash :: join slash segments) ∧
        request.RawPath.count slash = d.basePath.count slash + max 1 segments.length := by
  obtain ⟨route, hroute, hsegments, -⟩ := h
  unfold Dispatcher.relativePath at hroute
  rw [before_eq_self hquery] at hroute
  dsimp only at hroute
  split at hroute
  · cases hroute
  next hhead =>
  have hraw : request.RawPath = d.basePath ++ route := by
    split at hroute
    · next hbase =>
      cases hroute
      rw [hbase, List.nil_append]
    split at hroute
    · next hprefix =>
      cases hroute
      obtain ⟨rest, hrest⟩ := List.isPrefixOf_iff_prefix.mp hprefix
      rw [← hrest, List.append_assoc, trimPrefix_append]
    · cases hroute
  have hrouteQuery : questionMark ∉ route := by
    intro hmem
    rw [hraw] at hquery
    exact hquery (List.mem_append_right _ hmem)
  obtain ⟨hrouteHead, hdecoded, hcount⟩ := decodeRequestPath_ok hrouteQuery hsegments
  refine ⟨not_not.mp hhead, ?_, ?_⟩
  · rw [hraw]
    cases hbase : pathUnescape d.basePath with
    | some base =>
      rw [pathUnescape_append hbase, hdecoded]
      rfl
    | none =>
      obtain ⟨rest, rfl⟩ := List.head?_eq_some_iff.mp hrouteHead
      rw [Option.map_none, ← Option.not_isSome_iff_eq_none]
      intro hsome
      have hbaseSome := pathUnescape_isSome_of_slash hsome
      rw [hbase] at hbaseSome
      cases hbaseSome
  · rw [hraw, List.count_append, hcount]

/-- A path of slashes alone is spelled as it stands. -/
theorem spelling_of_slashes {text decoded : Bytes} (h : pathUnescape text = some decoded)
    (hslashes : ∀ b ∈ decoded, b = slash) : url.spelling text decoded = text := by
  have hstand : url.mayStand slash = true := by decide
  have hvalid : url.validEncoded text = true := url.validEncoded_of_decoded h fun b hb => by rw [hslashes b hb, hstand]
  rw [url.spelling, if_pos hvalid]

/-- Of two requests for one endpoint that differ in the path alone, the limiter leaves the same path only if the paths are
spelled alike. -/
theorem pathname_eq_of_normalized (library : Library) (basePath : Bytes) {rawPath : Bytes}
    (hfirst : Reaches d request segments found) (hsecond : Reaches d { request with rawPath } segments found)
    (hplain : Plain request) (hplain' : Plain { request with rawPath })
    (h : normalizePathname library (requestInfo request).url basePath =
      normalizePathname library (requestInfo { request with rawPath }).url basePath) :
    pathname library (requestInfo request).url = pathname library (requestInfo { request with rawPath }).url := by
  obtain ⟨hhead, hdecoded, hcount⟩ := hfirst.decoded hplain.2.1
  obtain ⟨hhead', hdecoded', hcount'⟩ := hsecond.decoded hplain'.2.1
  have haddressed : addressed library { request with rawPath } = addressed library request := rfl
  rw [normalizePathname_eq, normalizePathname_eq] at h
  rw [pathname_of_plain library hplain hhead, pathname_of_plain library hplain' hhead', haddressed, hdecoded, hdecoded'] at h ⊢
  generalize addressed library request = host at h ⊢
  cases host with
  | none => rfl
  | some named =>
    cases hbase : pathUnescape d.basePath with
    | none => rfl
    | some base =>
      rw [hbase, Option.map_some] at hdecoded hdecoded' h
      simp only [Option.bind_some, Option.map_some, Option.getD_some] at h ⊢
      have hne : base ++ slash :: join slash segments ≠ [] := List.append_ne_nil_of_right_ne_nil base (List.cons_ne_nil _ _)
      refine stripBase_injective (url.pathUnescape_spelling hdecoded) (url.pathUnescape_spelling hdecoded') hne ?_ h
      intro hslashes
      rw [spelling_of_slashes hdecoded hslashes, spelling_of_slashes hdecoded' hslashes, hcount, hcount']

/-- Two requests for one endpoint that differ in the path alone get the same rule, and the same path in their keys,
exactly if their paths are spelled alike and a function of the configuration answers alike for them. -/
theorem same_rule_iff (library : Library) (limiter : Limiter) {rawPath : Bytes}
    (hfirst : Reaches d request segments found) (hsecond : Reaches d { request with rawPath } segments found) :
    (normalizePathname library (requestInfo request).url limiter.config.basePath =
        normalizePathname library (requestInfo { request with rawPath }).url limiter.config.basePath ∧
      limiter.selectRule library (requestInfo request)
          (normalizePathname library (requestInfo request).url limiter.config.basePath) =
        limiter.selectRule library (requestInfo { request with rawPath })
          (normalizePathname library (requestInfo { request with rawPath }).url limiter.config.basePath)) ↔
      SameSpelling library limiter.config.basePath request { request with rawPath } ∧
        ResolvesAlike library limiter (normalizePathname library (requestInfo request).url limiter.config.basePath)
          (requestInfo request) (requestInfo { request with rawPath }) := by
  have hspelling : SameSpelling library limiter.config.basePath request { request with rawPath } ↔
      normalizePathname library (requestInfo request).url limiter.config.basePath =
        normalizePathname library (requestInfo { request with rawPath }).url limiter.config.basePath := by
    unfold SameSpelling
    split
    · next hplain =>
      constructor
      · intro hsame
        rw [normalizePathname_eq, normalizePathname_eq, hsame]
      · exact pathname_eq_of_normalized library limiter.config.basePath hfirst hsecond hplain.1 hplain.2
    · exact Iff.rfl
  rw [hspelling]
  apply and_congr_right
  intro hsame
  rw [← hsame]
  exact selectRule_eq_iff library limiter _ _ _

end

/-! A server with two endpoints, and a library for which all that stands before the path is the host. -/

private def spelledEndpoints : List (Endpoint Unit) :=
  [{ name := "signInEmail", path := ascii "/sign-in/email", methods := ["POST"], handler := some () },
   { name := "resetPassword", path := ascii "/reset-password/:token", methods := ["POST"], handler := some () }]

private def spelledOptions : DispatcherOptions Unit String Unit := { basePath := ascii "/api/auth" }

private def spelledSettings : RuntimeOptions :=
  { rateLimit := { enabled := some true }, basePath := ascii "/api/auth", getIP := fun _ => "" }

private def spelledLimiter : Limiter := (buildRateLimiter spelledSettings).1

private def hostLibrary : Library := { authority := some, matchString := fun _ _ => false }

private def postRequest (rawPath : String) : Request := { method := "POST", host := "example.com", rawPath := ascii rawPath }

private def reachesBoth (first second : String) (segments : List Bytes) (found : RouteMatch Unit) : Bool :=
  match newRegistry asciiUnicode spelledEndpoints [] with
  | .error _ => false
  | .ok registry =>
    match newDispatcher registry spelledOptions with
    | .error _ => false
    | .ok d =>
      [first, second].all fun path =>
        match d.relativePath (postRequest path).RawPath with
        | .error _ => false
        | .ok route =>
          decide (decodeRequestPath route = some segments) &&
            decide (d.registry.find "POST" route d.skipTrailingSlashes = .ok found)

private theorem exists_reaches {first second : String} {found : RouteMatch Unit}
    (h : reachesBoth first second segments found = true) :
    ∃ registry, newRegistry asciiUnicode spelledEndpoints [] = .ok registry ∧
      ∃ d, newDispatcher registry spelledOptions = .ok d ∧
        Reaches d (postRequest first) segments found ∧ Reaches d (postRequest second) segments found := by
  unfold reachesBoth at h
  split at h
  · cases h
  rename_i registry hregistry
  split at h
  · cases h
  rename_i d hd
  have hreaches : ∀ path ∈ [first, second], Reaches d (postRequest path) segments found := by
    intro path hpath
    have hfound := List.all_eq_true.mp h path hpath
    split at hfound
    · cases hfound
    · next route hroute =>
      rw [Bool.and_eq_true, decide_eq_true_eq, decide_eq_true_eq] at hfound
      exact ⟨route, hroute, hfound⟩
  exact ⟨registry, hregistry, d, hd, hreaches first (by simp), hreaches second (by simp)⟩

private def resetPassword : RouteMatch Unit :=
  { endpoint := { name := "resetPassword", path := ascii "/reset-password/:token", methods := ["POST"], handler := some () }
    params := [(ascii "token", ascii "a\"b")] }

/-- A byte that is escaped on the way gets the rule, and the key, of its escape. -/
theorem same_rule_escaped_byte :
    ∃ registry, newRegistry asciiUnicode spelledEndpoints [] = .ok registry ∧
      ∃ d, newDispatcher registry spelledOptions = .ok d ∧
        Reaches d (postRequest "/api/auth/reset-password/a\"b") [ascii "reset-password", ascii "a\"b"] resetPassword ∧
        Reaches d (postRequest "/api/auth/reset-password/a%22b") [ascii "reset-password", ascii "a\"b"] resetPassword ∧
        normalizePathname hostLibrary (requestInfo (postRequest "/api/auth/reset-password/a\"b")).url
            spelledLimiter.config.basePath =
          normalizePathname hostLibrary (requestInfo (postRequest "/api/auth/reset-password/a%22b")).url
            spelledLimiter.config.basePath := by
  have hboth : reachesBoth "/api/auth/reset-password/a\"b" "/api/auth/reset-password/a%22b"
      [ascii "reset-password", ascii "a\"b"] resetPassword = true := by
    decide
  obtain ⟨registry, hregistry, d, hd, hfirst, hsecond⟩ := exists_reaches hboth
  refine ⟨registry, hregistry, d, hd, hfirst, hsecond, ?_⟩
  have hspelling : SameSpelling hostLibrary spelledLimiter.config.basePath
      (postRequest "/api/auth/reset-password/a\"b") (postRequest "/api/auth/reset-password/a%22b") := by
    unfold SameSpelling
    decide
  have halike : ResolvesAlike hostLibrary spelledLimiter
      (normalizePathname hostLibrary (requestInfo (postRequest "/api/auth/reset-password/a\"b")).url
        spelledLimiter.config.basePath)
      (requestInfo (postRequest "/api/auth/reset-password/a\"b"))
      (requestInfo (postRequest "/api/auth/reset-password/a%22b")) := by
    rintro custom hcustom
    cases hcustom
  exact ((same_rule_iff hostLibrary spelledLimiter hfirst hsecond).mpr ⟨hspelling, halike⟩).1

private def signInEmail : RouteMatch Unit :=
  { endpoint := { name := "signInEmail", path := ascii "/sign-in/email", methods := ["POST"], handler := some () }
    params := [] }

/-- An escaped letter takes a request to sign in out of the rule for such requests, and out of their key. -/
theorem sign_in_spelled_twice :
    ¬ ∀ (core : List (Endpoint Unit)) (registry : Registry asciiUnicode Unit)
      (options : DispatcherOptions Unit String Unit) (d : Dispatcher asciiUnicode Unit String Unit)
      (settings : RuntimeOptions) (library : Library) (request : Request) (rawPath : Bytes) (segments : List Bytes)
      (found : RouteMatch Unit),
      newRegistry asciiUnicode core [] = .ok registry → newDispatcher registry options = .ok d →
        settings.basePath = options.basePath → options.skipTrailingSlashes = false →
        Reaches d request segments found → Reaches d { request with rawPath } segments found →
        let limiter := (buildRateLimiter settings).1
        let path := normalizePathname library (requestInfo request).url limiter.config.basePath
        let other := normalizePathname library (requestInfo { request with rawPath }).url limiter.config.basePath
        path = other ∧ limiter.selectRule library (requestInfo request) path =
          limiter.selectRule library (requestInfo { request with rawPath }) other := by
  intro hclaim
  have hboth : reachesBoth "/api/auth/sign-in/email" "/api/auth/%73ign-in/email" [ascii "sign-in", ascii "email"]
      signInEmail = true := by
    decide
  obtain ⟨registry, hregistry, d, hd, hfirst, hsecond⟩ := exists_reaches hboth
  have hsame := hclaim spelledEndpoints registry spelledOptions d spelledSettings hostLibrary
    (postRequest "/api/auth/sign-in/email") (ascii "/api/auth/%73ign-in/email") _ _ hregistry hd rfl rfl hfirst hsecond
  -- Three requests in ten seconds for the one, a hundred for the other.
  have hdiffer : (spelledLimiter.selectRule hostLibrary (requestInfo (postRequest "/api/auth/sign-in/email"))
        (normalizePathname hostLibrary (requestInfo (postRequest "/api/auth/sign-in/email")).url
          spelledLimiter.config.basePath)).toOption = some (some { window := 10, max := 3 }) ∧
      (spelledLimiter.selectRule hostLibrary (requestInfo (postRequest "/api/auth/%73ign-in/email"))
        (normalizePathname hostLibrary (requestInfo (postRequest "/api/auth/%73ign-in/email")).url
          spelledLimiter.config.basePath)).toOption = some (some { window := 10, max := 100 }) := by
    decide
  have hrules := hdiffer.1.symm.trans ((congrArg Except.toOption hsame.2).trans hdiffer.2)
  cases hrules

end singleauth.ratelimit
