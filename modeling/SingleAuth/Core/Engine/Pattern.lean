import SingleAuth.Lib.Bytes
import SingleAuth.Lib.Fallible

open bytes fallible

namespace singleauth.engine

inductive RouteSegment where
  | static (value : Bytes)
  | parameter (name : Bytes)
  | wildcard (name : Bytes)
  deriving DecidableEq

structure RoutePattern where
  (raw shape : Bytes)
  segments : List RouteSegment
  deriving DecidableEq

/-- Why a declared path is no route pattern. -/
inductive PatternError where
  | noLeadingSlash
  | queryOrFragment
  | emptySegment
  | wildcardNotLast
  | invalidWildcardName (name : Bytes)
  | invalidParameterName (name : Bytes)
  | duplicateParameterName (name : Bytes)
  | invalidEscape (segment : Bytes)
  deriving DecidableEq

def validParameterName (unicode : Unicode) (name : Bytes) : Bool :=
  match unicode.runes name with
  | [] => false
  | first :: rest =>
    (first = '_' || unicode.isLetter first) &&
      rest.all (fun r => r = '_' || r = '-' || unicode.isLetter r || unicode.isDigit r)

def splitPath (path : Bytes) : List Bytes :=
  if path = [slash] then [] else (trimPrefix [slash] path).splitOn slash

/-- The name of a final wildcard segment, which begins with one or two stars. -/
def wildcardName (raw : Bytes) : Bytes :=
  let name := trimPrefix (ascii "*") (trimPrefix (ascii "*") raw)
  if name = [] then ascii "*" else name

/-- The loop over the raw segments. `names` holds the parameter names met so
far. -/
def compileSegments (unicode : Unicode) (names : List Bytes) : List Bytes → Except PatternError (List RouteSegment)
  | [] => .ok []
  | raw :: rest =>
    if raw = [] ∧ rest ≠ [] then .error .emptySegment
    else if (ascii "*").isPrefixOf raw then
      if rest ≠ [] then .error .wildcardNotLast
      else if wildcardName raw ≠ ascii "*" ∧ ¬ validParameterName unicode (wildcardName raw) then
        .error (.invalidWildcardName (wildcardName raw))
      else .ok [.wildcard (wildcardName raw)]
    else if (ascii ":").isPrefixOf raw then
      let name := trimPrefix (ascii ":") raw
      if ¬ validParameterName unicode name then .error (.invalidParameterName name)
      else if name ∈ names then .error (.duplicateParameterName name)
      else do
        let segments ← compileSegments unicode (name :: names) rest
        .ok (.parameter name :: segments)
    else
      match pathUnescape raw with
      | none => .error (.invalidEscape raw)
      | some value => do
        let segments ← compileSegments unicode names rest
        .ok (.static value :: segments)

def shapePart : RouteSegment → Bytes
  | .static value => ascii "s:" ++ value
  | .parameter _ => ascii ":"
  | .wildcard _ => ascii "*"

def compileRoutePattern (unicode : Unicode) (path : Bytes) : Except PatternError RoutePattern := do
  require (path.head? = some slash) .noLeadingSlash
  require (path.all (fun b => b != questionMark && b != 35)) .queryOrFragment
  let segments ← compileSegments unicode [] (splitPath path)
  .ok { raw := path, shape := join 0 (segments.map shapePart), segments }

/-- The decoded segments of a request path. `none` where the source reports an
invalid path. -/
def decodeRequestPath (rawPath : Bytes) : Option (List Bytes) :=
  let path := before questionMark rawPath
  if path.head? = some slash then (splitPath path).mapM pathUnescape else none

/-- The values of the dynamic segments, by name. -/
abbrev Params := List (Bytes × Bytes)

def setParam (params : Params) (name value : Bytes) : Params :=
  params.filter (fun entry => entry.1 ≠ name) ++ [(name, value)]

def matchSegments (params : Params) : List RouteSegment → List Bytes → Option Params
  | [], [] => some params
  | [], _ :: _ => none
  | .wildcard name :: _, segments => some (setParam params name (join slash segments))
  | .static _ :: _, [] => none
  | .static value :: pattern, segment :: segments =>
    if segment ≠ value then none else matchSegments params pattern segments
  | .parameter _ :: _, [] => none
  | .parameter name :: pattern, segment :: segments =>
    if segment = [] then none else matchSegments (setParam params name segment) pattern segments

/-- Without one last element that stands for a trailing slash. -/
def skipTrailing {α : Type} [DecidableEq α] (trailing : α) (segments : List α) : List α :=
  if segments.getLast? = some trailing then segments.dropLast else segments

def RoutePattern.matchRequest (pattern : RoutePattern) (segments : List Bytes) (skipTrailingSlashes : Bool) :
    Option Params :=
  if skipTrailingSlashes then
    matchSegments [] (skipTrailing (.static []) pattern.segments) (skipTrailing [] segments)
  else matchSegments [] pattern.segments segments

def RouteSegment.rank : RouteSegment → Nat
  | .static _ => 3
  | .parameter _ => 2
  | .wildcard _ => 1

def compareRanks : List Nat → List Nat → Ordering
  | [], [] => .eq
  | _ :: _, [] => .gt
  | [], _ :: _ => .lt
  | left :: lefts, right :: rights =>
    if left > right then .gt else if left < right then .lt else compareRanks lefts rights

def comparePatternSpecificity (left right : RoutePattern) : Ordering :=
  compareRanks (left.segments.map RouteSegment.rank) (right.segments.map RouteSegment.rank)

/-! ## Static paths -/

/-- No segment is a parameter or a wildcard, and nothing is escaped: the path
spells its own segments. -/
def StaticPath (path : Bytes) : Prop :=
  percent ∉ path ∧ ∀ raw ∈ splitPath path, ¬ (ascii "*").isPrefixOf raw ∧ ¬ (ascii ":").isPrefixOf raw

instance (path : Bytes) : Decidable (StaticPath path) := by unfold StaticPath; infer_instance

/-- The path has a last, empty segment, as `/sign-in/` has. -/
def trailingSlash (path : Bytes) : Bool := (splitPath path).getLast? = some []

variable {b : UInt8} {raws segments : List Bytes} {params : Params} {pattern : RoutePattern}

private theorem mem_of_mem_intercalate {piece : Bytes} {pieces : List Bytes} {separator : UInt8}
    (hpiece : piece ∈ pieces) (hb : b ∈ piece) : b ∈ [separator].intercalate pieces := by
  induction pieces with
  | nil => simp at hpiece
  | cons head tail ih =>
    cases tail with
    | nil =>
      rw [List.mem_singleton] at hpiece
      simpa [hpiece] using hb
    | cons next rest =>
      rw [List.intercalate_cons_cons]
      rcases List.mem_cons.mp hpiece with rfl | htail
      · simp [hb]
      · simp [ih htail]

variable {path : Bytes} {unicode : Unicode}

theorem mem_of_mem_splitPath {segment : Bytes} (hsegment : segment ∈ splitPath path) (hb : b ∈ segment) : b ∈ path := by
  unfold splitPath at hsegment
  split at hsegment
  · simp at hsegment
  have htrimmed : b ∈ trimPrefix [slash] path := by
    have hjoined : [slash].intercalate ((trimPrefix [slash] path).splitOn slash) = trimPrefix [slash] path :=
      List.intercalate_splitOn slash
    rw [← hjoined]
    exact mem_of_mem_intercalate hsegment hb
  unfold trimPrefix at htrimmed
  split at htrimmed
  · next rest hrest =>
    have hpath := List.isPrefixOf?_eq_some_iff_append_eq.mp hrest
    rw [← hpath]
    simp [htrimmed]
  · exact htrimmed

/-- Paths that begin with a slash are told apart by their segments. -/
theorem splitPath_injective {first second : Bytes} (hfirst : first.head? = some slash)
    (hsecond : second.head? = some slash) (h : splitPath first = splitPath second) : first = second := by
  obtain ⟨rest, rfl⟩ := List.head?_eq_some_iff.mp hfirst
  obtain ⟨other, rfl⟩ := List.head?_eq_some_iff.mp hsecond
  simp only [splitPath, trimPrefix_singleton_cons] at h
  by_cases hrest : slash :: rest = [slash] <;> by_cases hother : slash :: other = [slash]
  · rw [hrest, hother]
  · rw [if_pos hrest, if_neg hother] at h
    exact absurd h.symm (List.splitOn_ne_nil slash other)
  · rw [if_neg hrest, if_pos hother] at h
    exact absurd h (List.splitOn_ne_nil slash rest)
  · rw [if_neg hrest, if_neg hother] at h
    rw [splitOn_injective slash h]

theorem compileSegments_static {names : List Bytes} {segments : List RouteSegment}
    (hescaped : ∀ raw ∈ raws, percent ∉ raw)
    (hstatic : ∀ raw ∈ raws, ¬ (ascii "*").isPrefixOf raw ∧ ¬ (ascii ":").isPrefixOf raw)
    (h : compileSegments unicode names raws = .ok segments) : segments = raws.map .static := by
  induction raws generalizing segments with
  | nil =>
    cases h
    rfl
  | cons raw rest ih =>
    obtain ⟨hstar, hcolon⟩ := hstatic raw List.mem_cons_self
    rw [compileSegments, if_neg hstar, if_neg hcolon,
      pathUnescape_of_no_percent (hescaped raw List.mem_cons_self)] at h
    split at h
    · cases h
    obtain ⟨tail, htail, h⟩ := bind_eq_ok_iff.mp h
    cases h
    rw [ih (fun r hr => hescaped r (List.mem_cons_of_mem _ hr)) (fun r hr => hstatic r (List.mem_cons_of_mem _ hr))
      htail, List.map_cons]

theorem matchSegments_static {result : Params}
    (h : matchSegments params (raws.map .static) segments = some result) : segments = raws := by
  induction raws generalizing segments with
  | nil =>
    cases segments with
    | nil => rfl
    | cons segment segments => cases h
  | cons raw rest ih =>
    cases segments with
    | nil => cases h
    | cons segment segments =>
      rw [List.map_cons, matchSegments] at h
      split at h
      · cases h
      · next heq => rw [not_not.mp heq, ih h]

theorem compileRoutePattern_ok (h : compileRoutePattern unicode path = .ok pattern) :
    path.head? = some slash ∧ questionMark ∉ path ∧
      compileSegments unicode [] (splitPath path) = .ok pattern.segments := by
  obtain ⟨_, hslash, _, hplain, segments, hsegments, h⟩ := ok_of_bind₃ h
  cases h
  rw [require_eq_ok_iff] at hslash hplain
  refine ⟨hslash, fun hmem => ?_, hsegments⟩
  simpa using List.all_eq_true.mp hplain questionMark hmem

theorem decodeRequestPath_of_no_percent (hslash : path.head? = some slash)
    (hquery : questionMark ∉ path) (hescaped : percent ∉ path) : decodeRequestPath path = some (splitPath path) := by
  have hsegments : ∀ segment ∈ splitPath path, pathUnescape segment = some segment := by
    intro segment hsegment
    exact pathUnescape_of_no_percent (fun hb => hescaped (mem_of_mem_splitPath hsegment hb))
  rw [decodeRequestPath, before_eq_self hquery, if_pos hslash]
  generalize splitPath path = segments at hsegments
  induction segments with
  | nil => rfl
  | cons segment rest ih =>
    rw [List.mapM_cons, hsegments segment List.mem_cons_self,
      ih (fun s hs => hsegments s (List.mem_cons_of_mem _ hs))]
    rfl

private theorem skipTrailing_static (raws : List Bytes) :
    skipTrailing (RouteSegment.static []) (raws.map .static) = (skipTrailing [] raws).map .static := by
  unfold skipTrailing
  rw [List.getLast?_map]
  by_cases hlast : raws.getLast? = some []
  · simp [hlast]
  have hstatic : raws.getLast?.map RouteSegment.static ≠ some (.static []) := by
    intro h
    obtain ⟨raw, hraw, heq⟩ := Option.map_eq_some_iff.mp h
    cases heq
    exact hlast hraw
  rw [if_neg hstatic, if_neg hlast]

private theorem skipTrailing_injective {first second : List Bytes}
    (htrailing : first.getLast? = some [] ↔ second.getLast? = some [])
    (h : skipTrailing [] first = skipTrailing [] second) : first = second := by
  unfold skipTrailing at h
  by_cases hfirst : first.getLast? = some []
  · have hsecond := htrailing.mp hfirst
    rw [if_pos hfirst, if_pos hsecond] at h
    rw [← List.dropLast_append_getLast? [] hfirst, ← List.dropLast_append_getLast? [] hsecond, h]
  · rwa [if_neg hfirst, if_neg (fun hsecond => hfirst (htrailing.mpr hsecond))] at h

/-- A path without escapes that a static pattern accepts is the declared path,
up to a trailing slash where those are skipped. -/
theorem matchRequest_static {declared : Bytes} {skipTrailingSlashes : Bool}
    (hcompiled : compileRoutePattern unicode declared = .ok pattern) (hstatic : StaticPath declared)
    (hslash : path.head? = some slash) (hquery : questionMark ∉ path) (hescaped : percent ∉ path)
    (htrailing : skipTrailingSlashes = false ∨ trailingSlash path = trailingSlash declared)
    (hdecoded : decodeRequestPath path = some segments)
    (hmatch : pattern.matchRequest segments skipTrailingSlashes = some params) : path = declared := by
  obtain ⟨hdeclared, _, hcompiledSegments⟩ := compileRoutePattern_ok hcompiled
  have hsegments : pattern.segments = (splitPath declared).map .static :=
    compileSegments_static (fun raw hraw hb => hstatic.1 (mem_of_mem_splitPath hraw hb)) hstatic.2 hcompiledSegments
  rw [decodeRequestPath_of_no_percent hslash hquery hescaped] at hdecoded
  cases hdecoded
  apply splitPath_injective hslash hdeclared
  unfold RoutePattern.matchRequest at hmatch
  rw [hsegments] at hmatch
  cases skipTrailingSlashes with
  | false => exact matchSegments_static hmatch
  | true =>
    rw [if_pos rfl, skipTrailing_static] at hmatch
    apply skipTrailing_injective _ (matchSegments_static hmatch)
    rcases htrailing with hoff | htrailing
    · cases hoff
    · simpa [trailingSlash] using htrailing

end singleauth.engine
