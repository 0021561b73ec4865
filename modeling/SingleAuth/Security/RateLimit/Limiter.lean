import SingleAuth.Core.Contract
import SingleAuth.Lib.Url
import SingleAuth.Security.RateLimit.Database

open bytes singleauth.contract

namespace singleauth.ratelimit

/-- What the standard library makes of addresses and regular expressions. -/
structure Library where
  /-- The host in what stands between the slashes and the path of an address. -/
  authority : Bytes → Option Bytes
  /-- A sample matches an expression that compiles. -/
  matchString : Bytes → Bytes → Bool

/-! ## Paths -/

def trimmedPathname (pathname : Bytes) : Bytes :=
  if trimRight slash pathname = [] then [slash] else trimRight slash pathname

/-- Without the base path and without slashes at the end. -/
def stripBase (basePath pathname : Bytes) : Bytes :=
  let pathname := trimmedPathname pathname
  let normalizedBase := trimRight slash basePath
  if normalizedBase = [] then pathname
  else if pathname = normalizedBase then [slash]
  else if (normalizedBase ++ [slash]).isPrefixOf pathname then trimmedPathname (pathname.drop normalizedBase.length)
  else pathname

variable (library : Library)

def normalizePathname (requestURL basePath : Bytes) : Bytes :=
  match url.parse library.authority requestURL with
  | none => [slash]
  | some parsed =>
    if parsed.scheme = [] ∨ parsed.host = [] then [slash]
    else stripBase basePath (if parsed.escapedPath = [] then [slash] else parsed.escapedPath)

/-! ## Wildcards -/

private def requiredSeparator : Bytes := ascii "[/\\\\]+?"
private def optionalSeparator : Bytes := ascii "[/\\\\]*?"
private def wildcard : Bytes := ascii "[^/\\\\]"

/-- The character of a byte, in UTF-8, as an expression that matches it. -/
def quoteMeta (b : UInt8) : Bytes :=
  if b ∈ ascii "\\.+*?()|[]\x7b\x7d^$" then [92, b]
  else if b < 128 then [b]
  else [(192 : UInt8) ||| (b >>> 6), (128 : UInt8) ||| (b &&& 63)]

def wildcardSegment : Bytes → Bytes
  | [] => []
  | [92] => []
  | 92 :: b :: rest => quoteMeta b ++ wildcardSegment rest
  | 63 :: rest => wildcard ++ wildcardSegment rest
  | 42 :: rest => wildcard ++ ascii "*?" ++ wildcardSegment rest
  | b :: rest => quoteMeta b ++ wildcardSegment rest

def wildcardSegments (first : Bool) : List Bytes → Bytes
  | [] => []
  | segment :: rest =>
    let separator := match rest with
      | [] => optionalSeparator
      | next :: _ => if next = ascii "**" then [] else requiredSeparator
    let expression :=
      if segment = [] ∧ first = false then []
      else if segment = ascii "**" then
        if separator = [] then []
        else (if first then [] else separator) ++ ascii "(?:" ++ wildcard ++ ascii "*?" ++ separator ++ ascii ")*?"
      else wildcardSegment segment ++ separator
    expression ++ wildcardSegments false rest

def wildcardExpression (pattern : Bytes) : Bytes := wildcardSegments true (pattern.splitOn slash)

def wildcardMatch (pattern sample : Bytes) : Bool :=
  library.matchString (ascii "^" ++ wildcardExpression pattern ++ ascii "$") sample

/-! ## Rules -/

structure RequestInfo where
  url : Bytes
  headers : List HeaderField

structure MatcherRule where
  matcher : Option (Bytes → Bool)
  rule : Rule

/-- A rule of the application for the paths of a pattern. `resolve` may choose another rule, or none, or fail. -/
structure CustomRule where
  pattern : Bytes
  rule : Rule
  disabled : Bool := false
  resolve : Option (RequestInfo → Rule → Except String (Option Rule)) := none

/-- The configuration. `getIP` is the client address that the headers give, or the empty text. -/
structure Config where
  enabled : Option Bool := none
  production : Bool := false
  basePath : Bytes
  defaultRule : Rule
  pluginRules : List (List MatcherRule) := []
  customRules : List CustomRule := []
  getIP : List HeaderField → String
  disableTracking : Bool := false

structure Limiter where
  config : Config
  enabled : Bool
  defaultRule : Rule

def defaultMax : Int := 100

def noTrustedIPKey : String := "no-trusted-ip"

def new (config : Config) : Limiter where
  config := config
  enabled := config.enabled.getD config.production
  defaultRule :=
    { window := if config.defaultRule.window = 0 then defaultWindow else config.defaultRule.window
      max := if config.defaultRule.max = 0 then defaultMax else config.defaultRule.max }

def hasPrefix (path : Bytes) (start : String) : Bool := (ascii start).isPrefixOf path

def builtInRule (defaultRule : Rule) (path : Bytes) : Rule :=
  if hasPrefix path "/sign-in" || hasPrefix path "/sign-up" || hasPrefix path "/change-password" ||
      hasPrefix path "/change-email" then
    { window := 10, max := 3 }
  else if path = ascii "/request-password-reset" || path = ascii "/send-verification-email" ||
      hasPrefix path "/forget-password" || path = ascii "/email-otp/send-verification-otp" ||
      path = ascii "/email-otp/request-password-reset" then
    { window := 60, max := 3 }
  else defaultRule

/-- The first rule that matches, of the first plugin that has one. -/
def pluginRule (path : Bytes) (pluginRules : List (List MatcherRule)) : Option Rule :=
  pluginRules.findSome? fun plugin =>
    (plugin.find? fun candidate => candidate.matcher.any fun matcher => matcher path).map (·.rule)

def Limiter.resolveBuiltInAndPlugin (limiter : Limiter) (path : Bytes) : Rule :=
  (pluginRule path limiter.config.pluginRules).getD (builtInRule limiter.defaultRule path)

def CustomRule.applies (path : Bytes) (custom : CustomRule) : Bool :=
  if 42 ∈ custom.pattern then wildcardMatch library custom.pattern path else custom.pattern = path

/-- The rule for a request on a path, or none where the path is not limited. -/
def Limiter.selectRule (limiter : Limiter) (request : RequestInfo) (path : Bytes) :
    Except String (Option Rule) :=
  let rule := limiter.resolveBuiltInAndPlugin path
  match limiter.config.customRules.find? (CustomRule.applies library path) with
  | none => .ok (some rule)
  | some custom =>
    if custom.disabled then .ok none
    else
      match custom.resolve with
      | some resolve => resolve request rule
      | none => .ok (some custom.rule)

/-! ## Checks -/

/-- The bytes of a path as characters. -/
def keyText (path : Bytes) : String := String.ofList (path.map fun b => Char.ofNat b.toNat)

def createKey (ip : String) (path : Bytes) : String := ip ++ "|" ++ keyText path

/-- What a check comes to before the store is asked. -/
inductive Selection where
  /-- The request is not limited. -/
  | unlimited
  | failed (error : String)
  | limited (key : String) (path : Bytes) (rule : Rule)

def Limiter.select (limiter : Limiter) (request : RequestInfo) : Selection :=
  if limiter.enabled = false then .unlimited
  else
    let path := normalizePathname library request.url limiter.config.basePath
    let ip := limiter.config.getIP request.headers
    if ip = "" ∧ limiter.config.disableTracking then .unlimited
    else
      match limiter.selectRule library request path with
      | .error error => .failed error
      | .ok none => .unlimited
      | .ok (some rule) => .limited (createKey (if ip = "" then noTrustedIPKey else ip) path) path rule

/-! ## The limiter of the server -/

structure RateLimitOptions where
  enabled : Option Bool := none
  window : Int := 0
  max : Int := 0
  customRules : List CustomRule := []

/-- The options of the server, as far as the limiter and its database go. -/
structure RuntimeOptions where
  rateLimit : RateLimitOptions := {}
  production : Bool := false
  basePath : Bytes
  /-- The rules of each plugin. -/
  plugins : List (List MatcherRule) := []
  getIP : List HeaderField → String
  disableTracking : Bool := false

/-- The limiter, and the window that its database store is given. -/
def buildRateLimiter (options : RuntimeOptions) : Limiter × Int :=
  (new
    { enabled := options.rateLimit.enabled
      production := options.production
      basePath := options.basePath
      defaultRule := { window := options.rateLimit.window, max := options.rateLimit.max }
      pluginRules := options.plugins.filter fun rules => !rules.isEmpty
      customRules := options.rateLimit.customRules
      getIP := options.getIP
      disableTracking := options.disableTracking },
    options.rateLimit.window)

def requestInfo (request : Request) : RequestInfo where
  url :=
    let host := if request.host = "" then "localhost" else request.host
    let scheme := if request.scheme = "http" ∨ request.scheme = "https" then request.scheme else "http"
    let query := if request.rawQuery = "" then [] else questionMark :: utf8 request.rawQuery
    ascii scheme ++ ascii "://" ++ utf8 host ++ (request.RawPath ++ query)
  headers := request.headers

end singleauth.ratelimit
