import SingleAuth.Lib.Bytes

open bytes

namespace singleauth.contract

structure HeaderField where
  (name value : String)
  deriving DecidableEq

/-- A request snapshot. The cancellation context is not part of it. -/
structure Request where
  method : String
  scheme : String := ""
  host : String := ""
  rawPath : Bytes
  rawQuery : String := ""
  headers : List HeaderField := []
  body : Bytes := []
  peerAddress : String := ""
  deriving DecidableEq

/-- The path that the request reports: never empty. -/
def Request.RawPath (request : Request) : Bytes := if request.rawPath = [] then [slash] else request.rawPath

/-- The first value of a header, and whether the request has that header. -/
def Headers.get (unicode : Unicode) (headers : List HeaderField) (name : String) : String × Bool :=
  match headers.find? (fun field => unicode.equalFold field.name name) with
  | some field => (field.value, true)
  | none => ("", false)

def Headers.has (unicode : Unicode) (headers : List HeaderField) (name : String) : Bool :=
  (Headers.get unicode headers name).2

/-- An error with an answer of its own. The cause that it wraps for logging is
left out. -/
structure APIError where
  status : Nat
  (code message : String)
  headers : List HeaderField := []
  deriving DecidableEq

/-- An error of a stage of the pipeline: typed, or any other. -/
inductive Failure where
  | api (error : APIError)
  | unknown
  deriving DecidableEq

def statusBadRequest : Nat := 400
def statusUnauthorized : Nat := 401
def statusForbidden : Nat := 403
def statusNotFound : Nat := 404
def statusMethodNotAllowed : Nat := 405
def statusTooManyRequests : Nat := 429
def statusInternalServerError : Nat := 500

end singleauth.contract
