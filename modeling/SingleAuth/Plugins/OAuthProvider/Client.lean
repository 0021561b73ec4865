import SingleAuth.Core.Random
import SingleAuth.Lib.Json.Generic
import SingleAuth.Lib.Text

open json fallible text
open singleauth.core

namespace singleauth.oauthprovider

/-- The metadata of an OAuth client. The same record carries what a client may
say about itself and what only the server decides. -/
structure Client where
  (clientID clientSecret : String)
  clientSecretExpiresAt : Int64
  (scope userID : String)
  clientIDIssuedAt : Int64
  (clientName clientURI logoURI : String)
  contacts : Option (List String)
  (tosURI policyURI softwareID softwareVersion softwareStatement : String)
  (redirectURIs postLogoutRedirectURIs : Option (List String))
  tokenEndpointAuthMethod : String
  (grantTypes responseTypes : Option (List String))
  isPublic : Bool
  type : String
  (disabled skipConsent enableEndSession : Bool)
  requirePKCE : Option Bool
  (subjectType referenceID : String)
  metadata : Option Object

/-- Decode a client from a request body, in any spelling of the keys. -/
def decodeServerClient (body : Object) : Option Client := do
  let text := fun name => Kind.string.read name "" body.entries
  let flag := fun name => Kind.bool.read name false body.entries
  let integer := fun name => Kind.int64.read name 0 body.entries
  let texts := fun name => Kind.strings.read name none body.entries
  some
    { clientID := ← text "client_id"
      clientSecret := ← text "client_secret"
      clientSecretExpiresAt := ← integer "client_secret_expires_at"
      scope := ← text "scope"
      userID := ← text "user_id"
      clientIDIssuedAt := ← integer "client_id_issued_at"
      clientName := ← text "client_name"
      clientURI := ← text "client_uri"
      logoURI := ← text "logo_uri"
      contacts := ← texts "contacts"
      tosURI := ← text "tos_uri"
      policyURI := ← text "policy_uri"
      softwareID := ← text "software_id"
      softwareVersion := ← text "software_version"
      softwareStatement := ← text "software_statement"
      redirectURIs := ← texts "redirect_uris"
      postLogoutRedirectURIs := ← texts "post_logout_redirect_uris"
      tokenEndpointAuthMethod := ← text "token_endpoint_auth_method"
      grantTypes := ← texts "grant_types"
      responseTypes := ← texts "response_types"
      isPublic := ← flag "public"
      type := ← text "type"
      disabled := ← flag "disabled"
      skipConsent := ← flag "skip_consent"
      enableEndSession := ← flag "enable_end_session"
      requirePKCE := ← (Kind.pointer Value.bool?).read "require_pkce" none body.entries
      subjectType := ← text "subject_type"
      referenceID := ← text "reference_id"
      metadata := ← Kind.map.read "metadata" none body.entries }

/-- A row of the oauthClient table. Times are nanoseconds. -/
structure ClientRecord where
  clientId : String
  clientSecret : Option String
  (disabled skipConsent enableEndSession : Bool)
  subjectType : String
  userId : Option String
  (name uri icon : String)
  contacts : List String
  (tos policy softwareId softwareVersion softwareStatement : String)
  (redirectUris postLogoutRedirectUris : List String)
  tokenEndpointAuthMethod : String
  (grantTypes responseTypes : List String)
  isPublic : Bool
  type : String
  referenceId : Option String
  metadata : Option Object
  scopes : Option (List String)
  requirePKCE : Option Bool
  (createdAt updatedAt : Int)

/-- An empty text is stored as no value. -/
def nonEmpty (content : String) : Option String := if content = "" then none else some content

def clientToRecord (client : Client) (now : Int) : ClientRecord where
  clientId := client.clientID
  clientSecret := nonEmpty client.clientSecret
  disabled := client.disabled
  skipConsent := client.skipConsent
  enableEndSession := client.enableEndSession
  subjectType := client.subjectType
  userId := nonEmpty client.userID
  name := client.clientName
  uri := client.clientURI
  icon := client.logoURI
  contacts := client.contacts.getD []
  tos := client.tosURI
  policy := client.policyURI
  softwareId := client.softwareID
  softwareVersion := client.softwareVersion
  softwareStatement := client.softwareStatement
  redirectUris := client.redirectURIs.getD []
  postLogoutRedirectUris := client.postLogoutRedirectURIs.getD []
  tokenEndpointAuthMethod := client.tokenEndpointAuthMethod
  grantTypes := client.grantTypes.getD []
  responseTypes := client.responseTypes.getD []
  isPublic := client.isPublic
  type := client.type
  referenceId := nonEmpty client.referenceID
  metadata := client.metadata
  scopes := if client.scope = "" then none else some (fields client.scope)
  requirePKCE := client.requirePKCE
  createdAt := now
  updatedAt := now

/-- The authenticated session: the ids its user record and its session record have. -/
structure Session where
  (userRecordID sessionUserID : String)
deriving DecidableEq, Repr

def Session.userID (session : Session) : String :=
  if session.userRecordID = "" then session.sessionUserID else session.userRecordID

structure ServerOptions where
  (allowDynamicClientRegistration allowUnauthenticatedClientRegistration : Bool)
  (clientRegistrationDefaultScopes clientRegistrationAllowedScopes : Option (List String))
  (scopes grantTypes : List String)
  pairwiseSecret : String
  clientReference : Session → Except Failure String
  storeClientSecret : String → Except Failure String
  isSafeURL : String → Bool
  urlHost : String → String

def invalidMetadata (message : String) : Failure := .api 400 "INVALID_CLIENT_METADATA" message

/-- All redirect addresses that have a host have the same one. -/
def oneHost (urlHost : String → String) : String → List String → Bool
  | _, [] => true
  | host, uri :: rest =>
    if host = "" then oneHost urlHost (urlHost uri) rest else urlHost uri = host && oneHost urlHost host rest

/-- The checks on a client's metadata, in the order the server makes them. -/
def validateClient (options : ServerOptions) (client : Client) (registration : Bool) : Except Failure Unit := do
  let isPublic := decide (client.tokenEndpointAuthMethod = "none")
  require (client.tokenEndpointAuthMethod ∈ ["", "none", "client_secret_basic", "client_secret_post"])
    (invalidMetadata "invalid token_endpoint_auth_method")
  require (client.type = "" ∨ isPublic = false ∨ client.type = "native" ∨ client.type = "user-agent-based")
    (invalidMetadata "Type must be 'native' or 'user-agent-based' for public applications")
  require (client.type = "" ∨ isPublic = true ∨ client.type = "web")
    (invalidMetadata "Type must be 'web' for confidential applications")
  let given := client.grantTypes.getD []
  let grantTypes := if given = [] then ["authorization_code"] else given
  require (∀ grant ∈ grantTypes, grant ∈ options.grantTypes) (invalidMetadata "unsupported grant type")
  let redirectURIs := client.redirectURIs.getD []
  require ("authorization_code" ∉ grantTypes ∨ redirectURIs ≠ [])
    (.api 400 "INVALID_REDIRECT_URI" "Redirect URIs are required for authorization_code grant type")
  require ("authorization_code" ∉ grantTypes ∨ "code" ∈ client.responseTypes.getD [])
    (invalidMetadata "When 'authorization_code' grant type is used, 'code' response type must be included")
  require (∀ uri ∈ redirectURIs ++ client.postLogoutRedirectURIs.getD [], options.isSafeURL uri = true)
    (.api 400 "INVALID_REDIRECT_URI" "invalid redirect URI")
  require (client.subjectType ∈ ["", "public", "pairwise"])
    (invalidMetadata "subject_type must be public or pairwise")
  require (client.subjectType ≠ "pairwise" ∨ options.pairwiseSecret ≠ "")
    (invalidMetadata "pairwise subject_type requires server pairwiseSecret configuration")
  require (client.subjectType ≠ "pairwise" ∨ oneHost options.urlHost "" redirectURIs = true)
    (invalidMetadata "pairwise clients must use one redirect host")
  let allowedScopes := if registration then options.clientRegistrationAllowedScopes.getD options.scopes
    else options.scopes
  require (∀ scope ∈ fields client.scope, scope ∈ allowedScopes)
    (.api 400 "INVALID_SCOPE" "client requested an unsupported scope")
  require (registration = false ∨ client.requirePKCE ≠ some false)
    (invalidMetadata "pkce is required for registered clients")

end singleauth.oauthprovider
