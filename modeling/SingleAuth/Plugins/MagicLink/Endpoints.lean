import SingleAuth.Core.OAuthState.Store

open json
open singleauth.core

namespace singleauth.magiclink

structure User where
  (id email name : String)
  emailVerified : Bool
deriving DecidableEq, Repr

structure Account where
  (id userID providerID : String)
deriving DecidableEq, Repr

structure Session where
  (token userID : String)
deriving DecidableEq, Repr

structure Store where
  verifications : List VerificationRow
  users : List User
  accounts : List Account
  sessions : List Session

/-- The plugin's options, with the library functions it calls on addresses:
the address check and Unicode lower-casing. -/
structure Options where
  expiresIn : Int
  disableSignUp : Bool
  validEmail : String → Bool
  toLower : String → String

def validationError (message : String) : Failure := .api 400 "VALIDATION_ERROR" message

def invalidEmail : Failure := .api 400 "INVALID_EMAIL" "Invalid email"

def internalError : Failure := .api 500 "INTERNAL_SERVER_ERROR" "Internal Server Error"

def requiredString (body : Object) (field : String) : Except Failure String :=
  match body.get? field with
  | none => .error (validationError (field ++ " is required"))
  | some (.str text) => .ok text
  | some _ => .error (validationError (field ++ " must be a string"))

def optionalString (body : Object) (field : String) : Except Failure (Option String) :=
  match body.get? field with
  | none => .ok none
  | some (.str text) => .ok (some text)
  | some _ => .error (validationError (field ++ " must be a string"))

def optionalMetadata (body : Object) : Except Failure (Option (List (String × Value))) :=
  match body.get? "metadata" with
  | none => .ok none
  | some (.obj members) => .ok (some members)
  | some _ => .error (validationError "metadata must be an object")

def tokenAlphabet : String := "abcdefghijklmnopqrstuvwxyzABCDEFGHIJKLMNOPQRSTUVWXYZ"

def randomToken (random : List UInt8) (length : Nat) : Except Failure String :=
  let letters := tokenAlphabet.toList
  match drawCharacters letters (256 - 256 % letters.length) length random with
  | none => .error internalError
  | some (characters, _) => .ok (String.ofList characters)

structure Payload where
  email : String
  name : Option String
deriving DecidableEq, Repr

def encodeVerificationValue (email : String) (name : Option String) : Value :=
  .obj (("email", .str email) :: (name.map (fun text => ("name", Value.str text))).toList)

def Payload.unmarshal : Value → Option Payload
  | .obj members => do
    let email ← Kind.string.read "email" "" members
    let name ← (Kind.pointer Value.string?).read "name" none members
    some ⟨email, name⟩
  | .null => some ⟨"", none⟩
  | _ => none

/-- A link that was generated: the token in it, and what is kept under it. -/
structure MagicLink where
  (token email : String)
  name : Option String

variable (options : Options)

/-- The request's checks and the token, up to where the link is kept. -/
def prepareMagicLink (random : List UInt8) (body : Object) : Except Failure MagicLink := do
  let email ← requiredString body "email"
  if options.validEmail email = false then .error invalidEmail
  else do
    let name ← optionalString body "name"
    let _ ← optionalString body "callbackURL"
    let _ ← optionalString body "newUserCallbackURL"
    let _ ← optionalString body "errorCallbackURL"
    let _ ← optionalMetadata body
    let token ← randomToken random 32
    .ok ⟨token, email, name⟩

/-- Generate a link and keep it under its token, the default plain storage.
`delivered` is whether the message could be built and sent; the row stays
either way. -/
def signInMagicLink (clock : Int) (random : List UInt8) (delivered : Bool) (body : Object)
    (store : Store) : Except Failure MagicLink × Store :=
  match prepareMagicLink options random body with
  | .error failure => (.error failure, store)
  | .ok link =>
    let rows := createStoredVerification clock link.token (encodeVerificationValue link.email link.name)
      (clock + options.expiresIn) store.verifications
    (if delivered then .ok link else .error internalError, { store with verifications := rows })

def findUserByEmail (email : String) (store : Store) : Option User :=
  store.users.find? (fun user => user.email = options.toLower email)

/-- Create a user of a fresh id. The unique id and the unique address are
checked by the adapter. -/
def createUser (id email name : String) (store : Store) : Option (User × Store) :=
  let user : User := ⟨id, options.toLower email, name, true⟩
  if store.users.any (fun other => other.id = user.id ∨ other.email = user.email) then none
  else some (user, { store with users := store.users ++ [user] })

/-- Before an address is marked as proven, what an earlier holder of the account
could have left behind is removed: password accounts among the first hundred
the query returns, and all sessions. -/
def revokeUnprovenAccess (userID : String) (store : Store) : Store :=
  match store.users.find? (fun user => user.id = userID) with
  | none => store
  | some user =>
    if user.emailVerified then store
    else
      let found := (store.accounts.filter (fun account => account.userID = userID)).take 100
      let credentials := found.filter (fun account => account.providerID = "credential" ∧ account.id ≠ "")
      { store with
        accounts := store.accounts.filter (fun account => ¬ credentials.any (fun other => other.id = account.id))
        sessions := store.sessions.filter (fun session => session.userID ≠ userID) }

/-- Mark the user's address as proven and return the updated row. -/
def updateUser (id : String) (store : Store) : Option User × Store :=
  let users := store.users.map (fun user => if user.id = id then { user with emailVerified := true } else user)
  (users.find? (fun user => user.id = id), { store with users := users })

/-- A verify request. `destinations` says whether the base address and the three
redirect targets could be resolved, `newUserID` is the id a created user
gets, and `session` is the session token the host issues, if it does. -/
structure VerifyRequest where
  clock : Int
  token : String
  destinations : Except Failure Unit
  newUserID : String
  session : Option String

inductive Outcome where
  | failed (failure : Failure)
  | redirected (error : String)
  | signedIn (user : User) (session : String)
deriving DecidableEq, Repr

/-- The user of a payload: the one with its address, or a new one. -/
def resolveUser (request : VerifyRequest) (payload : Payload) (store : Store) :
    Except Outcome User × Store :=
  match findUserByEmail options payload.email store with
  | some user => (.ok user, store)
  | none =>
    if options.disableSignUp then (.error (.redirected "new_user_signup_disabled"), store)
    else
      match createUser options request.newUserID payload.email (payload.name.getD "") store with
      | none => (.error (.failed internalError), store)
      | some (user, store) => (.ok user, store)

/-- Mark the address of a user as proven, unless it is already. -/
def proveUser (user : User) (store : Store) : Except Outcome User × Store :=
  if user.emailVerified then (.ok user, store)
  else if user.id = "" then (.error (.failed internalError), store)
  else
    match updateUser user.id (revokeUnprovenAccess user.id store) with
    | (none, store) => (.error (.failed internalError), store)
    | (some updated, store) => (.ok updated, store)

def signInPayload (request : VerifyRequest) (payload : Payload) (store : Store) :
    Outcome × Store :=
  match resolveUser options request payload store with
  | (.error outcome, store) => (outcome, store)
  | (.ok user, store) =>
    match proveUser user store with
    | (.error outcome, store) => (outcome, store)
    | (.ok user, store) =>
      match request.session with
      | none => (.redirected "failed_to_create_session", store)
      | some session =>
        (.signedIn user session, { store with sessions := store.sessions ++ [⟨session, user.id⟩] })

/-- Verify a link: consume whatever row the presented token names, decode it as
a payload and sign in the payload's user. -/
def magicLinkVerify (request : VerifyRequest) (store : Store) : Outcome × Store :=
  if request.token = "" then (.failed (validationError "token is required"), store)
  else
    match request.destinations with
    | .error failure => (.failed failure, store)
    | .ok _ =>
      let (verification, rows) := consumeStoredVerification request.clock request.token store.verifications
      let store := { store with verifications := rows }
      match verification with
      | none => (.redirected "INVALID_TOKEN", store)
      | some row =>
        match Payload.unmarshal row.value with
        | none => (.failed internalError, store)
        | some payload =>
          if payload.email = "" then (.failed internalError, store)
          else signInPayload options request payload store

end singleauth.magiclink
