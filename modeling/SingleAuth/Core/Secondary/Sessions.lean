import Mathlib.Data.List.Sort
import SingleAuth.Lib.Script
import SingleAuth.Core.Secondary.Time

open dict expiring script

namespace singleauth.secondary

def activeSessionsPrefix : String := "active-sessions-"

def listKey (userID : String) : String := activeSessionsPrefix ++ userID

/-- A session token in the list of its user. The expiry is in milliseconds. -/
structure ActiveSessionEntry where
  token : String
  expiresAt : Int
  deriving DecidableEq

/-- A session record: the two fields that are read, and the other ones. -/
structure Session where
  userID : Option String
  expiresAt : Option Int
  fields : Dict String

/-- New values for fields of a session. A field may also be cleared. -/
structure SessionUpdate where
  userID : Option (Option String) := none
  expiresAt : Option (Option Int) := none
  fields : Dict String := .empty

/-- A value of the secondary storage: the list of a user's sessions, or a session with
its user. -/
inductive Cached where
  | list (entries : List ActiveSessionEntry)
  | payload (session : Session) (user : Dict String)

def normalizeSecondaryRecord (session : Session) : Session :=
  { session with expiresAt := session.expiresAt.map toMillisecond }

def Session.apply (session : Session) (update : SessionUpdate) : Session where
  userID := update.userID.getD session.userID
  expiresAt := update.expiresAt.getD session.expiresAt
  fields := session.fields.setAll update.fields.entries

/-- The entries of a list; anything else counts as an empty list. -/
def secondarySessionList (found : Option Cached) : List ActiveSessionEntry :=
  match found with
  | some (.list entries) => entries
  | _ => []

/-- The session of a token; a list is no session. -/
def loadSecondarySession (store : Store Cached) (token : String) : Option (Session × Dict String) :=
  match get store token with
  | some (.payload session user) => some (session, user)
  | _ => none

/-- The entries that have not expired, without those of a token. -/
def keepActive (now : Int) (token : String) (entries : List ActiveSessionEntry) : List ActiveSessionEntry :=
  entries.filter fun entry => unixMilli now < entry.expiresAt ∧ entry.token ≠ token

def sortEntries (entries : List ActiveSessionEntry) : List ActiveSessionEntry :=
  entries.insertionSort fun left right => left.expiresAt ≤ right.expiresAt

def listTTL (now : Int) (sorted : List ActiveSessionEntry) : Int :=
  (((sorted.getLast?.map ActiveSessionEntry.expiresAt).getD 0) - unixMilli now).tdiv 1000

/-- The list of a user with the entry of a session that is stored. -/
def listWith (now : Int) (token : String) (expiresAt : Int) (found : Option Cached) : List ActiveSessionEntry :=
  sortEntries (keepActive now token (secondarySessionList found) ++ [{ token, expiresAt := unixMilli expiresAt }])

/-- The list of a user without a session. -/
def listWithout (now : Int) (token : String) (found : Option Cached) : List ActiveSessionEntry :=
  sortEntries (keepActive now token (secondarySessionList found))

def storeSecondarySessionPayload (session : Session) (user : Dict String) (indexToken indexUserID : String)
    (indexExpiresAt : Int) : Script Cached :=
  if indexToken = "" ∨ indexUserID = "" then .done
  else
    .clock fun now =>
      let ttl := secondaryTTL indexExpiresAt now
      if ttl ≤ 0 then .done
      else
        .lock (listKey indexUserID) (.get (listKey indexUserID) fun found =>
          let list := listWith now indexToken indexExpiresAt found
          let storeSession := Script.set indexToken (.payload (normalizeSecondaryRecord session) user) ttl
            (.unlock (listKey indexUserID) .done)
          if 0 < listTTL now list then .set (listKey indexUserID) (.list list) (listTTL now list) storeSession
          else storeSession)

/-- The update is what the hooks leave of it. -/
def updateStoredSession (token : String) (update : SessionUpdate) : Script Cached :=
  .get token fun found =>
    match found with
    | some (.payload session user) =>
      let updated := session.apply update
      match updated.userID, updated.expiresAt with
      | some userID, some expiresAt => storeSecondarySessionPayload updated user token userID expiresAt
      | _, _ => .done
    | _ => .done

/-- Take a session out of a list, then delete it. The list goes with its last entry. -/
def removeSession (token key : String) : Script Cached :=
  .lock key (.get key fun found =>
    .clock fun now =>
      let list := listWithout now token found
      let deleteSession := Script.unlock key (.delete token .done)
      if list = [] then .delete key deleteSession else .set key (.list list) (listTTL now list) deleteSession)

def deleteStoredSession (token : String) : Script Cached :=
  .get token fun found =>
    match found with
    | some (.payload session _) => removeSession token (listKey (session.userID.getD ""))
    | _ => .delete token .done

def deleteSecondaryUserSessions (userID : String) : Script Cached :=
  let key := listKey userID
  .lock key (.get key fun found =>
    deleteEach ((secondarySessionList found).map ActiveSessionEntry.token) (.delete key (.unlock key .done)))

/-- Write the new user into each session that is still there. -/
def refreshEntries (user : Dict String) (now : Int) : List ActiveSessionEntry → Script Cached
  | [] => .done
  | entry :: rest =>
    if entry.expiresAt ≤ unixMilli now then refreshEntries user now rest
    else
      .get entry.token fun found =>
        match found with
        | some (.payload session _) =>
          match session.expiresAt with
          | some expiresAt =>
            .set entry.token (.payload (normalizeSecondaryRecord session) user) (secondaryTTL expiresAt now)
              (refreshEntries user now rest)
          | none => refreshEntries user now rest
        | _ => refreshEntries user now rest

def refreshSecondaryUser (userID : Option String) (user : Dict String) : Script Cached :=
  match userID with
  | none => .done
  | some userID =>
    .get (listKey userID) fun found =>
      .clock fun now => refreshEntries user now (secondarySessionList found)

/-- The mutex of a key: the FNV-1a hash of its bytes modulo the number of mutexes. -/
def lockFor (key : String) : Nat :=
  let hash := key.toUTF8.data.toList.foldl (fun (hash : UInt32) byte => (hash ^^^ byte.toUInt32) * 16777619) 2166136261
  hash.toNat % 64

end singleauth.secondary
