import Mathlib
import SingleAuth.Plugins.Admin.UpdateUser

open dict fallible transition
open singleauth.core singleauth.storage singleauth.memory

namespace singleauth.admin

/-! ## Ban fields -/

def zeroInstant : Int := -62135596800000000000

/-- The time in a field of a record, where a text is parsed. -/
def recordTime (parseTime : String → Option Int) (record : Record) (key : String) : Option Int :=
  match record.get? key with
  | some (.time value) => if value.instant = zeroInstant then none else some value.instant
  | some (.string content) => parseTime content
  | _ => none

/-- A number of seconds in a request: whether it is zero, and the whole nanoseconds
in it. -/
structure Seconds where
  isZero : Bool
  nanoseconds : Int

def banFields : List String := ["banExpires", "banReason", "banned", "updatedAt"]

/-- The plugin with what it needs for bans. -/
structure BanPlugin where
  options : Options
  defaultBanReason : String := ""
  defaultBanExpiresIn : Int := 0
  bannedUserMessage : String := ""
  library : Library
  parseTime : String → Option Int
  numberValue : Value → Option Seconds
  /-- The conversion of a number of nanoseconds to a duration of 64 bits. -/
  toDuration : Int → Int
  toDuration_eq : ∀ nanoseconds, -2 ^ 63 ≤ nanoseconds → nanoseconds < 2 ^ 63 → toDuration nanoseconds = nanoseconds
  /-- The checks of an update on its data, in the presence of some users. -/
  checkUpdate : List Record → Actor → String → Record → Except Failure Record
  /-- What the adapter writes for an update, by the names of the fields. -/
  store : Record → Record
  store_eq : ∀ update : Record, (∀ entry ∈ update.entries, entry.1 ∈ banFields) →
    ∀ key ∈ ["id", "banned", "banExpires"], (store update).get? key = update.get? key

def utc (instant : Int) : Value := .time ⟨instant, "UTC"⟩

def findUser (users : List Record) (userID : String) : Option Record :=
  users.find? fun user => recordString user "id" = userID

namespace BanPlugin

variable (plugin : BanPlugin) (users : List Record) (actor : Option Actor) (body : Record)

/-- Write an update into the user's record. -/
def updateRecords (userID : String) (update : Record) : List Record :=
  users.map fun user => if recordString user "id" = userID then assign (plugin.store update) user else user

def authorized (action : String) (denied : Failure) : Except Failure Actor := do
  let actor ← expect actor (.api 401 "UNAUTHORIZED" "Unauthorized")
  require (actor.may plugin.options action) denied
  .ok actor

def optionalNumber (field : String) : Except Failure (Option Seconds) :=
  match body.get? field with
  | none | some .null => .ok none
  | some value => (expect (plugin.numberValue value) (validationError (field ++ " must be a number"))).map some

def banReason : String :=
  let given := recordString body "banReason"
  let reason := if given = "" then plugin.defaultBanReason else given
  if reason = "" then "No reason" else reason

def requested (seconds : Option Seconds) : Option Int :=
  match seconds.filter fun seconds => !seconds.isZero with
  | some seconds => some seconds.nanoseconds
  | none => if plugin.defaultBanExpiresIn ≠ 0 then some plugin.defaultBanExpiresIn else none

/-- The update of a ban. Without a duration it leaves the expiry as it is. -/
def banUpdate (now : Int) (body : Record) (seconds : Option Seconds) : Record :=
  let update := Dict.ofEntries
    [("banReason", .string (plugin.banReason body)), ("banned", .bool true), ("updatedAt", utc now)]
  match seconds.filter fun seconds => !seconds.isZero with
  | some seconds => update.set "banExpires" (utc (now + plugin.toDuration seconds.nanoseconds))
  | none =>
    if plugin.defaultBanExpiresIn ≠ 0 then update.set "banExpires" (utc (now + plugin.defaultBanExpiresIn)) else update

def banUser :
    Except Failure (String × Option Seconds) := do
  let actor ← plugin.authorized actor "ban" notAllowedToBan
  let userID ← requiredCoercedString plugin.library body "userId"
  require ((findUser users userID).isSome) userNotFound
  require (userID ≠ actor.id) (adminError 400 "YOU_CANNOT_BAN_YOURSELF" "You cannot ban yourself")
  let seconds ← plugin.optionalNumber body "banExpiresIn"
  .ok (userID, seconds)

def unbanUser : Except Failure String := do
  let _ ← plugin.authorized actor "ban" notAllowedToBan
  let userID ← requiredCoercedString plugin.library body "userId"
  require ((findUser users userID).isSome) userNotFound
  .ok userID

def unbanUpdate (now : Int) : Record :=
  Dict.ofEntries [("banExpires", .null), ("banReason", .null), ("banned", .bool false), ("updatedAt", utc now)]

/-- The user and the update of a request that passes all checks. -/
def updateUser : Except Failure (String × Record) := do
  let actor ← plugin.authorized actor "update"
    (adminError 403 "YOU_ARE_NOT_ALLOWED_TO_UPDATE_USERS" "You are not allowed to update users")
  let userID ← requiredCoercedString plugin.library body "userId"
  let data ← requiredObject body "data"
  let update ← plugin.checkUpdate users actor userID data
  require ((findUser users userID).isSome) userNotFound
  .ok (userID, update)

/-- What the session hook writes when it lifts a ban that has run out. -/
def expiredUpdate : Record := Dict.ofEntries [("banExpires", .null), ("banReason", .null), ("banned", .bool false)]

/-- The hook in front of a new session: the users afterwards, or a refusal. -/
def beforeSessionCreate (now : Int) (users : List Record) (userID : String) : Except Failure (List Record) :=
  match findUser users userID with
  | none => .ok users
  | some user =>
    if recordBool user "banned" = false then .ok users
    else
      match recordTime plugin.parseTime user "banExpires" with
      | some expiresAt =>
        if expiresAt < now then .ok (plugin.updateRecords users userID expiredUpdate)
        else .error (.api 403 "BANNED_USER" plugin.bannedUserMessage)
      | none => .error (.api 403 "BANNED_USER" plugin.bannedUserMessage)

end BanPlugin

/-! ## Histories -/

/-- A session with its number in the order of creation. -/
structure NumberedSession where
  userID : String
  number : Nat
  deriving DecidableEq

/-- What happened to users, as a history tells it: a ban with its end (⊤ without a
duration) and the sessions that it met, the end of a ban by hand, and a session. -/
inductive BanEvent where
  | banned (userID : String) (term : WithTop Int) (sessions : List NumberedSession)
  | lifted (userID : String)
  | signedIn (userID : String) (now : Int)

structure BanState where
  users : List Record
  sessions : List NumberedSession := []
  created : Nat
  now : Int
  log : List BanEvent := []

inductive BanRequest where
  | ban (actor : Option Actor) (body : Record)
  | unban (actor : Option Actor) (body : Record)
  | update (actor : Option Actor) (body : Record)
  /-- An attempt to create a session; it may still fail after the hook. -/
  | signIn (userID : String) (stored : Bool)

structure Timed where
  time : Int
  request : BanRequest

/-- What is written takes the mark of a ban away. -/
def liftsBan (written : Record) : Bool := (written.get? "banned").isSome && !recordBool written "banned"

namespace BanState

variable (plugin : BanPlugin) (state : BanState)

def revokeSessions (userID : String) : BanState :=
  { state with sessions := state.sessions.filter fun session => session.userID ≠ userID }

def updated (userID : String) (update : Record) : BanState :=
  { state with users := plugin.updateRecords state.users userID update }

def note (event : BanEvent) : BanState := { state with log := event :: state.log }

def endOf (now : Int) (length : Option Int) : WithTop Int :=
  match length with
  | some length => ((now + length : Int) : WithTop Int)
  | none => ⊤

/-- One request at its time. A request that is refused changes nothing. -/
def step (input : Timed) : BanState :=
  let state := { state with now := input.time }
  match input.request with
  | .ban actor body =>
    match plugin.banUser state.users actor body with
    | .error _ => state
    | .ok (userID, seconds) =>
      ((state.updated plugin userID (plugin.banUpdate input.time body seconds)).revokeSessions userID).note
        (.banned userID (endOf input.time (plugin.requested seconds)) state.sessions)
  | .unban actor body =>
    match plugin.unbanUser state.users actor body with
    | .error _ => state
    | .ok userID => (state.updated plugin userID (BanPlugin.unbanUpdate input.time)).note (.lifted userID)
  | .update actor body =>
    match plugin.updateUser state.users actor body with
    | .error _ => state
    | .ok (userID, update) =>
      let written := state.updated plugin userID update
      let revoked := if recordBool update "banned" then written.revokeSessions userID else written
      if liftsBan (plugin.store update) then revoked.note (.lifted userID) else revoked
  | .signIn userID stored =>
    match plugin.beforeSessionCreate input.time state.users userID with
    | .error _ => state
    | .ok users =>
      let state := { state with users }
      if stored then
        { state with
          sessions := ⟨userID, state.created⟩ :: state.sessions
          created := state.created + 1 }.note (.signedIn userID input.time)
      else state

end BanState

/-- The ends of the bans of a user that nothing has lifted since. -/
def inForce (userID : String) : List BanEvent → List (WithTop Int)
  | [] => []
  | .banned other term _ :: rest => if other = userID then term :: inForce userID rest else inForce userID rest
  | .lifted other :: rest => if other = userID then [] else inForce userID rest
  | .signedIn _ _ :: rest => inForce userID rest

/-- No session was created before the end of a ban in force. -/
def Kept : List BanEvent → Prop
  | [] => True
  | .signedIn userID now :: rest => (∀ term ∈ inForce userID rest, term ≤ (now : WithTop Int)) ∧ Kept rest
  | .banned _ _ _ :: rest => Kept rest
  | .lifted _ :: rest => Kept rest

/-- The sessions of a user that a ban met are gone. -/
def Ended (state : BanState) : Prop :=
  ∀ {userID term sessions}, .banned userID term sessions ∈ state.log →
    ∀ session ∈ sessions, session.userID = userID → session ∉ state.sessions

/-! ## Terms -/

def banUntil (plugin : BanPlugin) (record : Record) : WithTop Int :=
  match recordTime plugin.parseTime record "banExpires" with
  | some expiresAt => (expiresAt : WithTop Int)
  | none => ⊤

/-- A ban of the user stands at least to its end, or its end has come. -/
def Covers (plugin : BanPlugin) (now : Int) (record : Record) (term : WithTop Int) : Prop :=
  (recordBool record "banned" = true ∧ term ≤ banUntil plugin record) ∨ term ≤ (now : WithTop Int)

def Covered (plugin : BanPlugin) (now : Int) (users : List Record) (userID : String) (term : WithTop Int) : Prop :=
  (∃ user ∈ users, recordString user "id" = userID) ∧
    ∀ user ∈ users, recordString user "id" = userID → Covers plugin now user term

section

variable {plugin : BanPlugin}

theorem recordBool_assign (written record : Record) (key : String) :
    recordBool (assign written record) key =
      if (written.get? key).isSome then recordBool written key else recordBool record key := by
  unfold recordBool
  rw [get?_assign]
  cases written.get? key <;> rfl

variable {record body : Record} {now : Int} {term : WithTop Int} {userID : String} {users : List Record}
  {seconds : Option Seconds} {state : BanState} {key target : String} {next : BanState} {written : List Record}

theorem recordString_assign {written : Record} (h : written.get? key = none) :
    recordString (assign written record) key = recordString record key := by
  unfold recordString
  rw [get?_assign, h, Option.none_or]

theorem banUntil_assign (written record : Record) :
    banUntil plugin (assign written record) =
      if (written.get? "banExpires").isSome then banUntil plugin written else banUntil plugin record := by
  unfold banUntil recordTime
  rw [get?_assign]
  cases written.get? "banExpires" <;> rfl

theorem Covers.later {later : Int} (h : Covers plugin now record term)
    (hlater : now ≤ later) : Covers plugin later record term :=
  h.imp_right fun helapsed => helapsed.trans (WithTop.coe_le_coe.mpr hlater)

theorem Covered.later {later : Int}
    (h : Covered plugin now users userID term) (hlater : now ≤ later) : Covered plugin later users userID term :=
  ⟨h.1, fun user huser hid => (h.2 user huser hid).later hlater⟩

theorem covered_updateRecords {update : Record} (hid : (plugin.store update).get? "id" = none)
    (hknown : ∃ user ∈ users, recordString user "id" = userID)
    (hcovers : ∀ user ∈ users, recordString user "id" = userID →
      Covers plugin now (if userID = target then assign (plugin.store update) user else user) term) :
    Covered plugin now (plugin.updateRecords users target update) userID term := by
  have hsame : ∀ user : Record, recordString
      (if recordString user "id" = target then assign (plugin.store update) user else user) "id" =
        recordString user "id" := by
    intro user
    split
    · exact recordString_assign hid
    · rfl
  obtain ⟨known, hknown, hknownID⟩ := hknown
  refine ⟨⟨_, List.mem_map_of_mem hknown, (hsame known).trans hknownID⟩, ?_⟩
  intro changed hchanged hchangedID
  obtain ⟨user, huser, rfl⟩ := List.mem_map.mp hchanged
  rw [hsame] at hchangedID
  rw [hchangedID]
  exact hcovers user huser hchangedID

/-- An update of a user keeps what covers a term, if it does so in the user's own
records. -/
theorem Covered.update
    {update : Record} (h : Covered plugin now users userID term) (hid : (plugin.store update).get? "id" = none)
    (hown : userID = target → ∀ user ∈ users, recordString user "id" = userID → Covers plugin now user term →
      Covers plugin now (assign (plugin.store update) user) term) :
    Covered plugin now (plugin.updateRecords users target update) userID term := by
  refine covered_updateRecords hid h.1 fun user huser howner => ?_
  have hcovers := h.2 user huser howner
  split
  · next hsame => exact hown hsame user huser howner hcovers
  · exact hcovers

/-! ## What a ban writes -/

/-- Only fields of the plugin itself. -/
def OwnFields (update : Record) : Prop := ∀ entry ∈ update.entries, entry.1 ∈ banFields

theorem ownFields_ofEntries {entries : List (String × Value)} (h : entries.all fun entry => entry.1 ∈ banFields) :
    OwnFields (Dict.ofEntries entries) := by
  intro entry hentry
  rcases Dict.mem_of_mem_setAll .empty hentry with hgiven | hnone
  · simpa using List.all_eq_true.mp h entry hgiven
  · exact absurd hnone List.not_mem_nil

theorem OwnFields.set {update : Record} (h : OwnFields update) (hkey : key ∈ banFields)
    (value : Value) : OwnFields (update.set key value) := by
  intro entry hentry
  rcases (update.mem_set key value entry).mp hentry with rfl | ⟨hold, _⟩
  · exact hkey
  · exact h entry hold

theorem store_get?_id {update : Record} (h : OwnFields update) : (plugin.store update).get? "id" = none := by
  rw [plugin.store_eq update h "id" (by decide)]
  by_contra hsome
  obtain ⟨value, hvalue⟩ := Option.ne_none_iff_exists'.mp hsome
  exact absurd (h _ (Dict.get?_eq_some_iff.mp hvalue)) (show "id" ∉ banFields by decide)

/-- What every ban writes. -/
def banMark (plugin : BanPlugin) (now : Int) (body : Record) : Record :=
  Dict.ofEntries [("banReason", .string (plugin.banReason body)), ("banned", .bool true), ("updatedAt", utc now)]

/-- The lengths that a duration of 64 bits can hold. -/
def LengthFits (seconds : Option Seconds) : Prop :=
  ∀ given ∈ seconds, given.isZero = false → -2 ^ 63 ≤ given.nanoseconds ∧ given.nanoseconds < 2 ^ 63

theorem banUpdate_eq (hfits : LengthFits seconds) :
    plugin.banUpdate now body seconds =
      match plugin.requested seconds with
      | some length => (banMark plugin now body).set "banExpires" (utc (now + length))
      | none => banMark plugin now body := by
  unfold BanPlugin.banUpdate BanPlugin.requested
  cases hgiven : seconds.filter fun seconds => !seconds.isZero with
  | some given =>
    obtain ⟨hseconds, hnonzero⟩ := Option.filter_eq_some_iff.mp hgiven
    obtain ⟨hlow, hhigh⟩ := hfits given hseconds (by simpa using hnonzero)
    simp only [plugin.toDuration_eq given.nanoseconds hlow hhigh]
    rfl
  | none =>
    dsimp only
    split <;> rfl

theorem ownFields_banUpdate (hfits : LengthFits seconds) : OwnFields (plugin.banUpdate now body seconds) := by
  have hmark : OwnFields (banMark plugin now body) := ownFields_ofEntries rfl
  rw [banUpdate_eq hfits]
  split
  · exact hmark.set (by decide) _
  · exact hmark

theorem store_banUpdate (plugin : BanPlugin) (now : Int) (body : Record) (hfits : LengthFits seconds) :
    (plugin.store (plugin.banUpdate now body seconds)).get? "banned" = some (.bool true) ∧
      (plugin.store (plugin.banUpdate now body seconds)).get? "banExpires" =
        (plugin.requested seconds).map fun length => utc (now + length) := by
  have hstore := plugin.store_eq (plugin.banUpdate now body seconds) (ownFields_banUpdate hfits)
  have hmarked : (banMark plugin now body).get? "banned" = some (.bool true) := by
    simp [banMark, Dict.ofEntries, Dict.setAll, Dict.get?_set]
  rw [hstore "banned" (by decide), hstore "banExpires" (by decide), banUpdate_eq hfits]
  cases plugin.requested seconds with
  | none => exact ⟨hmarked, by simp [banMark, Dict.ofEntries, Dict.setAll, Dict.get?_set]; rfl⟩
  | some length => simp [Dict.get?_set, hmarked]

theorem le_banUntil_utc {instant : Int} (h : record.get? "banExpires" = some (utc instant)) :
    (instant : WithTop Int) ≤ banUntil plugin record := by
  unfold banUntil recordTime
  rw [h]
  -- an expiry at the zero time counts as none
  by_cases hzero : instant = zeroInstant <;> simp [utc, hzero]

/-- After a ban the user's record is marked, and for as long as was asked if what was
there before allows it. -/
theorem assign_banUpdate (hfits : LengthFits seconds)
    (hopen : plugin.requested seconds = none → banUntil plugin record = ⊤) :
    recordBool (assign (plugin.store (plugin.banUpdate now body seconds)) record) "banned" = true ∧
      BanState.endOf now (plugin.requested seconds) ≤
        banUntil plugin (assign (plugin.store (plugin.banUpdate now body seconds)) record) := by
  obtain ⟨hbanned, hexpires⟩ := store_banUpdate plugin now body hfits
  refine ⟨?_, ?_⟩
  · rw [recordBool_assign, hbanned, Option.isSome_some, if_pos rfl]
    unfold recordBool
    rw [hbanned]
  rw [banUntil_assign, hexpires]
  cases hlength : plugin.requested seconds with
  | none => exact le_of_eq (hopen hlength).symm
  | some length =>
    rw [hlength] at hexpires
    exact le_banUntil_utc hexpires

/-! ## Sessions that a ban met -/

/-- Sessions are numbered in order, so that one which has ended does not return. -/
structure Ordered (state : BanState) : Prop where
  numbered : ∀ session ∈ state.sessions, session.number < state.created
  met : ∀ {userID term sessions}, .banned userID term sessions ∈ state.log →
    ∀ session ∈ sessions, session.number < state.created
  ended : Ended state

section

variable (h : Ordered state)
include h

theorem Ordered.of_subset (hsessions : next.sessions ⊆ state.sessions)
    (hcreated : next.created = state.created)
    (hlog : ∀ {userID term sessions}, .banned userID term sessions ∈ next.log →
      .banned userID term sessions ∈ state.log) : Ordered next where
  numbered session hsession := hcreated ▸ h.numbered session (hsessions hsession)
  met hbanned session hsession := hcreated ▸ h.met (hlog hbanned) session hsession
  ended hbanned session hsession howner hpresent := h.ended (hlog hbanned) session hsession howner (hsessions hpresent)

theorem Ordered.banned (userID : String) (term : WithTop Int) :
    Ordered ((state.revokeSessions userID).note (.banned userID term state.sessions)) where
  numbered session hsession := h.numbered session (List.mem_of_mem_filter hsession)
  met hbanned session hsession := by
    rcases List.mem_cons.mp hbanned with hnew | hold
    · obtain ⟨rfl, rfl, rfl⟩ := BanEvent.banned.inj hnew
      exact h.numbered session hsession
    · exact h.met hold session hsession
  ended hbanned session hsession howner hpresent := by
    obtain ⟨hpresent, hother⟩ := List.mem_filter.mp hpresent
    rcases List.mem_cons.mp hbanned with hnew | hold
    · obtain ⟨rfl, rfl, rfl⟩ := BanEvent.banned.inj hnew
      exact absurd howner (by simpa using hother)
    · exact h.ended hold session hsession howner hpresent

theorem Ordered.signedIn (userID : String) (now : Int) :
    Ordered ({ state with
      sessions := ⟨userID, state.created⟩ :: state.sessions
      created := state.created + 1 }.note (.signedIn userID now)) where
  numbered session hsession := by
    rcases List.mem_cons.mp hsession with rfl | hold
    · exact Nat.lt_succ_self _
    · exact Nat.lt_succ_of_lt (h.numbered session hold)
  met hbanned session hsession := by
    have hold := (List.mem_cons.mp hbanned).resolve_left (by simp)
    exact Nat.lt_succ_of_lt (h.met hold session hsession)
  ended hbanned session hsession howner hpresent := by
    have hold := (List.mem_cons.mp hbanned).resolve_left (by simp)
    rcases List.mem_cons.mp hpresent with rfl | hearlier
    · exact absurd (h.met hold _ hsession) (Nat.lt_irrefl _)
    · exact h.ended hold session hsession howner hearlier

theorem Ordered.step (input : Timed) : Ordered (state.step plugin input) := by
  have hlater : Ordered { state with now := input.time } := h.of_subset (List.Subset.refl _) rfl id
  unfold BanState.step
  cases input.request with
  | ban actor body =>
    dsimp only
    split
    · exact hlater
    · exact (hlater.banned _ _).of_subset (List.Subset.refl _) rfl id
  | unban actor body =>
    dsimp only
    split
    · exact hlater
    · exact hlater.of_subset (List.Subset.refl _) rfl fun hbanned => (List.mem_cons.mp hbanned).resolve_left (by simp)
  | update actor body =>
    dsimp only
    split
    · exact hlater
    rename_i userID update _
    have hrevoked : Ordered (if recordBool update "banned" then
        (({ state with now := input.time } : BanState).updated plugin userID update).revokeSessions userID
          else ({ state with now := input.time } : BanState).updated plugin userID update) := by
      split
      · exact hlater.of_subset (fun _ hsession => List.mem_of_mem_filter hsession) rfl id
      · exact hlater.of_subset (List.Subset.refl _) rfl id
    split
    · exact hrevoked.of_subset (List.Subset.refl _) rfl fun hbanned =>
        (List.mem_cons.mp hbanned).resolve_left (by simp)
    · exact hrevoked
  | signIn userID stored =>
    dsimp only
    split
    · exact hlater
    · split
      · exact (hlater.signedIn userID input.time).of_subset (List.Subset.refl _) rfl id
      · exact hlater.of_subset (List.Subset.refl _) rfl id

end

/-! ## Bans over whole histories -/

/-- Every ban that stands for the user is over by an end. -/
def NoLonger (plugin : BanPlugin) (users : List Record) (userID : String) (term : WithTop Int) : Prop :=
  ∀ user ∈ users, recordString user "id" = userID → recordBool user "banned" = true → banUntil plugin user ≤ term

/-- A request that does not shorten a ban in passing. A ban with a length fits into
a duration and does not end before one that stands; a ban without one meets no
expiry in the user's record; an update neither renames the user nor moves the end
of a ban forward. -/
def Undisturbed (plugin : BanPlugin) (users : List Record) (now : Int) : BanRequest → Prop
  | .ban actor body =>
    match plugin.banUser users actor body with
    | .error _ => True
    | .ok (userID, seconds) =>
      LengthFits seconds ∧ NoLonger plugin users userID (BanState.endOf now (plugin.requested seconds)) ∧
        (plugin.requested seconds = none →
          ∀ user ∈ users, recordString user "id" = userID → banUntil plugin user = ⊤)
  | .update actor body =>
    match plugin.updateUser users actor body with
    | .error _ => True
    | .ok (userID, update) =>
      (plugin.store update).get? "id" = none ∧
        (liftsBan (plugin.store update) = false → ((plugin.store update).get? "banExpires").isSome →
          NoLonger plugin users userID (banUntil plugin (plugin.store update)))
  | .unban _ _ | .signIn _ _ => True

/-- No session came too early, and what is in force shows in the records. -/
structure Held (plugin : BanPlugin) (state : BanState) : Prop where
  kept : Kept state.log
  covered : ∀ {userID term}, term ∈ inForce userID state.log → Covered plugin state.now state.users userID term

section

variable (h : Held plugin state)
include h

theorem Held.of_same (husers : next.users = state.users)
    (hnow : next.now = state.now) (hlog : next.log = state.log) : Held plugin next :=
  ⟨hlog ▸ h.kept, fun hterm => hnow ▸ husers ▸ h.covered (hlog ▸ hterm)⟩

theorem Held.later {time : Int} (htime : state.now ≤ time) : Held plugin { state with now := time } :=
  ⟨h.kept, fun hterm => (h.covered hterm).later htime⟩

/-- A ban covers its own term, and those that stood before. -/
theorem Held.banned {update : Record} (sessions : List NumberedSession) (hid : (plugin.store update).get? "id" = none)
    (hknown : ∃ user ∈ state.users, recordString user "id" = userID)
    (hbanned : ∀ user ∈ state.users, recordString user "id" = userID →
      recordBool (assign (plugin.store update) user) "banned" = true ∧
        term ≤ banUntil plugin (assign (plugin.store update) user))
    (hlonger : NoLonger plugin state.users userID term) :
    Held plugin (((state.updated plugin userID update).revokeSessions userID).note (.banned userID term sessions)) where
  kept := h.kept
  covered := by
    intro other otherTerm hterm
    have hold : otherTerm ∈ inForce other state.log →
        Covered plugin state.now (plugin.updateRecords state.users userID update) other otherTerm := by
      intro hterm
      refine (h.covered hterm).update hid fun hsame user huser howner hcovers => ?_
      obtain ⟨hmarked, hreaches⟩ := hbanned user huser (howner.trans hsame)
      refine hcovers.imp_left fun ⟨hstands, hends⟩ => ⟨hmarked, ?_⟩
      exact hends.trans ((hlonger user huser (howner.trans hsame) hstands).trans hreaches)
    change otherTerm ∈ (if userID = other then term :: inForce other state.log else inForce other state.log) at hterm
    split at hterm
    · next hsame =>
      subst hsame
      rcases List.mem_cons.mp hterm with rfl | hearlier
      · refine covered_updateRecords hid hknown fun user huser howner => .inl ?_
        rw [if_pos rfl]
        exact hbanned user huser howner
      · exact hold hearlier
    · exact hold hterm

variable {update : Record} (hid : (plugin.store update).get? "id" = none)
include hid

/-- Once a ban is lifted, nothing has to cover it. -/
theorem Held.lifted :
    Held plugin ((state.updated plugin userID update).note (.lifted userID)) where
  kept := h.kept
  covered := by
    intro other term hterm
    change term ∈ (if userID = other then [] else inForce other state.log) at hterm
    split at hterm
    · exact absurd hterm List.not_mem_nil
    · next hother => exact (h.covered hterm).update hid fun hsame => absurd hsame.symm hother

/-- An update that neither lifts a ban nor moves its end forward. -/
theorem Held.updated (hlifts : liftsBan (plugin.store update) = false)
    (hlonger : ((plugin.store update).get? "banExpires").isSome →
      NoLonger plugin state.users userID (banUntil plugin (plugin.store update))) :
    Held plugin (state.updated plugin userID update) where
  kept := h.kept
  covered := by
    intro other term hterm
    refine (h.covered hterm).update hid fun hsame user huser howner hcovers => ?_
    refine hcovers.imp_left fun ⟨hstands, hends⟩ => ⟨?_, ?_⟩
    · rw [recordBool_assign]
      split
      · next hwritten => simpa [liftsBan, hwritten] using hlifts
      · exact hstands
    rw [banUntil_assign]
    split
    · next hwritten => exact hends.trans (hlonger hwritten user huser (howner.trans hsame) hstands)
    · exact hends

end

/-- The hook lets a user through who is not known, not banned, or whose ban is over. -/
theorem beforeSessionCreate_ok (h : plugin.beforeSessionCreate now users userID = .ok written) :
    (written = users ∧ ∀ user, findUser users userID = some user → recordBool user "banned" = false) ∨
      (written = plugin.updateRecords users userID BanPlugin.expiredUpdate ∧
        ∃ user, findUser users userID = some user ∧ banUntil plugin user < (now : WithTop Int)) := by
  unfold BanPlugin.beforeSessionCreate at h
  cases hfound : findUser users userID with
  | none =>
    rw [hfound] at h
    exact .inl ⟨(Except.ok.inj h).symm, by simp⟩
  | some user =>
    rw [hfound] at h
    dsimp only at h
    split at h
    · next hfree =>
      refine .inl ⟨(Except.ok.inj h).symm, ?_⟩
      rintro _ ⟨⟩
      exact hfree
    split at h
    · next expiresAt hexpires =>
      split at h
      · next hpast =>
        refine .inr ⟨(Except.ok.inj h).symm, user, rfl, ?_⟩
        rw [banUntil, hexpires]
        exact WithTop.coe_lt_coe.mpr hpast
      · cases h
    · cases h

theorem findUser_isSome (h : (findUser users userID).isSome) : ∃ user ∈ users, recordString user "id" = userID := by
  obtain ⟨user, huser, howner⟩ := List.find?_isSome.mp h
  exact ⟨user, huser, by simpa using howner⟩

theorem banUser_known {actor : Option Actor} (h : plugin.banUser users actor body = .ok (userID, seconds)) :
    ∃ user ∈ users, recordString user "id" = userID := by
  obtain ⟨_, _, target, _, _, hfound, h⟩ := ok_of_bind₃ h
  obtain ⟨_, _, _, _, h⟩ := ok_of_bind₂ h
  obtain ⟨rfl, _⟩ := Prod.mk.inj (Except.ok.inj h)
  exact findUser_isSome (require_eq_ok_iff.mp hfound)

theorem findUser_some {user : Record} (h : findUser users userID = some user) :
    user ∈ users ∧ recordString user "id" = userID :=
  ⟨List.mem_of_find?_eq_some h, by simpa using List.find?_some h⟩

section

variable (h : Held plugin state) (hpassed : plugin.beforeSessionCreate state.now state.users userID = .ok written)
include h hpassed

/-- The hook lets a user through only when the terms in force have ended. -/
theorem Held.elapsed : ∀ term ∈ inForce userID state.log, term ≤ (state.now : WithTop Int) := by
  intro term hterm
  obtain ⟨⟨known, hknown, hknownID⟩, hcovers⟩ := h.covered hterm
  have hfound : (findUser state.users userID).isSome := List.find?_isSome.mpr ⟨known, hknown, by simpa using hknownID⟩
  obtain ⟨user, huser⟩ := Option.isSome_iff_exists.mp hfound
  obtain ⟨hmem, howner⟩ := findUser_some huser
  rcases hcovers user hmem howner with ⟨hstands, hends⟩ | helapsed
  · rcases beforeSessionCreate_ok hpassed with ⟨_, hfree⟩ | ⟨_, other, hother, hpast⟩
    · exact absurd (hfree user huser) (by simp [hstands])
    · obtain rfl : user = other := Option.some.inj (huser.symm.trans hother)
      exact hends.trans hpast.le
  · exact helapsed

theorem Held.passed :
    Held plugin { state with users := written } where
  kept := h.kept
  covered := by
    intro other term hterm
    rcases beforeSessionCreate_ok hpassed with ⟨rfl, _⟩ | ⟨rfl, _⟩
    · exact h.covered hterm
    · refine (h.covered hterm).update (store_get?_id (ownFields_ofEntries rfl)) fun hsame _ _ _ _ => .inr ?_
      exact h.elapsed hpassed term (hsame ▸ hterm)

end

/-! ### One request -/

theorem Held.step (h : Held plugin state) {input : Timed} (htime : state.now ≤ input.time)
    (hundisturbed : Undisturbed plugin state.users input.time input.request) :
    Held plugin (state.step plugin input) := by
  have hlater := h.later htime
  unfold BanState.step
  unfold Undisturbed at hundisturbed
  cases hrequest : input.request with
  | ban actor body =>
    rw [hrequest] at hundisturbed
    dsimp only at hundisturbed ⊢
    split
    · exact hlater
    rename_i userID seconds hbanned
    rw [hbanned] at hundisturbed
    obtain ⟨hfits, hlonger, hopen⟩ := hundisturbed
    exact hlater.banned _ (store_get?_id (ownFields_banUpdate hfits)) (banUser_known hbanned)
      (fun user huser howner => assign_banUpdate hfits fun hnone => hopen hnone user huser howner) hlonger
  | unban actor body =>
    dsimp only
    split
    · exact hlater
    · exact hlater.lifted (store_get?_id (ownFields_ofEntries rfl))
  | update actor body =>
    rw [hrequest] at hundisturbed
    dsimp only at hundisturbed ⊢
    split
    · exact hlater
    rename_i userID update hupdated
    rw [hupdated] at hundisturbed
    obtain ⟨hid, hlonger⟩ := hundisturbed
    split
    · exact (hlater.lifted hid).of_same (by split <;> rfl) (by split <;> rfl) (by split <;> rfl)
    rename_i hlifts
    have hlifts := Bool.eq_false_iff.mpr hlifts
    exact (hlater.updated hid hlifts (hlonger hlifts)).of_same (by split <;> rfl) (by split <;> rfl)
      (by split <;> rfl)
  | signIn userID stored =>
    dsimp only
    split
    · exact hlater
    rename_i written hpassed
    split
    · exact ⟨⟨hlater.elapsed hpassed, hlater.kept⟩, (hlater.passed hpassed).covered⟩
    · exact hlater.passed hpassed

/-- Steps at their time that do not shorten a ban in passing. -/
def Passing (plugin : BanPlugin) (state : BanState) (input : Timed) : Prop :=
  state.now ≤ input.time ∧ Undisturbed plugin state.users input.time input.request

/-- A ban holds for its duration, and the sessions that it met are gone. -/
theorem bans_hold {start state : BanState} (hlog : start.log = [])
    (hnumbered : ∀ session ∈ start.sessions, session.number < start.created)
    (hreached : Reached (BanState.step plugin) (Passing plugin) start state) : Kept state.log ∧ Ended state := by
  have hordered : Ordered start := ⟨hnumbered, by simp [hlog], by simp [Ended, hlog]⟩
  have hheld : Held plugin start := ⟨by simp [hlog, Kept], by simp [hlog, inForce]⟩
  have hinvariant : Held plugin state ∧ Ordered state :=
    hreached.invariant (fun state => Held plugin state ∧ Ordered state) ⟨hheld, hordered⟩
      fun _ input ⟨hheld, hordered⟩ ⟨htime, hundisturbed⟩ => ⟨hheld.step htime hundisturbed, hordered.step input⟩
  exact ⟨hinvariant.1.kept, hinvariant.2.ended⟩

end

/-! ## A ban behind another -/

instance decidableKept : (log : List BanEvent) → Decidable (Kept log)
  | [] => inferInstanceAs (Decidable True)
  | .signedIn userID now :: rest =>
    have := decidableKept rest
    inferInstanceAs (Decidable ((∀ term ∈ inForce userID rest, term ≤ (now : WithTop Int)) ∧ Kept rest))
  | .banned _ _ _ :: rest => decidableKept rest
  | .lifted _ :: rest => decidableKept rest

def plainBans : BanPlugin where
  options := {}
  library := textLibrary
  parseTime := fun _ => none
  numberValue := fun value => match value with
    | .int _ seconds => some ⟨seconds = 0, seconds * 1000000000⟩
    | _ => none
  toDuration := fun nanoseconds => nanoseconds
  toDuration_eq := fun _ _ _ => rfl
  checkUpdate := fun _ _ _ data => .ok data
  store := fun update => update
  store_eq := fun _ _ _ _ => rfl

def administrator : Actor := { id := "a", role := "admin" }

def memberStart : BanState where
  users := [.ofEntries [("id", .string "m")]]
  sessions := [⟨"m", 0⟩]
  created := 1
  now := 0

def banFor (seconds : Int) : BanRequest :=
  .ban (some administrator) (.ofEntries [("banExpiresIn", .int .int seconds), ("userId", .string "m")])

def banForGood : BanRequest := .ban (some administrator) (.ofEntries [("userId", .string "m")])

/-- A ban of ten seconds, with an attempt to sign in before and after its end. -/
def shortBan : List Timed :=
  [⟨0, banFor 10⟩, ⟨5000000000, .signIn "m" true⟩, ⟨20000000000, .signIn "m" true⟩]

/-- A ban of ten seconds, and one without a duration a second later. -/
def twoBans : List Timed :=
  [⟨0, banFor 10⟩, ⟨1000000000, banForGood⟩, ⟨20000000000, .signIn "m" true⟩]

theorem bans_hold_short :
    Kept (shortBan.foldl (BanState.step plainBans) memberStart).log ∧
      Ended (shortBan.foldl (BanState.step plainBans) memberStart) := by
  have hbanned : plainBans.banUser memberStart.users (some administrator)
      (.ofEntries [("banExpiresIn", .int .int 10), ("userId", .string "m")]) =
        .ok ("m", some ⟨false, 10000000000⟩) := by rfl
  have hfirst : Passing plainBans memberStart ⟨0, banFor 10⟩ := by
    refine ⟨by decide, ?_⟩
    unfold banFor Undisturbed
    dsimp only
    rw [hbanned]
    refine ⟨?_, ?_, ?_⟩
    · rintro _ ⟨⟩ _
      decide
    · unfold NoLonger
      decide
    · intro hnone
      exact absurd hnone (by decide)
  have hsignIn : ∀ (state : BanState) (time : Int), state.now ≤ time →
      Passing plainBans state ⟨time, .signIn "m" true⟩ := fun _ _ htime => ⟨htime, trivial⟩
  have hreached : Reached (BanState.step plainBans) (Passing plainBans) memberStart
      (shortBan.foldl (BanState.step plainBans) memberStart) :=
    ((Reached.start.next hfirst).next (hsignIn _ 5000000000 (by decide))).next
      (hsignIn _ 20000000000 (by decide))
  exact bans_hold rfl (by decide) hreached

/-- The second ban has no end, but the end of the first one is still in the record. -/
theorem ban_cut_short :
    (twoBans.map Timed.time).Pairwise (· ≤ ·) ∧ ¬ Kept (twoBans.foldl (BanState.step plainBans) memberStart).log := by
  decide

end singleauth.admin
