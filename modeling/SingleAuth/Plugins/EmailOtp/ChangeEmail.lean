import SingleAuth.Core.Random
import SingleAuth.Lib.Table
import SingleAuth.Lib.Text
import SingleAuth.Lib.Transition

open fallible table text transition
open singleauth.core

namespace singleauth.emailotp

/-! ## Identifiers and stored values -/

inductive OTPType where
  | signIn | emailVerification | forgetPassword | changeEmail
  deriving DecidableEq

def OTPType.text : OTPType → String
  | .signIn => "sign-in"
  | .emailVerification => "email-verification"
  | .forgetPassword => "forget-password"
  | .changeEmail => "change-email"

def identifier (otpType : OTPType) (email : String) : String := otpType.text ++ "-otp-" ++ email

/-- The addresses of a change as they stand in its identifier. -/
def joined (currentEmail newEmail : String) : String := currentEmail ++ "-" ++ newEmail

/-- The stored code and the attempts behind it. -/
def splitStoredValue (input : String) : String × String := (cutLast ':' input).getD (input, "")

def parseAttempts (value : String) : Int := (parseInt64 value).getD 0

def storedValue (stored : String) (attempts : Int) : String := stored ++ ":" ++ toString attempts

theorem splitStoredValue_storedValue (stored : String) (attempts : Int) :
    splitStoredValue (storedValue stored attempts) = (stored, toString attempts) := by
  have hdigits : ':' ∉ (toString attempts).toList := by
    intro hcolon
    rcases mem_toString_int hcolon with hdigit | hsign
    · exact absurd hdigit (by decide)
    · exact absurd hsign (by decide)
  unfold splitStoredValue storedValue
  rw [show ":" = ':'.toString from rfl, cutLast_append stored hdigits, Option.getD_some]

/-! ## Verifications -/

/-- A verification with an OTP. `serial` is the number of the OTP, which only the
history knows. -/
structure OTPRow where
  (identifier value : String)
  (expiresAt createdAt : Int)
  serial : Nat

/-- Reading a verification removes all that have expired. -/
def findVerification (now : Int) (identifier : String) (rows : List OTPRow) : Option OTPRow × List OTPRow :=
  findLatest OTPRow.identifier OTPRow.createdAt OTPRow.expiresAt now identifier rows

def deleteVerification (identifier : String) (rows : List OTPRow) : List OTPRow :=
  rows.filter fun row => row.identifier ≠ identifier

/-- The newest row of an identifier is taken with all others of it. -/
def consumeVerification (now : Int) (identifier : String) (rows : List OTPRow) : Option OTPRow × List OTPRow :=
  consumeLatest OTPRow.identifier OTPRow.createdAt OTPRow.expiresAt now identifier rows

def unauthorized : Failure := .api 401 "UNAUTHORIZED" "Unauthorized"

def badRequest (message : String) : Failure := .api 400 "BAD_REQUEST" message

def internalError : Failure := .api 500 "INTERNAL_SERVER_ERROR" "Internal Server Error"

def userNotFound : Failure := .api 400 "USER_NOT_FOUND" "User not found"

def invalidEmail : Failure := .api 400 "INVALID_EMAIL" "Invalid email"

def invalidOTP : Failure := .api 400 "INVALID_OTP" "Invalid OTP"

def otpExpired : Failure := .api 400 "OTP_EXPIRED" "OTP expired"

def tooManyAttempts : Failure := .api 403 "TOO_MANY_ATTEMPTS" "Too many attempts"

structure User where
  (id email : String)
  emailVerified : Bool := false
  deriving DecidableEq

/-- The plugin's options, and the functions of its libraries. -/
structure Plugin where
  changeEmailEnabled : Bool := true
  verifyCurrentEmail : Bool := false
  allowedAttempts : Int := 3
  expiresIn : Int := 300000000000
  toLower : String → String
  /-- The address that a text is parsed to. -/
  parseAddress : String → Option String
  /-- Whether a code fits a stored one. -/
  verifyStoredOTP : String → String → Except Failure Bool

namespace Plugin

variable (plugin : Plugin)

def normalizeEmail (email : String) : String := plugin.toLower email

def validEmail (email : String) : Bool :=
  email ≠ "" && !email.toList.any (fun c => c = '\r' ∨ c = '\n' ∨ c = '\t' ∨ c = ' ') &&
    plugin.parseAddress email = some email && email.toList.count '@' = 1 &&
    match split '@' email with
    | [localPart, domain] => localPart ≠ "" && domain ≠ "" && !hasPrefix domain "." && !hasSuffix domain "."
    | _ => false

/-- Verify an OTP and use it up. A wrong one costs an attempt. -/
def atomicVerifyOTP (now : Int) (identifier provided : String) (rows : List OTPRow) :
    List OTPRow × Except Failure OTPRow :=
  let (existing, rows) := findVerification now identifier rows
  if existing.any (·.expiresAt < now) then (deleteVerification identifier rows, .error otpExpired)
  else
    match consumeVerification now identifier rows with
    | (none, rows) => (rows, .error invalidOTP)
    | (some consumed, rows) =>
      let (stored, attemptText) := splitStoredValue consumed.value
      let attempts := parseAttempts attemptText
      if plugin.allowedAttempts ≤ attempts then (rows, .error tooManyAttempts)
      else
        match plugin.verifyStoredOTP stored provided with
        | .error _ => (rows, .error internalError)
        | .ok true => (rows, .ok consumed)
        | .ok false =>
          (rows ++ [{ consumed with value := storedValue stored (attempts + 1), createdAt := now }], .error invalidOTP)

/-- Look at an OTP without using it up. A wrong one costs an attempt on every row of
the identifier. -/
def checkVerificationOTP (now : Int) (otpType : OTPType) (rawEmail provided : String) (users : List User)
    (rows : List OTPRow) : List OTPRow × Except Failure Unit :=
  let email := plugin.normalizeEmail rawEmail
  let identifier := identifier otpType email
  if plugin.validEmail email = false then (rows, .error invalidEmail)
  else
    match findVerification now identifier rows with
    | (none, rows) => (rows, .error invalidOTP)
    | (some record, rows) =>
      if record.expiresAt < now then (deleteVerification identifier rows, .error otpExpired)
      else
        let (stored, attemptText) := splitStoredValue record.value
        let attempts := parseAttempts attemptText
        if plugin.allowedAttempts ≤ attempts then (deleteVerification identifier rows, .error tooManyAttempts)
        else
          match plugin.verifyStoredOTP stored provided with
          | .error _ => (rows, .error internalError)
          | .ok true => (rows, if users.any (·.email = email) then .ok () else .error userNotFound)
          | .ok false =>
            (rows.map fun row =>
              if row.identifier = identifier then
                { row with value := storedValue stored (attempts + 1), serial := record.serial }
              else row, .error invalidOTP)

end Plugin

/-! ## Changing an address -/

/-- An OTP that was sent to a new address, for a user with an address of that time. -/
structure Sending where
  serial : Nat
  (userID email newEmail stored : String)
  deriving DecidableEq

/-- A verified address that a user got, with the code that was given for it. -/
structure Change where
  (userID email newEmail provided : String)
  deriving DecidableEq

inductive Event where
  | sent (sending : Sending)
  /-- An OTP was verified. -/
  | used (serial : Nat)
  | changed (change : Change)
  deriving DecidableEq

structure State where
  users : List User
  rows : List OTPRow := []
  next : Nat := 0
  log : List Event := []

def findUserByEmail (users : List User) (email : String) : Option User := users.find? fun user => user.email = email

namespace Plugin

variable (plugin : Plugin)

/-- The user of the session with the current and the new address, after the checks that
both endpoints make. -/
def changeAddresses (users : List User) (session : Option String) (rawNewEmail : String) :
    Except Failure (User × String × String) := do
  require (plugin.changeEmailEnabled = true) (badRequest "Change email with OTP is disabled")
  let userID ← expect session unauthorized
  let user ← expect (users.find? fun user => user.id = userID) unauthorized
  require (user.id ≠ "" ∧ user.email ≠ "") unauthorized
  let currentEmail := plugin.normalizeEmail user.email
  let newEmail := plugin.normalizeEmail rawNewEmail
  require (plugin.validEmail newEmail = true) invalidEmail
  require (newEmail ≠ currentEmail) (badRequest "Email is the same")
  .ok (user, currentEmail, newEmail)

/-- The check of the current address, if it is asked for. -/
def verifyCurrent (now : Int) (currentEmail : String) (provided : Option String) (rows : List OTPRow) :
    List OTPRow × Except Failure Unit :=
  if plugin.verifyCurrentEmail then
    match provided.filter (· ≠ "") with
    | none => (rows, .error (badRequest "OTP is required to verify current email"))
    | some otp =>
      let (rows, verified) := plugin.atomicVerifyOTP now (identifier .emailVerification currentEmail) otp rows
      (rows, verified.map fun _ => ())
  else (rows, .ok ())

/-- `stored` is the stored form of the OTP that is generated. -/
def requestEmailChangeEmailOTP (now : Int) (state : State) (session : Option String) (rawNewEmail : String)
    (provided : Option String) (stored : Except Failure String) : State × Except Failure Unit :=
  match plugin.changeAddresses state.users session rawNewEmail with
  | .error failure => (state, .error failure)
  | .ok (user, currentEmail, newEmail) =>
    match plugin.verifyCurrent now currentEmail provided state.rows with
    | (rows, .error failure) => ({ state with rows }, .error failure)
    | (rows, .ok ()) =>
      match stored with
      | .error _ => ({ state with rows }, .error internalError)
      | .ok stored =>
        let identifier := identifier .changeEmail (joined currentEmail newEmail)
        let created : OTPRow :=
          { identifier, value := storedValue stored 0, expiresAt := now + plugin.expiresIn, createdAt := now,
            serial := state.next }
        let rows := rows ++ [created]
        if (findUserByEmail state.users newEmail).isSome then
          ({ state with rows := deleteVerification identifier rows }, .ok ())
        else
          let sending : Sending := { serial := state.next, userID := user.id, email := user.email, newEmail, stored }
          ({ state with rows, next := state.next + 1, log := .sent sending :: state.log }, .ok ())

/-- The hook of the application may refuse the change. -/
def changeEmailEmailOTP (now : Int) (state : State) (session : Option String) (rawNewEmail provided : String)
    (hook : Except Failure Unit) : State × Except Failure Unit :=
  match plugin.changeAddresses state.users session rawNewEmail with
  | .error failure => (state, .error failure)
  | .ok (_, currentEmail, newEmail) =>
    match plugin.atomicVerifyOTP now (identifier .changeEmail (joined currentEmail newEmail)) provided state.rows with
    | (rows, .error failure) => ({ state with rows }, .error failure)
    | (rows, .ok consumed) =>
      match (do
        let currentUser ← expect (findUserByEmail state.users currentEmail) userNotFound
        require ((findUserByEmail state.users newEmail).isSome = false) (badRequest "Email already in use")
        hook
        require (currentUser.id ≠ "") internalError
        .ok currentUser) with
      | .error failure => ({ state with rows, log := .used consumed.serial :: state.log }, .error failure)
      | .ok currentUser =>
        let users := state.users.map fun user =>
          if user.id = currentUser.id then { user with email := newEmail, emailVerified := true } else user
        let change : Change := { userID := currentUser.id, email := currentUser.email, newEmail, provided }
        ({ state with users, rows, log := .used consumed.serial :: .changed change :: state.log }, .ok ())

/-- The host creates an OTP without sending it. -/
def createVerificationOTP (now : Int) (state : State) (otpType : OTPType) (rawEmail : String)
    (stored : Except Failure String) : State × Except Failure Unit :=
  match stored with
  | .error _ => (state, .error internalError)
  | .ok stored =>
    let created : OTPRow :=
      { identifier := identifier otpType (plugin.normalizeEmail rawEmail), value := storedValue stored 0,
        expiresAt := now + plugin.expiresIn, createdAt := now, serial := state.next }
    ({ state with rows := state.rows ++ [created], next := state.next + 1 }, .ok ())

end Plugin

/-! ## Histories -/

/-- A row that a change of an address may use. -/
def OTPRow.isChange (row : OTPRow) : Bool := hasPrefix row.identifier (emailotp.identifier .changeEmail "")

inductive Request where
  | requestChange (session : Option String) (rawNewEmail : String) (provided : Option String)
      (stored : Except Failure String)
  | change (session : Option String) (rawNewEmail provided : String) (hook : Except Failure Unit)
  | check (otpType : OTPType) (rawEmail provided : String)
  | create (otpType : OTPType) (rawEmail : String) (stored : Except Failure String)
  /-- All else: users come, go and change, as do the rows of other purposes, and rows
  are cleaned up. -/
  | other (users : List User) (rows : List OTPRow) (kept : OTPRow → Bool)

structure Timed where
  time : Int
  request : Request

def State.step (plugin : Plugin) (state : State) (input : Timed) : State :=
  match input.request with
  | .requestChange session rawNewEmail provided stored =>
    (plugin.requestEmailChangeEmailOTP input.time state session rawNewEmail provided stored).1
  | .change session rawNewEmail provided hook =>
    (plugin.changeEmailEmailOTP input.time state session rawNewEmail provided hook).1
  | .check otpType rawEmail provided =>
    { state with rows := (plugin.checkVerificationOTP input.time otpType rawEmail provided state.users state.rows).1 }
  | .create otpType rawEmail stored => (plugin.createVerificationOTP input.time state otpType rawEmail stored).1
  | .other users rows kept =>
    { state with
      users
      rows := (rows.filter fun row => !row.isChange) ++ state.rows.filter fun row => row.isChange && kept row }

/-- An OTP for exactly this change was sent before, to the new address and for the same
user with the same address, it is the one that was given, and it was not used. -/
def Backed (plugin : Plugin) (change : Change) (earlier : List Event) : Prop :=
  ∃ sending, .sent sending ∈ earlier ∧ sending.userID = change.userID ∧ sending.email = change.email ∧
    sending.newEmail = change.newEmail ∧ plugin.verifyStoredOTP sending.stored change.provided = .ok true ∧
      .used sending.serial ∉ earlier

/-- Every change of an address was backed when it was made. -/
def Proved (plugin : Plugin) : List Event → Prop
  | [] => True
  | .changed change :: earlier => Backed plugin change earlier ∧ Proved plugin earlier
  | .sent _ :: earlier => Proved plugin earlier
  | .used _ :: earlier => Proved plugin earlier

/-- The addresses of this change do not stand for another: no OTP was sent for other
addresses with the same joined text or for another user, and the user with the
address is the one of the session. -/
def Unconfused (plugin : Plugin) (state : State) (session : Option String) (rawNewEmail : String) : Prop :=
  match plugin.changeAddresses state.users session rawNewEmail with
  | .error _ => True
  | .ok (user, currentEmail, newEmail) =>
    (∀ found, findUserByEmail state.users currentEmail = some found → found = user) ∧
      ∀ sending, .sent sending ∈ state.log →
        joined (plugin.normalizeEmail sending.email) sending.newEmail = joined currentEmail newEmail →
          sending.userID = user.id ∧ sending.email = user.email ∧ sending.newEmail = newEmail

/-- Changes are not confused, and the host creates no OTP for them by itself. -/
def Admitted (plugin : Plugin) (state : State) (input : Timed) : Prop :=
  match input.request with
  | .change session rawNewEmail _ _ => Unconfused plugin state session rawNewEmail
  | .create otpType _ _ => otpType ≠ .changeEmail
  | _ => True

/-! ## Rows and the OTPs in them -/

/-- A row with the OTP of another, under the same identifier. -/
structure SameOTP (row other : OTPRow) : Prop where
  identifier : row.identifier = other.identifier
  serial : row.serial = other.serial
  stored : (splitStoredValue row.value).1 = (splitStoredValue other.value).1

theorem SameOTP.refl (row : OTPRow) : SameOTP row row := ⟨rfl, rfl, rfl⟩

/-- Rows with no other OTPs than those of some rows. -/
def NoOthers (rows others : List OTPRow) : Prop := ∀ row ∈ rows, ∃ other ∈ others, SameOTP row other

theorem NoOthers.of_subset {rows others : List OTPRow} (h : rows ⊆ others) : NoOthers rows others :=
  fun row hrow => ⟨row, h hrow, .refl row⟩

section

variable {plugin : Plugin} {now : Int} {identifier : String} {rows left : List OTPRow}

/-- A row of the rows is left or created again with one attempt more, and the one that is accepted is gone. -/
theorem atomicVerifyOTP_spec {result : Except Failure OTPRow}
    (h : plugin.atomicVerifyOTP now identifier provided rows = (left, result)) :
    NoOthers left rows ∧ ∀ consumed, result = .ok consumed → (consumed ∈ rows ∧ consumed.identifier = identifier) ∧
      plugin.verifyStoredOTP (splitStoredValue consumed.value).1 provided = .ok true ∧
        left ⊆ deleteVerification identifier rows := by
  have hfound : (findVerification now identifier rows).2 ⊆ rows := fun row hrow => List.mem_of_mem_filter hrow
  unfold Plugin.atomicVerifyOTP at h
  dsimp only at h
  split at h
  · cases h
    exact ⟨.of_subset fun row hrow => hfound (List.mem_of_mem_filter hrow), nofun⟩
  split at h
  · next hconsumed =>
    cases h
    have hleft : (consumeVerification now identifier (findVerification now identifier rows).2).2 ⊆ rows :=
      List.Subset.trans consumeLatest_subset hfound
    rw [hconsumed] at hleft
    exact ⟨.of_subset hleft, nofun⟩
  next taken rest hconsumed =>
  obtain ⟨⟨hmem, hidentifier⟩, _, rfl⟩ := consumeLatest_some hconsumed
  have hrest : deleteVerification identifier (findVerification now identifier rows).2 ⊆ rows :=
    fun row hrow => hfound (List.mem_of_mem_filter hrow)
  split at h
  · cases h
    exact ⟨.of_subset hrest, nofun⟩
  split at h
  · cases h
    exact ⟨.of_subset hrest, nofun⟩
  · next hverified =>
    cases h
    refine ⟨.of_subset hrest, ?_⟩
    rintro _ ⟨⟩
    exact ⟨⟨hfound hmem, hidentifier⟩, hverified, List.filter_subset _ hfound⟩
  · cases h
    refine ⟨fun row hrow => ?_, nofun⟩
    rcases mem_concat.mp hrow with hold | rfl
    · exact ⟨row, hrest hold, .refl row⟩
    · exact ⟨taken, hfound hmem, rfl, rfl, by rw [splitStoredValue_storedValue]⟩

theorem checkVerificationOTP_noOthers {otpType : OTPType} {rawEmail : String} {users : List User} :
    NoOthers (plugin.checkVerificationOTP now otpType rawEmail provided users rows).1 rows := by
  unfold Plugin.checkVerificationOTP
  dsimp only
  split
  · exact .of_subset (List.Subset.refl _)
  split
  · next hfound =>
    obtain ⟨_, rfl⟩ := Prod.mk.inj hfound
    exact .of_subset fun row hrow => List.mem_of_mem_filter hrow
  next record rest hfound =>
  obtain ⟨hlatest, rfl⟩ := Prod.mk.inj hfound
  have hrest : (rows.filter fun row => ¬ row.expiresAt < now) ⊆ rows := fun row hrow => List.mem_of_mem_filter hrow
  split
  · exact .of_subset fun row hrow => hrest (List.mem_of_mem_filter hrow)
  split
  · exact .of_subset fun row hrow => hrest (List.mem_of_mem_filter hrow)
  split
  · exact .of_subset hrest
  · exact .of_subset hrest
  -- every row of the identifier gets the newest code
  intro changed hchanged
  obtain ⟨row, hrow, rfl⟩ := List.mem_map.mp hchanged
  obtain ⟨hrecord, hidentifier⟩ := latest_some hlatest
  split
  · next hsame => exact ⟨record, hrecord, hsame.trans hidentifier.symm, rfl, by rw [splitStoredValue_storedValue]⟩
  · exact ⟨row, hrest hrow, .refl row⟩

end

/-! ## Joined addresses -/

/-- An address: one sign between its two parts. -/
structure Address (email : String) (localPart domain : List Char) : Prop where
  parts : email.toList = localPart ++ '@' :: domain
  localPart : '@' ∉ localPart
  domain : '@' ∉ domain

/-- The joined text tells the addresses if the new one has no hyphen before its sign. -/
theorem joined_inj {current new current' new' : String} {a b c d a' b' c' d' : List Char}
    (hcurrent : Address current a b) (hnew : Address new c d) (hcurrent' : Address current' a' b')
    (hnew' : Address new' c' d') (hplain : '-' ∉ c) (hplain' : '-' ∉ c')
    (h : joined current new = joined current' new') : current = current' ∧ new = new' := by
  have hchars : a ++ '@' :: ((b ++ '-' :: c) ++ '@' :: d) = a' ++ '@' :: ((b' ++ '-' :: c') ++ '@' :: d') := by
    have hboth := congrArg String.toList h
    simpa [joined, hcurrent.parts, hnew.parts, hcurrent'.parts, hnew'.parts] using hboth
  have hmiddle : ∀ {b c : List Char}, '@' ∉ b → '@' ∉ c → '@' ∉ b ++ '-' :: c := by
    intro b c hb hc
    simp [hb, hc]
  obtain ⟨rfl, hrest⟩ := (append_separator_inj hcurrent.localPart hcurrent'.localPart).mp hchars
  obtain ⟨hinner, rfl⟩ := (append_separator_inj (hmiddle hcurrent.domain hnew.localPart)
    (hmiddle hcurrent'.domain hnew'.localPart)).mp hrest
  -- the last hyphen in the middle is the one that joins
  have hreversed : c.reverse ++ '-' :: b.reverse = c'.reverse ++ '-' :: b'.reverse := by
    simpa using congrArg List.reverse hinner
  obtain ⟨hc, hb⟩ := (append_separator_inj (by simpa using hplain) (by simpa using hplain')).mp hreversed
  rw [List.reverse_inj] at hc hb
  subst hc hb
  exact ⟨String.toList_injective (hcurrent.parts.trans hcurrent'.parts.symm),
    String.toList_injective (hnew.parts.trans hnew'.parts.symm)⟩

/-- Addresses whose new ones have no hyphen before the sign are not confused, if only
the user of the session asked for this change. -/
theorem unconfused_of_plain {plugin : Plugin} {state : State} {session : Option String}
    {rawNewEmail currentEmail newEmail : String} {user : User}
    (haddresses : plugin.changeAddresses state.users session rawNewEmail = .ok (user, currentEmail, newEmail))
    (hcurrent : ∃ a b, Address currentEmail a b) (hnew : ∃ c d, Address newEmail c d ∧ '-' ∉ c)
    (hsendings : ∀ sending, .sent sending ∈ state.log →
      (∃ a b, Address (plugin.normalizeEmail sending.email) a b) ∧ ∃ c d, Address sending.newEmail c d ∧ '-' ∉ c)
    (howner : ∀ found, findUserByEmail state.users currentEmail = some found → found = user)
    (hasked : ∀ sending, .sent sending ∈ state.log → plugin.normalizeEmail sending.email = currentEmail →
      sending.newEmail = newEmail → sending.userID = user.id ∧ sending.email = user.email) :
    Unconfused plugin state session rawNewEmail := by
  unfold Unconfused
  rw [haddresses]
  refine ⟨howner, fun sending hsent hjoined => ?_⟩
  obtain ⟨⟨a, b, hfrom⟩, c, d, hto, hplain⟩ := hsendings sending hsent
  obtain ⟨a', b', hfrom'⟩ := hcurrent
  obtain ⟨c', d', hto', hplain'⟩ := hnew
  obtain ⟨hsame, hsameNew⟩ := joined_inj hfrom hto hfrom' hto' hplain hplain' hjoined
  obtain ⟨huser, hemail⟩ := hasked sending hsent hsame hsameNew
  exact ⟨huser, hemail, hsameNew⟩

/-! ## Every change is backed -/

variable {otpType : OTPType}

theorem identifier_inj {left right : String}
    (h : identifier otpType left = identifier otpType right) : left = right := by
  have hchars := congrArg String.toList h
  simp only [identifier, String.toList_append] at hchars
  exact String.toList_injective (List.append_cancel_left hchars)

theorem isChange_iff {row : OTPRow} {email : String}
    (h : row.identifier = identifier otpType email) : row.isChange = true ↔ otpType = .changeEmail := by
  unfold OTPRow.isChange hasPrefix
  rw [h]
  cases otpType <;> simp [identifier, OTPType.text]

/-- The OTP of a row was sent, and has not been used. -/
structure Traced (plugin : Plugin) (log : List Event) (row : OTPRow) (sending : Sending) : Prop where
  sent : .sent sending ∈ log
  serial : row.serial = sending.serial
  identifier : row.identifier =
    identifier .changeEmail (joined (plugin.normalizeEmail sending.email) sending.newEmail)
  stored : (splitStoredValue row.value).1 = sending.stored
  unused : .used sending.serial ∉ log

structure Invariant (plugin : Plugin) (state : State) : Prop where
  proved : Proved plugin state.log
  numbered : ∀ {sending}, .sent sending ∈ state.log → sending.serial < state.next
  distinct : ∀ {left right}, .sent left ∈ state.log → .sent right ∈ state.log → left.serial = right.serial →
    left = right
  usedNumbered : ∀ {serial}, .used serial ∈ state.log → serial < state.next
  traced : ∀ row ∈ state.rows, row.isChange = true → ∃ sending, Traced plugin state.log row sending

section

variable {plugin : Plugin} {state : State} {sending : Sending} {rawNewEmail : String} {session : Option String}

theorem Traced.of_same {log : List Event} {row other : OTPRow}
    (h : Traced plugin log other sending) (hsame : SameOTP row other) : Traced plugin log row sending :=
  ⟨h.sent, hsame.serial.trans h.serial, hsame.identifier.trans h.identifier, hsame.stored.trans h.stored, h.unused⟩

variable {rows : List OTPRow} {now : Int}

theorem verifyCurrent_noOthers (plugin : Plugin) (now : Int) (currentEmail : String) (provided : Option String)
    (rows : List OTPRow) : NoOthers (plugin.verifyCurrent now currentEmail provided rows).1 rows := by
  unfold Plugin.verifyCurrent
  split
  · split
    · exact .of_subset (List.Subset.refl _)
    · exact (atomicVerifyOTP_spec rfl).1
  · exact .of_subset (List.Subset.refl _)

theorem changeAddresses_ok {users : List User} {currentEmail newEmail : String}
    {user : User} (h : plugin.changeAddresses users session rawNewEmail = .ok (user, currentEmail, newEmail)) :
    currentEmail = plugin.normalizeEmail user.email := by
  obtain ⟨_, _, _, _, found, _, h⟩ := ok_of_bind₃ h
  obtain ⟨_, _, _, _, _, _, h⟩ := ok_of_bind₃ h
  obtain ⟨rfl, heq⟩ := Prod.mk.inj (Except.ok.inj h)
  exact (Prod.mk.inj heq).1.symm

section

variable (h : Invariant plugin state)
include h

/-- Rows may go and be copied. -/
theorem Invariant.noOthers (hrows : NoOthers rows state.rows) : Invariant plugin { state with rows } where
  proved := h.proved
  numbered := h.numbered
  distinct := h.distinct
  usedNumbered := h.usedNumbered
  traced row hrow hchange := by
    obtain ⟨other, hother, hsame⟩ := hrows row hrow
    have hotherChange : other.isChange = true := by
      rw [← hchange, OTPRow.isChange, OTPRow.isChange, hsame.identifier]
    obtain ⟨sending, htraced⟩ := h.traced other hother hotherChange
    exact ⟨sending, htraced.of_same hsame⟩

/-- The OTP of a row is used: no row is left with it. -/
theorem Invariant.use {consumed : OTPRow} (hconsumed : Traced plugin state.log consumed sending)
    (hrows : rows ⊆ deleteVerification consumed.identifier state.rows) {noted : List Event}
    (hnoted : noted = [] ∨ ∃ change, noted = [.changed change] ∧ Backed plugin change state.log) (users : List User) :
    Invariant plugin { state with users, rows, log := .used consumed.serial :: (noted ++ state.log) } := by
  have hsent : ∀ {other}, .sent other ∈ Event.used consumed.serial :: (noted ++ state.log) →
      .sent other ∈ state.log := by
    intro other hother
    rcases hnoted with rfl | ⟨change, rfl, _⟩ <;> simpa using hother
  have hused : ∀ {serial}, .used serial ∈ Event.used consumed.serial :: (noted ++ state.log) →
      serial = consumed.serial ∨ .used serial ∈ state.log := by
    intro serial hserial
    rcases hnoted with rfl | ⟨change, rfl, _⟩ <;> simpa using hserial
  refine ⟨?_, fun hother => h.numbered (hsent hother),
    fun hleft hright => h.distinct (hsent hleft) (hsent hright), ?_, ?_⟩
  · rcases hnoted with rfl | ⟨change, rfl, hbacked⟩
    · exact h.proved
    · exact ⟨hbacked, h.proved⟩
  · intro serial hserial
    rcases hused hserial with rfl | hearlier
    · exact hconsumed.serial ▸ h.numbered hconsumed.sent
    · exact h.usedNumbered hearlier
  intro row hrow hchange
  obtain ⟨hmem, hother⟩ := List.mem_filter.mp (hrows hrow)
  obtain ⟨origin, htraced⟩ := h.traced row hmem hchange
  refine ⟨origin, List.mem_cons_of_mem _ (List.mem_append_right _ htraced.sent), htraced.serial, htraced.identifier,
    htraced.stored, fun hserial => ?_⟩
  rcases hused hserial with hsame | hearlier
  · -- one OTP has one identifier, and its rows went with the one that was used
    have horigin : origin = sending := h.distinct htraced.sent hconsumed.sent (hsame.trans hconsumed.serial)
    rw [horigin] at htraced
    exact absurd (htraced.identifier.trans hconsumed.identifier.symm) (by simpa using hother)
  · exact htraced.unused hearlier

/-- A row for an OTP that is sent along with it. -/
theorem Invariant.sent {created : OTPRow}
    (hsending : sending.serial = state.next) (hserial : created.serial = state.next)
    (hidentifier : created.identifier =
      identifier .changeEmail (joined (plugin.normalizeEmail sending.email) sending.newEmail))
    (hstored : (splitStoredValue created.value).1 = sending.stored) :
    Invariant plugin { state with
      rows := state.rows ++ [created], next := state.next + 1, log := .sent sending :: state.log } := by
  have hfresh : .used sending.serial ∉ state.log := fun hused => by
    have hlow := h.usedNumbered hused
    omega
  refine ⟨h.proved, fun hother => ?_, fun hleft hright hsame => ?_, fun hused => ?_, fun row hrow hchange => ?_⟩
  · rcases List.mem_cons.mp hother with heq | hold
    · obtain rfl := Event.sent.inj heq
      exact hsending ▸ Nat.lt_succ_self _
    · exact Nat.lt_succ_of_lt (h.numbered hold)
  · rcases List.mem_cons.mp hleft with hleftNew | hleftOld <;> rcases List.mem_cons.mp hright with hrightNew | hrightOld
    · rw [Event.sent.inj hleftNew, Event.sent.inj hrightNew]
    · have hlow := h.numbered hrightOld
      rw [Event.sent.inj hleftNew] at hsame
      omega
    · have hlow := h.numbered hleftOld
      rw [Event.sent.inj hrightNew] at hsame
      omega
    · exact h.distinct hleftOld hrightOld hsame
  · exact Nat.lt_succ_of_lt (h.usedNumbered ((List.mem_cons.mp hused).resolve_left (by simp)))
  · rcases mem_concat.mp hrow with hold | rfl
    · obtain ⟨origin, htraced⟩ := h.traced row hold hchange
      exact ⟨origin, List.mem_cons_of_mem _ htraced.sent, htraced.serial, htraced.identifier, htraced.stored,
        fun hused => htraced.unused ((List.mem_cons.mp hused).resolve_left (by simp))⟩
    · exact ⟨sending, List.mem_cons_self, hserial.trans hsending.symm, hidentifier, hstored,
        fun hused => hfresh ((List.mem_cons.mp hused).resolve_left (by simp))⟩

theorem Invariant.requestChange {provided : Option String} {stored : Except Failure String} :
    Invariant plugin (plugin.requestEmailChangeEmailOTP now state session rawNewEmail provided stored).1 := by
  unfold Plugin.requestEmailChangeEmailOTP
  split
  · exact h
  next user currentEmail newEmail haddresses =>
  have hverified := verifyCurrent_noOthers plugin now currentEmail provided state.rows
  split
  · next rows failure hcurrent =>
    rw [hcurrent] at hverified
    exact h.noOthers hverified
  next rows hcurrent =>
  rw [hcurrent] at hverified
  have hrows := h.noOthers hverified
  split
  · exact hrows
  next stored =>
  split
  · refine hrows.noOthers (.of_subset fun row hrow => ?_)
    obtain ⟨hmem, hother⟩ := List.mem_filter.mp hrow
    rcases mem_concat.mp hmem with hold | rfl
    · exact hold
    · exact absurd hother (by simp)
  · exact hrows.sent rfl rfl (by rw [changeAddresses_ok haddresses]) (by rw [splitStoredValue_storedValue])

theorem Invariant.change
    {provided : String} {hook : Except Failure Unit} (hunconfused : Unconfused plugin state session rawNewEmail) :
    Invariant plugin (plugin.changeEmailEmailOTP now state session rawNewEmail provided hook).1 := by
  unfold Plugin.changeEmailEmailOTP
  unfold Unconfused at hunconfused
  split
  · exact h
  next user currentEmail newEmail haddresses =>
  rw [haddresses] at hunconfused
  obtain ⟨howner, hunconfused⟩ := hunconfused
  split
  · next rows failure hverified => exact h.noOthers (atomicVerifyOTP_spec hverified).1
  next rows consumed hverified =>
  obtain ⟨⟨hmem, hidentifier⟩, hfits, hrows⟩ := (atomicVerifyOTP_spec hverified).2 consumed rfl
  obtain ⟨sending, htraced⟩ := h.traced consumed hmem ((isChange_iff hidentifier).mpr rfl)
  have hsame : joined (plugin.normalizeEmail sending.email) sending.newEmail = joined currentEmail newEmail :=
    identifier_inj (htraced.identifier.symm.trans hidentifier)
  obtain ⟨huser, hemail, hnew⟩ := hunconfused sending htraced.sent hsame
  rw [← hidentifier] at hrows
  split
  · exact h.use htraced hrows (.inl rfl) state.users
  rename_i currentUser hchecked
  obtain ⟨found, hfound, _, _, hchecked⟩ := ok_of_bind₂ hchecked
  obtain ⟨_, _, _, _, hchecked⟩ := ok_of_bind₂ hchecked
  obtain rfl := Except.ok.inj hchecked
  obtain rfl := howner found (expect_eq_ok_iff.mp hfound)
  exact h.use htraced hrows
    (.inr ⟨_, rfl, sending, htraced.sent, huser, hemail, hnew, htraced.stored ▸ hfits, htraced.unused⟩) _

theorem Invariant.step {input : Timed} (hadmitted : Admitted plugin state input) :
    Invariant plugin (state.step plugin input) := by
  unfold State.step
  unfold Admitted at hadmitted
  cases hrequest : input.request with
  | requestChange session rawNewEmail provided stored => exact h.requestChange
  | change session rawNewEmail provided hook =>
    rw [hrequest] at hadmitted
    exact h.change hadmitted
  | check otpType rawEmail provided => exact h.noOthers checkVerificationOTP_noOthers
  | create otpType rawEmail stored =>
    rw [hrequest] at hadmitted
    dsimp only
    unfold Plugin.createVerificationOTP
    split
    · exact h
    refine ⟨h.proved, fun hsent => Nat.lt_succ_of_lt (h.numbered hsent), h.distinct,
      fun hused => Nat.lt_succ_of_lt (h.usedNumbered hused), fun row hrow hchange => ?_⟩
    rcases mem_concat.mp hrow with hold | rfl
    · exact h.traced row hold hchange
    · exact absurd ((isChange_iff rfl).mp hchange) hadmitted
  | other users rows kept =>
    refine ⟨h.proved, h.numbered, h.distinct, h.usedNumbered, fun row hrow hchange => ?_⟩
    rcases List.mem_append.mp hrow with hforeign | hold
    · exact absurd (List.mem_filter.mp hforeign).2 (by simp [hchange])
    · exact h.traced row (List.mem_of_mem_filter hold) hchange

end

/-- Every change of an address is backed by an OTP of its own. -/
theorem changes_proved {start state : State} (hlog : start.log = [])
    (hrows : ∀ row ∈ start.rows, row.isChange = false)
    (hreached : Reached (State.step plugin) (Admitted plugin) start state) : Proved plugin state.log := by
  have hstart : Invariant plugin start := by
    refine ⟨?_, ?_, ?_, ?_, fun row hrow hchange => ?_⟩
    · rw [hlog]
      trivial
    · simp [hlog]
    · simp [hlog]
    · simp [hlog]
    · rw [hrows row hrow] at hchange
      cases hchange
  exact (hreached.invariant (Invariant plugin) hstart fun _ _ h hadmitted => h.step hadmitted).proved

end

/-! ## Two changes with one identifier -/

def plainOTP : Plugin where
  toLower := fun email => email
  parseAddress := fun email => some email
  verifyStoredOTP := fun stored provided => .ok (stored = provided)

/-- Two users whose addresses differ in a hyphen of the domain. -/
def hyphenStart : State where
  users := [{ id := "1", email := "eve@a" }, { id := "2", email := "eve@a-b" }]

def askFor (session newEmail : String) : Timed := ⟨0, .requestChange (some session) newEmail none (.ok "123456")⟩

def changeTo (session newEmail : String) : Timed := ⟨1, .change (some session) newEmail "123456" (.ok ())⟩

theorem changes_proved_own :
    Proved plainOTP ([askFor "2" "v@c", changeTo "2" "v@c"].foldl (State.step plainOTP) hyphenStart).log := by
  have hunconfused : Unconfused plainOTP (hyphenStart.step plainOTP (askFor "2" "v@c")) (some "2") "v@c" := by
    have haddress : Address "v@c" ['v'] ['c'] := ⟨by decide, by decide, by decide⟩
    have hcurrent : Address "eve@a-b" ['e', 'v', 'e'] ['a', '-', 'b'] := ⟨by decide, by decide, by decide⟩
    have hlog : (hyphenStart.step plainOTP (askFor "2" "v@c")).log = [.sent ⟨0, "2", "eve@a-b", "v@c", "123456"⟩] := by
      decide
    have hsent : ∀ sending, .sent sending ∈ (hyphenStart.step plainOTP (askFor "2" "v@c")).log →
        sending = ⟨0, "2", "eve@a-b", "v@c", "123456"⟩ := by
      intro sending hsending
      rw [hlog] at hsending
      exact Event.sent.inj (List.mem_singleton.mp hsending)
    have haddresses : plainOTP.changeAddresses (hyphenStart.step plainOTP (askFor "2" "v@c")).users (some "2") "v@c" =
        .ok (⟨"2", "eve@a-b", false⟩, "eve@a-b", "v@c") := by rfl
    refine unconfused_of_plain haddresses ⟨_, _, hcurrent⟩ ⟨_, _, haddress, by decide⟩ ?_ ?_ ?_
    · intro sending hsending
      rw [hsent sending hsending]
      exact ⟨⟨_, _, hcurrent⟩, _, _, haddress, by decide⟩
    · intro found hfound
      have hknown : findUserByEmail (hyphenStart.step plainOTP (askFor "2" "v@c")).users "eve@a-b" =
          some ⟨"2", "eve@a-b", false⟩ := by decide
      exact Option.some.inj (hfound.symm.trans hknown)
    · intro sending hsending _ _
      rw [hsent sending hsending]
      exact ⟨rfl, rfl⟩
  have hfirst : Admitted plainOTP hyphenStart (askFor "2" "v@c") := trivial
  have hsecond : Admitted plainOTP (hyphenStart.step plainOTP (askFor "2" "v@c")) (changeTo "2" "v@c") := hunconfused
  exact changes_proved rfl (by decide) ((Reached.start.next hfirst).next hsecond)

/-- The OTP that is sent to the address v@c for the second user makes b-v@c a verified
address of the first one. -/
theorem change_with_foreign_otp :
    ¬ Proved plainOTP ([askFor "2" "v@c", changeTo "1" "b-v@c"].foldl (State.step plainOTP) hyphenStart).log := by
  have hlog : ([askFor "2" "v@c", changeTo "1" "b-v@c"].foldl (State.step plainOTP) hyphenStart).log =
      [.used 0, .changed ⟨"1", "eve@a", "b-v@c", "123456"⟩, .sent ⟨0, "2", "eve@a-b", "v@c", "123456"⟩] := by
    decide
  rw [hlog]
  rintro ⟨⟨sending, hsent, huser, _⟩, _⟩
  rw [Event.sent.inj (List.mem_singleton.mp hsent)] at huser
  exact absurd huser (by decide)

end singleauth.emailotp
