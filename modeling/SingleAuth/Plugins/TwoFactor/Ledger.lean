import SingleAuth.Plugins.TwoFactor.Lockout

open decimal fallible program text
open singleauth.contract (Failure)

namespace singleauth.twofactor

/-! ## Counters -/

variable {allowed : Int} {stored : String}

theorem countedAttempts_nonneg (h : 0 ≤ allowed) (raw : String) : 0 ≤ countedAttempts allowed raw := by
  unfold countedAttempts
  dsimp only
  split
  · exact h
  · next hread => exact Int.not_lt.mp fun hneg => hread (.inr hneg)

theorem countedAttempts_toString {number : Int} (hnonneg : 0 ≤ number) (hfits : number < 2 ^ 63) :
    countedAttempts allowed (toString number) = number := by
  unfold countedAttempts
  rw [atoi_toString (by omega) hfits]
  exact if_neg (by simp [hnonneg])

theorem not_mem_splitOTPValue (value : String) : ':' ∉ (splitOTPValue value).1.toList := by
  unfold splitOTPValue
  split
  · next hcut => exact not_mem_of_cut_eq_none hcut
  · next hcut => exact not_mem_of_cut hcut

theorem neg_pow_le_splitOTPValue (value : String) : -2 ^ 63 ≤ (splitOTPValue value).2 := by
  unfold splitOTPValue
  split
  · exact (by decide : -2 ^ 63 ≤ (0 : Int))
  · exact neg_pow_le_atoi _

theorem splitOTPValue_otpValue (hstored : ':' ∉ stored.toList) {attempts : Int}
    (hlower : -2 ^ 63 ≤ attempts) (hupper : attempts < 2 ^ 63) :
    splitOTPValue (otpValue stored attempts) = (stored, attempts) := by
  have hcut : cut ':' (otpValue stored attempts) = some (stored, toString attempts) := cut_append hstored _
  unfold splitOTPValue
  simp only [hcut, atoi_toString hlower hupper]

/-! ## Identifiers -/

namespace Challenge

variable {challenge : Challenge} {key : String}

/-- A key that OTPs of this challenge or of a session are stored with. -/
def OTPKey (challenge : Challenge) (key : String) : Prop := key = challenge.key ∨ '!' ∈ key.toList

theorem not_mem_key (challenge : Challenge) : '!' ∉ challenge.key.toList := by
  intro hmem
  rw [key, String.toList_append, List.mem_append] at hmem
  rcases hmem with hfixed | hrandom
  · exact absurd hfixed (by decide)
  · exact absurd (challenge.random_mem '!' hrandom) (by decide)

theorem attemptsIdentifier_ne_key (challenge : Challenge) : attemptsIdentifier challenge.key ≠ challenge.key := by
  intro h
  have hlength := congrArg String.length h
  rw [attemptsIdentifier, String.length_append] at hlength
  have hfixed : "2fa-attempts-".length = 13 := rfl
  omega

theorem OTPKey.ne_key (h : challenge.OTPKey key) : otpIdentifier key ≠ challenge.key := by
  intro heq
  rcases h with rfl | hmem
  · have hlength := congrArg String.length heq
    rw [otpIdentifier, String.length_append] at hlength
    have hfixed : "2fa-otp-".length = 8 := rfl
    omega
  · apply challenge.not_mem_key
    rw [← heq, otpIdentifier, String.toList_append]
    exact List.mem_append_right _ hmem

theorem otpIdentifier_ne_attemptsIdentifier (key other : String) : otpIdentifier key ≠ attemptsIdentifier other := by
  intro h
  have hchars := congrArg (fun text => text.toList[4]?) h
  simp [otpIdentifier, attemptsIdentifier] at hchars

theorem foreign_trustDevice (challenge : Challenge) (random value : String) (expiresAt createdAt : Int) :
    challenge.foreign ⟨"trust-device-" ++ random, value, expiresAt, createdAt, none⟩ = true := by
  have hne : ∀ other : String, "trust-device-" ++ random ≠ "2fa-" ++ other ∧
      "trust-device-" ++ random ≠ "2fa-attempts-" ++ other := by
    intro other
    constructor <;> intro h <;> have hchars := congrArg (fun text => text.toList[0]?) h <;> simp at hchars
  have hkey : "trust-device-" ++ random ≠ challenge.key := (hne _).1
  have hattempts : "trust-device-" ++ random ≠ attemptsIdentifier challenge.key := (hne _).2
  simp [foreign, hkey, hattempts]

/-- The row counts the attempts at the challenge and is at the number. -/
structure Counts (challenge : Challenge) (row : Verification) (attempts : Int) : Prop where
  identifier : row.identifier = attemptsIdentifier challenge.key
  attempts : countedAttempts defaultAllowedAttempts row.value = attempts

/-- The row counts the attempts at an OTP and is at the number. -/
structure CountsOTP (challenge : Challenge) (row : Verification) (attempts : Int) : Prop where
  identifier : ∃ key, challenge.OTPKey key ∧ row.identifier = otpIdentifier key
  attempts : (splitOTPValue row.value).2 = attempts

end Challenge

/-! ## Ledgers -/

/-- A price for events, and what rows and the OTPs that are not yet sent are
worth, such that every event and every new row is paid with a row that was
taken. -/
structure Ledger (plugin : Plugin) (challenge : Challenge) where
  worth : Verification → Nat
  price : Event → Nat
  unsent : Nat → Nat
  /-- The counters that an OTP may be sent with. -/
  sendable : Int → Prop
  foreign : ∀ row, challenge.foreign row = true → worth row = 0
  guessed_session : price (.guessed false) = 0
  issued_session : ∀ userID, price (.issued userID false) = 0
  restored : ∀ {row again attempts}, challenge.Counts row attempts → challenge.Counts again attempts →
    again.sent = none → worth again ≤ worth row
  guessed : ∀ {row again attempts}, challenge.Counts row attempts → attempts < defaultAllowedAttempts →
    challenge.Counts again (attempts + 1) → again.sent = none → price (.guessed true) + worth again ≤ worth row
  issued : ∀ {row}, row.identifier = challenge.key → price (.issued row.value true) ≤ worth row
  mistyped : ∀ {row again attempts}, challenge.CountsOTP row attempts → attempts < plugin.allowedAttempts →
    challenge.CountsOTP again (attempts + 1) → again.sent = row.sent →
      price (.mistyped row.sent) + worth again ≤ worth row
  sent : ∀ {row attempts number}, challenge.CountsOTP row attempts → sendable attempts → row.sent = some number →
    worth row + unsent (number + 1) ≤ unsent number

namespace Ledger

variable {plugin : Plugin} {challenge : Challenge} (ledger : Ledger plugin challenge)

def total (store : Store) : Nat :=
  (store.verifications.map ledger.worth).sum + (store.log.map ledger.price).sum + ledger.unsent store.sends

variable {ledger} {store : Store} {env : Env} {site : Site} {failure : Failure} {credit : Nat}

/-! ### Accesses -/

theorem total_findVerification_le (identifier : String) :
    ledger.total (store.findVerification identifier).2 ≤ ledger.total store := by
  have hrows := table.sum_map_filter_le ledger.worth (fun row => ¬ row.expiresAt < store.now) store.verifications
  unfold total Store.findVerification table.findLatest
  dsimp only at hrows ⊢
  omega

theorem total_consumeVerification_le (identifier : String) :
    ledger.total (store.consumeVerification identifier).2 +
      ((store.consumeVerification identifier).1.map ledger.worth).getD 0 ≤ ledger.total store := by
  unfold Store.consumeVerification table.consumeLatest
  dsimp only
  split
  · simp [total]
  next latest hlatest =>
  obtain ⟨hmem, hidentifier⟩ := table.latest_some hlatest
  have hrows : ((store.verifications.filter fun row => row.identifier ≠ identifier).map ledger.worth).sum +
      ledger.worth latest ≤ (store.verifications.map ledger.worth).sum :=
    table.sum_map_filter_add_le ledger.worth hmem (by simpa using hidentifier)
  unfold total
  split
  · simp only [Option.map_none, Option.getD_none]
    omega
  · simp only [Option.map_some, Option.getD_some]
    omega

variable {α : Type} {identifier : String} {access : Store → α × Store} {post : α → Nat → Prop}

theorem identifier_of_consumeVerification {row : Verification}
    (h : (store.consumeVerification identifier).1 = some row) : row.identifier = identifier :=
  (table.consumeLatest_some (Prod.ext h rfl)).1.2

theorem total_createVerification (identifier value : String) (expiresAt : Int) (sent : Option Nat) :
    ledger.total (store.createVerification identifier value expiresAt sent).2 =
      ledger.total store + ledger.worth ⟨identifier, value, expiresAt, store.now, sent⟩ := by
  simp only [total, Store.createVerification, List.map_append, List.map_cons, List.map_nil, List.sum_append,
    List.sum_cons, List.sum_nil]
  omega

theorem total_record (event : Event) :
    ledger.total (store.record event).2 = ledger.total store + ledger.price event := by
  simp only [total, Store.record, List.map_append, List.map_cons, List.map_nil, List.sum_append, List.sum_cons,
    List.sum_nil]
  omega

/-! ### Calls -/

section

variable (h : ∀ store, ∃ left, ledger.total (access store).2 + left ≤ ledger.total store + credit ∧ post (access store).1 left)
include h

theorem writes_pays :
    Pays ledger.total post credit (Calls.update fun store => Except.ok (access store) : Handler α) := by
  refine Pays.update fun store value after hwrite => ?_
  have hstore := h store
  rwa [Except.ok.inj hwrite] at hstore

theorem call_pays : Pays ledger.total post credit (env.call site failure access) := by
  unfold Env.call Fault.call
  split
  · exact writes_pays h
  · exact Pays.fails
  · exact Pays.bind (writes_pays h) fun _ _ _ => Pays.fails

end

/-- A call that does not touch what counts. -/
theorem reads_pays (h : ∀ store, ledger.total (access store).2 ≤ ledger.total store) :
    Pays ledger.total (fun _ left => left = credit) credit (env.call site failure access) :=
  call_pays fun store => ⟨credit, Nat.add_le_add_right (h store) credit, rfl⟩

theorem consumes_pays :
    Pays ledger.total
      (fun consumed left => ∀ row, consumed = some row → row.identifier = identifier ∧ left = credit + ledger.worth row)
      credit (env.call site failure (Store.consumeVerification identifier)) := by
  refine call_pays fun store => ⟨credit + ((store.consumeVerification identifier).1.map ledger.worth).getD 0, ?_, ?_⟩
  · rw [Nat.add_left_comm, Nat.add_comm credit]
    exact Nat.add_le_add_right (total_consumeVerification_le identifier) credit
  · intro row hrow
    refine ⟨identifier_of_consumeVerification hrow, ?_⟩
    rw [hrow, Option.map_some, Option.getD_some]

theorem creates_pays {value : String} {expiresAt : Int} {sent : Option Nat}
    (h : ∀ createdAt, ledger.worth ⟨identifier, value, expiresAt, createdAt, sent⟩ ≤ credit) :
    Pays ledger.total (fun _ _ => True) credit
      (env.call site failure (Store.createVerification identifier value expiresAt sent)) := by
  refine call_pays fun store => ⟨0, ?_, trivial⟩
  have hworth := h store.now
  rw [total_createVerification]
  omega

theorem records_pays {event : Event} {left : Nat} (h : ledger.price event + left ≤ credit) :
    Pays ledger.total (fun _ after => after = left) credit
      (Calls.update fun store => Except.ok (store.record event) : Handler Unit) := by
  refine writes_pays fun store => ⟨left, ?_, rfl⟩
  rw [total_record]
  omega

end Ledger

/-- The counter of an OTP, as it is stored when it is sent, is one of these. -/
def SentWith (plugin : Plugin) (sendable : Int → Prop) (otp : Option String) : Prop :=
  ∀ code ∈ otp, ∀ stored ∈ plugin.storedOTP code, sendable (splitOTPValue (otpValue stored 0)).2

/-! ## Handlers -/

/-- The context of a request that presents the challenge. -/
structure Challenge.Fits (challenge : Challenge) (context : VerificationContext) : Prop where
  otp : challenge.OTPKey context.key
  signIn : context.challenge.isSome = true → context.key = challenge.key

namespace Ledger

variable {plugin : Plugin} {challenge : Challenge} {ledger : Ledger plugin challenge} {env : Env} {credit : Nat}
  {context : VerificationContext}

theorem verifyTwoFactor_pays :
    Pays ledger.total (fun context left => challenge.Fits context ∧ left = credit) credit
      (verifyTwoFactor env challenge.key) := by
  unfold verifyTwoFactor
  split
  · next session _ =>
    refine Pays.check fun _ _ => ?_
    refine Pays.pure ⟨⟨.inr ?_, fun h => absurd h (by simp)⟩, rfl⟩
    simp [String.toList_append]
  refine Pays.check fun _ _ => ?_
  refine Pays.bind (reads_pays fun store => total_findVerification_le _) ?_
  rintro found _ rfl
  refine Pays.check fun row _ => ?_
  refine Pays.check fun _ _ => ?_
  refine Pays.bind (reads_pays fun store => Nat.le_refl _) ?_
  rintro user _ rfl
  refine Pays.check fun user _ => ?_
  exact Pays.pure ⟨⟨.inl rfl, fun _ => rfl⟩, rfl⟩

/-- The credit covers the counter of the attempt, and also a wrong guess with
the counter that is stored then. -/
def Backs (ledger : Ledger plugin challenge) (context : VerificationContext) (attempt : Option Attempt) (credit : Nat) :
    Prop :=
  match attempt with
  | none => context.challenge = none
  | some attempt => context.challenge.isSome = true ∧ attempt.identifier = attemptsIdentifier challenge.key ∧
      attempt.attempts < defaultAllowedAttempts ∧
      ∃ row, challenge.Counts row attempt.attempts ∧ ledger.worth row ≤ credit

theorem beginAttempt_pays (hfits : challenge.Fits context) :
    Pays ledger.total (fun attempt left => ledger.Backs context attempt left) credit
      (beginAttempt env context defaultAllowedAttempts) := by
  unfold beginAttempt
  split
  · next hnone => exact Pays.pure hnone
  rename_i row hsome
  have hsignIn : context.challenge.isSome = true := by rw [hsome, Option.isSome_some]
  have hkey := hfits.signIn hsignIn
  refine Pays.bind consumes_pays ?_
  intro consumed left hconsumed
  refine Pays.check fun consumed hfound => ?_
  obtain ⟨hidentifier, rfl⟩ := hconsumed consumed (expect_eq_ok_iff.mp hfound)
  dsimp only
  split
  · exact Pays.bind (Pays.attempt consumes_pays) fun _ _ _ => Pays.fails
  · next hbelow =>
    rw [hkey] at hidentifier ⊢
    exact Pays.pure ⟨hsignIn, rfl, Int.not_le.mp hbelow, consumed, ⟨hidentifier, rfl⟩, Nat.le_add_left _ _⟩

variable {attempts : Int} {row : Verification} {attempt : Option Attempt} {trustDevice : Bool} {code : String}

/-- The counter of an attempt, as it is stored again. -/
theorem counts_rearmed (challenge : Challenge) (hnonneg : 0 ≤ attempts)
    (hle : attempts ≤ defaultAllowedAttempts) (expiresAt createdAt : Int) :
    challenge.Counts ⟨attemptsIdentifier challenge.key, toString attempts, expiresAt, createdAt, none⟩ attempts :=
  ⟨rfl, countedAttempts_toString hnonneg (Int.lt_of_le_of_lt hle (by decide))⟩

theorem nonneg_of_counts (h : challenge.Counts row attempts) : 0 ≤ attempts :=
  h.attempts ▸ countedAttempts_nonneg (by decide) row.value

theorem restore_pays (h : ledger.Backs context attempt credit) :
    Pays ledger.total (fun _ _ => True) credit (restore env attempt) := by
  cases attempt with
  | none => exact Pays.pure trivial
  | some attempt =>
    obtain ⟨-, hidentifier, hbelow, row, hcounts, hworth⟩ := h
    refine creates_pays fun createdAt => ?_
    rw [hidentifier]
    have hagain := counts_rearmed challenge (nonneg_of_counts hcounts) (Int.le_of_lt hbelow) attempt.expiresAt createdAt
    exact Nat.le_trans (ledger.restored hcounts hagain rfl) hworth

theorem failedGuess_pays (h : ledger.Backs context attempt credit) :
    Pays ledger.total (fun _ _ => True) credit (failedGuess env context attempt) := by
  cases attempt with
  | none =>
    have hsession : context.challenge = none := h
    have hprice : ledger.price (.guessed context.challenge.isSome) + credit ≤ credit := by
      rw [hsession, Option.isSome_none, ledger.guessed_session, Nat.zero_add]
    exact Pays.bind (records_pays hprice) fun _ _ _ => Pays.pure trivial
  | some attempt =>
    obtain ⟨hsignIn, hidentifier, hbelow, row, hcounts, hworth⟩ := h
    -- the row that was taken pays for the guess and for the counter after it, whenever that is stored
    have hpaid : ∀ createdAt, ledger.price (.guessed true) + ledger.worth ⟨attemptsIdentifier challenge.key,
        toString (attempt.attempts + 1), attempt.expiresAt, createdAt, none⟩ ≤ credit := by
      intro createdAt
      have hnonneg := nonneg_of_counts hcounts
      have hagain := counts_rearmed challenge (show 0 ≤ attempt.attempts + 1 by omega)
        (Int.add_one_le_of_lt hbelow) attempt.expiresAt createdAt
      exact Nat.le_trans (ledger.guessed hcounts hbelow hagain rfl) hworth
    have hprice : ledger.price (.guessed context.challenge.isSome) + (credit - ledger.price (.guessed true)) ≤
        credit := by
      have hone := hpaid 0
      rw [hsignIn]
      omega
    refine Pays.bind (records_pays hprice) ?_
    rintro _ _ rfl
    refine creates_pays fun createdAt => ?_
    rw [hidentifier]
    have hcreated := hpaid createdAt
    omega

theorem setTrustedDevice_pays {userID : String} :
    Pays ledger.total (fun _ _ => True) credit (setTrustedDevice plugin env trustDevice userID) := by
  unfold setTrustedDevice
  split
  · refine Pays.check fun random _ => call_pays fun store => ⟨credit, ?_, trivial⟩
    rw [total_createVerification, ledger.foreign _ (challenge.foreign_trustDevice _ _ _ _), Nat.add_zero]
  · exact Pays.pure trivial

/-- The row of the challenge pays for the session. -/
theorem valid_pays (hfits : challenge.Fits context) :
    Pays ledger.total (fun _ _ => True) credit (valid plugin env context trustDevice) := by
  unfold valid
  split
  · exact Pays.pure trivial
  rename_i row hsome
  have hkey := hfits.signIn (by rw [hsome, Option.isSome_some])
  refine Pays.bind consumes_pays ?_
  intro consumed left hconsumed
  refine Pays.check fun consumed hfound => ?_
  obtain ⟨hidentifier, rfl⟩ := hconsumed consumed (expect_eq_ok_iff.mp hfound)
  have hprice := ledger.issued (hidentifier.trans hkey)
  refine Pays.check fun _ _ => ?_
  have hissue : Pays ledger.total (fun _ _ => True) (credit + ledger.worth consumed)
      (env.call .issueSession sessionFailed (Store.record (.issued consumed.value true))) := by
    refine call_pays fun store => ⟨0, ?_, trivial⟩
    rw [total_record]
    omega
  refine Pays.bind hissue fun _ _ _ => ?_
  exact Pays.bind setTrustedDevice_pays fun _ _ _ => Pays.pure trivial

theorem enableUser_pays : Pays ledger.total (fun _ _ => True) credit (enableUser env context) := by
  unfold enableUser
  split
  · exact Pays.fails
  have hupdate : ∀ store, ledger.total (store.enableTwoFactor context.user.id).2 ≤ ledger.total store := by
    intro store
    unfold Store.enableTwoFactor
    split <;> exact Nat.le_refl _
  have hissue : ∀ store : Store,
      ledger.total (store.record (.issued context.user.id false)).2 ≤ ledger.total store := by
    intro store
    rw [total_record, ledger.issued_session, Nat.add_zero]
  refine Pays.bind (reads_pays hupdate) ?_
  rintro updated _ rfl
  refine Pays.check fun _ _ => ?_
  refine Pays.bind (reads_pays hissue) fun _ _ _ => ?_
  refine Pays.check fun _ _ => ?_
  exact Pays.bind (reads_pays fun _ => Nat.le_refl _) fun _ _ _ => Pays.pure trivial

theorem confirmTOTP_pays {twoFactor : TwoFactor} (hfits : challenge.Fits context) :
    Pays ledger.total (fun after _ => challenge.Fits after) credit (confirmTOTP env context twoFactor) := by
  have hconfirm : ∀ (user : User) (left : Nat), Pays ledger.total (fun after _ => challenge.Fits after) left
      (env.call .updateTwoFactor internalError (Store.setVerified twoFactor.id) >>=
        fun _ => pure { context with user } : Handler VerificationContext) := by
    intro user left
    exact Pays.bind (reads_pays fun _ => Nat.le_refl _) fun _ _ _ => Pays.pure ⟨hfits.otp, hfits.signIn⟩
  unfold confirmTOTP
  split
  · exact Pays.pure hfits
  · split
    · exact hconfirm _ _
    · exact Pays.bind enableUser_pays fun user left _ => hconfirm user left

/-- The row that was taken pays for the wrong code and for the row that comes
back. -/
theorem failedOTP_pays {key : String} (hkey : challenge.OTPKey key)
    (hidentifier : row.identifier = otpIdentifier key)
    (hsplit : splitOTPValue row.value = (stored, attempts)) (hbelow : attempts < plugin.allowedAttempts)
    (hworth : ledger.worth row ≤ credit) :
    Pays ledger.total (fun _ _ => True) credit (failedOTP env (otpIdentifier key) row stored attempts) := by
  have hpaid : ∀ createdAt, ledger.price (.mistyped row.sent) + ledger.worth ⟨otpIdentifier key,
      otpValue stored (attempts + 1), row.expiresAt, createdAt, row.sent⟩ ≤ credit := by
    intro createdAt
    have hcolon := not_mem_splitOTPValue row.value
    have hlower := neg_pow_le_splitOTPValue row.value
    have hfits := plugin.allowedAttempts_fits
    rw [hsplit] at hcolon hlower
    have hagain : splitOTPValue (otpValue stored (attempts + 1)) = (stored, attempts + 1) :=
      splitOTPValue_otpValue hcolon (by dsimp only at hlower; omega) (by omega)
    refine Nat.le_trans (ledger.mistyped ⟨⟨key, hkey, hidentifier⟩, ?_⟩ hbelow ⟨⟨key, hkey, rfl⟩, ?_⟩ rfl) hworth
    · rw [hsplit]
    · rw [hagain]
  have hprice : ledger.price (.mistyped row.sent) + (credit - ledger.price (.mistyped row.sent)) ≤ credit := by
    have hone := hpaid 0
    omega
  refine Pays.bind (records_pays hprice) ?_
  rintro _ _ rfl
  refine creates_pays fun createdAt => ?_
  have hcreated := hpaid createdAt
  omega

theorem sendTwoFactorOTP_pays {otp : Option String} (hsendable : SentWith plugin ledger.sendable otp) :
    Pays ledger.total (fun _ _ => True) credit (sendTwoFactorOTP plugin challenge.key env otp) := by
  unfold sendTwoFactorOTP
  refine Pays.check fun _ _ => ?_
  refine Pays.bind verifyTwoFactor_pays ?_
  rintro context _ ⟨hfits, rfl⟩
  refine Pays.check fun code hcode => ?_
  refine Pays.check fun stored hstored => ?_
  have hcounter := hsendable code (expect_eq_ok_iff.mp hcode) stored (expect_eq_ok_iff.mp hstored)
  have hcreate : ∀ store, ledger.total (store.createOTP (otpIdentifier context.key) (otpValue stored 0)
      plugin.otpPeriod).2 ≤ ledger.total store := by
    intro store
    have hrow : challenge.CountsOTP ⟨otpIdentifier context.key, otpValue stored 0, store.now + plugin.otpPeriod,
        store.now, some store.sends⟩ (splitOTPValue (otpValue stored 0)).2 := ⟨⟨context.key, hfits.otp, rfl⟩, rfl⟩
    have hsent := ledger.sent hrow hcounter rfl
    simp only [total, Store.createOTP, Store.createVerification, List.map_append, List.map_cons, List.map_nil,
      List.sum_append, List.sum_cons, List.sum_nil]
    omega
  refine Pays.bind (reads_pays hcreate) fun _ _ _ => ?_
  exact Pays.check fun _ _ => Pays.pure trivial

/-! ### With the locks -/

section

variable {α : Type} {lockout : Lockout} {env : LockEnv} {factor : Option String} {post : α → Nat → Prop}

/-- The locks do not count. -/
def held (ledger : Ledger plugin challenge) (accounts : Accounts) : Nat := ledger.total accounts.store

theorem unguarded_pays {handler : Handler α} (h : Pays ledger.total post credit handler) :
    Pays ledger.held post credit (unguarded handler) :=
  h.within fun _ _ => rfl

theorem blind_store (factor : Option String) : Blind Accounts.store factor :=
  ⟨fun id _ accounts lock => store_setLock accounts id lock, fun _ _ _ _ => rfl⟩

/-- What leaves the store alone. -/
theorem aside_pays {before : α → Prop} {calls : Guarded α} (h : Steady Accounts.store before calls) :
    Pays ledger.held (fun _ left => left = credit) credit calls :=
  (Pays.of_steady h).imp fun _ _ hleft => hleft.2

theorem findTwoFactor_pays {userID : String} :
    Pays ledger.held (fun _ left => left = credit) credit
      (env.call .findTwoFactor internalError (Accounts.findTwoFactor userID)) :=
  aside_pays (call_steady fun _ => rfl)

theorem restored_pays {failure : Failure} (h : ledger.Backs context attempt credit) :
    Pays ledger.held post credit (unguarded (restore env.toEnv attempt) >>= fun _ => refuse failure : Guarded α) :=
  Pays.bind (unguarded_pays (restore_pays h)) fun _ _ _ => Pays.fails

theorem rejected_pays {counted : Handler Unit} {failure : Failure}
    (h : Pays ledger.total (fun _ _ => True) credit counted) :
    Pays ledger.held post credit
      (lockout.reject env factor counted >>= fun _ => refuse failure : Guarded α) := by
  have hreject : Pays ledger.held (fun _ _ => True) credit (lockout.reject env factor counted) := by
    unfold Lockout.reject
    refine Pays.bind (aside_pays (compared_steady (blind_store factor) false)) ?_
    rintro _ _ rfl
    refine Pays.bind (unguarded_pays h) fun _ left _ => ?_
    exact (aside_pays (recordFailure_steady (blind_store factor))).imp fun _ _ _ => trivial
  exact Pays.bind hreject fun _ _ _ => Pays.fails

theorem accepted_pays {next : Guarded α} (h : Pays ledger.held post credit next) :
    Pays ledger.held post credit (lockout.accept env factor >>= fun _ => next : Guarded α) := by
  refine Pays.bind (aside_pays (accept_steady (blind_store factor))) ?_
  rintro _ _ rfl
  exact h

theorem verifyTOTP_pays :
    Pays ledger.held (fun _ _ => True) credit (lockout.verifyTOTP env plugin challenge.key code trustDevice) := by
  unfold Lockout.verifyTOTP
  refine Pays.check fun _ _ => ?_
  refine Pays.bind (unguarded_pays verifyTwoFactor_pays) ?_
  rintro context _ ⟨hfits, rfl⟩
  refine Pays.check fun _ _ => ?_
  refine Pays.bind findTwoFactor_pays fun _ _ _ => ?_
  refine Pays.check fun found _ => ?_
  obtain ⟨twoFactor, lock⟩ := found
  refine Pays.check fun _ _ => ?_
  refine Pays.bind (aside_pays (assertNotLocked_steady (blind_store _) lock)) fun _ _ _ => ?_
  refine Pays.bind (unguarded_pays (beginAttempt_pays hfits)) fun attempt left hbacks => ?_
  split
  · exact restored_pays hbacks
  refine Pays.read fun now => ?_
  split
  · exact restored_pays hbacks
  · exact rejected_pays (failedGuess_pays hbacks)
  · refine accepted_pays ?_
    exact Pays.bind (unguarded_pays (confirmTOTP_pays hfits)) fun after _ hafter => unguarded_pays (valid_pays hafter)

theorem verifyBackupCode_pays {disableSession : Bool} :
    Pays ledger.held (fun _ _ => True) credit
      (lockout.verifyBackupCode env plugin challenge.key code disableSession trustDevice) := by
  unfold Lockout.verifyBackupCode
  refine Pays.bind (unguarded_pays verifyTwoFactor_pays) ?_
  rintro context _ ⟨hfits, rfl⟩
  refine Pays.check fun _ _ => ?_
  refine Pays.bind findTwoFactor_pays fun _ _ _ => ?_
  refine Pays.check fun found _ => ?_
  obtain ⟨twoFactor, lock⟩ := found
  refine Pays.bind (aside_pays (assertNotLocked_steady (blind_store _) lock)) fun _ _ _ => ?_
  refine Pays.bind (unguarded_pays (beginAttempt_pays hfits)) fun attempt left hbacks => ?_
  unfold Lockout.redeemBackupCode
  split
  · exact restored_pays hbacks
  split
  · exact rejected_pays (failedGuess_pays hbacks)
  rename_i remaining _
  split
  · exact restored_pays hbacks
  rename_i encoded _
  have hreplace : ∀ store, ledger.total (store.replaceBackupCodes twoFactor.id twoFactor.backupCodes encoded).2 ≤
      ledger.total store := by
    intro store
    unfold Store.replaceBackupCodes
    split <;> exact Nat.le_refl _
  refine Pays.bind (unguarded_pays (reads_pays hreplace)) fun _ _ _ => ?_
  refine Pays.check fun _ _ => accepted_pays ?_
  split
  · exact Pays.pure trivial
  · exact unguarded_pays (valid_pays hfits)

theorem signInFactor_pays : Pays ledger.held (fun _ _ => True) credit (lockout.signInFactor env context) := by
  unfold Lockout.signInFactor
  split
  · exact Pays.pure trivial
  refine Pays.bind findTwoFactor_pays fun _ _ _ => ?_
  refine Pays.check fun found _ => ?_
  exact Pays.bind (aside_pays (assertNotLocked_steady (blind_store _) found.2)) fun _ _ _ => Pays.pure trivial

theorem verifyTwoFactorOTP_pays :
    Pays ledger.held (fun _ _ => True) credit
      (lockout.verifyTwoFactorOTP env plugin challenge.key code trustDevice) := by
  unfold Lockout.verifyTwoFactorOTP
  refine Pays.bind (unguarded_pays verifyTwoFactor_pays) ?_
  rintro context _ ⟨hfits, rfl⟩
  refine Pays.check fun _ _ => ?_
  refine Pays.bind signInFactor_pays fun factor _ _ => ?_
  refine Pays.bind (unguarded_pays consumes_pays) fun consumed left hconsumed => ?_
  refine Pays.check fun row hfound => ?_
  obtain ⟨hidentifier, rfl⟩ := hconsumed row (expect_eq_ok_iff.mp hfound)
  refine Pays.check fun _ hbelow => ?_
  have hbelow := require_eq_ok_iff.mp hbelow
  split
  · exact Pays.fails
  · exact rejected_pays (failedOTP_pays hfits.otp hidentifier rfl hbelow (Nat.le_add_left _ _))
  · refine accepted_pays ?_
    split
    · exact unguarded_pays (valid_pays hfits)
    · exact Pays.bind (unguarded_pays enableUser_pays) fun _ _ _ => Pays.pure trivial

end

theorem held_elsewhere_le (effect : Elsewhere) (accounts : Accounts) :
    ledger.held (effect.apply challenge accounts) ≤ ledger.held accounts := by
  have hkept := table.sum_map_filter_le ledger.worth effect.kept accounts.store.verifications
  have hadded : ((effect.added.filter challenge.foreign).map ledger.worth).sum = 0 := by
    refine List.sum_eq_zero fun worth hworth => ?_
    obtain ⟨row, hrow, rfl⟩ := List.mem_map.mp hworth
    exact ledger.foreign row (List.mem_filter.mp hrow).2
  simp only [held, total, Elsewhere.apply, List.map_append, List.sum_append]
  omega

end Ledger

end singleauth.twofactor
