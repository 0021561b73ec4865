import SingleAuth.Lib.Resource
import SingleAuth.Plugins.TwoFactor.Ledger

open process program transition
open singleauth.contract (Failure)

namespace singleauth.twofactor

/-! ## Runs -/

/-- Every OTP that is sent starts with one of these counters. -/
def Sends (plugin : Plugin) (sendable : Int → Prop) : Turn Request → Prop
  | .start (.sendTwoFactorOTP _ otp) => SentWith plugin sendable otp
  | _ => True

theorem sends_any (plugin : Plugin) (turn : Turn Request) : Sends plugin (fun _ => True) turn := by
  unfold Sends
  split
  · exact fun _ _ _ _ => trivial
  · trivial

/-- No OTP is stored with a counter below zero. -/
def Counted (plugin : Plugin) : Turn Request → Prop := Sends plugin fun attempts => 0 ≤ attempts

/-- No row of the challenge is there yet, and nothing has happened with it. -/
structure Challenge.New (challenge : Challenge) (store : Store) : Prop where
  rows : ∀ row ∈ store.verifications, challenge.foreign row = true
  log : store.log = []

abbrev Requests : Type := System Accounts (Thread Request Accounts Failure Response)

/-- The calls of admitted requests with the challenge, in any order, lead there
from where the challenge begins. -/
def Challenge.Leads (challenge : Challenge) (lockout : Lockout) (plugin : Plugin) (admitted : Turn Request → Prop)
    (accounts : Accounts) (system : Requests) : Prop :=
  Reached (advance (handle lockout plugin challenge)) (fun _ turn => admitted turn)
    ⟨accounts.withStore (challenge.begin plugin accounts.store), []⟩ system

namespace Ledger

variable {lockout : Lockout} {plugin : Plugin} {challenge : Challenge} {ledger : Ledger plugin challenge}

theorem handle_pays {request : Request} (hsends : Sends plugin ledger.sendable (.start request)) :
    Pays ledger.held (fun _ _ => True) 0 (handle lockout plugin challenge request) := by
  cases request with
  | verifyTOTP env code trustDevice => exact verifyTOTP_pays
  | verifyBackupCode env code disableSession trustDevice => exact verifyBackupCode_pays
  | verifyTwoFactorOTP env code trustDevice => exact verifyTwoFactorOTP_pays
  | sendTwoFactorOTP env otp => exact unguarded_pays (sendTwoFactorOTP_pays hsends)
  | elsewhere effect =>
    have happly : Pays ledger.held (fun _ left => left = 0) 0
        (Calls.update fun accounts => Except.ok ((), effect.apply challenge accounts) : Guarded Unit) :=
      Pays.update fun accounts _ _ h => ⟨0, by cases h; exact held_elsewhere_le effect accounts, rfl⟩
    exact Pays.bind happly fun _ _ _ => Pays.pure trivial

variable {accounts : Accounts} {system : Requests}

/-- What the counted events of a run cost was there when the challenge began: its two rows, and what may be sent. -/
theorem countP_le (ledger : Ledger plugin challenge) (hnew : challenge.New accounts.store) {counted : Event → Bool}
    (hprice : ledger.price = fun event => (counted event).toNat) {admitted : Turn Request → Prop}
    (hadmitted : ∀ turn, admitted turn → Sends plugin ledger.sendable turn)
    (hleads : challenge.Leads lockout plugin admitted accounts system) :
    let now := accounts.store.now
    system.shared.store.log.countP counted ≤
      ledger.worth ⟨challenge.key, challenge.userID, now + plugin.twoFactorCookieMaxAge, now, none⟩ +
      ledger.worth ⟨attemptsIdentifier challenge.key, "0", now + plugin.twoFactorCookieMaxAge, now, none⟩ +
      ledger.unsent accounts.store.sends := by
  have hrows : (accounts.store.verifications.map ledger.worth).sum = 0 := by
    refine List.sum_eq_zero fun worth hworth => ?_
    obtain ⟨row, hrow, rfl⟩ := List.mem_map.mp hworth
    exact ledger.foreign row (hnew.rows row hrow)
  have hle : ledger.total system.shared.store ≤ ledger.total (challenge.begin plugin accounts.store) :=
    available_le hleads fun request hrequest => handle_pays (hadmitted (.start request) hrequest)
  rw [← table.sum_map_toNat, ← hprice]
  simp only [total, Challenge.begin, Store.createVerification, hnew.log, List.map_append, List.map_cons, List.map_nil,
    List.sum_append, List.sum_cons, List.sum_nil] at hle
  omega

end Ledger

/-! ## The ledgers of the properties -/

variable (plugin : Plugin) (challenge : Challenge)

/-- One attempt and those that are left after it. -/
theorem one_add_toNat_le {allowed attempts : Int} (h : attempts < allowed) :
    1 + (allowed - (attempts + 1)).toNat ≤ (allowed - attempts).toNat := by
  omega

/-- A counter is worth the attempts that it leaves. -/
def guessLedger : Ledger plugin challenge where
  worth row :=
    if row.identifier = attemptsIdentifier challenge.key then
      (defaultAllowedAttempts - countedAttempts defaultAllowedAttempts row.value).toNat
    else 0
  price event := (event == .guessed true).toNat
  unsent _ := 0
  sendable _ := True
  foreign row hforeign := if_neg (by simp_all [Challenge.foreign])
  guessed_session := rfl
  issued_session _ := rfl
  restored := by
    intro row again attempts hrow hagain _
    rw [if_pos hrow.identifier, if_pos hagain.identifier, hrow.attempts, hagain.attempts]
  guessed := by
    intro row again attempts hrow hbelow hagain _
    rw [if_pos hrow.identifier, if_pos hagain.identifier, hrow.attempts, hagain.attempts]
    exact one_add_toNat_le hbelow
  issued _ := Nat.zero_le _
  mistyped := by
    intro row again attempts _ _ hagain _
    obtain ⟨key, _, hidentifier⟩ := hagain.identifier
    rw [if_neg (hidentifier ▸ Challenge.otpIdentifier_ne_attemptsIdentifier key _)]
    exact Nat.zero_le _
  sent := by
    intro row attempts number hrow _ _
    obtain ⟨key, _, hidentifier⟩ := hrow.identifier
    rw [if_neg (hidentifier ▸ Challenge.otpIdentifier_ne_attemptsIdentifier key _)]

/-- A row of the OTP with the number is worth the attempts that it leaves. -/
def codeLedger (number : Nat) : Ledger plugin challenge where
  worth row := if row.sent = some number then (plugin.allowedAttempts - (splitOTPValue row.value).2).toNat else 0
  price event := (event == .mistyped (some number)).toNat
  unsent sends := if sends ≤ number then plugin.allowedAttempts.toNat else 0
  sendable attempts := 0 ≤ attempts
  foreign row hforeign := if_neg (by simp_all [Challenge.foreign])
  guessed_session := rfl
  issued_session _ := rfl
  restored := by
    intro row again attempts _ _ hsent
    rw [if_neg (by simp [hsent])]
    exact Nat.zero_le _
  guessed := by
    intro row again attempts _ _ _ hsent
    rw [if_neg (by simp [hsent])]
    exact Nat.zero_le _
  issued _ := Nat.zero_le _
  mistyped := by
    intro row again attempts hrow hbelow hagain hsent
    rw [hsent, hrow.attempts, hagain.attempts]
    by_cases hnumber : row.sent = some number
    · rw [if_pos hnumber, if_pos hnumber, hnumber, beq_self_eq_true]
      exact one_add_toNat_le hbelow
    · simp [hnumber]
  sent := by
    intro row attempts sends hrow hnonneg hsent
    rw [hrow.attempts, hsent]
    by_cases hnumber : sends = number
    · subst hnumber
      rw [if_pos rfl, if_neg (Nat.not_succ_le_self _), if_pos (Nat.le_refl _)]
      exact Int.toNat_le_toNat (Int.sub_le_self _ hnonneg)
    · rw [if_neg (by simpa using hnumber), Nat.zero_add]
      split
      · next hlater => rw [if_pos (Nat.le_of_succ_le hlater)]
      · exact Nat.zero_le _

/-- A session for the challenge, of a user that counts. -/
def Event.signsIn (counted : String → Bool) : Event → Bool
  | .issued userID true => counted userID
  | _ => false

/-- The row of the challenge is worth one session, if its user counts. -/
def sessionLedger (counted : String → Bool) : Ledger plugin challenge where
  worth row := if row.identifier = challenge.key then (counted row.value).toNat else 0
  price event := (event.signsIn counted).toNat
  unsent _ := 0
  sendable _ := True
  foreign row hforeign := if_neg (by simp_all [Challenge.foreign])
  guessed_session := rfl
  issued_session _ := rfl
  restored := by
    intro row again attempts _ hagain _
    rw [hagain.identifier, if_neg challenge.attemptsIdentifier_ne_key]
    exact Nat.zero_le _
  guessed := by
    intro row again attempts _ _ hagain _
    rw [hagain.identifier, if_neg challenge.attemptsIdentifier_ne_key]
    exact Nat.zero_le _
  issued hidentifier := by
    rw [if_pos hidentifier]
    exact Nat.le_refl _
  mistyped := by
    intro row again attempts _ _ hagain _
    obtain ⟨key, hkey, hidentifier⟩ := hagain.identifier
    rw [hidentifier, if_neg hkey.ne_key]
    exact Nat.zero_le _
  sent := by
    intro row attempts number hrow _ _
    obtain ⟨key, hkey, hidentifier⟩ := hrow.identifier
    rw [hidentifier, if_neg hkey.ne_key]

/-- What holds of everything that has happened with the challenge. -/
structure Bounded (log : List Event) : Prop where
  guesses : (log.count (.guessed true) : Int) ≤ defaultAllowedAttempts
  codes : ∀ number, (log.count (.mistyped (some number)) : Int) ≤ plugin.allowedAttempts
  sessions : log.countP (Event.signsIn fun _ => true) ≤ 1
  user : ∀ userID, .issued userID true ∈ log → userID = challenge.userID

section

variable {lockout : Lockout} {plugin challenge} {accounts : Accounts} {system : Requests}
  {admitted : Turn Request → Prop}

theorem guesses_le (hnew : challenge.New accounts.store)
    (hleads : challenge.Leads lockout plugin admitted accounts system) :
    system.shared.store.log.count (.guessed true) ≤ 5 := by
  have hsum := (guessLedger plugin challenge).countP_le hnew rfl (fun turn _ => sends_any plugin turn) hleads
  have hkey : challenge.key ≠ attemptsIdentifier challenge.key := challenge.attemptsIdentifier_ne_key.symm
  have hfull : (defaultAllowedAttempts - countedAttempts defaultAllowedAttempts "0").toNat = 5 := by decide
  simpa only [List.count, guessLedger, hkey, if_true, if_false, hfull, Nat.zero_add, Nat.add_zero] using hsum

theorem codes_le (hnew : challenge.New accounts.store) (number : Nat)
    (hleads : challenge.Leads lockout plugin (Counted plugin) accounts system) :
    system.shared.store.log.count (.mistyped (some number)) ≤ plugin.allowedAttempts.toNat := by
  have hsum := (codeLedger plugin challenge number).countP_le hnew rfl (fun _ hcounted => hcounted) hleads
  have hunsent : (codeLedger plugin challenge number).unsent accounts.store.sends ≤ plugin.allowedAttempts.toNat := by
    unfold codeLedger
    dsimp only
    split
    · exact Nat.le_refl _
    · exact Nat.zero_le _
  simp only [codeLedger, reduceCtorEq, if_false, Nat.zero_add] at hsum hunsent
  exact Nat.le_trans hsum hunsent

theorem sessions_le (hnew : challenge.New accounts.store) (counted : String → Bool)
    (hleads : challenge.Leads lockout plugin admitted accounts system) :
    system.shared.store.log.countP (Event.signsIn counted) ≤ (counted challenge.userID).toNat := by
  have hsum := (sessionLedger plugin challenge counted).countP_le hnew rfl (fun turn _ => sends_any plugin turn) hleads
  simpa [sessionLedger, challenge.attemptsIdentifier_ne_key] using hsum

/-- Guesses are bounded in every interleaving of requests with the challenge,
with the account lockout or without it, where no OTP is stored with a counter
below zero. -/
theorem guesses_bounded (hnew : challenge.New accounts.store)
    (hleads : challenge.Leads lockout plugin (Counted plugin) accounts system) :
    Bounded plugin challenge system.shared.store.log := by
  refine ⟨?_, fun number => ?_, sessions_le hnew (fun _ => true) hleads, fun userID hissued => ?_⟩
  · exact Int.ofNat_le.mpr (guesses_le hnew hleads)
  · have hcodes := codes_le hnew number hleads
    have hpos := plugin.allowedAttempts_pos
    omega
  -- sessions of any other user are worth nothing from the start
  have hothers := sessions_le hnew (fun other => decide (other ≠ challenge.userID)) hleads
  simp only [ne_eq, not_true_eq_false, decide_false, Bool.toNat_false, Nat.le_zero, List.countP_eq_zero] at hothers
  by_contra hother
  exact hothers _ hissued (by simp [Event.signsIn, hother])

end

/-! ## A counter below zero -/

/-- OTPs in plain text, of which one attempt is allowed. -/
def onceAllowed (storage : OTPStorage) (h : normalizeOTPStorage storage .plain true = some storage) : Plugin where
  allowedAttempts := 1
  otpStorage := storage
  truncated := fun _ counter => counter
  hashOTP := fun otp => otp
  encryptSecret := some
  decryptSecret := some
  marshalCodes := fun codes => ",".intercalate codes
  unmarshalCodes := fun _ => some []
  totpDigits_eq := by decide
  allowedAttempts_pos := by decide
  allowedAttempts_fits := by decide
  otpStorage_eq := h
  backupStorage_eq := rfl

def plainOnce : Plugin := onceAllowed { mode := some .plain } rfl

/-- A hash of the host whose text ends like a counter that is out of range. -/
def hashOnce : Plugin := onceAllowed { hash := some fun _ => some "x:-99999999999999999999" } rfl

def aliceChallenge : Challenge where
  random := "abcdefghijklmnopqrst"
  userID := "alice"
  random_mem := by simp [defaultRandomAlphabet]

def aliceStore : Store where
  verifications := []
  users := [⟨"alice", true⟩]
  twoFactors := [⟨"1", "alice", "secret", "codes", some true⟩]
  now := 0

def aliceAccount : Accounts := ⟨aliceStore, fun _ => {}, []⟩

theorem aliceChallenge_new : aliceChallenge.New aliceStore := ⟨by simp [aliceStore], rfl⟩

/-- A request from its start to its end. -/
def alone (number : Nat) (request : Request) : List (Turn Request) := .start request :: List.replicate 12 (.step number)

def wrongOTP : Request := .verifyTwoFactorOTP {} "0" false

/-- An OTP is sent, and two wrong codes come in, one after the other. -/
def sentAndMistyped : List (Turn Request) :=
  alone 0 (.sendTwoFactorOTP {} (some "123456")) ++ alone 1 wrongOTP ++ alone 2 wrongOTP

def defaultLockout : Lockout where
  maxFailedAttempts_pos := by decide
  duration_pos := by decide

def noLockout : Lockout := { defaultLockout with enabled := some false }

def aliceRun (plugin : Plugin) : Requests :=
  sentAndMistyped.foldl (advance (handle noLockout plugin aliceChallenge))
    ⟨aliceAccount.withStore (aliceChallenge.begin plugin aliceStore), []⟩

/-- In plain text the second wrong code is not compared any more. -/
theorem guesses_bounded_plain :
    (aliceRun plainOnce).shared.store.log = [.mistyped (some 0)] ∧
      Bounded plainOnce aliceChallenge (aliceRun plainOnce).shared.store.log := by
  have hsend : SentWith plainOnce (fun attempts => 0 ≤ attempts) (some "123456") := by
    rintro _ ⟨⟩ _ ⟨⟩
    rw [splitOTPValue_otpValue (by decide) (by decide) (by decide)]
  have hcounted : ∀ turn ∈ sentAndMistyped, ∀ _ : Requests, Counted plainOnce turn := by
    intro turn hturn _
    simp only [sentAndMistyped, alone, wrongOTP, List.cons_append, List.mem_cons, List.mem_append,
      List.mem_replicate] at hturn
    rcases hturn with rfl | (⟨-, rfl⟩ | rfl | ⟨-, rfl⟩) | rfl | ⟨-, rfl⟩
    · exact hsend
    all_goals trivial
  have hleads : aliceChallenge.Leads noLockout plainOnce (Counted plainOnce) aliceAccount (aliceRun plainOnce) :=
    Reached.start.foldl hcounted
  exact ⟨by decide, guesses_bounded aliceChallenge_new hleads⟩

/-- The counter of the hash is read as the lowest number there is, so the second
wrong code is compared as well, and any more after it. -/
theorem otp_counter_below_zero :
    noLockout.accountLockoutEnabled = false ∧ aliceChallenge.New aliceAccount.store ∧
      aliceChallenge.Leads noLockout hashOnce (fun _ => True) aliceAccount (aliceRun hashOnce) ∧
      ¬ Bounded hashOnce aliceChallenge (aliceRun hashOnce).shared.store.log := by
  have hlog : (aliceRun hashOnce).shared.store.log = [.mistyped (some 0), .mistyped (some 0)] := by decide
  refine ⟨rfl, aliceChallenge_new, Reached.start.foldl fun _ _ _ => trivial, fun hbounded => ?_⟩
  have hcodes := hbounded.codes 0
  rw [hlog] at hcodes
  exact absurd hcodes (by decide)

end singleauth.twofactor
