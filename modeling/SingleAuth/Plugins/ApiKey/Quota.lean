import SingleAuth.Lib.Process
import SingleAuth.Plugins.ApiKey.Service

open dict process transition

namespace singleauth.apikey

/-- A row whose quota is not negative and whose refill interval is a duration. -/
structure Sound (record : Record) : Prop where
  remaining : ∀ remaining, record.remaining = some remaining → 0 ≤ remaining
  refillInterval : ∀ interval, record.refillInterval = some interval → int64.InRange (interval * 1000000)

/-! ## Verifications at the same time -/

/-- A claim of the allowance that the storage granted. -/
inductive Grant where
  | refill (now amount : Int)
  | decrement

/-- The claim of a key's allowance that the next call of a verification is granted. -/
def grant (id : String) (phase : Phase) (table : Table) : Option Grant :=
  match phase with
  | .pending _ now (.refill key observed amount) =>
    if key = id ∧ (incrementOne table key (Record.refillable observed) (Record.refilled now amount)).isSome then
      some (.refill now amount)
    else none
  | .pending _ _ (.decrement key) =>
    if key = id ∧ (incrementOne table key Record.claimable Record.decremented).isSome then some .decrement else none
  | _ => none

/-- The books of a key: what remained at the start or is given by the last refill, the claims
since then, and the times that are stored for all refills, the last one first. -/
structure Ledger where
  allowance : Int
  claims : Nat
  refills : List Int

def Ledger.enter (ledger : Ledger) : Option Grant → Ledger
  | none => ledger
  | some .decrement => { ledger with claims := ledger.claims + 1 }
  | some (.refill now amount) => { allowance := amount, claims := 1, refills := now :: ledger.refills }

/-- `refilledAt` holds what the clock showed when each refill was written. -/
structure Shared where
  table : Table
  clock : Int
  ledger : Ledger
  refilledAt : List Int := []

/-- A step of a verification, with the books of one key. -/
def bookedStep (service : Service) (id : String) (phase : Phase) (shared : Shared) : Phase × Shared :=
  ((step service shared.clock phase shared.table).1,
    { shared with
      table := (step service shared.clock phase shared.table).2
      ledger := shared.ledger.enter (grant id phase shared.table)
      refilledAt := match grant id phase shared.table with
        | some (.refill _ _) => shared.clock :: shared.refilledAt
        | _ => shared.refilledAt })

inductive Event where
  /-- A verification starts. -/
  | verify (input : VerifyInput)
  /-- A verification makes its next storage call, or reads the clock. -/
  | turn (number : Nat)
  | tick (elapsed : Nat)

def advance (service : Service) (id : String) (system : System Shared Phase) : Event → System Shared Phase
  | .verify input => spawn (verify service input) system
  | .turn number => process.turn (bookedStep service id) number system
  | .tick elapsed => { system with shared := { system.shared with clock := system.shared.clock + elapsed } }

/-- A refill is written while the clock still shows what its verification has read. -/
def onTime (id : String) (phase : Phase) (shared : Shared) : Bool :=
  match grant id phase shared.table with
  | some (.refill now _) => now = shared.clock
  | _ => true

def refillsOnTime (id : String) (system : System Shared Phase) : Event → Bool
  | .turn number => admitsTurn (onTime id) system number
  | _ => true

/-- The books are opened with what remains, and no verification has started. -/
def opened (table : Table) (clock remaining : Int) : System Shared Phase :=
  { shared := { table, clock, ledger := { allowance := remaining, claims := 0, refills := [] } }, threads := [] }

/-! ## The books of a key -/

/-- The refills, and the one or the creation before the start, are more than an interval apart. -/
def Spaced (first : Record) (refills : List Int) : Prop :=
  match first.refillInterval with
  | none => refills = []
  | some interval =>
    (refills ++ [first.lastRefillAt.getD first.createdAt]).Pairwise fun later earlier =>
      interval * 1000000 < later - earlier

/-- The claims since the start or the last refill are within what was given then, and the refills are
spaced. -/
structure WithinQuota (first : Record) (remaining : Int) (ledger : Ledger) : Prop where
  claims : (ledger.claims : Int) ≤ ledger.allowance
  allowance : if ledger.refills = [] then ledger.allowance = remaining else first.refillAmount = some ledger.allowance
  spaced : Spaced first ledger.refills

/-- A row that started as `first` agrees with the books. -/
structure Agrees (first : Record) (ledger : Ledger) (record : Record) : Prop where
  refillInterval : record.refillInterval = first.refillInterval
  refillAmount : record.refillAmount = first.refillAmount
  createdAt : record.createdAt = first.createdAt
  lastRefillAt : record.lastRefillAt = ledger.refills.head?.or first.lastRefillAt
  balance : ∃ left, record.remaining = some left ∧ 0 ≤ left ∧ ledger.claims + left = ledger.allowance

/-- A refill of the amount was due when the last one was the observed one. -/
structure Due (first : Record) (now : Int) (observed : Option Int) (amount interval : Int) : Prop where
  refillAmount : first.refillAmount = some amount
  refillInterval : first.refillInterval = some interval
  amount_pos : 0 < amount
  interval_pos : 0 < interval
  due : milliseconds interval < sub now (observed.getD first.createdAt)

/-- A change that does not concern the quota. -/
structure LeavesQuota (change : Record → Record) : Prop where
  refillInterval : ∀ record, (change record).refillInterval = record.refillInterval
  refillAmount : ∀ record, (change record).refillAmount = record.refillAmount
  createdAt : ∀ record, (change record).createdAt = record.createdAt
  lastRefillAt : ∀ record, (change record).lastRefillAt = record.lastRefillAt
  remaining : ∀ record, (change record).remaining = record.remaining

section

variable {first record : Record} {remaining : Int} {ledger : Ledger} {change : Record → Record}
  {now amount interval : Int} {observed : Option Int}

theorem requested_leavesQuota (now : Int) : LeavesQuota (Record.requested now) :=
  ⟨fun _ => rfl, fun _ => rfl, fun _ => rfl, fun _ => rfl, fun _ => rfl⟩

theorem restarted_leavesQuota (now : Int) : LeavesQuota (Record.restarted now) :=
  ⟨fun _ => rfl, fun _ => rfl, fun _ => rfl, fun _ => rfl, fun _ => rfl⟩

theorem counted_leavesQuota (now : Int) : LeavesQuota (Record.counted now) :=
  ⟨fun _ => rfl, fun _ => rfl, fun _ => rfl, fun _ => rfl, fun _ => rfl⟩

theorem touched_leavesQuota (now : Int) : LeavesQuota (Record.touched now) :=
  ⟨fun _ => rfl, fun _ => rfl, fun _ => rfl, fun _ => rfl, fun _ => rfl⟩

theorem Agrees.changed (h : Agrees first ledger record) (hchange : LeavesQuota change) :
    Agrees first ledger (change record) where
  refillInterval := (hchange.refillInterval record).trans h.refillInterval
  refillAmount := (hchange.refillAmount record).trans h.refillAmount
  createdAt := (hchange.createdAt record).trans h.createdAt
  lastRefillAt := (hchange.lastRefillAt record).trans h.lastRefillAt
  balance := by
    rw [hchange.remaining]
    exact h.balance

theorem Agrees.decremented (h : Agrees first ledger record) (hledger : WithinQuota first remaining ledger)
    (hguard : record.claimable = true) :
    Agrees first (ledger.enter (some .decrement)) record.decremented ∧
      WithinQuota first remaining (ledger.enter (some .decrement)) := by
  obtain ⟨left, hleft, hnonneg, hbalance⟩ := h.balance
  have hpositive : 0 < left := by simpa [Record.claimable, hleft] using hguard
  refine ⟨⟨h.refillInterval, h.refillAmount, h.createdAt, h.lastRefillAt, left - 1, ?_, by omega, ?_⟩,
    ⟨?_, hledger.allowance, hledger.spaced⟩⟩
  · simp [Record.decremented, hleft]
  · change ((ledger.claims + 1 : Nat) : Int) + (left - 1) = ledger.allowance
    omega
  · change ((ledger.claims + 1 : Nat) : Int) ≤ ledger.allowance
    omega

/-- A refill that is due is more than an interval after all others. -/
theorem spaced_cons (hfits : int64.InRange (interval * 1000000)) (hspaced : Spaced first ledger.refills)
    (hdue : Due first now (ledger.refills.head?.or first.lastRefillAt) amount interval) :
    Spaced first (now :: ledger.refills) := by
  have hinterval := hdue.refillInterval
  have hmilliseconds : milliseconds interval = interval * 1000000 := int64.wrap_of_inRange hfits
  have hlast := hdue.due
  rw [hmilliseconds] at hlast
  have hlast := int64.lt_of_lt_saturate hfits hlast
  unfold Spaced at *
  rw [hinterval] at hspaced ⊢
  refine List.pairwise_cons.mpr ⟨?_, hspaced⟩
  have hpositive := hdue.interval_pos
  cases hrefills : ledger.refills with
  | nil =>
    intro earlier hearlier
    rw [hrefills] at hlast
    rw [List.mem_singleton.mp hearlier]
    simpa using hlast
  | cons last rest =>
    rw [hrefills] at hspaced hlast
    obtain ⟨hbefore, -⟩ := List.pairwise_cons.mp hspaced
    have hlast : interval * 1000000 < now - last := hlast
    intro earlier hearlier
    rcases List.mem_cons.mp hearlier with rfl | hearlier
    · exact hlast
    · have := hbefore earlier hearlier
      omega

theorem Agrees.refilled (h : Agrees first ledger record) (hledger : WithinQuota first remaining ledger)
    (hfits : int64.InRange (interval * 1000000)) (hdue : Due first now observed amount interval)
    (hguard : record.refillable observed = true) :
    Agrees first (ledger.enter (some (.refill now amount))) (record.refilled now amount) ∧
      WithinQuota first remaining (ledger.enter (some (.refill now amount))) := by
  have hobserved : observed = ledger.refills.head?.or first.lastRefillAt := by
    rw [← h.lastRefillAt]
    exact (of_decide_eq_true hguard).symm
  have hamount := hdue.amount_pos
  rw [hobserved] at hdue
  refine ⟨⟨h.refillInterval, h.refillAmount, h.createdAt, rfl, amount - 1, rfl, by omega, ?_⟩,
    ⟨?_, hdue.refillAmount, spaced_cons hfits hledger.spaced hdue⟩⟩
  · change ((1 : Nat) : Int) + (amount - 1) = amount
    omega
  · change ((1 : Nat) : Int) ≤ amount
    omega

end

/-! ## What a verification knows, and what its steps do to the books -/

/-- What a verification has read of the key that the books are about still holds. -/
def Informed (id : String) (first : Record) : Phase → Prop
  | .found _ _ key =>
    key.id = id → key.refillInterval = first.refillInterval ∧ key.refillAmount = first.refillAmount ∧
      key.createdAt = first.createdAt
  | .pending _ now (.refill key observed amount) => key = id → ∃ interval, Due first now observed amount interval
  | _ => True

/-- The row and the books of a key. -/
structure Books (id : String) (first : Record) (remaining : Int) (shared : Shared) : Prop where
  row : ∀ record, shared.table.get? id = some record → Agrees first shared.ledger record
  ledger : WithinQuota first remaining shared.ledger

section

variable {service : Service} {id : String} {first : Record} {remaining now : Int} {config : Configuration} {shared : Shared}

theorem informed_claimRateLimit (key : APIKey) : Informed id first (claimRateLimit config now key) := by
  unfold claimRateLimit claimWindow
  split
  · trivial
  split
  · split
    · trivial
    · split
      · trivial
      · split <;> trivial
  · trivial

variable {input : VerifyInput} {key : APIKey}

theorem informed_claimRemaining (h : Informed id first (.found input config key)) :
    Informed id first (claimRemaining config now key) := by
  unfold claimRemaining
  cases hdue : refillDue now key with
  | none => trivial
  | some amount =>
    intro hid
    obtain ⟨hinterval, hamount, hcreated⟩ := h hid
    unfold refillDue at hdue
    split at hdue
    · next interval due hsomeInterval hsomeAmount =>
      split at hdue
      · next hconditions =>
        cases hdue
        rw [hcreated] at hconditions
        exact ⟨interval, hamount ▸ hsomeAmount, hinterval ▸ hsomeInterval, hconditions.2.1, hconditions.1, hconditions.2.2⟩
      · cases hdue
    · cases hdue

theorem informed_examine (h : Informed id first (.found input config key)) :
    Informed id first (examine input config now key) := by
  unfold examine
  split
  · trivial
  split
  · trivial
  split
  · trivial
  split
  · trivial
  · split
    · exact informed_claimRemaining h
    · exact informed_claimRateLimit key

theorem informed_perform (call : Call) (table : Table) : Informed id first (perform config now call table).1 := by
  cases call with
  | delete => trivial
  | refill | decrement | reload =>
    rw [perform]
    split
    · exact informed_claimRateLimit _
    · trivial
  | recordRequest | startWindow | resetWindow | countRequest | touch =>
    rw [perform]
    split <;> trivial

variable {after : Table} {change : Record → Record} {guard : Record → Bool} {key : String}

theorem get?_incrementOne {table : Table}
    {changed : Record} (h : incrementOne table key guard change = some (changed, after)) (id : String) :
    ∃ record, table.get? key = some record ∧ guard record = true ∧
      after.get? id = if id = key then some (change record) else table.get? id := by
  unfold incrementOne at h
  cases hrow : table.get? key with
  | none =>
    rw [hrow] at h
    cases h
  | some record =>
    rw [hrow] at h
    dsimp only at h
    split at h
    · next hguard =>
      cases h
      exact ⟨record, rfl, hguard, Dict.get?_set table key id (change record)⟩
    · cases h

section

variable (h : Books id first remaining shared)
include h

/-- A call that leaves the quota of its row alone, whichever row that is. -/
theorem Books.changed {changed : Record} (hchange : LeavesQuota change)
    (hincrement : incrementOne shared.table key guard change = some (changed, after)) :
    Books id first remaining { shared with table := after } := by
  obtain ⟨record, hstored, -, hafter⟩ := get?_incrementOne hincrement id
  refine ⟨fun row hrow => ?_, h.ledger⟩
  change after.get? id = some row at hrow
  rw [hafter] at hrow
  split at hrow
  · next hid =>
    cases hrow
    rw [← hid] at hstored
    exact (h.row record hstored).changed hchange
  · exact h.row row hrow

/-- The same whether the guard of the call holds or not. -/
theorem Books.answered {passed : Record → Phase} {failed : Phase} (hchange : LeavesQuota change) :
    Books id first remaining { shared with
      table := (match incrementOne shared.table key guard change with
        | some (changed, table) => (passed changed, table)
        | none => (failed, shared.table)).2 } := by
  split
  · next hincrement => exact h.changed hchange hincrement
  · exact h

/-- A claim that is granted is entered into the books of its own key only. -/
theorem Books.granted {changed : Record} {given : Grant}
    (hincrement : incrementOne shared.table key guard change = some (changed, after))
    (hclaim : key = id → ∀ record, Agrees first shared.ledger record → guard record = true →
      Agrees first (shared.ledger.enter (some given)) (change record) ∧
        WithinQuota first remaining (shared.ledger.enter (some given))) :
    Books id first remaining
      { shared with table := after, ledger := shared.ledger.enter (if key = id then some given else none) } := by
  obtain ⟨record, hstored, hguard, hafter⟩ := get?_incrementOne hincrement id
  by_cases hkey : key = id
  · rw [if_pos hkey.symm] at hafter
    rw [if_pos hkey]
    rw [hkey] at hstored
    obtain ⟨hagrees, hwithin⟩ := hclaim hkey record (h.row record hstored) hguard
    refine ⟨fun row hrow => ?_, hwithin⟩
    rw [show after.get? id = some row from hrow] at hafter
    cases hafter
    exact hagrees
  · rw [if_neg (Ne.symm hkey)] at hafter
    rw [if_neg hkey]
    exact ⟨fun row hrow => h.row row (hafter ▸ hrow), h.ledger⟩

theorem Books.deleted (key : String) : Books id first remaining { shared with table := shared.table.erase key } := by
  refine ⟨fun row hrow => ?_, h.ledger⟩
  change (shared.table.erase key).get? id = some row at hrow
  rw [Dict.get?_erase] at hrow
  split at hrow
  · cases hrow
  · exact h.row row hrow

end

section

variable (hfits : ∀ interval, first.refillInterval = some interval → int64.InRange (interval * 1000000))
include hfits

theorem books_perform
    (h : Books id first remaining shared) (call : Call) (hinformed : Informed id first (.pending config now call)) :
    Books id first remaining { shared with
      table := (perform config now call shared.table).2
      ledger := shared.ledger.enter (grant id (.pending config now call) shared.table) } := by
  cases call with
  | delete key status code => exact h.deleted key
  | refill key observed amount =>
    rw [grant, perform]
    cases hincrement : incrementOne shared.table key (Record.refillable observed) (Record.refilled now amount) with
    | none =>
      simp only [Option.isSome_none, Bool.false_eq_true, and_false, if_false]
      exact h
    | some answer =>
      simp only [Option.isSome_some, and_true]
      refine h.granted hincrement fun hkey record hagrees hguard => ?_
      obtain ⟨interval, hdue⟩ := hinformed hkey
      exact hagrees.refilled h.ledger (hfits interval hdue.refillInterval) hdue hguard
  | decrement key =>
    rw [grant, perform]
    cases hincrement : incrementOne shared.table key Record.claimable Record.decremented with
    | none =>
      simp only [Option.isSome_none, Bool.false_eq_true, and_false, if_false]
      exact h
    | some answer =>
      simp only [Option.isSome_some, and_true]
      exact h.granted hincrement fun _ record hagrees hguard => hagrees.decremented h.ledger hguard
  | recordRequest key => exact h.answered (requested_leavesQuota now)
  | startWindow | resetWindow => exact h.answered (restarted_leavesQuota now)
  | countRequest key start max => exact h.answered (counted_leavesQuota now)
  | touch key => exact h.answered (touched_leavesQuota now)
  | reload key =>
    rw [perform]
    split <;> exact h

/-- A step of a verification keeps the books, and what the verification knows. -/
theorem books_step
    (phase : Phase) (shared : Shared) (h : Books id first remaining shared) (hinformed : Informed id first phase) :
    Books id first remaining (bookedStep service id phase shared).2 ∧
      Informed id first (bookedStep service id phase shared).1 := by
  cases phase with
  | find input configs =>
    cases configs with
    | nil => exact ⟨h, trivial⟩
    | cons config rest =>
      cases hfound : findKey service input config shared.table with
      | none =>
        simp only [bookedStep, step, hfound]
        exact ⟨h, trivial⟩
      | some row =>
        simp only [bookedStep, step, hfound]
        refine ⟨h, fun hid => ?_⟩
        have hstored : shared.table.get? row.1 = some row.2 := Dict.get?_eq_some_iff.mpr (List.mem_of_find?_eq_some hfound)
        rw [show row.1 = id from hid] at hstored
        have hagrees := h.row row.2 hstored
        exact ⟨hagrees.refillInterval, hagrees.refillAmount, hagrees.createdAt⟩
  | found input config key => exact ⟨h, informed_examine hinformed⟩
  | pending config now call =>
    have hbooks := books_perform hfits h call hinformed
    exact ⟨⟨hbooks.row, hbooks.ledger⟩, informed_perform call shared.table⟩
  | done result => exact ⟨h, trivial⟩

end

end

section

variable {service : Service} {id : String} {clock : Int} {table : Table} {first : Record} {remaining : Int}
  {system : System Shared Phase} {allowed : System Shared Phase → Event → Prop}

/-- The books are right in every interleaving, whenever the refills are written. -/
theorem books_of_reached (hfirst : table.get? id = some first) (hremaining : first.remaining = some remaining)
    (hsound : Sound first) (hreached : Reached (advance service id) allowed (opened table clock remaining) system) :
    Books id first remaining system.shared := by
  have hnonneg := hsound.remaining remaining hremaining
  have hstart : Holds (Books id first remaining) (Informed id first) (opened table clock remaining) := by
    refine ⟨⟨fun record hrecord => ?_, ?_⟩, by simp [opened]⟩
    · rw [show table.get? id = some record from hrecord] at hfirst
      cases hfirst
      exact ⟨rfl, rfl, rfl, rfl, remaining, hremaining, hnonneg, by simp [opened]⟩
    refine ⟨hnonneg, rfl, ?_⟩
    change Spaced first []
    unfold Spaced
    split <;> simp
  refine (hreached.invariant _ hstart fun state event hstate _ => ?_).shared
  cases event with
  | verify input =>
    refine hstate.spawn ?_
    unfold verify
    split
    · trivial
    · split <;> trivial
  | turn number => exact hstate.turn number (books_step hsound.refillInterval)
  | tick elapsed => exact ⟨⟨hstate.shared.row, hstate.shared.ledger⟩, hstate.threads⟩

/-- The stored times of refills that are written on time are the times when they were written. -/
theorem refilledAt_of_reached (hreached : Reached (advance service id)
      (fun system event => refillsOnTime id system event = true) (opened table clock remaining) system) :
    system.shared.refilledAt = system.shared.ledger.refills := by
  refine hreached.invariant (fun system => system.shared.refilledAt = system.shared.ledger.refills) rfl ?_
  rintro state (input | number | elapsed) hstate htimely
  · exact hstate
  · unfold advance process.turn
    dsimp only
    cases hphase : state.threads[number]? with
    | none => exact hstate
    | some phase =>
      simp only [refillsOnTime, admitsTurn, hphase, Option.all_some, onTime] at htimely
      simp only [bookedStep]
      split
      · next now amount hgrant =>
        rw [hgrant] at htimely ⊢
        exact congrArg₂ List.cons (of_decide_eq_true htimely).symm hstate
      · next hgrant =>
        rcases hgiven : grant id phase state.shared.table with _ | (⟨now, amount⟩ | _)
        · exact hstate
        · exact absurd hgiven (hgrant now amount)
        · exact hstate
  · exact hstate

end

/-- The quota of a key is not exceeded, however its verifications are interleaved, as long as no
time passes between the clock reading of a verification and the refill that it writes. What is
stored as remaining does not become negative, the claims granted since the last refill, or since
the start, are at most what was given then, and the refills happen more than an interval apart.
All but the last holds also where refills come late. -/
theorem reached_within_quota (service : Service) (id : String) (clock : Int) {table : Table} {first : Record}
    {remaining : Int} (hfirst : table.get? id = some first) (hremaining : first.remaining = some remaining)
    (hsound : Sound first) {system : System Shared Phase}
    (hreached : Reached (advance service id) (fun system event => refillsOnTime id system event = true)
      (opened table clock remaining) system) :
    (∀ record, system.shared.table.get? id = some record → ∃ left, record.remaining = some left ∧ 0 ≤ left) ∧
      WithinQuota first remaining system.shared.ledger ∧ Spaced first system.shared.refilledAt := by
  have hbooks := books_of_reached hfirst hremaining hsound hreached
  refine ⟨fun record hrecord => ?_, hbooks.ledger, ?_⟩
  · obtain ⟨left, hleft, hnonneg, -⟩ := (hbooks.row record hrecord).balance
    exact ⟨left, hleft, hnonneg⟩
  · rw [refilledAt_of_reached hreached]
    exact hbooks.ledger.spaced

/-! ## A race for a refill -/

private def keyService : Service :=
  { configurations := [{ configID := "default" }], byID := Dict.empty, defaultConfig := { configID := "default" }
    hashKey := fun key => key }

/-- A key that is used up and gets two requests for every minute. -/
private def twoToAMinute : Record :=
  { key := "secret", configID := some "default", remaining := some 0, refillAmount := some 2
    refillInterval := some 60000, createdAt := 0, updatedAt := 0 }

/-- Two verifications find the refill due. The second one comes too late for it and takes the
request that is left. The next refill is due after more than a minute. -/
private def race : List Event :=
  [.verify { key := "secret" }, .verify { key := "secret" }, .turn 0, .turn 1, .tick 100000000000, .turn 0, .turn 1,
    .turn 1, .turn 0, .turn 0, .tick 61000000000, .verify { key := "secret" }, .turn 2, .turn 2, .turn 2]

/-- The first verification reads the clock, and waits for a minute before it writes its refill. The
second one starts then and finds the next refill due. -/
private def delay : List Event :=
  [.tick 61000000000, .verify { key := "secret" }, .turn 0, .turn 0, .tick 61000000000, .turn 0,
    .verify { key := "secret" }, .turn 1, .turn 1, .turn 1]

private def afterEvents (events : List Event) : System Shared Phase :=
  events.foldl (advance keyService "key") (opened (Dict.empty.set "key" twoToAMinute) 0 0)

theorem reached_within_quota_race :
    (afterEvents race).shared.refilledAt = [161000000000, 100000000000] ∧
      (∀ record, (afterEvents race).shared.table.get? "key" = some record →
        ∃ left, record.remaining = some left ∧ 0 ≤ left) ∧
      WithinQuota twoToAMinute 0 (afterEvents race).shared.ledger ∧
      Spaced twoToAMinute (afterEvents race).shared.refilledAt := by
  have hsound : Sound twoToAMinute := by
    constructor
    · intro remaining hremaining
      cases hremaining
      decide
    · intro interval hinterval
      cases hinterval
      decide
  refine ⟨by decide +kernel, ?_⟩
  exact reached_within_quota keyService "key" 0 (Dict.get?_set_self _ _ _) rfl hsound
    (Reached.start.of_admits (fun _ _ h => h) (by decide +kernel))

/-- Two refills are written at the same moment. -/
theorem refilled_twice_at_once :
    (afterEvents delay).shared.refilledAt = [122000000000, 122000000000] ∧
      ¬ Spaced twoToAMinute (afterEvents delay).shared.refilledAt := by
  have hrefills : (afterEvents delay).shared.refilledAt = [122000000000, 122000000000] := by decide +kernel
  refine ⟨hrefills, fun hspaced => ?_⟩
  rw [hrefills] at hspaced
  exact absurd (List.rel_of_pairwise_cons hspaced List.mem_cons_self) (by decide)

end singleauth.apikey
