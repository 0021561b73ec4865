import SingleAuth.Security.RateLimit.Database

open dict process transition

namespace singleauth.ratelimit

/-! ## What a step does -/

/-- The request is answered with permission, or is going to be. -/
def Phase.allows : Phase → Bool
  | .prune _ => true
  | .done result => result.any fun result => result.allowed
  | _ => false

/-- What one step of a request for a key does to the table, and how it gives permission. -/
inductive Effect (globalWindow : Int) (key : String) (rule : Rule) : Phase → Table → Phase → Table → Prop where
  | read {phase after : Phase} {table : Table} (hbefore : phase.allows = false) (hafter : after.allows = false) :
    Effect globalWindow key rule phase table after table
  | created {table : Table} {now : Int} (hnone : table.get? key = none) :
    Effect globalWindow key rule (.create now) table (.done (some { allowed := true }))
      (table.set key { count := 1, lastRequest := now })
  | reset {table : Table} {now lastRequest : Int} {row : Row} (hrow : table.get? key = some row)
    (hguard : row.lastRequest ≤ lastRequest) :
    Effect globalWindow key rule (.reset now lastRequest) table (.prune now)
      (table.set key { count := 1, lastRequest := now })
  | incremented {table : Table} {now : Int} {row : Row} (hrow : table.get? key = some row) (hguard : row.count < rule.max) :
    Effect globalWindow key rule (.increment now) table (.done (some { allowed := true }))
      (table.set key { count := int64.wrap (row.count + 1), lastRequest := now })
  | pruned {table : Table} {now : Int} :
    Effect globalWindow key rule (.prune now) table (.done (some { allowed := true }))
      (deleteBefore table (int64.wrap (now - secondsToMillis (longestWindow globalWindow))))
  | done {result : Option ConsumeResult} {table : Table} :
    Effect globalWindow key rule (.done result) table (.done result) table

theorem incrementOne_eq_some {table after : Table} {key : String} {guard : Row → Bool} {change : Row → Row}
    (h : incrementOne table key guard change = some after) :
    ∃ row, table.get? key = some row ∧ guard row = true ∧ after = table.set key (change row) := by
  unfold incrementOne at h
  split at h
  · cases h
  rename_i row hrow
  split at h
  · next hguard =>
    cases h
    exact ⟨row, hrow, hguard, rfl⟩
  · cases h

theorem step_effect (globalWindow : Int) (key : String) (rule : Rule) (clock : Int) (phase : Phase) (table : Table) :
    Effect globalWindow key rule phase table (step globalWindow key rule clock phase table).1
      (step globalWindow key rule clock phase table).2 := by
  cases phase with
  | get => exact .read rfl rfl
  | decide data =>
    cases data with
    | none => exact .read rfl rfl
    | some data =>
      rw [step]
      split <;> exact .read rfl rfl
  | create now =>
    rw [step]
    split
    · next hnone => exact .created hnone
    · exact .read rfl rfl
  | getExisting =>
    rw [step]
    split <;> exact .read rfl rfl
  | reset now lastRequest =>
    rw [step]
    split
    · next hincrement =>
      obtain ⟨row, hrow, hguard, rfl⟩ := incrementOne_eq_some hincrement
      exact .reset hrow (of_decide_eq_true hguard)
    · exact .read rfl rfl
  | prune now => exact .pruned
  | increment now =>
    rw [step]
    split
    · next hincrement =>
      obtain ⟨row, hrow, hguard, rfl⟩ := incrementOne_eq_some hincrement
      rw [Bool.and_eq_true, decide_eq_true_eq, decide_eq_true_eq] at hguard
      exact .incremented hrow hguard.2
    · exact .read rfl rfl
  | getFresh now =>
    rw [step]
    split
    · exact .read rfl rfl
    · split <;> exact .read rfl rfl
  | refuse lastRequest => exact .read rfl rfl
  | done result => exact .done

/-! ## Requests at the same time -/

structure Consumption where
  key : String
  rule : Rule
  phase : Phase

structure Grant where
  key : String
  rule : Rule
  /-- The time that the request goes by, which is stored as that of the last request. -/
  now : Int
  /-- The time when it was given. -/
  clock : Int
  /-- The row was created or reset for it. -/
  restart : Bool

/-- The permission that a request gets in a phase when it has none before and one after it. -/
def Consumption.grant (consumption : Consumption) (clock : Int) (after : Phase) : Option Grant :=
  if consumption.phase.allows || !after.allows then none
  else
    match consumption.phase with
    | .create now | .reset now _ =>
      some { key := consumption.key, rule := consumption.rule, now, clock, restart := true }
    | .increment now => some { key := consumption.key, rule := consumption.rule, now, clock, restart := false }
    | _ => none

/-- What requests share, with the permissions so far, the last one first. -/
structure Shared where
  table : Table
  clock : Int
  grants : List Grant

def bookedStep (globalWindow : Int) (consumption : Consumption) (shared : Shared) : Consumption × Shared :=
  let after := step globalWindow consumption.key consumption.rule shared.clock consumption.phase shared.table
  ({ consumption with phase := after.1 },
    { shared with
      table := after.2
      grants := (consumption.grant shared.clock after.1).toList ++ shared.grants })

inductive Event where
  | consume (key : String) (rule : Rule)
  /-- A request makes its next adapter call, or reads the clock. -/
  | turn (number : Nat)
  | tick (elapsed : Nat)

def advance (globalWindow : Int) (system : System Shared Consumption) : Event → System Shared Consumption
  | .consume key rule => spawn { key, rule, phase := .get } system
  | .turn number => process.turn (bookedStep globalWindow) number system
  | .tick elapsed => { system with shared := { system.shared with clock := system.shared.clock + elapsed } }

def opened (table : Table) (clock : Int) : System Shared Consumption :=
  { shared := { table, clock, grants := [] }, threads := [] }

def grantsOf (key : String) (grants : List Grant) : List Grant := grants.filter fun grant => grant.key = key

/-- The permissions since the row was last created or reset. -/
def sinceRestart : List Grant → Nat
  | [] => 0
  | grant :: rest => if grant.restart then 1 else sinceRestart rest + 1

/-! ## The count of a row -/

section

variable {globalWindow : Int} {key : String} {rule : Rule} {consumption : Consumption} {shared : Shared}
  {grant : Grant}

theorem grantsOf_cons_self (h : grant.key = key) (grants : List Grant) :
    grantsOf key (grant :: grants) = grant :: grantsOf key grants :=
  List.filter_cons_of_pos (decide_eq_true h)

theorem grantsOf_cons_of_ne (h : grant.key ≠ key) (grants : List Grant) :
    grantsOf key (grant :: grants) = grantsOf key grants :=
  List.filter_cons_of_neg (by simpa using h)

/-- A step of a request, told by its effect and by the permission that it gives. -/
theorem bookedStep_effect (globalWindow : Int) (consumption : Consumption) (shared : Shared) :
    ∃ after table, Effect globalWindow consumption.key consumption.rule consumption.phase shared.table after table ∧
      bookedStep globalWindow consumption shared = ({ consumption with phase := after },
        { shared with table, grants := (consumption.grant shared.clock after).toList ++ shared.grants }) :=
  ⟨_, _, step_effect globalWindow consumption.key consumption.rule shared.clock consumption.phase shared.table, rfl⟩

/-- No permission is given where the one after the step was there before. -/
theorem grant_eq_none {after : Phase} (h : after.allows = consumption.phase.allows) (clock : Int) :
    consumption.grant clock after = none := by
  simp [Consumption.grant, h]

variable {row : Row}

theorem get?_deleteBefore {table : Table} {time : Int} :
    (deleteBefore table time).get? key = some row ↔ table.get? key = some row ∧ time ≤ row.lastRequest := by
  simp [deleteBefore, Dict.get?_filter_eq_some_iff]

/-- The row of a key counts the permissions of the key since it was created or reset. -/
def Counts (key : String) (shared : Shared) : Prop :=
  ∀ row, shared.table.get? key = some row → row.count = sinceRestart (grantsOf key shared.grants)

/-- A permission for which the row of its key was written. -/
theorem Counts.granted (h : Counts key shared) (grant : Grant)
    (hcount : grant.key = key → row.count = sinceRestart (grant :: grantsOf key shared.grants)) :
    Counts key { shared with table := shared.table.set grant.key row, grants := grant :: shared.grants } := by
  intro found hfound
  change (shared.table.set grant.key row).get? key = some found at hfound
  by_cases hkey : grant.key = key
  · rw [hkey, Dict.get?_set_self] at hfound
    cases hfound
    rw [grantsOf_cons_self hkey]
    exact hcount hkey
  · rw [Dict.get?_set_of_ne _ _ (Ne.symm hkey)] at hfound
    rw [grantsOf_cons_of_ne hkey]
    exact h found hfound

theorem counts_step (hmax : consumption.key = key → consumption.rule.max ≤ int64.max) (h : Counts key shared) :
    Counts key (bookedStep globalWindow consumption shared).2 := by
  obtain ⟨after, table, heffect, hbooked⟩ := bookedStep_effect globalWindow consumption shared
  rw [hbooked]
  obtain ⟨own, rule, phase⟩ := consumption
  cases heffect with
  | read hbefore hafter =>
    rw [grant_eq_none (hafter.trans hbefore.symm)]
    exact h
  | created | reset => exact h.granted ⟨own, rule, _, shared.clock, true⟩ fun _ => rfl
  | @incremented _ now row hrow hguard =>
    refine h.granted ⟨own, rule, now, shared.clock, false⟩ fun hkey => ?_
    have hcount := h row (hkey ▸ hrow)
    rw [int64.wrap_succ (by omega) (lt_of_lt_of_le hguard (hmax hkey)), hcount]
    rfl
  | pruned =>
    intro row hrow
    exact h row (get?_deleteBefore.mp hrow).1
  | done =>
    rw [grant_eq_none rfl]
    exact h

/-- No row of a key counts more than its rule allows. -/
def WithinMax (key : String) (rule : Rule) (shared : Shared) : Prop :=
  ∀ row, shared.table.get? key = some row → row.count ≤ rule.max

theorem WithinMax.set (h : WithinMax key rule shared) (own : String) (grants : List Grant)
    (hcount : own = key → row.count ≤ rule.max) :
    WithinMax key rule { shared with table := shared.table.set own row, grants } := by
  intro found hfound
  change (shared.table.set own row).get? key = some found at hfound
  by_cases hkey : own = key
  · rw [hkey, Dict.get?_set_self] at hfound
    cases hfound
    exact hcount hkey
  · rw [Dict.get?_set_of_ne _ _ (Ne.symm hkey)] at hfound
    exact h found hfound

theorem withinMax_step (hmin : 1 ≤ rule.max) (hmax : rule.max ≤ int64.max)
    (hrule : consumption.key = key → consumption.rule = rule) (hcounts : Counts key shared)
    (h : WithinMax key rule shared) : WithinMax key rule (bookedStep globalWindow consumption shared).2 := by
  obtain ⟨after, table, heffect, hbooked⟩ := bookedStep_effect globalWindow consumption shared
  rw [hbooked]
  obtain ⟨own, ownRule, phase⟩ := consumption
  cases heffect with
  | read => exact h
  | created => exact h.set own _ fun _ => hmin
  | reset => exact h.set own _ fun _ => hmin
  | @incremented _ now row hrow hguard =>
    refine h.set own _ fun hkey => ?_
    have hcount := hcounts row (hkey ▸ hrow)
    have hlt : row.count < rule.max := by
      rw [← hrule hkey]
      exact hguard
    rw [int64.wrap_succ (by omega) (lt_of_lt_of_le hlt hmax)]
    exact hlt
  | pruned =>
    intro row hrow
    exact h row (get?_deleteBefore.mp hrow).1
  | done => exact h

end

/-! ## Permissions and requests -/

section

variable {globalWindow : Int} {key : String}

/-- The request is for the key, and is answered with permission or going to be. -/
def Consumption.allowed (key : String) (consumption : Consumption) : Bool :=
  consumption.key = key && consumption.phase.allows

/-- A permission is entered exactly when a request comes to be allowed. -/
theorem length_grantsOf_step (consumption : Consumption) (shared : Shared) :
    (grantsOf key (bookedStep globalWindow consumption shared).2.grants).length + (consumption.allowed key).toNat =
      (grantsOf key shared.grants).length + ((bookedStep globalWindow consumption shared).1.allowed key).toNat := by
  obtain ⟨after, table, heffect, hbooked⟩ := bookedStep_effect globalWindow consumption shared
  rw [hbooked]
  obtain ⟨own, rule, phase⟩ := consumption
  have hgranted : ∀ grant : Grant, grant.key = own →
      (grantsOf key (grant :: shared.grants)).length + (decide (own = key) && false).toNat =
        (grantsOf key shared.grants).length + (decide (own = key) && true).toNat := by
    rintro grant rfl
    by_cases hkey : grant.key = key
    · simp [grantsOf_cons_self hkey, hkey]
    · simp [grantsOf_cons_of_ne hkey, hkey]
  cases heffect with
  | read hbefore hafter =>
    rw [grant_eq_none (hafter.trans hbefore.symm)]
    simp [Consumption.allowed, hbefore, hafter]
  | @created _ now => exact hgranted ⟨own, rule, now, shared.clock, true⟩ rfl
  | @reset _ now => exact hgranted ⟨own, rule, now, shared.clock, true⟩ rfl
  | @incremented _ now => exact hgranted ⟨own, rule, now, shared.clock, false⟩ rfl
  | pruned => rfl
  | done =>
    rw [grant_eq_none rfl]
    rfl

end

/-- Requests for the key have one rule. Those for other keys have any. -/
def OneRule (key : String) (rule : Rule) : Event → Prop
  | .consume own ownRule => own = key → ownRule = rule
  | _ => True

/-- The limit holds however requests are interleaved: the row of a key never counts more than the
rule allows, and it counts the permissions given since it was last created or reset. Each of
these is that of one request, which is answered or only has to prune. -/
theorem reached_within_max (globalWindow : Int) (key : String) (rule : Rule) (hmin : 1 ≤ rule.max)
    (hmax : rule.max ≤ int64.max) {table : Table} (hnone : table.get? key = none) (clock : Int)
    {system : System Shared Consumption}
    (hreached : Reached (advance globalWindow) (fun _ => OneRule key rule) (opened table clock) system) :
    (∀ row, system.shared.table.get? key = some row →
      row.count ≤ rule.max ∧ sinceRestart (grantsOf key system.shared.grants) = row.count) ∧
    (grantsOf key system.shared.grants).length = system.threads.countP (Consumption.allowed key) := by
  have hholds : Holds (fun shared => Counts key shared ∧ WithinMax key rule shared)
      (fun consumption => consumption.key = key → consumption.rule = rule) system := by
    refine hreached.invariant _ ⟨⟨?_, ?_⟩, by simp [opened]⟩ fun state event hstate hrule => ?_
    · intro row hrow
      rw [show (opened table clock).shared.table.get? key = none from hnone] at hrow
      cases hrow
    · intro row hrow
      rw [show (opened table clock).shared.table.get? key = none from hnone] at hrow
      cases hrow
    cases event with
    | consume own ownRule => exact hstate.spawn hrule
    | turn number =>
      refine hstate.turn number fun consumption shared hshared hown => ?_
      have hfits : consumption.key = key → consumption.rule.max ≤ int64.max := fun hkey => hown hkey ▸ hmax
      exact ⟨⟨counts_step hfits hshared.1, withinMax_step hmin hmax hown hshared.1 hshared.2⟩, hown⟩
    | tick elapsed => exact ⟨hstate.shared, hstate.threads⟩
  have hcount : (grantsOf key system.shared.grants).length = system.threads.countP (Consumption.allowed key) := by
    refine hreached.invariant (fun state =>
      (grantsOf key state.shared.grants).length = state.threads.countP (Consumption.allowed key)) rfl ?_
    intro state event hstate _
    cases event with
    | consume own ownRule =>
      change (grantsOf key state.shared.grants).length = (state.threads ++ [_]).countP _
      rw [List.countP_append, ← hstate]
      simp [Consumption.allowed, Phase.allows]
    | turn number =>
      exact countP_turn (fun shared : Shared => (grantsOf key shared.grants).length) length_grantsOf_step hstate number
    | tick elapsed => exact hstate
  refine ⟨fun row hrow => ⟨hholds.shared.2 row hrow, (hholds.shared.1 row hrow).symm⟩, hcount⟩

/-! ## A race for a new window -/

/-- Two requests start a new window at the same time, by a rule with two requests to a second. The
second one finds the window already started, and counts in it. -/
private def race : List Event :=
  [.consume "key" ⟨1, 2⟩, .turn 0, .turn 0, .turn 0, .tick 5000, .consume "key" ⟨1, 2⟩, .consume "key" ⟨1, 2⟩,
    .turn 1, .turn 2, .turn 1, .turn 2, .turn 1, .turn 2, .turn 2, .turn 2, .turn 2]

private def afterRace : System Shared Consumption := race.foldl (advance 0) (opened Dict.empty 0)

theorem reached_within_max_race :
    (afterRace.shared.table.get? "key" = some ⟨2, 5000⟩ ∧ afterRace.threads.countP (Consumption.allowed "key") = 3) ∧
    (∀ row, afterRace.shared.table.get? "key" = some row →
      row.count ≤ 2 ∧ sinceRestart (grantsOf "key" afterRace.shared.grants) = row.count) ∧
    (grantsOf "key" afterRace.shared.grants).length = afterRace.threads.countP (Consumption.allowed "key") := by
  refine ⟨by decide, ?_⟩
  refine reached_within_max 0 "key" ⟨1, 2⟩ (by decide) (by decide) rfl 0 (Reached.start.foldl fun event hevent _ => ?_)
  revert event
  simp [race, OneRule]

end singleauth.ratelimit
