import SingleAuth.Security.RateLimit.Concurrent
import SingleAuth.Security.RateLimit.Limiter

open bytes dict process transition

namespace singleauth.ratelimit

/-! ## Runs of a limiter -/

inductive Check where
  /-- A request is checked. -/
  | check (request : RequestInfo)
  /-- A request makes its next adapter call, or reads the clock. -/
  | turn (number : Nat)
  | tick (elapsed : Nat)

/-- The limiter that the server is built with, and its store. A request that is limited asks the
store for its key by the rule that was selected. -/
def advanceCheck (library : Library) (options : RuntimeOptions) (system : System Shared Consumption) :
    Check → System Shared Consumption
  | .check request =>
    match (buildRateLimiter options).1.select library request with
    | .limited key _ rule => advance (buildRateLimiter options).2 system (.consume key rule)
    | _ => system
  | .turn number => advance (buildRateLimiter options).2 system (.turn number)
  | .tick elapsed => advance (buildRateLimiter options).2 system (.tick elapsed)

/-! ## Rules that fit the store -/

/-- Rows are pruned no earlier than the window of the rule has passed. -/
structure FitsStore (globalWindow : Int) (rule : Rule) : Prop where
  window : rule.window ≤ longestWindow globalWindow
  min : 1 ≤ rule.max
  max : rule.max ≤ int64.max

theorem secondsToMillis_mono {first second : Int} (h : first ≤ second) : secondsToMillis first ≤ secondsToMillis second := by
  rw [secondsToMillis_eq, secondsToMillis_eq]
  unfold int64.max int64.min
  split_ifs <;> omega

theorem secondsToMillis_inRange (seconds : Int) : int64.InRange (secondsToMillis seconds) := by
  rw [secondsToMillis_eq]
  unfold int64.InRange int64.max int64.min
  split_ifs <;> omega

/-- The rules that the options can select fit the store. A maximum of zero stands for the default. -/
structure RulesFit (options : RuntimeOptions) : Prop where
  default : 0 ≤ options.rateLimit.max ∧ options.rateLimit.max ≤ int64.max
  plugins : ∀ plugin ∈ options.plugins, ∀ candidate ∈ plugin, FitsStore options.rateLimit.window candidate.rule
  custom : ∀ custom ∈ options.rateLimit.customRules, custom.disabled = false → custom.resolve = none →
    FitsStore options.rateLimit.window custom.rule
  resolved : ∀ custom ∈ options.rateLimit.customRules, custom.disabled = false → ∀ resolve, custom.resolve = some resolve →
    ∀ request rule resolved, resolve request rule = .ok (some resolved) → FitsStore options.rateLimit.window resolved

section

variable {library : Library} {options : RuntimeOptions} {request : RequestInfo}

theorem fitsStore_builtInRule (h : RulesFit options) (path : Bytes) :
    FitsStore options.rateLimit.window (builtInRule (buildRateLimiter options).1.defaultRule path) := by
  have hlongest : 60 ≤ longestWindow options.rateLimit.window ∧
      options.rateLimit.window ≤ longestWindow options.rateLimit.window := by
    unfold longestWindow defaultWindow
    dsimp only
    split_ifs <;> omega
  have hmax : (100 : Int) ≤ int64.max := by decide
  unfold builtInRule
  split
  · exact ⟨by dsimp only; omega, by decide, by decide⟩
  split
  · exact ⟨hlongest.1, by decide, by decide⟩
  have hdefault := h.default
  constructor
  · change (if options.rateLimit.window = 0 then defaultWindow else options.rateLimit.window) ≤ _
    unfold defaultWindow
    split <;> omega
  · change 1 ≤ (if options.rateLimit.max = 0 then defaultMax else options.rateLimit.max)
    unfold defaultMax
    split <;> omega
  · change (if options.rateLimit.max = 0 then defaultMax else options.rateLimit.max) ≤ _
    unfold defaultMax
    split <;> omega

theorem fitsStore_resolveBuiltInAndPlugin (h : RulesFit options) (path : Bytes) :
    FitsStore options.rateLimit.window ((buildRateLimiter options).1.resolveBuiltInAndPlugin path) := by
  unfold Limiter.resolveBuiltInAndPlugin
  cases hplugin : pluginRule path (buildRateLimiter options).1.config.pluginRules with
  | none => exact fitsStore_builtInRule h path
  | some rule =>
    obtain ⟨plugin, hmem, hfound⟩ := List.exists_of_findSome?_eq_some hplugin
    obtain ⟨candidate, hcandidate, rfl⟩ := Option.map_eq_some_iff.mp hfound
    exact h.plugins plugin (List.mem_of_mem_filter hmem) candidate (List.mem_of_find?_eq_some hcandidate)

variable {path : Bytes} {rule : Rule}

theorem fitsStore_selectRule (h : RulesFit options)
    (hrule : (buildRateLimiter options).1.selectRule library request path = .ok (some rule)) :
    FitsStore options.rateLimit.window rule := by
  unfold Limiter.selectRule at hrule
  split at hrule
  · cases hrule
    exact fitsStore_resolveBuiltInAndPlugin h path
  rename_i custom hfound
  have hmem : custom ∈ options.rateLimit.customRules := List.mem_of_find?_eq_some hfound
  split at hrule
  · cases hrule
  rename_i hdisabled
  split at hrule
  · next resolve hresolve =>
    exact h.resolved custom hmem (eq_false_of_ne_true hdisabled) resolve hresolve request _ rule hrule
  · next hresolve =>
    cases hrule
    exact h.custom custom hmem (eq_false_of_ne_true hdisabled) hresolve

theorem fitsStore_select (h : RulesFit options) {key : String}
    (hselect : (buildRateLimiter options).1.select library request = .limited key path rule) :
    FitsStore options.rateLimit.window rule := by
  unfold Limiter.select at hselect
  split at hselect
  · cases hselect
  dsimp only at hselect
  split at hselect
  · cases hselect
  split at hselect
  · cases hselect
  · cases hselect
  · next hrule =>
    cases hselect
    exact fitsStore_selectRule h hrule

end

/-! ## What the permissions of a key keep to -/

/-- Permissions, the last one first, that keep to their rules: a window is started only when the
one before has passed since the last permission for the key, and has no more of them than its rule allows. -/
def Lawful : List Grant → Prop
  | [] => True
  | grant :: earlier =>
    (grant.restart = true → ∀ last, (grantsOf grant.key earlier).head? = some last →
      secondsToMillis grant.rule.window < grant.clock - last.now) ∧
    sinceRestart (grant :: grantsOf grant.key earlier) ≤ grant.rule.max ∧
    Lawful earlier

/-- The table agrees with the permissions: the row of a key has the time of the last one, and a key whose
row was pruned had none for longer than the longest window. -/
structure Kept (globalWindow : Int) (shared : Shared) : Prop where
  clock : 0 ≤ shared.clock ∧ shared.clock ≤ int64.max
  row : ∀ key row, shared.table.get? key = some row →
    ∃ last, (grantsOf key shared.grants).head? = some last ∧ row.lastRequest = last.now
  pruned : ∀ key, shared.table.get? key = none → ∀ last, (grantsOf key shared.grants).head? = some last →
    secondsToMillis (longestWindow globalWindow) < shared.clock - last.now
  counts : ∀ key, Counts key shared
  times : ∀ grant ∈ shared.grants, 0 ≤ grant.now ∧ grant.now ≤ shared.clock
  rules : ∀ grant ∈ shared.grants, FitsStore globalWindow grant.rule
  lawful : Lawful shared.grants

def Knows (rule : Rule) (clock : Int) : Phase → Prop
  | .decide (some data) => 0 ≤ data.lastRequest ∧ data.lastRequest ≤ clock
  | .create now | .prune now | .increment now => 0 ≤ now ∧ now ≤ clock
  | .reset now lastRequest =>
    0 ≤ now ∧ now ≤ clock ∧ secondsToMillis rule.window < now - lastRequest
  | _ => True

section

variable {globalWindow : Int} {key : String} {consumption : Consumption} {shared : Shared}
  {last : Grant} {row : Row} {now : Int}

theorem mem_of_last {grants : List Grant} (h : (grantsOf key grants).head? = some last) :
    last ∈ grants ∧ last.key = key := by
  have hmem := List.mem_filter.mp (List.mem_of_mem_head? h)
  exact ⟨hmem.1, of_decide_eq_true hmem.2⟩

/-- Times since the first one differ by a number of 64 bits. -/
theorem wrap_sub {first second : Int} (hfirst : 0 ≤ first ∧ first ≤ int64.max) (hsecond : 0 ≤ second ∧ second ≤ int64.max) :
    int64.wrap (first - second) = first - second := by
  apply int64.wrap_of_inRange
  unfold int64.InRange int64.min
  unfold int64.max at *
  omega

section

variable (h : Kept globalWindow shared)
include h

theorem knows_step (hknows : Knows consumption.rule shared.clock consumption.phase) :
    Knows consumption.rule shared.clock (bookedStep globalWindow consumption shared).1.phase := by
  obtain ⟨own, rule, phase⟩ := consumption
  have hclock := h.clock
  change Knows rule shared.clock (step globalWindow own rule shared.clock phase shared.table).1
  cases phase with
  | get =>
    rw [step]
    cases hrow : shared.table.get? own with
    | none => trivial
    | some row =>
      obtain ⟨last, hlast, htime⟩ := h.row own row hrow
      have htimes := h.times last (mem_of_last hlast).1
      rw [Knows, htime]
      exact htimes
  | decide data =>
    cases data with
    | none => exact ⟨hclock.1, Int.le_refl _⟩
    | some data =>
      have hdata : 0 ≤ data.lastRequest ∧ data.lastRequest ≤ shared.clock := hknows
      have hwrap : int64.wrap (shared.clock - data.lastRequest) = shared.clock - data.lastRequest :=
        wrap_sub hclock ⟨hdata.1, hdata.2.trans hclock.2⟩
      rw [step, hwrap]
      split
      · next hover => exact ⟨hclock.1, Int.le_refl _, hover⟩
      · exact ⟨hclock.1, Int.le_refl _⟩
  | create | getExisting | increment =>
    rw [step]
    split <;> trivial
  | reset now lastRequest =>
    rw [step]
    split
    · exact ⟨hknows.1, hknows.2.1⟩
    · trivial
  | prune | refuse | done => trivial
  | getFresh now =>
    rw [step]
    split
    · trivial
    · split <;> trivial

/-- A permission for which the row of its key was written with its time. -/
theorem Kept.granted (grant : Grant) (hrule : FitsStore globalWindow grant.rule)
    (htime : 0 ≤ grant.now ∧ grant.now ≤ shared.clock) (hrow : row.lastRequest = grant.now)
    (hcounts : ∀ key, Counts key
      { shared with table := shared.table.set grant.key row, grants := grant :: shared.grants })
    (hcount : row.count ≤ grant.rule.max)
    (hrestart : grant.restart = true → ∀ last, (grantsOf grant.key shared.grants).head? = some last →
      secondsToMillis grant.rule.window < grant.clock - last.now) :
    Kept globalWindow { shared with table := shared.table.set grant.key row, grants := grant :: shared.grants } where
  clock := h.clock
  row := by
    intro key found hfound
    change (shared.table.set grant.key row).get? key = some found at hfound
    by_cases hkey : grant.key = key
    · rw [hkey, Dict.get?_set_self] at hfound
      cases hfound
      exact ⟨grant, by rw [grantsOf_cons_self hkey]; rfl, hrow⟩
    · rw [Dict.get?_set_of_ne _ _ (Ne.symm hkey)] at hfound
      rw [grantsOf_cons_of_ne hkey]
      exact h.row key found hfound
  pruned := by
    intro key hnone last hlast
    change (shared.table.set grant.key row).get? key = none at hnone
    by_cases hkey : grant.key = key
    · rw [hkey, Dict.get?_set_self] at hnone
      cases hnone
    · rw [Dict.get?_set_of_ne _ _ (Ne.symm hkey)] at hnone
      rw [grantsOf_cons_of_ne hkey] at hlast
      exact h.pruned key hnone last hlast
  counts := hcounts
  times := by
    intro other hother
    rcases List.mem_cons.mp hother with rfl | hother
    · exact htime
    · exact h.times other hother
  rules := by
    intro other hother
    rcases List.mem_cons.mp hother with rfl | hother
    · exact hrule
    · exact h.rules other hother
  lawful := by
    refine ⟨hrestart, ?_, h.lawful⟩
    have hequal := hcounts grant.key row (Dict.get?_set_self _ _ _)
    rw [grantsOf_cons_self rfl] at hequal
    rw [← hequal]
    exact hcount

/-- What is pruned had no permission for longer than the longest window. -/
theorem Kept.elapsed_of_pruned (hnow : 0 ≤ now ∧ now ≤ shared.clock)
    (hrow : shared.table.get? key = some row) (hnone : (deleteBefore shared.table
      (int64.wrap (now - secondsToMillis (longestWindow globalWindow)))).get? key = none)
    (hlast : (grantsOf key shared.grants).head? = some last) :
    secondsToMillis (longestWindow globalWindow) < shared.clock - last.now := by
  obtain ⟨other, hother, htime⟩ := h.row key row hrow
  rw [hlast] at hother
  cases hother
  have hbound := secondsToMillis_inRange (longestWindow globalWindow)
  have hwrap := wrap_sub ⟨hnow.1, hnow.2.trans h.clock.2⟩ ⟨longestWindow_millis_nonneg globalWindow, hbound.2⟩
  have hlt : ¬ now - secondsToMillis (longestWindow globalWindow) ≤ row.lastRequest := by
    intro hle
    have hkept := get?_deleteBefore.mpr ⟨hrow, hwrap.symm ▸ hle⟩
    rw [hnone] at hkept
    cases hkept
  omega

theorem Kept.deleteBefore (hnow : 0 ≤ now ∧ now ≤ shared.clock) :
    Kept globalWindow { shared with
      table := ratelimit.deleteBefore shared.table (int64.wrap (now - secondsToMillis (longestWindow globalWindow))) } where
  clock := h.clock
  row := fun key row hrow => h.row key row (get?_deleteBefore.mp hrow).1
  pruned := by
    intro key hnone last hlast
    cases hrow : shared.table.get? key with
    | none => exact h.pruned key hrow last hlast
    | some row => exact h.elapsed_of_pruned hnow hrow hnone hlast
  counts := fun key row hrow => h.counts key row (get?_deleteBefore.mp hrow).1
  times := h.times
  rules := h.rules
  lawful := h.lawful

theorem kept_step (hrule : FitsStore globalWindow consumption.rule)
    (hknows : Knows consumption.rule shared.clock consumption.phase) :
    Kept globalWindow (bookedStep globalWindow consumption shared).2 := by
  have hcounts : ∀ key, Counts key (bookedStep globalWindow consumption shared).2 :=
    fun key => counts_step (fun _ => hrule.max) (h.counts key)
  obtain ⟨after, table, heffect, hbooked⟩ := bookedStep_effect globalWindow consumption shared
  rw [hbooked] at hcounts ⊢
  obtain ⟨own, rule, phase⟩ := consumption
  have hwindow := secondsToMillis_mono hrule.window
  cases heffect with
  | read hbefore hafter =>
    rw [grant_eq_none (hafter.trans hbefore.symm)]
    exact h
  | @created _ now hnone =>
    refine h.granted ⟨own, rule, now, shared.clock, true⟩ hrule hknows rfl hcounts hrule.min fun _ last hlast => ?_
    exact lt_of_le_of_lt hwindow (h.pruned own hnone last hlast)
  | @reset _ now lastRequest row hrow hguard =>
    refine h.granted ⟨own, rule, now, shared.clock, true⟩ hrule ⟨hknows.1, hknows.2.1⟩ rfl hcounts hrule.min
      fun _ last hlast => ?_
    obtain ⟨other, hother, htime⟩ := h.row own row hrow
    rw [hlast] at hother
    cases hother
    have hover := hknows.2.2
    have hnow := hknows.2.1
    dsimp only at hover hnow ⊢
    omega
  | @incremented _ now row hrow hguard =>
    refine h.granted ⟨own, rule, now, shared.clock, false⟩ hrule hknows rfl hcounts ?_ fun hrestart => by cases hrestart
    have hcount := h.counts own row hrow
    dsimp only at hguard ⊢
    rw [int64.wrap_succ (by omega) (lt_of_lt_of_le hguard hrule.max)]
    omega
  | pruned => exact h.deleteBefore hknows
  | done =>
    rw [grant_eq_none rfl]
    exact h

end

end

variable {globalWindow : Int} {shared : Shared} {clock : Int}

/-- A row that a step removes was pruned. -/
theorem pruned_of_removed {consumption : Consumption} {key : String} {row : Row}
    (hrow : shared.table.get? key = some row)
    (hnone : (bookedStep globalWindow consumption shared).2.table.get? key = none) :
    ∃ now, consumption.phase = .prune now ∧
      (deleteBefore shared.table (int64.wrap (now - secondsToMillis (longestWindow globalWindow)))).get? key = none := by
  have hset : ∀ own written, (shared.table.set own written).get? key ≠ none := by
    intro own written hgone
    rw [Dict.get?_set] at hgone
    split at hgone
    · cases hgone
    · rw [hrow] at hgone
      cases hgone
  obtain ⟨after, table, heffect, hbooked⟩ := bookedStep_effect globalWindow consumption shared
  rw [hbooked] at hnone
  obtain ⟨own, rule, phase⟩ := consumption
  change table.get? key = none at hnone
  cases heffect with
  | read | done =>
    rw [hrow] at hnone
    cases hnone
  | created | reset | incremented => exact absurd hnone (hset own _)
  | @pruned _ now => exact ⟨now, rfl, hnone⟩

theorem Kept.tick (h : Kept globalWindow shared) {elapsed : Nat} (hfits : shared.clock + elapsed ≤ int64.max) :
    Kept globalWindow { shared with clock := shared.clock + elapsed } where
  clock := by
    have hclock := h.clock
    dsimp only
    omega
  row := h.row
  pruned := by
    intro key hnone last hlast
    have hpassed := h.pruned key hnone last hlast
    dsimp only
    omega
  counts := h.counts
  times := by
    intro grant hgrant
    have htimes := h.times grant hgrant
    dsimp only
    omega
  rules := h.rules
  lawful := h.lawful

theorem Knows.tick {rule : Rule} {phase : Phase} (h : Knows rule clock phase) (elapsed : Nat) :
    Knows rule (clock + elapsed) phase := by
  cases phase with
  | decide data =>
    cases data with
    | none => trivial
    | some data =>
      unfold Knows at *
      omega
  | create now | prune now | increment now | reset now lastRequest =>
    unfold Knows at *
    omega
  | get | getExisting | getFresh now | refuse lastRequest | done result => trivial

def ClockFits (system : System Shared Consumption) : Check → Prop
  | .tick elapsed => system.shared.clock + elapsed ≤ int64.max
  | _ => True

/-- Where the rules fit the store, only rows are removed whose key had its last permission longer ago than the
window of that permission's rule, and no key gets more permissions than its rule allows before the
window has passed. -/
theorem reached_prunes_passed (library : Library) (options : RuntimeOptions) (hfit : RulesFit options) (clock : Int)
    (hclock : 0 ≤ clock ∧ clock ≤ int64.max) {system : System Shared Consumption}
    (hreached : Reached (advanceCheck library options) ClockFits (opened Dict.empty clock) system) :
    (∀ number key row, system.shared.table.get? key = some row →
      (advanceCheck library options system (.turn number)).shared.table.get? key = none →
        ∃ last, (grantsOf key system.shared.grants).head? = some last ∧
          secondsToMillis last.rule.window < system.shared.clock - last.now) ∧
    Lawful system.shared.grants := by
  have hjointly : Jointly (Kept options.rateLimit.window) (fun shared consumption =>
      FitsStore options.rateLimit.window consumption.rule ∧
        Knows consumption.rule shared.clock consumption.phase) system := by
    have hstart : Kept options.rateLimit.window (opened Dict.empty clock).shared :=
      ⟨hclock, nofun, nofun, nofun, nofun, nofun, trivial⟩
    refine hreached.invariant _ ⟨hstart, by simp [opened]⟩ fun state event hstate htick => ?_
    cases event with
    | check request =>
      rw [advanceCheck]
      split
      · next hselect => exact hstate.spawn ⟨fitsStore_select hfit hselect, trivial⟩
      · exact hstate
    | turn number =>
      refine hstate.turn number (fun consumption shared hshared hthread => ?_) fun _ _ _ _ _ hother => hother
      exact ⟨kept_step hshared hthread.1 hthread.2, hthread.1, knows_step hshared hthread.2⟩
    | tick elapsed =>
      refine ⟨hstate.shared.tick htick, fun consumption hmem => ?_⟩
      obtain ⟨hrule, hknows⟩ := hstate.threads consumption hmem
      exact ⟨hrule, hknows.tick elapsed⟩
  have hkept := hjointly.shared
  refine ⟨fun number key row hrow hnone => ?_, hkept.lawful⟩
  obtain ⟨last, hlast, -⟩ := hkept.row key row hrow
  refine ⟨last, hlast, ?_⟩
  change (process.turn _ number system).shared.table.get? key = none at hnone
  unfold process.turn at hnone
  split at hnone
  · rw [hrow] at hnone
    cases hnone
  rename_i consumption hthread
  obtain ⟨-, hknows⟩ := hjointly.threads consumption (List.mem_of_getElem? hthread)
  obtain ⟨now, hphase, hdeleted⟩ := pruned_of_removed hrow hnone
  rw [hphase] at hknows
  have hlongest := hkept.elapsed_of_pruned hknows hrow hdeleted hlast
  have hwindow := secondsToMillis_mono (hkept.rules last (mem_of_last hlast).1).window
  exact lt_of_le_of_lt hwindow hlongest

/-! ## A rule with a longer window -/

private def plainLibrary : Library where
  authority := some
  matchString _ _ := false

/-- One request to a window for reports, on top of the rules that the server has. -/
private def reportOptions (window : Int) : RuntimeOptions where
  rateLimit := { enabled := some true, customRules := [{ pattern := ascii "/reports", rule := { window, max := 1 } }] }
  basePath := ascii "/api"
  getIP _ := "192.0.2.1"

private def reports : RequestInfo := { url := ascii "http://localhost/api/reports", headers := [] }
private def session : RequestInfo := { url := ascii "http://localhost/api/get-session", headers := [] }

/-- A report, and two requests for the session that are a minute apart. The second one starts a new window for
its own key, and is about to prune. -/
private def minute : List Check :=
  [.check reports, .turn 0, .turn 0, .turn 0, .check session, .turn 1, .turn 1, .turn 1, .tick 61000, .check session,
    .turn 2, .turn 2, .turn 2]

private def afterMinute (window : Int) : System Shared Consumption :=
  minute.foldl (advanceCheck plainLibrary (reportOptions window)) (opened Dict.empty 1700000000000)

private def clockFits (system : System Shared Consumption) : Check → Bool
  | .tick elapsed => decide (system.shared.clock + elapsed ≤ int64.max)
  | _ => true

private theorem afterMinute_reached {window : Int}
    (h : admits (advanceCheck plainLibrary (reportOptions window)) clockFits (opened Dict.empty 1700000000000) minute = true) :
    Reached (advanceCheck plainLibrary (reportOptions window)) ClockFits (opened Dict.empty 1700000000000)
      (afterMinute window) := by
  refine Reached.start.of_admits (fun state event hevent => ?_) h
  cases event with
  | tick elapsed =>
    have hfits : state.shared.clock + elapsed ≤ int64.max := of_decide_eq_true hevent
    exact hfits
  | check | turn => trivial

/-- With a window of half a minute the row of the reports is pruned after it. -/
theorem reached_prunes_passed_reports :
    ((advanceCheck plainLibrary (reportOptions 30) (afterMinute 30) (.turn 2)).shared.table.get? "192.0.2.1|/reports" = none ∧
      (afterMinute 30).shared.table.get? "192.0.2.1|/reports" = some ⟨1, 1700000000000⟩) ∧
    (∀ number key row, (afterMinute 30).shared.table.get? key = some row →
      (advanceCheck plainLibrary (reportOptions 30) (afterMinute 30) (.turn number)).shared.table.get? key = none →
        ∃ last, (grantsOf key (afterMinute 30).shared.grants).head? = some last ∧
          secondsToMillis last.rule.window < (afterMinute 30).shared.clock - last.now) ∧
    Lawful (afterMinute 30).shared.grants := by
  have hfit : RulesFit (reportOptions 30) := by
    refine ⟨by decide, by simp [reportOptions], ?_, ?_⟩
    · intro custom hcustom _ _
      rw [List.mem_singleton.mp hcustom]
      exact ⟨by decide, by decide, by decide⟩
    · intro custom hcustom _ resolve hresolve
      rw [List.mem_singleton.mp hcustom] at hresolve
      cases hresolve
  refine ⟨by decide, ?_⟩
  exact reached_prunes_passed plainLibrary (reportOptions 30) hfit _ (by decide) (afterMinute_reached (by decide))

/-- With a window of an hour it is pruned all the same. -/
theorem prunes_live_row :
    ¬ ∀ (library : Library) (options : RuntimeOptions) (clock : Int) (system : System Shared Consumption),
      0 ≤ clock ∧ clock ≤ int64.max → Reached (advanceCheck library options) ClockFits (opened Dict.empty clock) system →
        ∀ number key row, system.shared.table.get? key = some row →
          (advanceCheck library options system (.turn number)).shared.table.get? key = none →
            ∃ last, (grantsOf key system.shared.grants).head? = some last ∧
              secondsToMillis last.rule.window ≤ system.shared.clock - last.now := by
  intro hclaim
  obtain ⟨last, hlast, hpassed⟩ := hclaim plainLibrary (reportOptions 3600) 1700000000000 (afterMinute 3600) (by decide)
    (afterMinute_reached (by decide)) 2 "192.0.2.1|/reports" ⟨1, 1700000000000⟩ (by decide)
    (by decide)
  have hheld : (grantsOf "192.0.2.1|/reports" (afterMinute 3600).shared.grants).head?.any (fun last =>
      decide (secondsToMillis last.rule.window ≤ (afterMinute 3600).shared.clock - last.now)) = false := by
    decide
  rw [hlast, Option.any_some, decide_eq_true hpassed] at hheld
  cases hheld

end singleauth.ratelimit
