import SingleAuth.Lib.Process
import SingleAuth.Plugins.ApiKey.Service

open dict process singleauth.contract

namespace singleauth.apikey

/-! ## Storage calls on a stored row -/

section

variable {table : Table} {id : String} {record : Record} {guard : Record → Bool} {change : Record → Record}

theorem incrementOne_of_guard (hstored : table.get? id = some record) (hguard : guard record = true) :
    incrementOne table id guard change = some (change record, table.set id (change record)) := by
  simp [incrementOne, hstored, hguard]

theorem incrementOne_of_not_guard (hstored : table.get? id = some record) (hguard : guard record = false) :
    incrementOne table id guard change = none := by
  simp [incrementOne, hstored, hguard]

end

/-! ## The rate limit of a row that nobody else changes -/

/-- What becomes of a claim of the rate limit. -/
inductive Settled where
  | granted (record : Record)
  | limited
  /-- Every attempt fails and is made again. -/
  | stalled

/-- The claim within a window as the guards of its calls decide it. -/
def settleWindow (now : Int) (record : Record) (window max : Int) : Settled :=
  match record.lastRequest with
  | none => .granted (record.restarted now)
  | some lastRequest =>
    if window < sub now lastRequest then
      if lastRequest ≤ windowStart now window then .granted (record.restarted now) else .stalled
    else if max ≤ record.requestCount.getD 0 then .limited
    else if windowStart now window < lastRequest ∧ record.requestCount.isSome then .granted (record.counted now)
    else .stalled

def settle (config : Configuration) (now : Int) (record : Record) : Settled :=
  if config.rateLimitEnabled = some false ∨ record.rateLimitEnabled.getD true = false then .granted (record.requested now)
  else
    match record.rateLimitTimeWindow, record.rateLimitMax with
    | some count, some max => settleWindow now record (milliseconds count) max
    | _, _ => .granted record

/-- Only a claim within a window is refused or stalls. -/
theorem settle_eq_iff {config : Configuration} {now : Int} {record : Record} {settled : Settled}
    (hnot : ∀ changed, settled ≠ .granted changed) :
    settle config now record = settled ↔
      config.rateLimitEnabled ≠ some false ∧ record.rateLimitEnabled ≠ some false ∧
        ∃ count max, record.rateLimitTimeWindow = some count ∧ record.rateLimitMax = some max ∧
          settleWindow now record (milliseconds count) max = settled := by
  have hrow : record.rateLimitEnabled.getD true = false ↔ record.rateLimitEnabled = some false := by
    cases record.rateLimitEnabled <;> simp
  unfold settle
  by_cases hoff : config.rateLimitEnabled = some false ∨ record.rateLimitEnabled.getD true = false
  · rw [if_pos hoff]
    refine iff_of_false (Ne.symm (hnot _)) ?_
    rintro ⟨hconfig, hrecord, -⟩
    rcases hoff with hoff | hoff
    · exact hconfig hoff
    · exact hrecord (hrow.mp hoff)
  rw [if_neg hoff]
  obtain ⟨hconfig, hrecord⟩ := not_or.mp hoff
  have hrecord := mt hrow.mpr hrecord
  cases hwindow : record.rateLimitTimeWindow with
  | none => simpa using Ne.symm (hnot _)
  | some count =>
    cases hmax : record.rateLimitMax with
    | none => simpa using Ne.symm (hnot _)
    | some max => simp [hconfig, hrecord]

section

variable {service : Service} {clock : Int} {config : Configuration} {now : Int} {table final : Table}
  {result : VerifyResult} {id : String} {record : Record} {call : Call}

theorem finishes_pending :
    Finishes (step service clock) outcome (.pending config now call) table result final ↔
      Finishes (step service clock) outcome (perform config now call table).1 (perform config now call table).2
        result final :=
  finishes_of_running rfl

theorem finishes_refuse {status : Nat} {code : ErrorCode} :
    Finishes (step service clock) outcome (refuse status code) table result final ↔
      result = verifyFailure (apiError status code) ∧ final = table := by
  have hdone : outcome (refuse status code) = some (verifyFailure (apiError status code)) := rfl
  exact finishes_of_done hdone

theorem finishes_touch (hstored : table.get? id = some record) :
    Finishes (step service clock) outcome (.pending config now (.touch id)) table result final ↔
      result = granted id (record.touched now) ∧ final = table.set id (record.touched now) := by
  have hperform : perform config now (.touch id) table =
      (.done (granted id (record.touched now)), table.set id (record.touched now)) := by
    simp only [perform, update, incrementOne_of_guard hstored]
  have hdone : outcome (.done (granted id (record.touched now))) = some (granted id (record.touched now)) := rfl
  rw [finishes_pending, hperform]
  exact finishes_of_done hdone

/-- What a claim of the rate limit that nobody disturbs comes to. -/
def Comes (id : String) (now : Int) (table : Table) (settled : Settled) (result : VerifyResult) (final : Table) : Prop :=
  match settled with
  | .granted record =>
    result = granted id (record.touched now) ∧ final = (table.set id record).set id (record.touched now)
  | .limited => result = verifyFailure (apiError statusTooManyRequests .rateLimited) ∧ final = table
  | .stalled => False

/-- A call whose guard holds leads to the end of the verification. -/
theorem finishes_of_written {changed : Record}
    (hperform : perform config now call table = (.pending config now (.touch id), table.set id changed)) :
    Finishes (step service clock) outcome (.pending config now call) table result final ↔
      Comes id now table (.granted changed) result final := by
  rw [finishes_pending, hperform]
  exact finishes_touch (table.get?_set_self id changed)

/-- A call whose guard fails for the very row that it was chosen for is made again and again. -/
theorem not_finishes_of_reload (hstored : table.get? id = some record)
    (hclaim : claimRateLimit config now (apiKeyFromRecord id record) = .pending config now call)
    (hperform : perform config now call table = (.pending config now (.reload id), table)) :
    ¬ Finishes (step service clock) outcome (.pending config now call) table result final := by
  -- The two phases that the mutual recursion alternates between.
  refine not_finishes
    (fun phase shared => shared = table ∧ (phase = .pending config now call ∨ phase = .pending config now (.reload id)))
    ?_ ?_ ⟨rfl, .inl rfl⟩
  · rintro phase shared ⟨-, rfl | rfl⟩ <;> rfl
  rintro phase shared ⟨rfl, rfl | rfl⟩
  · rw [step, hperform]
    exact ⟨rfl, .inr rfl⟩
  · rw [step, perform, hstored]
    exact ⟨rfl, .inl hclaim⟩

variable {max window : Int}

theorem finishes_claimWindow (hstored : table.get? id = some record)
    (hclaim : claimRateLimit config now (apiKeyFromRecord id record) =
      claimWindow config now (apiKeyFromRecord id record) window max) :
    Finishes (step service clock) outcome (claimWindow config now (apiKeyFromRecord id record) window max) table
      result final ↔ Comes id now table (settleWindow now record window max) result final := by
  cases hlast : record.lastRequest with
  | none =>
    simp only [claimWindow, settleWindow, apiKeyFromRecord, hlast]
    apply finishes_of_written
    rw [perform, incrementOne_of_guard hstored (by simp [hlast])]
  | some lastRequest =>
    conv_rhs at hclaim => simp only [claimWindow, apiKeyFromRecord, hlast]
    simp only [claimWindow, settleWindow, apiKeyFromRecord, hlast]
    by_cases hover : window < sub now lastRequest
    · simp only [if_pos hover] at hclaim ⊢
      by_cases hguard : lastRequest ≤ windowStart now window
      · rw [if_pos hguard]
        apply finishes_of_written
        rw [perform, incrementOne_of_guard hstored (by simp [hlast, hguard])]
      · rw [if_neg hguard]
        refine iff_of_false (not_finishes_of_reload hstored hclaim ?_) not_false
        rw [perform, incrementOne_of_not_guard hstored (by simp [hlast, hguard])]
    simp only [if_neg hover] at hclaim ⊢
    by_cases hfull : max ≤ record.requestCount.getD 0
    · simp only [if_pos hfull]
      exact finishes_refuse
    simp only [if_neg hfull] at hclaim ⊢
    cases hcount : record.requestCount with
    | none =>
      rw [if_neg (by simp)]
      refine iff_of_false (not_finishes_of_reload hstored hclaim ?_) not_false
      rw [perform, incrementOne_of_not_guard hstored (by simp [hcount])]
    | some requestCount =>
      have hroom : requestCount < max := by simpa [hcount] using hfull
      by_cases hguard : windowStart now window < lastRequest
      · rw [if_pos ⟨hguard, rfl⟩]
        apply finishes_of_written
        rw [perform, incrementOne_of_guard hstored (by simp [hlast, hcount, hguard, hroom])]
      · rw [if_neg (by simp [hguard])]
        refine iff_of_false (not_finishes_of_reload hstored hclaim ?_) not_false
        rw [perform, incrementOne_of_not_guard hstored (by simp [hlast, hguard])]

/-- The mutual recursion of the claim and its reload, on a row that nobody else changes, comes to
what `settle` says. -/
theorem finishes_claimRateLimit (hstored : table.get? id = some record) :
    Finishes (step service clock) outcome (claimRateLimit config now (apiKeyFromRecord id record)) table result final ↔
      Comes id now table (settle config now record) result final := by
  by_cases hoff : config.rateLimitEnabled = some false ∨ record.rateLimitEnabled.getD true = false
  · have hclaim : claimRateLimit config now (apiKeyFromRecord id record) = .pending config now (.recordRequest id) :=
      if_pos hoff
    rw [hclaim, settle, if_pos hoff]
    apply finishes_of_written
    rw [perform, update, incrementOne_of_guard hstored rfl]
  have hclaim : claimRateLimit config now (apiKeyFromRecord id record) =
      match record.rateLimitTimeWindow, record.rateLimitMax with
      | some count, some max => claimWindow config now (apiKeyFromRecord id record) (milliseconds count) max
      | _, _ => .pending config now (.touch id) := if_neg hoff
  have htouch : Finishes (step service clock) outcome (.pending config now (.touch id)) table result final ↔
      Comes id now table (.granted record) result final := by
    rw [Comes, Dict.set_of_get? hstored]
    exact finishes_touch hstored
  rw [settle, if_neg hoff]
  cases hwindow : record.rateLimitTimeWindow with
  | none =>
    rw [hclaim, hwindow]
    exact htouch
  | some count =>
    cases hmax : record.rateLimitMax with
    | none =>
      rw [hclaim, hwindow, hmax]
      exact htouch
    | some max =>
      rw [hwindow, hmax] at hclaim
      rw [hclaim]
      exact finishes_claimWindow hstored hclaim

end

end singleauth.apikey
