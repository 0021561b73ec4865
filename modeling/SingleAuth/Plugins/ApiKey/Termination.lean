import SingleAuth.Plugins.ApiKey.Sequential

open dict process singleauth.contract

namespace singleauth.apikey

/-- The guard of the call that is chosen by a row as read fails for that very row. -/
def StallsWithin (now : Int) (record : Record) (window max lastRequest : Int) : Prop :=
  if window < sub now lastRequest then windowStart now window < lastRequest
  else record.requestCount.getD 0 < max ∧ (lastRequest ≤ windowStart now window ∨ record.requestCount = none)

def Stalls (config : Configuration) (now : Int) (record : Record) : Prop :=
  config.rateLimitEnabled ≠ some false ∧ record.rateLimitEnabled ≠ some false ∧
    ∃ count max lastRequest, record.rateLimitTimeWindow = some count ∧ record.rateLimitMax = some max ∧
      record.lastRequest = some lastRequest ∧ StallsWithin now record (milliseconds count) max lastRequest

section

variable {config : Configuration} {now : Int} {record : Record}

theorem settleWindow_eq_stalled_iff {window max : Int} :
    settleWindow now record window max = .stalled ↔
      ∃ lastRequest, record.lastRequest = some lastRequest ∧ StallsWithin now record window max lastRequest := by
  unfold settleWindow StallsWithin
  cases hlast : record.lastRequest with
  | none => simp
  | some lastRequest =>
    simp only [Option.some.injEq, exists_eq_left']
    by_cases hover : window < sub now lastRequest
    · rw [if_pos hover, if_pos hover]
      by_cases hguard : lastRequest ≤ windowStart now window
      · simp [hguard]
      · rw [if_neg hguard]
        exact iff_of_true rfl (not_le.mp hguard)
    rw [if_neg hover, if_neg hover]
    by_cases hfull : max ≤ record.requestCount.getD 0
    · simp [hfull]
    rw [if_neg hfull]
    have hroom : record.requestCount.getD 0 < max := by omega
    by_cases hguard : windowStart now window < lastRequest ∧ record.requestCount.isSome
    · rw [if_pos hguard]
      have hnone : record.requestCount ≠ none := Option.isSome_iff_ne_none.mp hguard.2
      have hstart : ¬ lastRequest ≤ windowStart now window := by omega
      simp [hnone, hstart]
    rw [if_neg hguard]
    have hfails : lastRequest ≤ windowStart now window ∨ record.requestCount = none := by
      rcases not_and_or.mp hguard with hstart | hnone
      · exact .inl (not_lt.mp hstart)
      · exact .inr (Option.not_isSome_iff_eq_none.mp hnone)
    exact iff_of_true rfl ⟨hroom, hfails⟩

theorem settle_eq_stalled_iff : settle config now record = .stalled ↔ Stalls config now record := by
  rw [settle_eq_iff (by simp)]
  simp only [Stalls, settleWindow_eq_stalled_iff, exists_and_left]

/-- A window that is a duration stalls the claim exactly when it has just passed. -/
theorem stallsWithin_milliseconds_iff {count max lastRequest requestCount : Int} (hfits : int64.InRange (count * 1000000))
    (hcount : record.requestCount = some requestCount) :
    StallsWithin now record (milliseconds count) max lastRequest ↔
      requestCount < max ∧ now = lastRequest + count * 1000000 := by
  have hwindow : milliseconds count = count * 1000000 := int64.wrap_of_inRange hfits
  -- The least and the greatest duration are not whole milliseconds.
  have hneg : int64.InRange (-(count * 1000000)) := by
    unfold int64.InRange int64.min int64.max at hfits ⊢
    omega
  have hmax : count * 1000000 ≠ int64.max := by
    unfold int64.max
    omega
  have hover : count * 1000000 < sub now lastRequest ↔ count * 1000000 < now - lastRequest :=
    int64.lt_saturate_iff hfits hmax
  unfold StallsWithin windowStart
  rw [hwindow, int64.wrap_of_inRange hneg, hcount]
  by_cases hpast : count * 1000000 < sub now lastRequest
  · rw [if_pos hpast]
    have := hover.mp hpast
    omega
  rw [if_neg hpast]
  have := mt hover.mpr hpast
  simp only [Option.getD_some, reduceCtorEq, or_false]
  omega

/-- A claim of the rate limit on a row that nobody else changes comes to an end exactly unless the
guards fail for the row as it was read. -/
theorem claimRateLimit_finishes_iff (service : Service) (clock : Int) (config : Configuration) (now : Int)
    {table : Table} {id : String} {record : Record} (hstored : table.get? id = some record) :
    (∃ result final, Finishes (step service clock) outcome (claimRateLimit config now (apiKeyFromRecord id record)) table
      result final) ↔ ¬ Stalls config now record := by
  rw [← settle_eq_stalled_iff]
  constructor
  · rintro ⟨result, final, hfinishes⟩ hstalled
    have hcomes := (finishes_claimRateLimit hstored).mp hfinishes
    rw [hstalled] at hcomes
    exact hcomes
  intro hsettled
  cases hcase : settle config now record with
  | granted changed =>
    refine ⟨granted id (changed.touched now), (table.set id changed).set id (changed.touched now), ?_⟩
    rw [finishes_claimRateLimit hstored, hcase]
    exact ⟨rfl, rfl⟩
  | limited =>
    refine ⟨verifyFailure (apiError statusTooManyRequests .rateLimited), table, ?_⟩
    rw [finishes_claimRateLimit hstored, hcase]
    exact ⟨rfl, rfl⟩
  | stalled => exact absurd hcase hsettled

end

/-! ## A key at the end of its window -/

private def service : Service :=
  { configurations := [{ configID := "default" }], byID := Dict.empty, defaultConfig := { configID := "default" }
    hashKey := fun key => key }

/-- A key that was used once, with ten requests to a minute. -/
private def usedOnce : Record :=
  { key := "secret", configID := some "default", rateLimitTimeWindow := some 60000, rateLimitMax := some 10
    requestCount := some 1, lastRequest := some 1700000000000000000, createdAt := 0, updatedAt := 0 }

private def keys : Table := Dict.empty.set "key" usedOnce

theorem claimRateLimit_finishes_iff_before_window_end :
    ∃ result final, Finishes (step service 0) outcome
      (claimRateLimit { configID := "default" } 1700000059999999999 (apiKeyFromRecord "key" usedOnce)) keys result final := by
  refine (claimRateLimit_finishes_iff service 0 { configID := "default" } 1700000059999999999
    (Dict.get?_set_self _ _ _)).mpr ?_
  rintro ⟨-, -, count, max, lastRequest, hcount, hmax, hlast, hstalls⟩
  cases hcount
  cases hmax
  cases hlast
  have := (stallsWithin_milliseconds_iff (by decide) rfl).mp hstalls
  omega

/-- One minute after its last request, to the nanosecond, a claim for the key never ends. -/
theorem claimRateLimit_never_ends :
    ¬ ∃ result final, Finishes (step service 0) outcome
      (claimRateLimit { configID := "default" } 1700000060000000000 (apiKeyFromRecord "key" usedOnce)) keys result final := by
  rintro ⟨result, final, hfinishes⟩
  have hstored : keys.get? "key" = some usedOnce := Dict.get?_set_self _ _ _
  have hstalls : StallsWithin 1700000060000000000 usedOnce (milliseconds 60000) 10 1700000000000000000 :=
    (stallsWithin_milliseconds_iff (by decide) rfl).mpr (by decide)
  have hsettle : settle { configID := "default" } 1700000060000000000 usedOnce = .stalled :=
    settle_eq_stalled_iff.mpr ⟨by decide, by decide, 60000, 10, 1700000000000000000, rfl, rfl, rfl, hstalls⟩
  have hcomes := (finishes_claimRateLimit hstored).mp hfinishes
  rw [hsettle] at hcomes
  exact hcomes

end singleauth.apikey
