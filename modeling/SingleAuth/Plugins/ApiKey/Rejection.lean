import SingleAuth.Plugins.ApiKey.Sequential

open dict process singleauth.contract

namespace singleauth.apikey

/-! ## A key that exists -/

/-- The first configuration under which the key is found, and its row. -/
def locate (service : Service) (input : VerifyInput) (table : Table) :
    List Configuration → Option (Configuration × String × Record)
  | [] => none
  | config :: rest =>
    match findKey service input config table with
    | some (id, record) => some (config, id, record)
    | none => locate service input table rest

section

variable {service : Service} {clock : Int} {input : VerifyInput} {config : Configuration} {configs : List Configuration}
  {now : Int} {table final : Table} {result : VerifyResult} {id : String} {record : Record}

section

variable (h : locate service input table configs = some (config, id, record))
include h

theorem get?_of_locate : table.get? id = some record := by
  induction configs with
  | nil => cases h
  | cons first rest ih =>
    rw [locate] at h
    cases hfound : findKey service input first table with
    | none =>
      rw [hfound] at h
      exact ih h
    | some row =>
      rw [hfound] at h
      cases h
      exact Dict.get?_eq_some_iff.mpr (List.mem_of_find?_eq_some hfound)

theorem finishes_find :
    Finishes (step service clock) outcome (.find input configs) table result final ↔
      Finishes (step service clock) outcome (examine input config clock (apiKeyFromRecord id record)) table result final := by
  induction configs with
  | nil => cases h
  | cons first rest ih =>
    rw [locate] at h
    rw [finishes_of_running rfl]
    cases hfound : findKey service input first table with
    | none =>
      rw [hfound] at h
      simp only [step, hfound]
      exact ih h
    | some row =>
      rw [hfound] at h
      cases h
      simp only [step, hfound]
      exact finishes_of_running rfl

end

/-! ## What a refusal leaves of the quota -/

/-- The row that a claim of the allowance leaves when nobody else changes it. -/
def claimed (now : Int) (id : String) (record : Record) : Option Record :=
  match refillDue now (apiKeyFromRecord id record) with
  | some amount => some (record.refilled now amount)
  | none => if record.claimable then some record.decremented else none

/-- The quota of a row is as before, unless the row was deleted because the key has expired or is
exhausted. -/
def QuotaKept (now : Int) (id : String) (record : Record) : Option Record → Prop
  | none => expired now (apiKeyFromRecord id record) = true ∨ exhausted (apiKeyFromRecord id record) = true
  | some after =>
    after.remaining = record.remaining ∧ after.requestCount = record.requestCount ∧ after.lastRequest = record.lastRequest

/-- Every refusal that a phase of a verification comes to keeps the quota of the row. -/
def RefusalsKeep (service : Service) (clock : Int) (id : String) (record : Record) (phase : Phase) (table : Table) : Prop :=
  ∀ result final, Finishes (step service clock) outcome phase table result final → result.valid = false →
    QuotaKept clock id record (final.get? id)

variable {code : ErrorCode} {status : Nat}

theorem refusalsKeep_refuse :
    RefusalsKeep service clock id record (refuse status code) table ↔ QuotaKept clock id record (table.get? id) := by
  constructor
  · intro h
    exact h _ _ (finishes_refuse.mpr ⟨rfl, rfl⟩) rfl
  · intro hkept result final hfinishes _
    obtain ⟨-, rfl⟩ := finishes_refuse.mp hfinishes
    exact hkept

theorem refusalsKeep_pending {call : Call} {phase : Phase} {after : Table}
    (hperform : perform config now call table = (phase, after)) :
    RefusalsKeep service clock id record (.pending config now call) table ↔
      RefusalsKeep service clock id record phase after := by
  unfold RefusalsKeep
  simp only [finishes_pending, hperform]

variable {changed : Record}

theorem refusalsKeep_claimRateLimit (hstored : table.get? id = some changed) :
    RefusalsKeep service clock id record (claimRateLimit config now (apiKeyFromRecord id changed)) table ↔
      (settle config now changed = .limited → QuotaKept clock id record (some changed)) := by
  constructor
  · intro h hlimited
    have hcomes : Comes id now table (settle config now changed)
        (verifyFailure (apiError statusTooManyRequests .rateLimited)) table := by
      rw [hlimited]
      exact ⟨rfl, rfl⟩
    have hkept := h _ _ ((finishes_claimRateLimit hstored).mpr hcomes) rfl
    rw [hstored] at hkept
    exact hkept
  intro h result final hfinishes hinvalid
  have hcomes := (finishes_claimRateLimit hstored).mp hfinishes
  cases hsettle : settle config now changed with
  | granted written =>
    rw [hsettle] at hcomes
    obtain ⟨rfl, -⟩ := hcomes
    cases hinvalid
  | limited =>
    rw [hsettle] at hcomes
    obtain ⟨-, rfl⟩ := hcomes
    rw [hstored]
    exact h hsettle
  | stalled =>
    rw [hsettle] at hcomes
    exact hcomes.elim

theorem refusalsKeep_claimRemaining (hstored : table.get? id = some record) :
    RefusalsKeep service clock id record (claimRemaining config now (apiKeyFromRecord id record)) table ↔
      ∀ changed, claimed now id record = some changed → settle config now changed = .limited →
        QuotaKept clock id record (some changed) := by
  have hwritten : ∀ changed, RefusalsKeep service clock id record
      (claimRateLimit config now (apiKeyFromRecord id changed)) (table.set id changed) ↔
        (settle config now changed = .limited → QuotaKept clock id record (some changed)) :=
    fun changed => refusalsKeep_claimRateLimit (table.get?_set_self id changed)
  unfold claimRemaining claimed
  cases hdue : refillDue now (apiKeyFromRecord id record) with
  | some amount =>
    -- Nobody else refilled, so the last refill is the one that was read.
    have hguard : record.refillable (apiKeyFromRecord id record).lastRefillAt = true := decide_eq_true rfl
    have hperform : perform config now (.refill id (apiKeyFromRecord id record).lastRefillAt amount) table =
        (claimRateLimit config now (apiKeyFromRecord id (record.refilled now amount)),
          table.set id (record.refilled now amount)) := by
      rw [perform, incrementOne_of_guard hstored hguard]
    simp only [Option.some.injEq, forall_eq']
    exact (refusalsKeep_pending hperform).trans (hwritten _)
  | none =>
    by_cases hguard : record.claimable = true
    · have hperform : perform config now (.decrement id) table =
          (claimRateLimit config now (apiKeyFromRecord id record.decremented), table.set id record.decremented) := by
        rw [perform, incrementOne_of_guard hstored hguard]
      rw [if_pos hguard]
      simp only [Option.some.injEq, forall_eq']
      exact (refusalsKeep_pending hperform).trans (hwritten _)
    have hperform : perform config now (.decrement id) table =
        (refuse statusTooManyRequests .usageExceeded, table) := by
      rw [perform, incrementOne_of_not_guard hstored (eq_false_of_ne_true hguard)]
    have hkept : QuotaKept clock id record (table.get? id) := by
      rw [hstored]
      exact ⟨rfl, rfl, rfl⟩
    rw [if_neg hguard]
    exact iff_of_true ((refusalsKeep_pending hperform).mpr (refusalsKeep_refuse.mpr hkept)) (by simp)

/-! ## Which refusals spend -/

/-- The rate limit refuses the request. -/
def OverLimit (config : Configuration) (now : Int) (record : Record) : Prop :=
  config.rateLimitEnabled ≠ some false ∧ record.rateLimitEnabled ≠ some false ∧
    ∃ count max lastRequest, record.rateLimitTimeWindow = some count ∧ record.rateLimitMax = some max ∧
      record.lastRequest = some lastRequest ∧ sub now lastRequest ≤ milliseconds count ∧
      max ≤ record.requestCount.getD 0

/-- A claim of the allowance changes what remains. -/
def Spends (now : Int) (key : APIKey) : Prop :=
  ∃ remaining, key.remaining = some remaining ∧
    match refillDue now key with
    | some amount => amount ≠ remaining + 1
    | none => 0 < remaining

theorem settle_eq_limited_iff : settle config now record = .limited ↔ OverLimit config now record := by
  rw [settle_eq_iff (by simp)]
  have hwithin : ∀ window max, settleWindow now record window max = .limited ↔
      ∃ lastRequest, record.lastRequest = some lastRequest ∧ sub now lastRequest ≤ window ∧
        max ≤ record.requestCount.getD 0 := by
    intro window max
    unfold settleWindow
    cases record.lastRequest with
    | none => simp
    | some lastRequest =>
      by_cases hover : window < sub now lastRequest
      · have hnot : ¬ sub now lastRequest ≤ window := by omega
        simp only [if_pos hover, Option.some.injEq, exists_eq_left', hnot, false_and, iff_false]
        split <;> simp
      have hin : sub now lastRequest ≤ window := by omega
      simp only [if_neg hover, Option.some.injEq, exists_eq_left', hin, true_and]
      by_cases hfull : max ≤ record.requestCount.getD 0
      · simp [hfull]
      · rw [if_neg hfull]
        refine iff_of_false ?_ hfull
        split <;> simp
  simp only [OverLimit, hwithin, exists_and_left]

section

variable (h : claimed now id record = some changed)
include h

theorem claimed_cases : (∃ amount, changed = record.refilled now amount) ∨ changed = record.decremented := by
  unfold claimed at h
  split at h
  · cases h
    exact .inl ⟨_, rfl⟩
  split at h
  · cases h
    exact .inr rfl
  · cases h

/-- The claim of the allowance leaves the rate limit alone. -/
theorem overLimit_claimed : OverLimit config now changed ↔ OverLimit config now record := by
  obtain ⟨amount, rfl⟩ | rfl := claimed_cases h
  · exact Iff.rfl
  · exact Iff.rfl

theorem requests_claimed : changed.requestCount = record.requestCount ∧ changed.lastRequest = record.lastRequest := by
  obtain ⟨amount, rfl⟩ | rfl := claimed_cases h
  · exact ⟨rfl, rfl⟩
  · exact ⟨rfl, rfl⟩

end

/-- What remains is another number after a claim exactly when the claim spends. -/
theorem spends_iff (hremaining : record.remaining.isSome) :
    Spends now (apiKeyFromRecord id record) ↔
      ∃ changed, claimed now id record = some changed ∧ changed.remaining ≠ record.remaining := by
  obtain ⟨remaining, hremaining⟩ := Option.isSome_iff_exists.mp hremaining
  have hkey : (apiKeyFromRecord id record).remaining = some remaining := hremaining
  unfold Spends claimed
  simp only [hkey, Option.some.injEq, exists_eq_left']
  cases hdue : refillDue now (apiKeyFromRecord id record) with
  | some amount =>
    simp only [Option.some.injEq, exists_eq_left', Record.refilled, hremaining, ne_eq]
    omega
  | none =>
    by_cases hpositive : 0 < remaining
    · have hother : remaining - 1 ≠ remaining := by omega
      simp [hremaining, hpositive, Record.claimable, Record.decremented, hother]
    · simp [hremaining, hpositive, Record.claimable]

theorem not_spends_of_exhausted {key : APIKey} (h : exhausted key = true) : ¬ Spends now key := by
  simp only [exhausted, Bool.and_eq_true, decide_eq_true_eq, Option.isNone_iff_eq_none] at h
  obtain ⟨hzero, hamount⟩ := h
  have hdue : refillDue now key = none := by
    unfold refillDue
    cases key.refillInterval <;> simp [hamount]
  rintro ⟨remaining, hremaining, hspends⟩
  rw [hdue] at hspends
  rw [hzero] at hremaining
  cases hremaining
  exact absurd hspends (lt_irrefl 0)

/-- A key that passes all checks, whose allowance is claimed although its rate limit then refuses
the request. -/
structure Overcharged (input : VerifyInput) (config : Configuration) (now : Int) (id : String) (record : Record) :
    Prop where
  enabled : (apiKeyFromRecord id record).enabled = true
  current : expired now (apiKeyFromRecord id record) = false
  permitted : permitted input (apiKeyFromRecord id record) = true
  spends : Spends now (apiKeyFromRecord id record)
  overLimit : OverLimit config now record

/-- The deletion of an expired or exhausted key is no loss of quota. -/
theorem refusalsKeep_delete
    (hwhy : expired clock (apiKeyFromRecord id record) = true ∨ exhausted (apiKeyFromRecord id record) = true) :
    RefusalsKeep service clock id record (.pending config now (.delete id status code)) table := by
  refine (refusalsKeep_pending rfl).mpr (refusalsKeep_refuse.mpr ?_)
  rw [Dict.get?_erase, if_pos rfl]
  exact hwhy

/-- Refusals behind a claim of the allowance keep the quota exactly unless the claim spends and
the rate limit refuses. -/
theorem refusalsKeep_claimRemaining_iff (hstored : table.get? id = some record) (hremaining : record.remaining.isSome) :
    RefusalsKeep service clock id record (claimRemaining config now (apiKeyFromRecord id record)) table ↔
      ¬ (Spends now (apiKeyFromRecord id record) ∧ OverLimit config now record) := by
  rw [refusalsKeep_claimRemaining hstored]
  constructor
  · rintro hkeeps ⟨hspends, hover⟩
    obtain ⟨changed, hclaimed, hother⟩ := (spends_iff hremaining).mp hspends
    have hlimited := settle_eq_limited_iff.mpr ((overLimit_claimed hclaimed).mpr hover)
    exact hother (hkeeps changed hclaimed hlimited).1
  intro hnot changed hclaimed hlimited
  have hover := (overLimit_claimed hclaimed).mp (settle_eq_limited_iff.mp hlimited)
  obtain ⟨hcount, hlast⟩ := requests_claimed hclaimed
  refine ⟨?_, hcount, hlast⟩
  by_contra hother
  exact hnot ⟨(spends_iff hremaining).mpr ⟨changed, hclaimed, hother⟩, hover⟩

theorem refusalsKeep_examine (hstored : table.get? id = some record) :
    RefusalsKeep service clock id record (examine input config clock (apiKeyFromRecord id record)) table ↔
      ¬ Overcharged input config clock id record := by
  have hkept : QuotaKept clock id record (table.get? id) := by
    rw [hstored]
    exact ⟨rfl, rfl, rfl⟩
  unfold examine
  -- The cases are the checks in their order; each refusal before the claims contradicts a field.
  by_cases henabled : (apiKeyFromRecord id record).enabled = true
  swap
  · rw [if_pos (by simp [henabled])]
    exact iff_of_true (refusalsKeep_refuse.mpr hkept) fun hover => henabled hover.enabled
  rw [if_neg (by simp [henabled])]
  by_cases hexpired : expired clock (apiKeyFromRecord id record) = true
  · rw [if_pos hexpired]
    exact iff_of_true (refusalsKeep_delete (.inl hexpired)) fun hover => by simp [hover.current] at hexpired
  rw [if_neg hexpired]
  by_cases hpermitted : permitted input (apiKeyFromRecord id record) = true
  swap
  · rw [if_pos (by simp [hpermitted])]
    exact iff_of_true (refusalsKeep_refuse.mpr hkept) fun hover => hpermitted hover.permitted
  rw [if_neg (by simp [hpermitted])]
  by_cases hexhausted : exhausted (apiKeyFromRecord id record) = true
  · rw [if_pos hexhausted]
    exact iff_of_true (refusalsKeep_delete (.inr hexhausted)) fun hover => not_spends_of_exhausted hexhausted hover.spends
  rw [if_neg hexhausted]
  by_cases hremaining : (apiKeyFromRecord id record).remaining.isSome = true
  · rw [if_pos hremaining, refusalsKeep_claimRemaining_iff hstored hremaining]
    refine not_congr ⟨fun ⟨hspends, hover⟩ => ?_, fun hover => ⟨hover.spends, hover.overLimit⟩⟩
    exact ⟨henabled, eq_false_of_ne_true hexpired, hpermitted, hspends, hover⟩
  rw [if_neg hremaining, refusalsKeep_claimRateLimit hstored]
  refine iff_of_true (fun _ => ⟨rfl, rfl, rfl⟩) fun hover => ?_
  obtain ⟨remaining, hsome, -⟩ := hover.spends
  rw [hsome] at hremaining
  exact hremaining rfl

end

/-- The refusals of a verification of a key that exists leave its quota as it was, apart from the
deletion of expired and exhausted keys, exactly unless the rate limit refuses a request whose
allowance was claimed before. -/
theorem verify_refusals_keep_quota_iff (service : Service) (input : VerifyInput) (now : Int) {table : Table}
    {configs : List Configuration} {config : Configuration} {id : String} {record : Record}
    (hconfigs : verify service input = .find input configs)
    (hlocated : locate service input table configs = some (config, id, record)) :
    RefusalsKeep service now id record (verify service input) table ↔ ¬ Overcharged input config now id record := by
  have hexamine : RefusalsKeep service now id record (examine input config now (apiKeyFromRecord id record)) table ↔
      ¬ Overcharged input config now id record := refusalsKeep_examine (get?_of_locate hlocated)
  rw [← hexamine, hconfigs]
  unfold RefusalsKeep
  simp only [finishes_find hlocated]

/-! ## A key with an allowance and a rate limit -/

private def defaultService : Service :=
  { configurations := [{ configID := "default" }], byID := Dict.empty, defaultConfig := { configID := "default" }
    hashKey := fun key => key }

/-- A key with five requests left, and with ten requests to a minute. -/
private def fiveLeft (requestCount : Int) : Record :=
  { key := "secret", configID := some "default", remaining := some 5, rateLimitTimeWindow := some 60000
    rateLimitMax := some 10, requestCount := some requestCount, lastRequest := some 1700000000000000000
    createdAt := 0, updatedAt := 0 }

private def oneKey (record : Record) : Table := Dict.empty.set "key" record

theorem verify_refusals_keep_quota_iff_below_limit :
    RefusalsKeep defaultService 1700000001000000000 "key" (fiveLeft 9) (verify defaultService { key := "secret" })
      (oneKey (fiveLeft 9)) := by
  refine (verify_refusals_keep_quota_iff defaultService { key := "secret" } 1700000001000000000 rfl rfl).mpr
    fun hover => ?_
  obtain ⟨-, -, count, max, lastRequest, -, hmax, -, -, hfull⟩ := hover.overLimit
  cases hmax
  exact absurd hfull (by decide)

/-- The tenth request to the minute was made, so the next one is refused. It is one of the five
requests left nevertheless. -/
theorem verify_rate_limited_spends :
    ¬ RefusalsKeep defaultService 1700000001000000000 "key" (fiveLeft 10) (verify defaultService { key := "secret" })
      (oneKey (fiveLeft 10)) := by
  have hrun : ((run (step defaultService 1700000001000000000) outcome 4 (verify defaultService { key := "secret" })
      (oneKey (fiveLeft 10))).map fun ended => (ended.1.valid, (ended.2.get? "key").bind Record.remaining)) =
        some (false, some 4) := by decide +kernel
  obtain ⟨⟨result, final⟩, hended, hvalues⟩ := Option.map_eq_some_iff.mp hrun
  intro hkeeps
  have hkept := hkeeps result final (finishes_of_run hended) (congrArg Prod.fst hvalues)
  have hremaining : (final.get? "key").bind Record.remaining = some 4 := congrArg Prod.snd hvalues
  cases hrow : final.get? "key" with
  | none =>
    rw [hrow] at hremaining
    cases hremaining
  | some after =>
    rw [hrow] at hkept hremaining
    have hfive : after.remaining = some 5 := hkept.1
    rw [Option.bind_some, hfive] at hremaining
    cases hremaining

end singleauth.apikey
