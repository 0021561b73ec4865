import SingleAuth.Security.RateLimit.Agreement

open transition

namespace singleauth.ratelimit

/-- The requests of one key in a store in memory: those that were allowed in the last bucket, and the last time. -/
structure Requests where
  store : MemoryStore
  bucket : Option Record := none
  clock : Int

/-- The bucket with one more request. The window begins anew with each of them. -/
def addRequest (rule : Rule) (now : Int) : Option Record → Record
  | none => { key := "", count := 1, lastRequest := now }
  | some bucket =>
    { bucket with
      count := if now - bucket.lastRequest < rule.window * 1000 then bucket.count + 1 else 1
      lastRequest := now }

def Requests.consume (key : String) (rule : Rule) (requests : Requests) (now : Int) : Requests where
  store := (requests.store.consume key rule now).2
  bucket :=
    if (requests.store.consume key rule now).1.allowed then some (addRequest rule now requests.bucket)
    else requests.bucket
  clock := now

/-- A full bucket refuses every request until the window of its last one has passed. -/
def StaysFull (key : String) (rule : Rule) (requests : Requests) : Prop :=
  ∀ bucket ∈ requests.bucket, rule.max ≤ bucket.count → ∀ now, requests.clock ≤ now →
    now - bucket.lastRequest < rule.window * 1000 →
      ∃ retryAfter > 0, (requests.store.consume key rule now).1 = { allowed := false, retryAfter := some retryAfter }

/-- A request whose window ends within the range of time. -/
def EndsInRange (rule : Rule) (requests : Requests) (now : Int) : Prop :=
  requests.clock ≤ now ∧ int64.InRange (now + rule.window * 1000)

/-- The store holds the bucket. -/
structure Lasting (key : String) (rule : Rule) (requests : Requests) : Prop where
  mirrors : Mirrors key rule requests.store requests.bucket
  ends : ∀ bucket ∈ requests.bucket, 1 ≤ bucket.count ∧ bucket.lastRequest ≤ requests.clock ∧
    int64.InRange (bucket.lastRequest + rule.window * 1000)

section

variable {key : String} {rule : Rule} {requests : Requests} {now : Int} (hwindow : 0 ≤ rule.window)
  (hround : rule.window * 1000 + 999 ≤ int64.max)
include hwindow hround

theorem millis_eq : secondsToMillis rule.window = rule.window * 1000 := by
  unfold int64.max at hround
  rw [secondsToMillis_eq, if_neg (by omega), if_neg (by omega)]

/-- Within the window a request is refused by a full bucket only. -/
theorem decideConsume_of_live (record : Record) (hbefore : record.lastRequest ≤ now)
    (hlive : now - record.lastRequest < rule.window * 1000) :
    decideConsume (some record) rule now =
      if rule.max ≤ record.count then
        { next := record, update := true, allowed := false
          retryAfter := some (retryAfterAt record.lastRequest rule.window now) }
      else
        { next := { key := record.key, count := int64.wrap (record.count + 1), lastRequest := now }, update := true
          allowed := true, retryAfter := none } := by
  have helapsed : int64.wrap (now - record.lastRequest) = now - record.lastRequest :=
    int64.wrap_of_inRange ⟨by unfold int64.min; omega, by omega⟩
  rw [decideConsume, helapsed, millis_eq hwindow hround, if_neg (by omega)]

theorem Lasting.step (h : Lasting key rule requests) (hmax : rule.max ≤ int64.max)
    (hnow : EndsInRange rule requests now) : Lasting key rule (requests.consume key rule now) := by
  have hmillis := millis_eq hwindow hround
  have hfits : int64.InRange (now + secondsToMillis rule.window) := hmillis ▸ hnow.2
  obtain ⟨store, bucket, clock⟩ := requests
  obtain ⟨hmirrors, hends⟩ := h
  -- an allowed request leaves its own bucket behind
  have hadded (hallowed : (store.consume key rule now).1.allowed = true)
      (hafter : Mirrors key rule (store.consume key rule now).2 (some (addRequest rule now bucket)))
      (hpos : 1 ≤ (addRequest rule now bucket).count) (hlast : (addRequest rule now bucket).lastRequest = now) :
      Lasting key rule (Requests.consume key rule { store, bucket, clock } now) := by
    simp only [Requests.consume, hallowed, if_true]
    refine ⟨hafter, ?_⟩
    rintro _ ⟨⟩
    rw [hlast]
    exact ⟨hpos, Int.le_refl _, hnow.2⟩
  cases bucket with
  | none =>
    obtain ⟨hallowed, hafter⟩ := consume_of_none hfits ((prune_of_none hmirrors).symm ▸ hmirrors) ""
    exact hadded hallowed hafter (Int.le_refl _) rfl
  | some bucket =>
    obtain ⟨hpos, hbefore, hend⟩ := hends bucket rfl
    have hlater := Int.le_trans hbefore hnow.1
    by_cases hlive : now - bucket.lastRequest < rule.window * 1000
    · obtain ⟨hallowed, hafter⟩ := mirrors_of_live hfits hmirrors (show now < _ by omega)
      rw [decideConsume_of_live hwindow hround _ hlater hlive] at hallowed hafter
      rw [addRequest, if_pos hlive] at hadded
      split at hallowed
      · next hfull =>
        rw [if_pos hfull] at hafter
        simp only [Requests.consume, hallowed, Bool.false_eq_true, if_false]
        refine ⟨hafter, ?_⟩
        rintro _ ⟨⟩
        exact ⟨hpos, hlater, hend⟩
      · next hroom =>
        rw [if_neg hroom, int64.wrap_succ (by omega) (by omega)] at hafter
        exact hadded hallowed hafter (by dsimp only; omega) rfl
    · rw [addRequest, if_neg hlive] at hadded
      obtain ⟨hallowed, hafter⟩ := consume_of_none hfits (prune_of_expired hmirrors (by omega)) bucket.key
      exact hadded hallowed hafter (Int.le_refl _) rfl

theorem retryAfterAt_pos {last : Int} (hends : int64.InRange (last + rule.window * 1000)) (hbefore : last ≤ now)
    (hlive : now - last < rule.window * 1000) : 0 < retryAfterAt last rule.window now := by
  have hremaining : int64.InRange (last + rule.window * 1000 - now) := ⟨by unfold int64.min; omega, by omega⟩
  have hrounded : int64.InRange (last + rule.window * 1000 - now + 999) := ⟨by unfold int64.min; omega, by omega⟩
  unfold retryAfterAt
  dsimp only
  rw [millis_eq hwindow hround, int64.wrap_of_inRange hends, int64.wrap_of_inRange hremaining,
    int64.wrap_of_inRange hrounded, if_pos (by omega), Int.tdiv_eq_ediv_of_nonneg (by omega)]
  omega

theorem Lasting.staysFull (h : Lasting key rule requests) : StaysFull key rule requests := by
  obtain ⟨store, bucket, clock⟩ := requests
  rintro bucket ⟨⟩ hfull now hnow hlive
  obtain ⟨-, hbefore, hends⟩ := h.ends bucket rfl
  have hlater := Int.le_trans hbefore hnow
  have hopen : now < bucket.lastRequest + secondsToMillis rule.window := by
    rw [millis_eq hwindow hround]
    omega
  refine ⟨_, retryAfterAt_pos hwindow hround hends hlater hlive, ?_⟩
  rw [consume_of_live h.mirrors hopen, decideConsume_of_live hwindow hround _ hlater hlive, if_pos hfull]

end

/-- A full bucket stays so for its window, where windows end within the range of time and leave room for rounding. -/
theorem fullBucket_refuses (key : String) {rule : Rule} (hwindow : 0 ≤ rule.window) (hmax : rule.max ≤ int64.max)
    (hround : rule.window * 1000 + 999 ≤ int64.max) (maxEntries clock : Int) {requests : Requests}
    (hreached : Reached (Requests.consume key rule) (EndsInRange rule)
      { store := newMemoryStore maxEntries, clock } requests) :
    StaysFull key rule requests := by
  have hstart : Lasting key rule { store := newMemoryStore maxEntries, clock } :=
    ⟨newMemoryStore_mirrors key rule maxEntries, nofun⟩
  have hlasting := hreached.invariant (Lasting key rule) hstart fun _ _ h hnow => h.step hwindow hround hmax hnow
  exact hlasting.staysFull hwindow hround

/-- The requests of a key at some times. -/
def requestsAt (rule : Rule) (times : List Int) : Requests :=
  times.foldl (Requests.consume "k" rule) { store := newMemoryStore 0, clock := 0 }

theorem fullBucket_refuses_minute : StaysFull "k" ⟨60, 1⟩ (requestsAt ⟨60, 1⟩ [5]) :=
  fullBucket_refuses "k" (by decide) (by decide) (by decide) 0 0 (.next .start ⟨by decide, by decide⟩)

/-- The end of a window of three hundred million years is before its start. -/
theorem longWindow_forgotten : ¬ StaysFull "k" ⟨10000000000000000, 1⟩ (requestsAt ⟨10000000000000000, 1⟩ [1]) := by
  intro h
  obtain ⟨_, _, hrefused⟩ := h _ rfl (by decide) 2 (by decide) (by decide)
  have hallowed : ((requestsAt ⟨10000000000000000, 1⟩ [1]).store.consume "k"
      ⟨10000000000000000, 1⟩ 2).1.allowed = true := by decide
  rw [hrefused] at hallowed
  cases hallowed

end singleauth.ratelimit
