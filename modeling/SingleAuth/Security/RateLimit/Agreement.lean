import SingleAuth.Security.RateLimit.Database
import SingleAuth.Security.RateLimit.Memory

open dict

namespace singleauth.ratelimit

/-- No request comes when the window of the request before, as the decisions have it, has just
passed. -/
def OffBoundary (rule : Rule) : Option Record → List Int → Prop
  | _, [] => True
  | data, now :: rest =>
    (∀ record ∈ data, now ≠ record.lastRequest + secondsToMillis rule.window) ∧
      OffBoundary rule (some (decideConsume data rule now).next) rest

/-- Times and windows that are computed with do not leave the range of their type. -/
structure Fits (globalWindow : Int) (rule : Rule) (times : List Int) : Prop where
  elapsed : ∀ now ∈ times, ∀ earlier ∈ times, int64.InRange (now - earlier)
  expiry : ∀ now ∈ times, int64.InRange (now + secondsToMillis rule.window)
  start : ∀ now ∈ times, int64.InRange (now - secondsToMillis rule.window)
  oldest : ∀ now ∈ times, int64.InRange (now - secondsToMillis (longestWindow globalWindow))

/-! ## The store in memory -/

/-- The entry of a key with the record that the decisions have left. -/
def heldEntry (key : String) (rule : Rule) (record : Record) (handle : Nat) : MemoryEntry :=
  { record := { record with key }, expiresAt := record.lastRequest + secondsToMillis rule.window, order := handle }

/-- The store holds what the decisions have left of one key, and nothing else. -/
structure Mirrors (key : String) (rule : Rule) (store : MemoryStore) (data : Option Record) : Prop where
  maxEntries : 1 ≤ store.maxEntries
  contents : match data with
    | none => store.entries = Dict.empty ∧ store.order = []
    | some record => ∃ handle, store.order = [{ handle, key }] ∧
      store.entries = Dict.empty.set key (heldEntry key rule record handle)

section

variable {key : String} {rule : Rule} {store : MemoryStore} {record : Record} {now : Int}

theorem newMemoryStore_mirrors (key : String) (rule : Rule) (maxEntries : Int) :
    Mirrors key rule (newMemoryStore maxEntries) none := by
  refine ⟨?_, rfl, rfl⟩
  unfold newMemoryStore defaultMemoryMaxEntries
  dsimp only
  split <;> omega

theorem prune_of_none (h : Mirrors key rule store none) : store.prune now = store := by
  obtain ⟨hentries, horder⟩ := h.contents
  simp [MemoryStore.prune, horder, hentries, Dict.empty, MemoryStore.evict]

section

variable (h : Mirrors key rule store (some record))
include h

theorem Mirrors.held : ∃ handle, store.order = [{ handle, key }] ∧
    store.entries = Dict.empty.set key (heldEntry key rule record handle) ∧
      store.entries.get? key = some (heldEntry key rule record handle) := by
  obtain ⟨handle, horder, hentries⟩ := h.contents
  exact ⟨handle, horder, hentries, by rw [hentries, Dict.get?_set_self]⟩

theorem prune_of_live (hlive : now < record.lastRequest + secondsToMillis rule.window) : store.prune now = store := by
  obtain ⟨handle, horder, hentries, hentry⟩ := h.held
  have hexpire : store.order.foldl (MemoryStore.expire now) store = store := by
    rw [horder, List.foldl_cons, List.foldl_nil, MemoryStore.expire, hentry]
    exact if_neg (not_le.mpr hlive)
  have hlength : store.entries.entries.length = 1 := by
    rw [hentries]
    rfl
  have hroom := h.maxEntries
  unfold MemoryStore.prune
  rw [hexpire]
  dsimp only
  rw [hlength, horder, List.length_singleton, MemoryStore.evict, if_pos (by omega)]

theorem prune_of_expired (hexpired : record.lastRequest + secondsToMillis rule.window ≤ now) :
    Mirrors key rule (store.prune now) none := by
  obtain ⟨handle, horder, hentries, hentry⟩ := h.held
  have herase : store.entries.erase key = Dict.empty := by
    refine Dict.ext_get? fun other => ?_
    rw [Dict.get?_erase, hentries]
    split
    · rfl
    · next hne => exact Dict.get?_set_of_ne _ _ hne
  have hexpire : store.order.foldl (MemoryStore.expire now) store = { store with entries := Dict.empty, order := [] } := by
    rw [horder, List.foldl_cons, List.foldl_nil, MemoryStore.expire, hentry]
    dsimp only
    rw [if_pos (show (heldEntry key rule record handle).expiresAt ≤ now from hexpired), MemoryStore.remove]
    simp [heldEntry, horder, herase]
  unfold MemoryStore.prune
  rw [hexpire]
  exact ⟨h.maxEntries, rfl, rfl⟩

/-- A request within the window is decided on the record. -/
theorem consume_of_live (hlive : now < record.lastRequest + secondsToMillis rule.window) :
    store.consume key rule now =
      ({ allowed := (decideConsume (some record) rule now).allowed
         retryAfter := (decideConsume (some record) rule now).retryAfter },
        if (decideConsume (some record) rule now).allowed then
          store.set key { (decideConsume (some record) rule now).next with key }
            (int64.wrap (now + secondsToMillis rule.window))
        else store) := by
  obtain ⟨handle, -, -, hentry⟩ := h.held
  have hcurrent : ((store.entries.get? key).filter fun entry => decide (now < entry.expiresAt)).map
      MemoryEntry.record = some { record with key } := by
    simp [hentry, heldEntry, hlive]
  unfold MemoryStore.consume
  rw [prune_of_live h hlive]
  dsimp only
  rw [hcurrent, decideConsume_rename]

end

section

variable (hfits : int64.InRange (now + secondsToMillis rule.window))
include hfits

/-- A request on an empty store is the first one of a window. -/
theorem consume_of_none (h : Mirrors key rule (store.prune now) none) (name : String) :
    (store.consume key rule now).1.allowed = true ∧
      Mirrors key rule (store.consume key rule now).2 (some { key := name, count := 1, lastRequest := now }) := by
  obtain ⟨hentries, horder⟩ := h.contents
  have hnone : (store.prune now).entries.get? key = none := by
    rw [hentries]
    rfl
  have hconsume : store.consume key rule now =
      ({ allowed := true }, (store.prune now).set key { key, count := 1, lastRequest := now }
        (now + secondsToMillis rule.window)) := by
    simp [MemoryStore.consume, hnone, decideConsume, int64.wrap_of_inRange hfits]
  rw [hconsume]
  simp only [MemoryStore.set, hnone]
  refine ⟨trivial, h.maxEntries, (store.prune now).nextHandle, ?_, ?_⟩
  · rw [horder]
    rfl
  · rw [hentries]
    rfl

theorem mirrors_of_live
    (h : Mirrors key rule store (some record)) (hlive : now < record.lastRequest + secondsToMillis rule.window) :
    (store.consume key rule now).1.allowed = (decideConsume (some record) rule now).allowed ∧
      Mirrors key rule (store.consume key rule now).2 (some (decideConsume (some record) rule now).next) := by
  obtain ⟨handle, horder, hentries, hentry⟩ := h.held
  rw [consume_of_live h hlive, int64.wrap_of_inRange hfits]
  refine ⟨rfl, ?_⟩
  cases hallowed : (decideConsume (some record) rule now).allowed with
  | false =>
    rw [decideConsume_of_refused hallowed]
    exact h
  | true =>
    simp only [if_pos, MemoryStore.set, hentry]
    refine ⟨h.maxEntries, handle, horder, ?_⟩
    have hlast := decideConsume_lastRequest hallowed
    refine Dict.ext_get? fun other => ?_
    rw [hentries, Dict.get?_set, Dict.get?_set, Dict.get?_set]
    split
    · simp only [heldEntry, hlast]
    · rfl

/-- The window of the record has not just passed, so the store in memory decides as `decideConsume` does. -/
theorem consume_off_boundary {data : Option Record}
    (helapsed : ∀ record ∈ data, int64.InRange (now - record.lastRequest)) (h : Mirrors key rule store data)
    (hoff : ∀ record ∈ data, now ≠ record.lastRequest + secondsToMillis rule.window) :
    (store.consume key rule now).1.allowed = (decideConsume data rule now).allowed ∧
      Mirrors key rule (store.consume key rule now).2 (some (decideConsume data rule now).next) := by
  cases data with
  | none =>
    have hempty : Mirrors key rule (store.prune now) none := by
      rw [prune_of_none h]
      exact h
    exact consume_of_none hfits hempty ""
  | some record =>
    have hne := hoff record rfl
    by_cases hlive : now < record.lastRequest + secondsToMillis rule.window
    · exact mirrors_of_live hfits h hlive
    have hover : secondsToMillis rule.window < int64.wrap (now - record.lastRequest) := by
      rw [int64.wrap_of_inRange (helapsed record rfl)]
      omega
    have hempty : Mirrors key rule (store.prune now) none := prune_of_expired h (by omega)
    simp only [decideConsume, if_pos hover]
    exact consume_of_none hfits hempty record.key

end

end

/-! ## The store in the database -/

section

variable {globalWindow : Int} {key : String} {rule : Rule} {now : Int} {table : Table}

/-- The row of the key holds what the decisions have left. -/
def RowMirrors (key : String) (table : Table) (data : Option Record) : Prop :=
  table.get? key = data.map fun record => { count := record.count, lastRequest := record.lastRequest }

theorem consumeAlone_off_boundary {data : Option Record}
    (holdest : int64.InRange (now - secondsToMillis (longestWindow globalWindow)))
    (hstart : int64.InRange (now - secondsToMillis rule.window))
    (helapsed : ∀ record ∈ data, int64.InRange (now - record.lastRequest)) (h : RowMirrors key table data)
    (hoff : ∀ record ∈ data, now ≠ record.lastRequest + secondsToMillis rule.window) :
    (consumeAlone globalWindow key rule now table).1.allowed = (decideConsume data rule now).allowed ∧
      RowMirrors key (consumeAlone globalWindow key rule now table).2 (some (decideConsume data rule now).next) := by
  unfold RowMirrors at *
  cases data with
  | none =>
    simp only [consumeAlone, h, Option.map_none, decideConsume, Option.map_some]
    exact ⟨trivial, Dict.get?_set_self _ _ _⟩
  | some record =>
    have hne := hoff record rfl
    simp only [consumeAlone, h, Option.map_some, decideConsume]
    rw [int64.wrap_of_inRange (helapsed record rfl)]
    by_cases hover : secondsToMillis rule.window < now - record.lastRequest
    · rw [if_pos hover, if_pos hover]
      -- a row that was just written is not pruned
      have hnonneg := longestWindow_millis_nonneg globalWindow
      rw [deleteBefore, Dict.get?_filter_eq_some_iff, int64.wrap_of_inRange holdest]
      exact ⟨rfl, Dict.get?_set_self _ _ _, decide_eq_true (by dsimp only; omega)⟩
    rw [if_neg hover, if_neg hover, int64.wrap_of_inRange hstart]
    have hwithin : now - secondsToMillis rule.window < record.lastRequest := by omega
    by_cases hfull : rule.max ≤ record.count
    · rw [if_neg (by omega), if_pos hfull]
      exact ⟨rfl, h⟩
    · rw [if_pos ⟨hwithin, by omega⟩, if_neg hfull]
      exact ⟨rfl, Dict.get?_set_self _ _ _⟩

/-- When the window has just passed, the store in the database refuses every request. -/
theorem consumeAlone_at_boundary {record : Record} (hstart : int64.InRange (now - secondsToMillis rule.window))
    (helapsed : int64.InRange (now - record.lastRequest)) (h : RowMirrors key table (some record))
    (hon : now = record.lastRequest + secondsToMillis rule.window) :
    (consumeAlone globalWindow key rule now table).1.allowed = false := by
  unfold RowMirrors at h
  simp only [consumeAlone, h, Option.map_some]
  rw [int64.wrap_of_inRange helapsed, int64.wrap_of_inRange hstart, if_neg (by omega), if_neg (by omega)]

end

/-! ## Agreement -/

variable {rule : Rule} {now : Int} {store : MemoryStore} {data : Option Record} {times : List Int}

/-- Decisions are about the time of the request or an earlier one. -/
theorem decideConsume_lastRequest_mem (hnow : now ∈ times) (hdata : ∀ record ∈ data, record.lastRequest ∈ times) :
    (decideConsume data rule now).next.lastRequest ∈ times := by
  cases hallowed : (decideConsume data rule now).allowed with
  | true =>
    rw [decideConsume_lastRequest hallowed]
    exact hnow
  | false =>
    cases data with
    | none => cases hallowed
    | some record =>
      rw [decideConsume_of_refused hallowed]
      exact hdata record rfl

/-- From stores that hold what the decisions have left, the answers go on to agree exactly as long as no
request comes when a window has just passed. -/
theorem agree_iff_of_mirrors {globalWindow : Int} {key : String} {rest : List Int} {table : Table}
    (hfits : Fits globalWindow rule times)
    (hrest : ∀ now ∈ rest, now ∈ times) (hdata : ∀ record ∈ data, record.lastRequest ∈ times)
    (hmemory : Mirrors key rule store data) (hrow : RowMirrors key table data) :
    (MemoryStore.consumeAll key rule store rest = decideAll rule data rest ∧
      Answers globalWindow key rule table rest (decideAll rule data rest)) ↔ OffBoundary rule data rest := by
  induction rest generalizing data store table with
  | nil => exact iff_of_true ⟨rfl, .nil⟩ trivial
  | cons now rest ih =>
    have hnow := hrest now List.mem_cons_self
    have helapsed : ∀ record ∈ data, int64.InRange (now - record.lastRequest) :=
      fun record hrecord => hfits.elapsed now hnow _ (hdata record hrecord)
    rw [decideAll, MemoryStore.consumeAll, OffBoundary, List.cons.injEq, answers_cons_iff]
    by_cases hoff : ∀ record ∈ data, now ≠ record.lastRequest + secondsToMillis rule.window
    · obtain ⟨hmemoryAllowed, hmemoryNext⟩ := consume_off_boundary (hfits.expiry now hnow) helapsed hmemory hoff
      obtain ⟨hrowAllowed, hrowNext⟩ :=
        consumeAlone_off_boundary (hfits.oldest now hnow) (hfits.start now hnow) helapsed hrow hoff
      have hnext : ∀ record ∈ some (decideConsume data rule now).next, record.lastRequest ∈ times := by
        intro record hrecord
        cases hrecord
        exact decideConsume_lastRequest_mem hnow hdata
      rw [← ih (fun later hlater => hrest later (List.mem_cons_of_mem _ hlater)) hnext hmemoryNext hrowNext]
      exact ⟨fun h => ⟨hoff, h.1.2, h.2.2⟩, fun h => ⟨⟨hmemoryAllowed, h.2.1⟩, hrowAllowed, h.2.2⟩⟩
    · -- The two stores answer differently, so one of them does not answer as decided.
      refine iff_of_false ?_ fun h => hoff h.1
      rintro ⟨⟨hmemoryAllowed, -⟩, hrowAllowed, -⟩
      push Not at hoff
      obtain ⟨record, hrecord, hon⟩ := hoff
      have hinRange := helapsed record hrecord
      cases hrecord
      rw [(consume_of_none (hfits.expiry now hnow) (prune_of_expired hmemory (by omega)) "").1] at hmemoryAllowed
      rw [consumeAlone_at_boundary (hfits.start now hnow) hinRange hrow hon, ← hmemoryAllowed] at hrowAllowed
      cases hrowAllowed

/-- Both stores answer a sequence of requests for a key as `decideConsume` decides it, exactly unless
some request comes when the window of the last request that was allowed has just passed. -/
theorem stores_agree_iff (globalWindow maxEntries : Int) (key : String) (rule : Rule) {times : List Int} {table : Table}
    (hfits : Fits globalWindow rule times) (hunused : table.get? key = none) :
    (MemoryStore.consumeAll key rule (newMemoryStore maxEntries) times = decideAll rule none times ∧
      Answers globalWindow key rule table times (decideAll rule none times)) ↔ OffBoundary rule none times :=
  agree_iff_of_mirrors hfits (fun _ h => h) (by simp) (newMemoryStore_mirrors key rule maxEntries) hunused

/-! ## Requests around the end of a window -/

theorem stores_agree_iff_past_window :
    MemoryStore.consumeAll "key" { window := 1, max := 1 } (newMemoryStore 0)
        [1700000000000, 1700000000999, 1700000001001] = [true, false, true] ∧
      Answers 10 "key" { window := 1, max := 1 } Dict.empty [1700000000000, 1700000000999, 1700000001001]
        [true, false, true] := by
  have hdecided : decideAll { window := 1, max := 1 } none [1700000000000, 1700000000999, 1700000001001] =
      [true, false, true] := by decide
  have hfits : Fits 10 { window := 1, max := 1 } [1700000000000, 1700000000999, 1700000001001] :=
    ⟨by decide, by decide, by decide, by decide⟩
  rw [← hdecided]
  refine (stores_agree_iff 10 0 "key" { window := 1, max := 1 } hfits rfl).mpr ⟨by simp, ?_, ?_, trivial⟩
  · intro record hrecord
    cases hrecord
    decide
  · intro record hrecord
    cases hrecord
    decide

/-- One second after the first request, with a window of a second: the store in memory allows a second request
to a limit of one, and the store in the database refuses it to a limit of two. -/
theorem stores_disagree_at_boundary :
    MemoryStore.consumeAll "key" { window := 1, max := 1 } (newMemoryStore 0) [1700000000000, 1700000001000] ≠
        decideAll { window := 1, max := 1 } none [1700000000000, 1700000001000] ∧
      ¬ Answers 10 "key" { window := 1, max := 2 } Dict.empty [1700000000000, 1700000001000]
        (decideAll { window := 1, max := 2 } none [1700000000000, 1700000001000]) := by
  refine ⟨by decide, fun hanswers => ?_⟩
  have hdecided : decideAll { window := 1, max := 2 } none [1700000000000, 1700000001000] = [true, true] := by
    decide
  rw [hdecided, answers_cons_iff, answers_cons_iff] at hanswers
  have hrefused : (consumeAlone 10 "key" { window := 1, max := 2 } 1700000001000
      (consumeAlone 10 "key" { window := 1, max := 2 } 1700000000000 Dict.empty).2).1.allowed = false := by
    decide
  rw [hrefused] at hanswers
  cases hanswers.2.1

end singleauth.ratelimit
