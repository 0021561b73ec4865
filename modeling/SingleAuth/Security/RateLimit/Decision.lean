import SingleAuth.Lib.Int64

namespace singleauth.ratelimit

/-- A limit of requests to a window of seconds. -/
structure Rule where
  (window max : Int)
  deriving DecidableEq

/-- The requests of a key. Times are milliseconds. -/
structure Record where
  key : String
  (count lastRequest : Int)
  deriving DecidableEq

structure ConsumeResult where
  allowed : Bool
  retryAfter : Option Int := none
  deriving DecidableEq

/-- Milliseconds of seconds. Too many of them are as many as there can be. -/
def secondsToMillis (seconds : Int) : Int :=
  if int64.max.tdiv 1000 < seconds then int64.max
  else if seconds < int64.min.tdiv 1000 then int64.min
  else seconds * 1000

theorem secondsToMillis_eq (seconds : Int) : secondsToMillis seconds =
    if 9223372036854775 < seconds then int64.max else if seconds < -9223372036854775 then int64.min
    else seconds * 1000 :=
  rfl

/-- The seconds, rounded up, until the window of a request has passed. -/
def retryAfterAt (lastRequest windowSeconds now : Int) : Int :=
  let remaining := int64.wrap (int64.wrap (lastRequest + secondsToMillis windowSeconds) - now)
  if 0 ≤ remaining then (int64.wrap (remaining + 999)).tdiv 1000 else remaining.tdiv 1000

structure ConsumeDecision where
  next : Record
  (update allowed : Bool)
  retryAfter : Option Int
  deriving DecidableEq

def decideConsume (data : Option Record) (rule : Rule) (now : Int) : ConsumeDecision :=
  match data with
  | none => { next := { key := "", count := 1, lastRequest := now }, update := false, allowed := true, retryAfter := none }
  | some data =>
    if secondsToMillis rule.window < int64.wrap (now - data.lastRequest) then
      { next := { key := data.key, count := 1, lastRequest := now }, update := true, allowed := true, retryAfter := none }
    else if rule.max ≤ data.count then
      { next := data, update := true, allowed := false
        retryAfter := some (retryAfterAt data.lastRequest rule.window now) }
    else
      { next := { key := data.key, count := int64.wrap (data.count + 1), lastRequest := now }, update := true
        allowed := true, retryAfter := none }

section

variable {data : Option Record} {record : Record} {rule : Rule} {now : Int}

theorem decideConsume_lastRequest (h : (decideConsume data rule now).allowed = true) :
    (decideConsume data rule now).next.lastRequest = now := by
  unfold decideConsume at *
  split
  · rfl
  split
  · rfl
  rename_i hin
  split
  · next hfull =>
    simp only [if_neg hin, if_pos hfull] at h
    cases h
  · rfl

theorem decideConsume_of_refused (h : (decideConsume (some record) rule now).allowed = false) :
    (decideConsume (some record) rule now).next = record := by
  unfold decideConsume at *
  dsimp only at *
  split at h
  · cases h
  rename_i hin
  split at h
  · next hfull => rw [if_neg hin, if_pos hfull]
  · cases h

/-- The key that a record is kept under has no part in decisions. -/
theorem decideConsume_rename (record : Record) (key : String) (rule : Rule) (now : Int) :
    decideConsume (some { record with key }) rule now =
      { decideConsume (some record) rule now with next := { (decideConsume (some record) rule now).next with key } } := by
  unfold decideConsume
  dsimp only
  split
  · rfl
  · split <;> rfl

end

/-- The decisions about requests at some times, each made on what the one before has left. -/
def decideAll (rule : Rule) : Option Record → List Int → List Bool
  | _, [] => []
  | data, now :: rest =>
    (decideConsume data rule now).allowed :: decideAll rule (some (decideConsume data rule now).next) rest

end singleauth.ratelimit
