import SingleAuth.Lib.Dict
import SingleAuth.Lib.Process
import SingleAuth.Security.RateLimit.Decision

open dict process

namespace singleauth.ratelimit

/-- A row of the table, which is indexed by key. -/
structure Row where
  (count lastRequest : Int)
  deriving DecidableEq

abbrev Table : Type := Dict Row

def defaultWindow : Int := 10

/-- The window, in seconds, after which rows are pruned. -/
def longestWindow (globalWindow : Int) : Int :=
  let longest := if globalWindow ≤ 0 then defaultWindow else globalWindow
  if longest < 60 then 60 else longest

theorem longestWindow_millis_nonneg (globalWindow : Int) : 0 ≤ secondsToMillis (longestWindow globalWindow) := by
  have hlongest : 60 ≤ longestWindow globalWindow := by
    unfold longestWindow
    dsimp only
    split <;> omega
  rw [secondsToMillis_eq]
  unfold int64.max
  split_ifs <;> omega

/-- How far a request has come. Each phase but the last is an adapter call or a clock reading. -/
inductive Phase where
  /-- Read the row of the key. -/
  | get
  /-- Read the clock, and go on with the row that was read. -/
  | decide (data : Option Row)
  | create (now : Int)
  /-- Read the row after it could not be created. -/
  | getExisting
  /-- Start a new window, if the last request is still the one that was read or an earlier one. -/
  | reset (now lastRequest : Int)
  | prune (now : Int)
  | increment (now : Int)
  /-- Read the row after it could not be incremented. -/
  | getFresh (now : Int)
  /-- Read the clock to say when to try again. -/
  | refuse (lastRequest : Int)
  /-- The request is answered. `none` is an error. -/
  | done (result : Option ConsumeResult)
  deriving DecidableEq

def incrementOne (table : Table) (key : String) (guard : Row → Bool) (change : Row → Row) : Option Table :=
  match table.get? key with
  | none => none
  | some row => if guard row then some (table.set key (change row)) else none

def deleteBefore (table : Table) (time : Int) : Table := table.filter fun _ row => decide (time ≤ row.lastRequest)

/-- One adapter call or clock reading of a request for a key. -/
def step (globalWindow : Int) (key : String) (rule : Rule) (clock : Int) (phase : Phase) (table : Table) : Phase × Table :=
  let windowMillis := secondsToMillis rule.window
  match phase with
  | .get => (.decide (table.get? key), table)
  | .decide none => (.create clock, table)
  | .decide (some data) =>
    if windowMillis < int64.wrap (clock - data.lastRequest) then (.reset clock data.lastRequest, table)
    else (.increment clock, table)
  | .create now =>
    match table.get? key with
    | none => (.done (some { allowed := true }), table.set key { count := 1, lastRequest := now })
    | some _ => (.getExisting, table)
  | .getExisting =>
    match table.get? key with
    | none => (.done none, table)
    | some _ => (.get, table)
  | .reset now lastRequest =>
    match incrementOne table key (fun row => row.lastRequest ≤ lastRequest)
        (fun _ => { count := 1, lastRequest := now }) with
    | some table => (.prune now, table)
    | none => (.get, table)
  | .prune now =>
    (.done (some { allowed := true }), deleteBefore table (int64.wrap (now - secondsToMillis (longestWindow globalWindow))))
  | .increment now =>
    match incrementOne table key
        (fun row => int64.wrap (now - windowMillis) < row.lastRequest && row.count < rule.max)
        (fun row => { count := int64.wrap (row.count + 1), lastRequest := now }) with
    | some table => (.done (some { allowed := true }), table)
    | none => (.getFresh now, table)
  | .getFresh now =>
    match table.get? key with
    | none => (.get, table)
    | some fresh =>
      if windowMillis < int64.wrap (now - fresh.lastRequest) then (.get, table) else (.refuse fresh.lastRequest, table)
  | .refuse lastRequest =>
    (.done (some { allowed := false, retryAfter := some (retryAfterAt lastRequest rule.window clock) }), table)
  | .done result => (.done result, table)

def outcome : Phase → Option (Option ConsumeResult)
  | .done result => some result
  | _ => none

/-! ## A request on its own -/

/-- The answer to a request that nobody else disturbs, and the table that it leaves. -/
def consumeAlone (globalWindow : Int) (key : String) (rule : Rule) (now : Int) (table : Table) : ConsumeResult × Table :=
  match table.get? key with
  | none => ({ allowed := true }, table.set key { count := 1, lastRequest := now })
  | some row =>
    if secondsToMillis rule.window < int64.wrap (now - row.lastRequest) then
      ({ allowed := true }, deleteBefore (table.set key { count := 1, lastRequest := now })
        (int64.wrap (now - secondsToMillis (longestWindow globalWindow))))
    else if int64.wrap (now - secondsToMillis rule.window) < row.lastRequest ∧ row.count < rule.max then
      ({ allowed := true }, table.set key { count := int64.wrap (row.count + 1), lastRequest := now })
    else ({ allowed := false, retryAfter := some (retryAfterAt row.lastRequest rule.window now) }, table)

section

variable {globalWindow : Int} {key : String} {rule : Rule} {now : Int} {table final : Table}
  {result : Option ConsumeResult}

/-- The phases that a request passes when the row does not change, told by the row. -/
theorem finishes_get :
    Finishes (step globalWindow key rule now) outcome .get table result final ↔
      result = some (consumeAlone globalWindow key rule now table).1 ∧
        final = (consumeAlone globalWindow key rule now table).2 := by
  have hdone : ∀ answer after, Finishes (step globalWindow key rule now) outcome (.done (some answer)) after result final ↔
      result = some answer ∧ final = after := by
    intro answer after
    have houtcome : outcome (.done (some answer)) = some (some answer) := rfl
    exact finishes_of_done houtcome
  -- The row is read, then the clock.
  rw [finishes_of_running rfl, step, finishes_of_running rfl]
  cases hrow : table.get? key with
  | none =>
    rw [step, finishes_of_running rfl]
    simp only [step, consumeAlone, hrow]
    exact hdone _ _
  | some row =>
    by_cases hover : secondsToMillis rule.window < int64.wrap (now - row.lastRequest)
    · have hreset : incrementOne table key (fun found => found.lastRequest ≤ row.lastRequest)
          (fun _ => { count := 1, lastRequest := now }) = some (table.set key { count := 1, lastRequest := now }) := by
        simp [incrementOne, hrow]
      simp only [step, consumeAlone, hrow, if_pos hover]
      rw [finishes_of_running rfl]
      simp only [step, hreset]
      rw [finishes_of_running rfl]
      exact hdone _ _
    simp only [step, consumeAlone, hrow, if_neg hover]
    rw [finishes_of_running rfl]
    have hincrement : incrementOne table key
        (fun row => int64.wrap (now - secondsToMillis rule.window) < row.lastRequest && row.count < rule.max)
        (fun row => { count := int64.wrap (row.count + 1), lastRequest := now }) =
          if int64.wrap (now - secondsToMillis rule.window) < row.lastRequest ∧ row.count < rule.max then
            some (table.set key { count := int64.wrap (row.count + 1), lastRequest := now })
          else none := by
      simp [incrementOne, hrow]
    by_cases hguard : int64.wrap (now - secondsToMillis rule.window) < row.lastRequest ∧ row.count < rule.max
    · simp only [step, hincrement, if_pos hguard]
      exact hdone _ _
    simp only [step, hincrement, if_neg hguard]
    -- The row is read again, and it is the same one.
    rw [finishes_of_running rfl]
    simp only [step, hrow, if_neg hover]
    rw [finishes_of_running rfl]
    exact hdone _ _

end

/-- Requests for a key, each at a time of its own, that are answered one after the other. -/
inductive Answers (globalWindow : Int) (key : String) (rule : Rule) : Table → List Int → List Bool → Prop where
  | nil {table : Table} : Answers globalWindow key rule table [] []
  | cons {table final : Table} {now : Int} {rest : List Int} {result : ConsumeResult} {answers : List Bool}
    (hfinishes : Finishes (step globalWindow key rule now) outcome .get table (some result) final)
    (hrest : Answers globalWindow key rule final rest answers) :
    Answers globalWindow key rule table (now :: rest) (result.allowed :: answers)

theorem answers_cons_iff {globalWindow : Int} {key : String} {rule : Rule} {table : Table} {now : Int} {rest : List Int}
    {answer : Bool} {answers : List Bool} :
    Answers globalWindow key rule table (now :: rest) (answer :: answers) ↔
      (consumeAlone globalWindow key rule now table).1.allowed = answer ∧
        Answers globalWindow key rule (consumeAlone globalWindow key rule now table).2 rest answers := by
  constructor
  · intro h
    cases h with
    | cons hfinishes hrest =>
      obtain ⟨hresult, rfl⟩ := finishes_get.mp hfinishes
      cases hresult
      exact ⟨rfl, hrest⟩
  · rintro ⟨rfl, hrest⟩
    exact .cons (finishes_get.mpr ⟨rfl, rfl⟩) hrest

end singleauth.ratelimit
