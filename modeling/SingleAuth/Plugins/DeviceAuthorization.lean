import SingleAuth.Lib.Process

open process transition

namespace singleauth.deviceauthorization

inductive Status where
  | pending | approved | denied
  deriving DecidableEq

structure DeviceCode where
  status : Status
  userId : Option String

/-- A decision that has reported success, or a session of a user. -/
inductive Report where
  | decided (approve : Bool)
  | session (userID : String)
  deriving DecidableEq

/-- The row of a device code, and what the requests for it have done. -/
structure Server where
  row : Option DeviceCode
  log : List Report := []

/-- A request by the storage call that is next: those of `processDecision`, then those of `deviceToken`. Free are what
the clock says, in `refused` the checks of the client and of the polling interval, and in `created` whether the
user is found and gets a session. A session is noted where its code is claimed: the row is gone from there on. -/
inductive Request where
  | findPending (approve : Bool) (userID : String) (expired : Bool := false)
  | updateStatus (approve : Bool) (userID : String)
  | findDevice (refused expired : Bool := false) (created : Bool := true)
  | deleteDevice
  | claimApproved (created : Bool)
  | done

def decision (approve : Bool) : Status := if approve then .approved else .denied

def step (request : Request) (server : Server) : Request × Server :=
  match request with
  | .findPending approve userID expired =>
    match server.row with
    | none => (.done, server)
    | some row =>
      if !expired ∧ row.status = .pending ∧ userID ≠ "" ∧ row.userId = some userID then
        (.updateStatus approve userID, server)
      else (.done, server)
  | .updateStatus approve userID =>
    -- The row is found by its id alone, and success is reported even if there is none.
    (.done, { row := server.row.map fun _ => ⟨decision approve, some userID⟩, log := server.log ++ [.decided approve] })
  | .findDevice refused expired created =>
    match server.row with
    | none => (.done, server)
    | some row =>
      if refused then (.done, server)
      else if expired || row.status = .denied then (.deleteDevice, server)
      else if row.status = .approved ∧ row.userId.getD "" ≠ "" then (.claimApproved created, server)
      else (.done, server)
  | .deleteDevice => (.done, { server with row := none })
  | .claimApproved created =>
    match server.row with
    | none => (.done, server)
    | some row =>
      if row.status = .approved then
        let userID := row.userId.getD ""
        (.done, { row := none, log := if created ∧ userID ≠ "" then server.log ++ [.session userID] else server.log })
      else (.done, server)
  | .done => (.done, server)

/-- A decision that writes still finds the row pending. -/
def isPending (request : Request) (server : Server) : Bool :=
  match request with
  | .updateStatus _ _ => server.row.map (·.status) = some .pending
  | _ => true

def Report.mayFollow : Report → Report → Bool
  | .decided _, .decided _ => false
  | .decided false, .session _ => false
  | _, _ => true

/-- One decision succeeds, and there is no session after one that denies. -/
def Final (log : List Report) : Prop := log.Pairwise fun earlier later => earlier.mayFollow later = true

/-- What is stored shows what was decided. -/
structure Shown (server : Server) : Prop where
  final : Final server.log
  pending : ∀ row ∈ server.row, row.status = .pending → server.log = []
  approved : ∀ row ∈ server.row, row.status = .approved → .decided false ∉ server.log

theorem Shown.gone {server : Server} (h : Final server.log) (hrow : server.row = none) : Shown server :=
  ⟨h, fun row hmem => by simp [hrow] at hmem, fun row hmem => by simp [hrow] at hmem⟩

theorem mayFollow_session {report : Report} (h : report ≠ .decided false) (userID : String) :
    report.mayFollow (.session userID) = true := by
  rcases report with (_ | _) | _
  · exact absurd rfl h
  · rfl
  · rfl

theorem step_shown (request : Request) {server : Server} (hpending : isPending request server = true)
    (h : Shown server) : Shown (step request server).2 := by
  cases request with
  | findPending | findDevice =>
    unfold step
    dsimp only
    repeat' split
    all_goals exact h
  | updateStatus approve userID =>
    rw [isPending, decide_eq_true_eq] at hpending
    obtain ⟨row, hrow, hstatus⟩ := Option.map_eq_some_iff.mp hpending
    unfold step
    dsimp only
    rw [hrow, h.pending row hrow hstatus]
    refine ⟨List.pairwise_singleton _ _, fun row hmem hstatus => ?_, fun row hmem hstatus => ?_⟩
    all_goals
      obtain rfl := Option.some.inj hmem
      cases approve <;> simp_all [decision]
  | deleteDevice => exact .gone h.final rfl
  | claimApproved created =>
    unfold step
    dsimp only
    split
    · exact h
    next row hrow =>
    split
    · next happroved =>
      refine .gone ?_ rfl
      split
      · refine List.pairwise_append.mpr ⟨h.final, List.pairwise_singleton _ _, fun earlier hearlier later hlater => ?_⟩
        rw [List.mem_singleton.mp hlater]
        exact mayFollow_session (fun heq => h.approved row hrow happroved (heq ▸ hearlier)) _
      · exact h.final
    · exact h
  | done => exact h

/-- A decision is final where every decision that writes still finds the row pending. -/
theorem decision_final {row : Option DeviceCode} {requests : List Request} {system : System Server Request}
    (h : Reached (fun system number => turn step number system)
      (fun system number => admitsTurn isPending system number = true) ⟨{ row }, requests⟩ system) :
    Final system.shared.log := by
  have hstart : Holds Shown (fun _ => True) ⟨{ row }, requests⟩ :=
    ⟨⟨List.Pairwise.nil, fun _ _ _ => rfl, fun _ _ _ => List.not_mem_nil⟩, fun _ _ => trivial⟩
  exact (Holds.reached h hstart fun request _ hpending h _ => ⟨step_shown request hpending h, trivial⟩).shared.final

/-- An approval, a denial and a poll for the code of a user. -/
def decided (turns : List Nat) : System Server Request :=
  turns.foldl (fun system number => turn step number system)
    ⟨{ row := some ⟨.pending, some "u"⟩ }, [.findPending true "u", .findPending false "u", .findDevice]⟩

theorem decision_final_in_turn : Final (decided [0, 0, 1, 2, 2]).shared.log :=
  decision_final (.of_admits (fun _ _ h => h) .start (by decide +kernel))

/-- Both have read the pending row. The approval is written after the denial, and the poll gets a session. -/
theorem denial_overwritten :
    (decided [0, 1, 1, 0, 2, 2]).shared.log = [.decided false, .decided true, .session "u"] ∧
      ¬ Final (decided [0, 1, 1, 0, 2, 2]).shared.log := by
  unfold Final
  decide +kernel

end singleauth.deviceauthorization
