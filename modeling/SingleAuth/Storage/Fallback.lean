import Mathlib.Data.List.Nodup
import SingleAuth.Lib.Process
import SingleAuth.Lib.Table
import SingleAuth.Storage.Query

open process table transition

namespace singleauth.storage

/-- A clause of a query as what it says of a row. -/
structure Predicate (ρ : Type) where
  connector : Connector := .and
  holds : ρ → Bool

/-- How a driver reads the clauses: from left to right, or in the two groups of `GroupWhere`. -/
inductive Reading where
  | folded | grouped

section

variable {ρ : Type}

def selects : Reading → List (Predicate ρ) → ρ → Bool
  | .folded, [], _ => true
  | .folded, first :: rest, row =>
    (first :: rest).foldl (fun result clause =>
      if clause.connector = .or then result || clause.holds row else result && clause.holds row) (first.holds row)
  | .grouped, clauses, row =>
    let orClauses := clauses.filter (·.connector = .or)
    (clauses.filter (·.connector ≠ .or)).all (·.holds row) && (orClauses.isEmpty || orClauses.any (·.holds row))

/-- The clauses of a caller with the one that pins the row read before. -/
def gate (clauses : List (Predicate ρ)) (isTarget : ρ → Bool) : List (Predicate ρ) :=
  clauses ++ [{ holds := isTarget }]

theorem selects_gate (reading : Reading) (clauses : List (Predicate ρ)) (isTarget : ρ → Bool) (row : ρ) :
    selects reading (gate clauses isTarget) row = (selects reading clauses row && isTarget row) := by
  cases reading with
  | folded =>
    cases clauses with
    | nil => exact Bool.and_self _
    | cons first rest =>
      simp only [gate, selects, List.cons_append, List.foldl_cons, List.foldl_append]
      rfl
  | grouped => simp [gate, selects, Bool.and_right_comm]

end

/-! ## Single use -/

section

variable {ι ρ : Type} [DecidableEq ι] [DecidableEq ρ]

/-- What is stored, and what the calls that returned a row returned and deleted. -/
structure Consumption (ρ : Type) where
  rows : List ρ
  consumed : List (ρ × List ρ) := []

/-- Of the rows that a call may read, the driver returns `target`. -/
inductive ConsumeOne (ρ : Type) where
  | findMany (clauses : List (Predicate ρ)) (target : ρ)
  | deleteMany (clauses : List (Predicate ρ)) (target : ρ)
  | done

def ConsumeOne.step (idOf : ρ → ι) (reading : Reading) (call : ConsumeOne ρ) (store : Consumption ρ) :
    ConsumeOne ρ × Consumption ρ :=
  match call with
  | .findMany clauses target =>
    if target ∈ store.rows ∧ selects reading clauses target then (.deleteMany clauses target, store) else (.done, store)
  | .deleteMany clauses target =>
    let selected := selects reading (gate clauses (idOf · = idOf target))
    let deleted := store.rows.filter selected
    (.done, { rows := table.deleteMany selected store.rows
              consumed := if deleted = [] then store.consumed else store.consumed ++ [(target, deleted)] })
  | .done => (.done, store)

/-- What was stored is what is stored and what was returned. -/
structure Spent (start : List ρ) (store : Consumption ρ) : Prop where
  rows : (store.consumed.map (·.1) ++ store.rows).Perm start
  consumed : ∀ entry ∈ store.consumed, entry.2 = [entry.1]

def ConsumeOne.ReadFrom (start : List ρ) : ConsumeOne ρ → Prop
  | .deleteMany _ target => target ∈ start
  | _ => True

variable {idOf : ρ → ι} {reading : Reading} {start : List ρ} {store : Consumption ρ}

omit [DecidableEq ρ] in
theorem eq_singleton_of_nodup {rows : List ρ} {target : ρ} (hnodup : rows.Nodup) (hall : ∀ row ∈ rows, row = target)
    (hsome : rows ≠ []) : rows = [target] := by
  have hreplicate := List.eq_replicate_of_mem hall
  rw [hreplicate, List.nodup_replicate] at hnodup
  have hlength : rows.length = 1 := le_antisymm hnodup (List.length_pos_iff.mpr hsome)
  rw [hreplicate, hlength, List.replicate_one]

omit [DecidableEq ρ] in
/-- With unique ids the extended clauses select the row that was read or nothing. -/
theorem Spent.deleted_eq (hids : (start.map idOf).Nodup) (h : Spent start store) {target : ρ} (htarget : target ∈ start)
    {clauses : List (Predicate ρ)} {deleted : List ρ} (hsome : deleted ≠ [])
    (hdeleted : deleted = store.rows.filter (selects reading (gate clauses (idOf · = idOf target)))) :
    deleted = [target] := by
  have hsub : deleted.Sublist (store.consumed.map (·.1) ++ store.rows) :=
    hdeleted ▸ List.filter_sublist.trans (List.sublist_append_right _ _)
  refine eq_singleton_of_nodup (hsub.nodup (h.rows.nodup_iff.mpr hids.of_map)) (fun row hrow => ?_) hsome
  have hstart := h.rows.subset (hsub.subset hrow)
  rw [hdeleted, List.mem_filter, selects_gate, Bool.and_eq_true, decide_eq_true_eq] at hrow
  exact List.inj_on_of_nodup_map hids hstart htarget hrow.2.2

theorem ConsumeOne.step_spent (hids : (start.map idOf).Nodup) (call : ConsumeOne ρ) (h : Spent start store)
    (hread : call.ReadFrom start) :
    Spent start (call.step idOf reading store).2 ∧ (call.step idOf reading store).1.ReadFrom start := by
  cases call with
  | findMany clauses target =>
    unfold step
    dsimp only
    split
    · next hfound => exact ⟨h, h.rows.subset (List.mem_append_right _ hfound.1)⟩
    · exact ⟨h, trivial⟩
  | deleteMany clauses target =>
    refine ⟨?_, trivial⟩
    -- What the clauses select and what they leave are together what was stored.
    have hparts := List.filter_append_perm (selects reading (gate clauses (idOf · = idOf target))) store.rows
    unfold step
    dsimp only
    split
    · next hnone =>
      rw [hnone] at hparts
      exact ⟨(hparts.append_left _).trans h.rows, h.consumed⟩
    · next hsome =>
      have hdeleted := h.deleted_eq hids hread hsome rfl
      rw [hdeleted] at hparts ⊢
      refine ⟨?_, fun entry hentry => ?_⟩
      · simp only [List.map_append, List.map_cons, List.map_nil, List.append_assoc]
        exact (hparts.append_left _).trans h.rows
      · rcases mem_concat.mp hentry with hold | rfl
        · exact h.consumed entry hold
        · rfl
  | done => exact ⟨h, trivial⟩

/-- Every call deletes the row that it returns and no other, and no row is returned twice. -/
theorem consumeOne_at_most_once {calls : List (List (Predicate ρ) × ρ)} {system : System (Consumption ρ) (ConsumeOne ρ)}
    (hids : (start.map idOf).Nodup)
    (h : Reached (fun system number => turn (ConsumeOne.step idOf reading) number system) (fun _ _ => True)
      ⟨{ rows := start }, calls.map fun call => .findMany call.1 call.2⟩ system) :
    (∀ entry ∈ system.shared.consumed, entry.2 = [entry.1]) ∧ (system.shared.consumed.map (·.1)).Nodup ∧
      (system.shared.consumed.map (·.1) ++ system.shared.rows).Perm start := by
  have hstart : Holds (Spent start) (ConsumeOne.ReadFrom start)
      ⟨{ rows := start }, calls.map fun call => .findMany call.1 call.2⟩ := by
    refine ⟨⟨List.Perm.refl _, fun _ h => absurd h List.not_mem_nil⟩, fun call hcall => ?_⟩
    obtain ⟨_, -, rfl⟩ := List.mem_map.mp hcall
    trivial
  have hholds := h.invariant _ hstart fun _ number hholds _ => hholds.turn number fun call _ => call.step_spent hids
  have hnodup := hholds.shared.rows.nodup_iff.mpr hids.of_map
  exact ⟨hholds.shared.consumed, (List.nodup_append.mp hnodup).1, hholds.shared.rows⟩

/-- Two calls that read one row. -/
theorem consumeOne_at_most_once_race :
    let system := [0, 1, 1, 0].foldl (fun system number => turn (ConsumeOne.step id .grouped) number system)
      ⟨{ rows := [7, 8] }, [([], 7), ([], 7)].map fun call => .findMany call.1 call.2⟩
    system.shared.consumed = [(7, [7])] ∧ (system.shared.consumed.map (·.1)).Nodup :=
  ⟨by decide, (consumeOne_at_most_once (by decide) (Reached.start.foldl fun _ _ _ => trivial)).2.1⟩

end

/-! ## Increments -/

section

/-- A row is its counter and what else it holds. `set` is what is written of the latter, given the row that was read. -/
structure IncrementOneParams (ν ρ : Type) where
  clauses : List (Predicate (ν × ρ)) := []
  amount : ν
  set : ν × ρ → ρ → ρ := fun _ rest => rest

/-- The row, and the calls that returned a record with the row that they changed. -/
structure Incremented (ν ρ : Type) where
  row : ν × ρ
  applied : List (IncrementOneParams ν ρ × ν × ρ) := []

inductive IncrementOne (ν ρ : Type) where
  | findMany (params : IncrementOneParams ν ρ)
  | updateMany (params : IncrementOneParams ν ρ) (target : ν × ρ)
  | done

variable {ν ρ : Type} [DecidableEq ν] (add : ν → ν → ν) (reading : Reading)

/-- The clause with the id holds, since the row keeps it. -/
def IncrementOne.step (call : IncrementOne ν ρ) (store : Incremented ν ρ) : IncrementOne ν ρ × Incremented ν ρ :=
  match call with
  | .findMany params =>
    if selects reading params.clauses store.row then (.updateMany params store.row, store) else (.done, store)
  | .updateMany params target =>
    if selects reading (gate params.clauses fun _ => true) store.row then
      (.done, { row := (add target.1 params.amount, params.set target store.row.2)
                applied := store.applied ++ [(params, store.row)] })
    else (.done, store)
  | .done => (.done, store)

/-- A call that writes still finds the counter that it has read. -/
def IncrementOne.isCurrent (call : IncrementOne ν ρ) (store : Incremented ν ρ) : Bool :=
  match call with
  | .updateMany params target => !selects reading params.clauses store.row || target.1 = store.row.1
  | _ => true

/-- The counter is what the calls make of it one after the other, and the clauses of each held. -/
def Accounted (start : ν × ρ) (store : Incremented ν ρ) : Prop :=
  store.row.1 = (store.applied.map (·.1.amount)).foldl add start.1 ∧
    ∀ entry ∈ store.applied, selects reading entry.1.clauses entry.2 = true

variable {add reading} {start : ν × ρ} {store : Incremented ν ρ}

theorem IncrementOne.step_accounted (call : IncrementOne ν ρ) (hcurrent : call.isCurrent reading store = true)
    (h : Accounted add reading start store) : Accounted add reading start (call.step add reading store).2 := by
  cases call with
  | findMany params =>
    unfold step
    dsimp only
    split <;> exact h
  | updateMany params target =>
    unfold step
    dsimp only
    split
    · next hselected =>
      rw [selects_gate, Bool.and_true] at hselected
      have hcurrent : target.1 = store.row.1 := by simpa [isCurrent, hselected] using hcurrent
      refine ⟨?_, fun entry hentry => ?_⟩
      · rw [hcurrent, h.1, List.map_append, List.foldl_append]
        rfl
      · rcases mem_concat.mp hentry with hold | rfl
        · exact h.2 entry hold
        · exact hselected
    · exact h
  | done => exact h

/-- No update is lost where every call that writes still finds the counter that it has read. -/
theorem incrementOne_loses_no_update {calls : List (IncrementOne ν ρ)}
    {system : System (Incremented ν ρ) (IncrementOne ν ρ)}
    (h : Reached (fun system number => turn (IncrementOne.step add reading) number system)
      (fun system number => admitsTurn (IncrementOne.isCurrent reading) system number = true) ⟨{ row := start }, calls⟩
      system) :
    Accounted add reading start system.shared := by
  have hstart : Holds (Accounted add reading start) (fun _ => True) ⟨{ row := start }, calls⟩ :=
    ⟨⟨rfl, fun _ h => absurd h List.not_mem_nil⟩, fun _ _ => trivial⟩
  exact (Holds.reached h hstart fun call _ hcurrent h _ => ⟨call.step_accounted hcurrent h, trivial⟩).shared

/-- Two calls that count one. -/
def counting (turns : List Nat) : System (Incremented Int Unit) (IncrementOne Int Unit) :=
  turns.foldl (fun system number => turn (IncrementOne.step (· + ·) .folded) number system)
    ⟨{ row := (0, ()) }, [.findMany { amount := 1 }, .findMany { amount := 1 }]⟩

theorem incrementOne_loses_no_update_in_turn : Accounted (· + ·) .folded (0, ()) (counting [0, 0, 1, 1]).shared :=
  incrementOne_loses_no_update (.of_admits (fun _ _ h => h) .start (by decide))

/-- Two calls read zero, and both write one. -/
theorem incrementOne_loses_update : ¬ Accounted (· + ·) .folded (0, ()) (counting [0, 1, 0, 1]).shared :=
  fun h => absurd h.1 (by decide)

end

end singleauth.storage
