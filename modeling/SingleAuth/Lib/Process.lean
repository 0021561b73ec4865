import Mathlib.Data.List.Basic
import SingleAuth.Lib.Transition

open transition

namespace process

section

variable {σ π ρ : Type}

/-- A process that takes one step after the other with nobody else at the shared state
ends with a result and leaves a state. -/
inductive Finishes (step : π → σ → π × σ) (outcome : π → Option ρ) : π → σ → ρ → σ → Prop where
  | done {phase : π} {shared : σ} {result : ρ} (hdone : outcome phase = some result) :
    Finishes step outcome phase shared result shared
  | next {phase : π} {shared : σ} {result : ρ} {final : σ} (hrunning : outcome phase = none)
    (hrest : Finishes step outcome (step phase shared).1 (step phase shared).2 result final) :
    Finishes step outcome phase shared result final

variable {step : π → σ → π × σ} {outcome : π → Option ρ} {phase : π} {shared : σ} {result : ρ} {final : σ}

theorem finishes_of_done (hdone : outcome phase = some result) {other : ρ} :
    Finishes step outcome phase shared other final ↔ other = result ∧ final = shared := by
  constructor
  · intro h
    cases h with
    | done hother =>
      rw [hdone] at hother
      cases hother
      exact ⟨rfl, rfl⟩
    | next hrunning _ =>
      rw [hdone] at hrunning
      cases hrunning
  · rintro ⟨rfl, rfl⟩
    exact .done hdone

theorem finishes_of_running (hrunning : outcome phase = none) :
    Finishes step outcome phase shared result final ↔
      Finishes step outcome (step phase shared).1 (step phase shared).2 result final := by
  constructor
  · intro h
    cases h with
    | done hdone =>
      rw [hrunning] at hdone
      cases hdone
    | next _ hrest => exact hrest
  · exact .next hrunning

/-- The result of a process and the state that it leaves, if it ends within a number of steps. -/
def run (step : π → σ → π × σ) (outcome : π → Option ρ) : Nat → π → σ → Option (ρ × σ)
  | 0, phase, shared => (outcome phase).map fun result => (result, shared)
  | steps + 1, phase, shared =>
    match outcome phase with
    | some result => some (result, shared)
    | none => run step outcome steps (step phase shared).1 (step phase shared).2

theorem finishes_of_run {steps : Nat} (h : run step outcome steps phase shared = some (result, final)) :
    Finishes step outcome phase shared result final := by
  induction steps generalizing phase shared with
  | zero =>
    obtain ⟨_, hdone, heq⟩ := Option.map_eq_some_iff.mp h
    cases heq
    exact .done hdone
  | succ steps ih =>
    rw [run] at h
    split at h
    · next hdone =>
      cases h
      exact .done hdone
    · next hrunning => exact .next hrunning (ih h)

/-- A process never ends from where it can only get to places that are not the end. -/
theorem not_finishes (invariant : π → σ → Prop) (hrunning : ∀ phase shared, invariant phase shared → outcome phase = none)
    (hstep : ∀ phase shared, invariant phase shared → invariant (step phase shared).1 (step phase shared).2)
    (h : invariant phase shared) : ¬ Finishes step outcome phase shared result final := by
  intro hfinishes
  induction hfinishes with
  | done hdone =>
    rw [hrunning _ _ h] at hdone
    cases hdone
  | next _ _ ih => exact ih (hstep _ _ h)

end

/-! ## Interleaving -/

/-- Processes that share a state. -/
structure System (σ π : Type) where
  shared : σ
  threads : List π

section

variable {σ π : Type}

def spawn (phase : π) (system : System σ π) : System σ π := { system with threads := system.threads ++ [phase] }

def turn (step : π → σ → π × σ) (number : Nat) (system : System σ π) : System σ π :=
  match system.threads[number]? with
  | none => system
  | some phase =>
    { shared := (step phase system.shared).2, threads := system.threads.set number (step phase system.shared).1 }

/-- A turn leaves all as it is, or one process takes a step and the others stay where they are. -/
theorem turn_cases (step : π → σ → π × σ) (number : Nat) (system : System σ π) :
    turn step number system = system ∨ ∃ before phase behind, system.threads = before ++ phase :: behind ∧
      before.length = number ∧ turn step number system =
        ⟨(step phase system.shared).2, before ++ (step phase system.shared).1 :: behind⟩ := by
  unfold turn
  cases hphase : system.threads[number]? with
  | none => exact .inl rfl
  | some phase =>
    obtain ⟨hlt, rfl⟩ := List.getElem?_eq_some_iff.mp hphase
    refine .inr ⟨system.threads.take number, system.threads[number], system.threads.drop (number + 1), ?_, ?_, ?_⟩
    · rw [List.getElem_cons_drop, List.take_append_drop]
    · exact List.length_take_of_le (Nat.le_of_lt hlt)
    · dsimp only
      rw [List.set_eq_take_append_cons_drop, if_pos hlt]

/-- An assertion about the shared state, and one about each process that the others do not
disturb. -/
structure Holds (shared : σ → Prop) (thread : π → Prop) (system : System σ π) : Prop where
  shared : shared system.shared
  threads : ∀ phase ∈ system.threads, thread phase

variable {shared : σ → Prop} {thread : π → Prop} {system : System σ π} {phase : π}

theorem Holds.spawn (h : Holds shared thread system) (hphase : thread phase) :
    Holds shared thread (spawn phase system) :=
  ⟨h.shared, List.forall_mem_append.mpr ⟨h.threads, List.forall_mem_singleton.mpr hphase⟩⟩

variable {step : π → σ → π × σ} {number : Nat}

/-- Assertions that the step of the process keeps, for the shared state and for itself. -/
theorem Holds.turn_of (h : Holds shared thread system)
    (hstep : ∀ phase, system.threads[number]? = some phase → thread phase →
      shared (step phase system.shared).2 ∧ thread (step phase system.shared).1) :
    Holds shared thread (turn step number system) := by
  unfold process.turn
  cases hphase : system.threads[number]? with
  | none => exact h
  | some phase =>
    obtain ⟨hshared, hthread⟩ := hstep phase hphase (h.threads phase (List.mem_of_getElem? hphase))
    refine ⟨hshared, fun other hother => ?_⟩
    rcases List.mem_or_eq_of_mem_set hother with hold | hnew
    · exact h.threads other hold
    · rw [hnew]
      exact hthread

/-- Assertions that a step of a process keeps, for the shared state and for itself, are
kept by every interleaving. -/
theorem Holds.turn (h : Holds shared thread system) (number : Nat)
    (hstep : ∀ phase state, shared state → thread phase →
      shared (step phase state).2 ∧ thread (step phase state).1) :
    Holds shared thread (turn step number system) :=
  h.turn_of fun phase _ => hstep phase system.shared h.shared

/-- The process whose turn it is passes a check. -/
def admitsTurn (check : π → σ → Bool) (system : System σ π) (number : Nat) : Bool :=
  (system.threads[number]?).all (check · system.shared)

/-- Assertions that every step keeps that passes a check are kept by every interleaving of such steps. -/
theorem Holds.reached {check : π → σ → Bool} {start : System σ π}
    (hreached : Reached (fun system number => process.turn step number system)
      (fun system number => admitsTurn check system number = true) start system)
    (h : Holds shared thread start)
    (hstep : ∀ phase state, check phase state = true → shared state → thread phase →
      shared (step phase state).2 ∧ thread (step phase state).1) : Holds shared thread system := by
  refine hreached.invariant (Holds shared thread) h fun system number hsystem hcheck => ?_
  refine hsystem.turn_of fun phase hphase => ?_
  rw [admitsTurn, hphase] at hcheck
  exact hstep phase system.shared hcheck hsystem.shared

/-- An assertion about the shared state, and one about each process in that state. -/
structure Jointly (shared : σ → Prop) (thread : σ → π → Prop) (system : System σ π) : Prop where
  shared : shared system.shared
  threads : ∀ phase ∈ system.threads, thread system.shared phase

variable {thread : σ → π → Prop}

theorem Jointly.spawn (h : Jointly shared thread system)
    (hphase : thread system.shared phase) : Jointly shared thread (spawn phase system) :=
  ⟨h.shared, List.forall_mem_append.mpr ⟨h.threads, List.forall_mem_singleton.mpr hphase⟩⟩

/-- Assertions that a step keeps, for the shared state, for its own process and for the others,
are kept by every interleaving. -/
theorem Jointly.turn (h : Jointly shared thread system) (number : Nat)
    (hstep : ∀ phase state, shared state → thread state phase →
      shared (step phase state).2 ∧ thread (step phase state).2 (step phase state).1)
    (hothers : ∀ phase other state, shared state → thread state phase → thread state other →
      thread (step phase state).2 other) :
    Jointly shared thread (turn step number system) := by
  unfold process.turn
  cases hphase : system.threads[number]? with
  | none => exact h
  | some phase =>
    have hown := h.threads phase (List.mem_of_getElem? hphase)
    obtain ⟨hshared, hthread⟩ := hstep phase system.shared h.shared hown
    refine ⟨hshared, fun other hother => ?_⟩
    rcases List.mem_or_eq_of_mem_set hother with hold | hnew
    · exact hothers phase other system.shared h.shared hown (h.threads other hold)
    · rw [hnew]
      exact hthread

theorem countP_set_add {threads : List π} (h : threads[number]? = some phase)
    (counted : π → Bool) (changed : π) :
    (threads.set number changed).countP counted + (counted phase).toNat =
      threads.countP counted + (counted changed).toNat := by
  obtain ⟨hlt, rfl⟩ := List.getElem?_eq_some_iff.mp h
  have htoNat : ∀ b : Bool, (if b = true then 1 else 0) = b.toNat := by decide
  have hle := List.boole_getElem_le_countP (p := counted) hlt
  rw [List.countP_set hlt, htoNat, htoNat]
  rw [htoNat] at hle
  omega

/-- A count of processes that the shared state keeps, and that each step changes as it changes
its own process. -/
theorem countP_turn {counted : π → Bool} (count : σ → Nat)
    (hstep : ∀ phase shared, count (step phase shared).2 + (counted phase).toNat =
      count shared + (counted (step phase shared).1).toNat)
    (h : count system.shared = system.threads.countP counted) (number : Nat) :
    count (process.turn step number system).shared = (process.turn step number system).threads.countP counted := by
  unfold process.turn
  cases hphase : system.threads[number]? with
  | none => exact h
  | some phase =>
    have hchange := hstep phase system.shared
    have hset := countP_set_add hphase counted (step phase system.shared).1
    dsimp only
    omega

end

end process
