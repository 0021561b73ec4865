import Mathlib.Tactic.Common

namespace transition

/-- The states that a system reaches from `start` by inputs which `allowed`
admits in the state they meet. -/
inductive Reached {σ ι : Type} (step : σ → ι → σ) (allowed : σ → ι → Prop) (start : σ) : σ → Prop where
  | start : Reached step allowed start start
  | next {state : σ} {input : ι} (hreached : Reached step allowed start state) (hallowed : allowed state input) :
    Reached step allowed start (step state input)

variable {σ ι : Type} {step : σ → ι → σ} {allowed : σ → ι → Prop} {start state : σ} {inputs : List ι}

/-- What holds at the start and is kept by every admitted step holds in every
state reached. -/
theorem Reached.invariant (invariant : σ → Prop) (hstart : invariant start)
    (hstep : ∀ state input, invariant state → allowed state input → invariant (step state input))
    (hreached : Reached step allowed start state) : invariant state := by
  induction hreached with
  | start => exact hstart
  | next _ hallowed ih => exact hstep _ _ ih hallowed

theorem Reached.trans {middle final : σ} (hfirst : Reached step allowed start middle)
    (hsecond : Reached step allowed middle final) :
    Reached step allowed start final := by
  induction hsecond with
  | start => exact hfirst
  | next _ hallowed ih => exact ih.next hallowed

/-- A list of inputs that are admitted in every state leads to a state reached. -/
theorem Reached.foldl (hreached : Reached step allowed start state)
    (hallowed : ∀ input ∈ inputs, ∀ state, allowed state input) :
    Reached step allowed start (inputs.foldl step state) := by
  induction inputs generalizing state with
  | nil => exact hreached
  | cons input rest ih =>
    have hnext := hreached.next (hallowed input List.mem_cons_self state)
    exact ih hnext (fun other hmem => hallowed other (List.mem_cons_of_mem _ hmem))

/-- A check of every input of a list in the state that it meets. -/
def admits {σ ι : Type} (step : σ → ι → σ) (check : σ → ι → Bool) : σ → List ι → Bool
  | _, [] => true
  | state, input :: rest => check state input && admits step check (step state input) rest

/-- Inputs that pass a check of their admission lead to a state reached. -/
theorem Reached.of_admits {check : σ → ι → Bool} (hcheck : ∀ state input, check state input = true → allowed state input)
    (hreached : Reached step allowed start state) (h : admits step check state inputs = true) :
    Reached step allowed start (inputs.foldl step state) := by
  induction inputs generalizing state with
  | nil => exact hreached
  | cons input rest ih =>
    rw [admits, Bool.and_eq_true] at h
    exact ih (hreached.next (hcheck state input h.1)) h.2

end transition
