import SingleAuth.Lib.Program
import Mathlib.Algebra.BigOperators.Ring.Finset

open process transition

namespace program

section

variable {σ ε α β M : Type} [AddCommMonoid M]

/-- The program fails only as `bad` says. -/
def FailsWith (bad : ε → Prop) : Program σ (Except ε α) → Prop
  | .done result => ∀ failure, result = .error failure → bad failure
  | .call _ next => ∀ shared, FailsWith bad (next shared)

namespace FailsWith

variable {bad : ε → Prop}

theorem of_all {program : Program σ (Except ε α)} (h : ∀ failure, bad failure) : FailsWith bad program := by
  induction program with
  | done result => exact fun failure _ => h failure
  | call effect next ih => exact ih

theorem pure {value : α} : FailsWith bad (pure value : Calls σ ε α) := fun _ h => by cases h

theorem access {access : σ → α × σ} :
    FailsWith bad (Calls.update fun shared => .ok (access shared) : Calls σ ε α) := fun _ _ h => by cases h

theorem bind {first : Calls σ ε α} {next : α → Calls σ ε β} (hfirst : FailsWith bad first)
    (hnext : ∀ value, FailsWith bad (next value)) : FailsWith bad (first >>= next : Calls σ ε β) := by
  induction first with
  | done result =>
    cases result with
    | ok value => exact hnext value
    | error failure => exact fun other hother => hfirst other (Except.error.inj hother ▸ rfl)
  | call effect rest ih => exact fun shared => ih shared (hfirst shared)

theorem within {κ : Type} {get : κ → σ} {put : κ → σ → κ} {calls : Calls σ ε α} (h : FailsWith bad calls) :
    FailsWith bad (calls.within get put) := by
  induction calls with
  | done result => exact h
  | call effect next ih => exact fun whole => ih (get whole) (h (get whole))

theorem imp {worse : ε → Prop} {program : Program σ (Except ε α)} (h : FailsWith bad program)
    (hworse : ∀ failure, bad failure → worse failure) : FailsWith worse program := by
  induction program with
  | done result => exact fun failure hfailure => hworse failure (h failure hfailure)
  | call effect next ih => exact fun shared => ih shared (h shared)

end FailsWith

/-- A program that shares a state with others owns something, which no other
program can take from it. `valid` says how the state and all that is owned
belong together. `always` is what the program owns at any time, `post` what it
owns when it has succeeded and `lost` what it owns when it has failed. -/
def Owns (valid : σ → M → Prop) (always : M → Prop) (post : α → M → Prop) (lost : ε → M → Prop) :
    M → Program σ (Except ε α) → Prop
  | own, .done result => always own ∧ (∀ value, result = .ok value → post value own) ∧
    ∀ failure, result = .error failure → lost failure own
  | own, .call effect next =>
    always own ∧ ∀ shared frame, valid shared (own + frame) →
      ∃ left, valid (effect shared) (left + frame) ∧ Owns valid always post lost left (next shared)

namespace Owns

variable {valid : σ → M → Prop} {always : M → Prop} {post : α → M → Prop} {lost : ε → M → Prop} {own : M}

theorem always_own {program : Program σ (Except ε α)} (h : Owns valid always post lost own program) : always own := by
  cases program with
  | done result => exact h.1
  | call effect next => exact h.1

theorem pure {value : α} (halways : always own) (h : post value own) :
    Owns valid always post lost own (pure value : Calls σ ε α) := by
  refine ⟨halways, ?_, fun _ hfailure => by cases hfailure⟩
  rintro _ ⟨⟩
  exact h

theorem fails {failure : ε} (halways : always own) (h : lost failure own) :
    Owns valid always post lost own (monadLift (Except.error failure) : Calls σ ε α) := by
  refine ⟨halways, fun _ hvalue => (by cases hvalue), ?_⟩
  rintro _ ⟨⟩
  exact h

/-- One call, which may exchange what is owned for something else. -/
theorem access {access : σ → α × σ} (halways : always own)
    (h : ∀ shared frame, valid shared (own + frame) →
      ∃ left, valid (access shared).2 (left + frame) ∧ always left ∧ post (access shared).1 left) :
    Owns valid always post lost own (Calls.update fun shared => .ok (access shared) : Calls σ ε α) := by
  refine ⟨halways, fun shared frame hvalid => ?_⟩
  obtain ⟨left, hleft, hagain, hpost⟩ := h shared frame hvalid
  exact ⟨left, hleft, pure hagain hpost⟩

variable {calls : Calls σ ε α}

/-- Calls that leave alone what `valid` looks at keep what is owned. -/
theorem steady {κ : Type} {view : σ → κ} {post : α → Prop}
    (hview : ∀ shared later all, view later = view shared → valid shared all → valid later all)
    (halways : always own) (hfails : FailsWith (fun failure => lost failure own) calls) (h : Steady view post calls) :
    Owns valid always (fun value left => post value ∧ left = own) lost own calls := by
  induction calls with
  | done result => exact ⟨halways, fun value hvalue => ⟨h value hvalue, rfl⟩, hfails⟩
  | call effect rest ih =>
    refine ⟨halways, fun shared frame hvalid => ⟨own, ?_, ih shared (hfails shared) (h shared).2⟩⟩
    exact hview shared (effect shared) _ (h shared).1 hvalid

theorem bind {middle : α → M → Prop} {post : β → M → Prop} {first : Calls σ ε α} {next : α → Calls σ ε β}
    (hfirst : Owns valid always middle lost own first)
    (hnext : ∀ value left, always left → middle value left → Owns valid always post lost left (next value)) :
    Owns valid always post lost own (first >>= next : Calls σ ε β) := by
  induction first generalizing own with
  | done result =>
    cases result with
    | ok value => exact hnext value own hfirst.1 (hfirst.2.1 value rfl)
    | error failure => exact fails hfirst.1 (hfirst.2.2 failure rfl)
  | call effect rest ih =>
    refine ⟨hfirst.1, fun shared frame hvalid => ?_⟩
    obtain ⟨left, hleft, hrest⟩ := hfirst.2 shared frame hvalid
    exact ⟨left, hleft, ih shared hrest⟩

theorem imp {post weaker : α → M → Prop} (h : Owns valid always post lost own calls)
    (hweaker : ∀ value left, post value left → weaker value left) : Owns valid always weaker lost own calls := by
  induction calls generalizing own with
  | done result => exact ⟨h.1, fun value hvalue => hweaker value own (h.2.1 value hvalue), h.2.2⟩
  | call effect rest ih =>
    refine ⟨h.1, fun shared frame hvalid => ?_⟩
    obtain ⟨left, hleft, hrest⟩ := h.2 shared frame hvalid
    exact ⟨left, hleft, ih shared hrest⟩

end Owns

/-! ## Interleaving -/

section

variable {τ : Type} {program : τ → Calls σ ε α} {start : σ} {system : System σ (Thread τ σ ε α)}
variable (valid : σ → M → Prop) (always : τ → M → Prop) (post : τ → α → M → Prop) (lost : τ → ε → M → Prop)

/-- What each thread owns, such that all of it belongs together with the state. -/
structure Shares (system : System σ (Thread τ σ ε α)) (owned : List (M × Thread τ σ ε α)) : Prop where
  threads : owned.map Prod.snd = system.threads
  owns : ∀ entry ∈ owned, Owns valid (always entry.2.request) (post entry.2.request) (lost entry.2.request) entry.1
    entry.2.calls
  valid : valid system.shared (owned.map Prod.fst).sum

variable {valid always post lost} {owned : List (M × Thread τ σ ε α)}

theorem Shares.spawn (h : Shares valid always post lost system owned) {request : τ}
    (howns : Owns valid (always request) (post request) (lost request) 0 (program request)) :
    Shares valid always post lost (spawn ⟨request, program request⟩ system)
      (owned ++ [(0, ⟨request, program request⟩)]) := by
  refine ⟨?_, List.forall_mem_append.mpr ⟨h.owns, List.forall_mem_singleton.mpr howns⟩, ?_⟩
  · simp [process.spawn, h.threads]
  · simpa [process.spawn] using h.valid

/-- A step of a thread exchanges what it owns and leaves the rest to the others. -/
theorem Thread.step_owns {thread : Thread τ σ ε α} {own frame : M} {always : M → Prop} {post : α → M → Prop}
    {lost : ε → M → Prop} {shared : σ} (h : Owns valid always post lost own thread.calls)
    (hvalid : valid shared (own + frame)) :
    ∃ left, valid (thread.step shared).2 (left + frame) ∧
      Owns valid always post lost left (thread.step shared).1.calls := by
  obtain ⟨request, calls⟩ := thread
  cases calls with
  | done result => exact ⟨own, hvalid, h⟩
  | call effect next => exact h.2 shared frame hvalid

theorem Shares.turn (h : Shares valid always post lost system owned) (number : Nat) :
    ∃ owned, Shares valid always post lost (turn Thread.step number system) owned := by
  unfold process.turn
  cases hthread : system.threads[number]? with
  | none => exact ⟨owned, h⟩
  | some thread =>
    rw [← h.threads, List.getElem?_map] at hthread
    obtain ⟨⟨own, found⟩, hentry, hfound⟩ := Option.map_eq_some_iff.mp hthread
    obtain rfl : found = thread := hfound
    obtain ⟨hlt, hget⟩ := List.getElem?_eq_some_iff.mp hentry
    -- what the thread owns, and what the others own
    have hsplit : owned = owned.take number ++ (own, found) :: owned.drop (number + 1) := by
      rw [← hget, List.getElem_cons_drop, List.take_append_drop]
    have hvalid := h.valid
    rw [hsplit, List.map_append, List.map_cons, List.sum_append, List.sum_cons, add_left_comm] at hvalid
    obtain ⟨left, hleft, howns⟩ := Thread.step_owns (h.owns _ (List.mem_of_getElem? hentry)) hvalid
    refine ⟨owned.set number (left, (found.step system.shared).1), ?_, fun entry hmem => ?_, ?_⟩
    · rw [List.map_set, h.threads]
    · rcases List.mem_or_eq_of_mem_set hmem with hold | rfl
      · exact h.owns entry hold
      · exact howns
    · rw [List.set_eq_take_append_cons_drop, if_pos hlt, List.map_append, List.map_cons, List.sum_append,
        List.sum_cons, add_left_comm]
      exact hleft

section

variable {admitted : Turn τ → Prop}
  (hreached : Reached (advance program) (fun _ turn => admitted turn) ⟨start, []⟩ system)
include hreached

/-- In every interleaving each thread owns what its program says. -/
theorem exists_shares (hstart : valid start 0)
    (howns : ∀ request, admitted (.start request) →
      Owns valid (always request) (post request) (lost request) 0 (program request)) :
    ∃ owned, Shares valid always post lost system owned := by
  refine hreached.invariant (fun system => ∃ owned, Shares valid always post lost system owned)
    ⟨[], rfl, by simp, hstart⟩ ?_
  rintro system (request | number) ⟨owned, h⟩ hadmitted
  · exact ⟨_, h.spawn (howns request hadmitted)⟩
  · exact h.turn number

/-! ## Credit -/

omit hreached in
/-- What a program that pays for its successes owns is its credit, less the funds that it came with. -/
theorem Pays.owns {available : σ → Nat} {post : α → Nat → Prop} {calls : Calls σ ε α} {credit funds : Nat}
    {own total : Int} (h : Pays available post credit calls) (hown : own = credit - funds) :
    Owns (fun shared all => available shared + all ≤ total) (fun own => 0 ≤ own + funds)
      (fun value own => ∃ left : Nat, own + funds = left ∧ post value left) (fun _ _ => True) own calls := by
  induction calls generalizing credit own with
  | done result =>
    exact ⟨by omega, fun value hvalue => ⟨credit, by omega, h value hvalue⟩, fun _ _ => trivial⟩
  | call effect rest ih =>
    refine ⟨by omega, fun shared frame hvalid => ?_⟩
    obtain ⟨left, hleft, hrest⟩ := h shared
    exact ⟨left - funds, by omega, ih shared hrest rfl⟩

variable {available : σ → Nat} {funds : τ → Nat} {cost : τ → α → Nat}

/-- In every interleaving, what successes cost and what is left in the state
come from the start or with the requests. -/
theorem spent_le (hpays : ∀ request, admitted (.start request) →
      Pays available (fun value left => cost request value ≤ left) (funds request) (program request)) :
    available system.shared + (system.threads.map (Thread.spent cost)).sum ≤
      available start + (system.threads.map (fun thread => funds thread.request)).sum := by
  have hshares : ∃ owned, Shares (fun shared all => (available shared : Int) + all ≤ available start)
      (fun request own => 0 ≤ own + funds request)
      (fun request value own => ∃ left : Nat, own + funds request = left ∧ cost request value ≤ left)
      (fun _ _ _ => True) system owned :=
    exists_shares hreached (by simp) fun request hadmitted => (hpays request hadmitted).owns (by simp)
  obtain ⟨owned, h⟩ := hshares
  have hentry : ∀ entry ∈ owned, (entry.2.spent cost : Int) ≤ entry.1 + funds entry.2.request := by
    intro entry hentry
    have howns := h.owns entry hentry
    unfold Thread.spent
    split
    · next value hcalls =>
      rw [hcalls] at howns
      obtain ⟨left, hleft, hcost⟩ := howns.2.1 value rfl
      omega
    · exact howns.always_own
  have hsum := List.sum_le_sum hentry
  have htotal := h.valid
  rw [List.sum_map_add] at hsum
  rw [← h.threads, List.map_map, List.map_map, ← Int.ofNat_le]
  push_cast [Nat.cast_list_sum, List.map_map, Function.comp_def]
  omega

/-- Programs that start without credit never raise what is in the state. -/
theorem available_le
    (hpays : ∀ request, admitted (.start request) → Pays available (fun _ _ => True) 0 (program request)) :
    available system.shared ≤ available start := by
  have hzero : ∀ request, admitted (.start request) →
      Pays available (fun _ left => 0 ≤ left) 0 (program request) :=
    fun request hadmitted => (hpays request hadmitted).imp fun _ left _ => Nat.zero_le left
  have hspent := @spent_le _ _ _ _ program start system admitted hreached available (fun _ => 0) (fun _ _ => 0) hzero
  have hfunds : (system.threads.map fun _ => 0).sum = 0 := by simp
  omega

end

end

end

end program
