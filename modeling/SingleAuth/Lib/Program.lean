import Mathlib.Algebra.Order.Ring.Nat
import SingleAuth.Lib.Process
import Mathlib.Algebra.Order.BigOperators.Group.List

open process transition

namespace program

section

variable {σ : Type}

/-- A computation that calls on a shared state, one call after the other. What
comes next depends on the state that the call has met. -/
inductive Program (σ ρ : Type) : Type where
  | done (result : ρ)
  | call (effect : σ → σ) (next : σ → Program σ ρ)

namespace Program

variable {ρ τ : Type}

def bind : Program σ ρ → (ρ → Program σ τ) → Program σ τ
  | done result, next => next result
  | call effect rest, next => call effect fun shared => (rest shared).bind next

/-- What a program answers and leaves behind with nobody else at the state. -/
def run : Program σ ρ → σ → ρ × σ
  | done result, shared => (result, shared)
  | call effect next, shared => (next shared).run (effect shared)

def step : Program σ ρ → σ → Program σ ρ × σ
  | done result, shared => (done result, shared)
  | call effect next, shared => (next shared, effect shared)

theorem run_bind (first : Program σ ρ) (next : ρ → Program σ τ) (shared : σ) :
    (first.bind next).run shared = (next (first.run shared).1).run (first.run shared).2 := by
  induction first generalizing shared with
  | done result => rfl
  | call effect rest ih => exact ih shared (effect shared)

end Program

/-! ## Programs that can fail -/

variable {ε α β : Type}

def Calls (σ ε α : Type) : Type := Program σ (Except ε α)

namespace Calls

instance : Monad (Calls σ ε) where
  pure value := Program.done (.ok value)
  bind first next := Program.bind first fun
    | .ok value => next value
    | .error failure => .done (.error failure)

instance : MonadLift (Except ε) (Calls σ ε) where
  monadLift := Program.done

def query (read : σ → Except ε α) : Calls σ ε α := Program.call id fun shared => .done (read shared)

def update (write : σ → Except ε (α × σ)) : Calls σ ε α :=
  Program.call (fun shared => (write shared).toOption.elim shared Prod.snd) fun shared =>
    .done ((write shared).map Prod.fst)

def run (calls : Calls σ ε α) (shared : σ) : Except ε α × σ := Program.run calls shared

@[simp] theorem run_lift (result : Except ε α) (shared : σ) :
    run (monadLift result : Calls σ ε α) shared = (result, shared) := rfl

theorem run_bind (first : Calls σ ε α) (next : α → Calls σ ε β) (shared : σ) :
    run (first >>= next) shared =
      match run first shared with
      | (.ok value, after) => run (next value) after
      | (.error failure, after) => (.error failure, after) := by
  refine (Program.run_bind _ _ _).trans ?_
  unfold run
  cases Program.run first shared with
  | mk result after => cases result <;> rfl

theorem run_bind_ok {first : Calls σ ε α} {value : α} {shared after : σ} (h : run first shared = (.ok value, after))
    (next : α → Calls σ ε β) : run (first >>= next) shared = run (next value) after := by
  rw [run_bind, h]

/-- Go on with the answer of a program, also when it fails. -/
def attempt (calls : Calls σ ε α) : Calls σ ε (Except ε α) := Program.bind calls fun result => .done (.ok result)

end Calls

/-! ## Programs at a part of a state -/

section

variable {κ ρ : Type} (get : κ → σ) (put : κ → σ → κ)

def Program.within : Program σ ρ → Program κ ρ
  | .done result => .done result
  | .call effect next => .call (fun whole => put whole (effect (get whole))) fun whole => (next (get whole)).within

def Calls.within (calls : Calls σ ε α) : Calls κ ε α := Program.within get put calls

/-- It answers as it does at the part alone, and changes nothing else. -/
theorem Calls.run_within (hget : ∀ whole part, get (put whole part) = part)
    (hput : ∀ whole part other, put (put whole part) other = put whole other) (hsame : ∀ whole, put whole (get whole) = whole)
    (calls : Calls σ ε α) (whole : κ) :
    (calls.within get put).run whole = ((calls.run (get whole)).1, put whole (calls.run (get whole)).2) := by
  induction calls generalizing whole with
  | done result => exact congrArg (Prod.mk result) (hsame whole).symm
  | call effect next ih =>
    refine (ih (get whole) (put whole (effect (get whole)))).trans ?_
    rw [hget, hput]
    rfl

end

/-! ## Programs that leave something alone -/

variable {calls first : Calls σ ε α} {next : α → Calls σ ε β} {result : Except ε α}

section

variable {κ : Type} {view : σ → κ}

/-- Every call leaves what is seen of the state as it is, and a success is as
`post` says. -/
def Steady (view : σ → κ) (post : α → Prop) : Program σ (Except ε α) → Prop
  | .done result => ∀ value, result = .ok value → post value
  | .call effect next => ∀ shared, view (effect shared) = view shared ∧ Steady view post (next shared)

namespace Steady

variable {post : α → Prop}

theorem checks : Steady view (fun value => result = .ok value) (monadLift result : Calls σ ε α) := fun _ h => h

theorem fails {failure : ε} : Steady view post (monadLift (Except.error failure) : Calls σ ε α) :=
  fun _ h => by cases h

theorem pure {value : α} (h : post value) : Steady view post (pure value : Calls σ ε α) := by
  rintro _ ⟨⟩
  exact h

theorem access {access : σ → α × σ} (h : ∀ shared, view (access shared).2 = view shared) :
    Steady view (fun _ => True) (Calls.update fun shared => .ok (access shared) : Calls σ ε α) :=
  fun shared => ⟨h shared, fun _ _ => trivial⟩

theorem bind {middle : α → Prop} {post : β → Prop}
    (hfirst : Steady view middle first) (hnext : ∀ value, middle value → Steady view post (next value)) :
    Steady view post (first >>= next : Calls σ ε β) := by
  induction first with
  | done result =>
    cases result with
    | ok value => exact hnext value (hfirst value rfl)
    | error failure => exact fun value hvalue => by cases hvalue
  | call effect rest ih => exact fun shared => ⟨(hfirst shared).1, ih shared (hfirst shared).2⟩

theorem attempt (h : Steady view post calls) : Steady view (fun _ => True) calls.attempt := by
  induction calls with
  | done result => exact fun _ _ => trivial
  | call effect rest ih => exact fun shared => ⟨(h shared).1, ih shared (h shared).2⟩

/-- At a part of the state nothing else is touched either. -/
theorem within {ν μ : Type} {get : ν → σ} {put : ν → σ → ν} {whole : ν → μ}
    (hput : ∀ state part, view part = view (get state) → whole (put state part) = whole state)
    (h : Steady view post calls) : Steady whole post (calls.within get put) := by
  induction calls with
  | done result => exact h
  | call effect rest ih => exact fun state => ⟨hput state _ (h (get state)).1, ih (get state) (h (get state)).2⟩

theorem run (h : Steady view post calls) (shared : σ) :
    view (calls.run shared).2 = view shared ∧ ∀ value, (calls.run shared).1 = .ok value → post value := by
  induction calls generalizing shared with
  | done result => exact ⟨rfl, h⟩
  | call effect rest ih =>
    obtain ⟨hview, hpost⟩ := ih shared (h shared).2 (effect shared)
    exact ⟨hview.trans (h shared).1, hpost⟩

end Steady

/-! ## Programs of their own -/

/-- Run alone from a state with `pre`, the program leaves one with `post` when
it succeeds and one with `failed` when it does not. -/
def Calls.Leads (failed pre : σ → Prop) (calls : Calls σ ε α) (post : α → σ → Prop) : Prop :=
  ∀ shared, pre shared → ∀ result after, calls.run shared = (result, after) →
    (∀ value, result = .ok value → post value after) ∧ (∀ failure, result = .error failure → failed after)

namespace Calls.Leads

variable {failed pre : σ → Prop} {post : α → σ → Prop}

/-- What holds of the part that is seen is kept. -/
theorem steady {post : α → Prop} (hview : ∀ shared later, view later = view shared → pre shared → pre later)
    (hfailed : ∀ shared, pre shared → failed shared) (h : Steady view post calls) :
    Leads failed pre calls fun value after => post value ∧ pre after := by
  intro shared hpre result after hrun
  obtain ⟨hsame, hpost⟩ := h.run shared
  rw [hrun] at hsame hpost
  have hafter := hview shared after hsame hpre
  exact ⟨fun value hvalue => ⟨hpost value hvalue, hafter⟩, fun _ _ => hfailed after hafter⟩

theorem checks (hfailed : ∀ shared, pre shared → failed shared) :
    Leads failed pre (monadLift result : Calls σ ε α) fun value after => result = .ok value ∧ pre after := by
  have h : Steady (fun shared : σ => shared) (fun value => result = .ok value) (monadLift result : Calls σ ε α) := .checks
  refine steady (fun _ _ hsame hpre => ?_) hfailed h
  exact hsame ▸ hpre

theorem imp {weaker : α → σ → Prop} (h : Leads failed pre calls post)
    (hweaker : ∀ value after, post value after → weaker value after) : Leads failed pre calls weaker :=
  fun shared hpre result after hrun =>
    ⟨fun value hvalue => hweaker value after ((h shared hpre result after hrun).1 value hvalue),
      (h shared hpre result after hrun).2⟩

theorem of_run (h : ∀ shared, pre shared → ∃ value after, calls.run shared = (.ok value, after) ∧ post value after) :
    Leads failed pre calls post := by
  intro shared hpre result after hrun
  obtain ⟨value, state, hstate, hpost⟩ := h shared hpre
  rw [hrun] at hstate
  cases hstate
  refine ⟨?_, fun _ hfailure => by cases hfailure⟩
  rintro _ ⟨⟩
  exact hpost

theorem bind {middle : α → σ → Prop} {post : β → σ → Prop}
    (hfirst : Leads failed pre first middle) (hnext : ∀ value, Leads failed (middle value) (next value) post) :
    Leads failed pre (first >>= next) post := by
  intro shared hpre result after hrun
  rw [run_bind] at hrun
  cases hbefore : run first shared with
  | mk found state =>
    rw [hbefore] at hrun
    obtain ⟨hok, herror⟩ := hfirst shared hpre found state hbefore
    cases found with
    | ok value => exact hnext value state (hok value rfl) result after hrun
    | error failure =>
      cases hrun
      exact ⟨fun value hvalue => (by cases hvalue), fun _ _ => herror failure rfl⟩

/-- What is left whatever the answer is. -/
theorem after (h : Leads failed pre calls fun _ => failed) {shared : σ} (hpre : pre shared) :
    failed (calls.run shared).2 := by
  obtain ⟨hok, herror⟩ := h shared hpre _ _ rfl
  cases hresult : (calls.run shared).1 with
  | ok value => exact hok value hresult
  | error failure => exact herror failure hresult

end Calls.Leads

end

/-! ## Paying for a success -/

/-- The program never takes more out of the state than it returns or than it
holds as credit, and it has what a success costs when it succeeds. -/
def Pays (available : σ → Nat) (post : α → Nat → Prop) : Nat → Program σ (Except ε α) → Prop
  | credit, .done result => ∀ value, result = .ok value → post value credit
  | credit, .call effect next =>
    ∀ shared, ∃ left, available (effect shared) + left ≤ available shared + credit ∧
      Pays available post left (next shared)

namespace Pays

variable {available : σ → Nat} {post : α → Nat → Prop} {credit : Nat}

theorem lift (h : ∀ value, result = .ok value → post value credit) :
    Pays available post credit (monadLift result : Calls σ ε α) := h

theorem pure {value : α} (h : post value credit) : Pays available post credit (pure value : Calls σ ε α) := by
  rintro _ ⟨⟩
  exact h

theorem query {read : σ → Except ε α} (h : ∀ shared value, read shared = .ok value → post value credit) :
    Pays available post credit (Calls.query read) :=
  fun shared => ⟨credit, Nat.le_refl _, h shared⟩

/-- Nothing has to be paid for a failure. -/
theorem fails {failure : ε} : Pays available post credit (monadLift (Except.error failure) : Calls σ ε α) :=
  lift fun _ h => by cases h

theorem reads_ok {read : σ → Except ε α} :
    Pays available (fun value left => (∃ shared, read shared = .ok value) ∧ left = credit) credit (Calls.query read) :=
  query fun shared _ h => ⟨⟨shared, h⟩, rfl⟩

/-- A call pays for what it adds to the state, and may keep what it takes out. -/
theorem update {write : σ → Except ε (α × σ)}
    (h : ∀ shared value after, write shared = .ok (value, after) →
      ∃ left, available after + left ≤ available shared + credit ∧ post value left) :
    Pays available post credit (Calls.update write) := by
  intro shared
  cases hwrite : write shared with
  | error failure =>
    refine ⟨credit, ?_, fun value hvalue => ?_⟩
    · simp [hwrite, Except.toOption]
    · simp [hwrite, Except.map] at hvalue
  | ok written =>
    obtain ⟨value, after⟩ := written
    obtain ⟨left, hleft, hpost⟩ := h shared value after hwrite
    refine ⟨left, ?_, fun other hother => ?_⟩
    · simpa [hwrite, Except.toOption] using hleft
    · simp only [hwrite, Except.map, Except.ok.injEq] at hother
      exact hother ▸ hpost

theorem bind {middle : α → Nat → Prop} {post : β → Nat → Prop}
    (hfirst : Pays available middle credit first)
    (hnext : ∀ value left, middle value left → Pays available post left (next value)) :
    Pays available post credit (first >>= next : Calls σ ε β) := by
  induction first generalizing credit with
  | done result =>
    cases result with
    | ok value => exact hnext value credit (hfirst value rfl)
    | error failure => exact fun value hvalue => by cases hvalue
  | call effect rest ih =>
    intro shared
    obtain ⟨left, hleft, hrest⟩ := hfirst shared
    exact ⟨left, hleft, ih shared hrest⟩

theorem check {post : β → Nat → Prop}
    (h : ∀ value, result = .ok value → Pays available post credit (next value)) :
    Pays available post credit (monadLift result >>= next : Calls σ ε β) := by
  cases result with
  | ok value => exact h value rfl
  | error failure => exact fails

theorem read {post : β → Nat → Prop} {look : σ → Except ε α}
    (h : ∀ value, Pays available post credit (next value)) :
    Pays available post credit (Calls.query look >>= next : Calls σ ε β) :=
  bind reads_ok fun value _ hvalue => hvalue.2 ▸ h value

theorem imp {post weaker : α → Nat → Prop} (h : Pays available post credit calls)
    (hweaker : ∀ value left, post value left → weaker value left) : Pays available weaker credit calls := by
  induction calls generalizing credit with
  | done result => exact fun value hvalue => hweaker value credit (h value hvalue)
  | call effect rest ih =>
    intro shared
    obtain ⟨left, hleft, hrest⟩ := h shared
    exact ⟨left, hleft, ih shared hrest⟩

/-- At a part of the state nothing else is paid for. -/
theorem within {κ : Type} {get : κ → σ} {put : κ → σ → κ} (hget : ∀ whole part, get (put whole part) = part)
    (h : Pays available post credit calls) :
    Pays (fun whole => available (get whole)) post credit (calls.within get put) := by
  induction calls generalizing credit with
  | done result => exact h
  | call effect rest ih =>
    intro whole
    obtain ⟨left, hleft, hrest⟩ := h (get whole)
    refine ⟨left, ?_, ih (get whole) hrest⟩
    dsimp only
    rwa [hget]

/-- What leaves alone what counts is paid for with any credit. -/
theorem of_steady {κ : Type} {view : σ → κ} {available : κ → Nat} {post : α → Prop} (h : Steady view post calls) :
    Pays (fun shared => available (view shared)) (fun value left => post value ∧ left = credit) credit calls := by
  induction calls with
  | done result => exact fun value hvalue => ⟨h value hvalue, rfl⟩
  | call effect rest ih =>
    intro shared
    refine ⟨credit, ?_, ih shared (h shared).2⟩
    dsimp only
    rw [(h shared).1]

/-- Nothing is known of the credit after a failure. -/
theorem attempt (h : Pays available post credit calls) :
    Pays available (fun result left => ∀ value, result = .ok value → post value left) credit calls.attempt := by
  induction calls generalizing credit with
  | done result =>
    rintro _ ⟨⟩
    exact h
  | call effect rest ih =>
    intro shared
    obtain ⟨left, hleft, hrest⟩ := h shared
    exact ⟨left, hleft, ih shared hrest⟩

end Pays

/-! ## Interleaving -/

/-- A running program and the request that it was started for. -/
structure Thread (τ σ ε α : Type) where
  request : τ
  calls : Program σ (Except ε α)

variable {τ : Type}

namespace Thread

def step (thread : Thread τ σ ε α) (shared : σ) : Thread τ σ ε α × σ :=
  ({ thread with calls := (thread.calls.step shared).1 }, (thread.calls.step shared).2)

def answer (thread : Thread τ σ ε α) : Option (Except ε α) :=
  match thread.calls with
  | .done result => some result
  | .call _ _ => none

/-- What a success has cost, nothing before the end or for a failure. -/
def spent (cost : τ → α → Nat) (thread : Thread τ σ ε α) : Nat :=
  match thread.calls with
  | .done (.ok value) => cost thread.request value
  | _ => 0

end Thread

variable {thread : Thread τ σ ε α}

theorem Thread.step_of_answer (h : thread.answer = some result) (shared : σ) : (thread.step shared).1 = thread := by
  obtain ⟨request, calls⟩ := thread
  cases calls with
  | done result => rfl
  | call effect next => cases h

inductive Turn (τ : Type) where
  | start (request : τ)
  | step (number : Nat)

/-- A request comes in, or a running one makes its next call. -/
def advance (program : τ → Calls σ ε α) (system : System σ (Thread τ σ ε α)) : Turn τ → System σ (Thread τ σ ε α)
  | .start request => spawn ⟨request, program request⟩ system
  | .step number => turn Thread.step number system

section

variable {program : τ → Calls σ ε α} {start : σ} {system : System σ (Thread τ σ ε α)}

/-- Two kinds of threads that each cost at least one. -/
theorem countP_add_countP_le (threads : List (Thread τ σ ε α)) {first second : Thread τ σ ε α → Bool}
    {price : Thread τ σ ε α → Nat} (h : ∀ thread, (first thread).toNat + (second thread).toNat ≤ price thread) :
    threads.countP first + threads.countP second ≤ (threads.map price).sum := by
  induction threads with
  | nil => simp
  | cons thread rest ih =>
    have hthread := h thread
    rw [List.countP_cons, List.countP_cons, List.map_cons, List.sum_cons]
    cases hfirst : first thread <;> cases hsecond : second thread <;> simp [hfirst, hsecond] at hthread ⊢ <;> omega

theorem answered_persists {later : System σ (Thread τ σ ε α)}
    (hreached : Reached (advance program) (fun _ _ => True) system later)
    (hanswer : thread.answer = some result) (hthread : thread ∈ system.threads) : thread ∈ later.threads := by
  refine hreached.invariant (fun system => thread ∈ system.threads) hthread ?_
  rintro system (request | number) hthread _
  · exact List.mem_append_left _ hthread
  unfold advance process.turn
  dsimp only
  split
  · exact hthread
  rename_i found hfound
  obtain ⟨index, hindex⟩ := List.mem_iff_getElem?.mp hthread
  refine List.mem_iff_getElem?.mpr ⟨index, ?_⟩
  rw [List.getElem?_set]
  split
  · next heq =>
    subst heq
    rw [hfound] at hindex
    cases hindex
    obtain ⟨hlt, _⟩ := List.getElem?_eq_some_iff.mp hfound
    rw [if_pos hlt, Thread.step_of_answer hanswer]
  · exact hindex

end

end

end program
