import SingleAuth.Lib.Expiring

open expiring

namespace script

/-- A program over an expiring store: it reads the clock, reads and writes keys, and
takes and gives back locks. -/
inductive Script (α : Type) where
  | done
  | clock (next : Int → Script α)
  | get (key : String) (next : Option α → Script α)
  | set (key : String) (value : α) (ttl : Int) (next : Script α)
  | delete (key : String) (next : Script α)
  | lock (key : String) (next : Script α)
  | unlock (key : String) (next : Script α)

section

variable {α : Type}

def deleteEach (keys : List String) (next : Script α) : Script α := keys.foldr .delete next

/-- A program run at one time with nothing in between. -/
def run (now : Int) : Script α → Store α → Store α
  | .done, store => store
  | .clock next, store => run now (next now) store
  | .get key next, store => run now (next (expiring.get store key)) store
  | .set key value ttl next, store => run now next (expiring.set store now key value ttl)
  | .delete key next, store => run now next (expiring.delete store key)
  | .lock _ next, store => run now next store
  | .unlock _ next, store => run now next store

theorem run_deleteEach (now : Int) (keys : List String) (next : Script α) (store : Store α) :
    run now (deleteEach keys next) store = run now next (keys.foldl expiring.delete store) := by
  induction keys generalizing store with
  | nil => rfl
  | cons key rest ih => exact ih (expiring.delete store key)

theorem get?_foldl_delete (keys : List String) (store : Store α) (key : String) :
    (keys.foldl expiring.delete store).get? key = if key ∈ keys then none else store.get? key := by
  induction keys generalizing store with
  | nil => simp
  | cons first rest ih =>
    rw [List.foldl_cons, ih, get?_delete]
    by_cases hfirst : key = first <;> by_cases hrest : key ∈ rest <;> simp [hfirst, hrest]

/-! ## Interleaving -/

/-- Programs that share a store. Locks are taken by shard. -/
structure System (α : Type) where
  store : Store α
  locked : Nat → Bool
  threads : Nat → Script α

variable (shard : String → Nat)

/-- One operation of one program at a time. A program that meets a taken lock waits. -/
def turn (system : System α) (number : Nat) (now : Int) : System α :=
  let store := advance system.store now
  let goOn := fun next => Function.update system.threads number next
  match system.threads number with
  | .done => { system with store }
  | .clock next => { system with store, threads := goOn (next now) }
  | .get key next => { system with store, threads := goOn (next (expiring.get store key)) }
  | .set key value ttl next =>
    { system with store := expiring.set store now key value ttl, threads := goOn next }
  | .delete key next => { system with store := expiring.delete store key, threads := goOn next }
  | .lock key next =>
    if system.locked (shard key) then { system with store }
    else { store, locked := Function.update system.locked (shard key) true, threads := goOn next }
  | .unlock key next => { store, locked := Function.update system.locked (shard key) false, threads := goOn next }

/-- The program may still write the key without having found it there. -/
def Holds (key : String) : Script α → Prop
  | .done => False
  | .clock next => ∃ now, Holds key (next now)
  | .get other next => (other = key ∧ Holds key (next none)) ∨ (other ≠ key ∧ ∃ found, Holds key (next found))
  | .set other _ _ next => other = key ∨ Holds key next
  | .delete _ next => Holds key next
  | .lock _ next => Holds key next
  | .unlock _ next => Holds key next

/-- Whatever the program finds, it deletes the key before it is done. -/
def Deletes (key : String) : Script α → Prop
  | .done => False
  | .clock next => ∀ now, Deletes key (next now)
  | .get _ next => ∀ found, Deletes key (next found)
  | .set _ _ _ next => Deletes key next
  | .delete other next => other = key ∨ Deletes key next
  | .lock _ next => Deletes key next
  | .unlock _ next => Deletes key next

def Gone (key : String) (system : System α) : Prop :=
  system.store.get? key = none ∧ ∀ number, ¬ Holds key (system.threads number)

variable {shard} {system : System α} {key : String} {number : Nat} {now : Int}

theorem get?_advance_of_none {store : Store α} (h : store.get? key = none) (now : Int) :
    (advance store now).get? key = none := by
  refine Option.eq_none_iff_forall_not_mem.mpr fun entry hentry => ?_
  rw [(get?_advance_eq_some_iff.mp (Option.mem_def.mp hentry)).1] at h
  cases h

variable {keys : List String} {next : Script α}

theorem holds_deleteEach : Holds key (deleteEach keys next) ↔ Holds key next := by
  induction keys with
  | nil => rfl
  | cons first rest ih => exact ih

theorem deletes_deleteEach (next : Script α) (h : key ∈ keys) : Deletes key (deleteEach keys next) := by
  induction keys with
  | nil => cases h
  | cons first rest ih =>
    rcases List.mem_cons.mp h with rfl | h
    · exact .inl rfl
    · exact .inr (ih h)

theorem not_holds_update (hthreads : ∀ other, ¬ Holds key (system.threads other)) (hnext : ¬ Holds key next) :
    ∀ other, ¬ Holds key (Function.update system.threads number next other) :=
  (Function.forall_update_iff system.threads fun _ script => ¬ Holds key script).mpr
    ⟨hnext, fun other _ => hthreads other⟩

theorem Gone.turn (h : Gone key system) (number : Nat) (now : Int) : Gone key (turn shard system number now) := by
  obtain ⟨hnone, hthreads⟩ := h
  have habsent := get?_advance_of_none hnone now
  have hown := hthreads number
  have hnext : ∀ next, ¬ Holds key next → ∀ other, ¬ Holds key (Function.update system.threads number next other) :=
    fun next => not_holds_update hthreads
  unfold script.turn
  generalize system.threads number = current at hown ⊢
  cases current with
  | done => exact ⟨habsent, hthreads⟩
  | clock next => exact ⟨habsent, hnext _ fun hholds => hown ⟨now, hholds⟩⟩
  | get other next =>
    refine ⟨habsent, hnext _ fun hholds => hown ?_⟩
    by_cases hsame : other = key
    · rw [hsame, expiring.get, habsent] at hholds
      exact .inl ⟨hsame, hholds⟩
    · exact .inr ⟨hsame, _, hholds⟩
  | set other value ttl next =>
    obtain ⟨hne, hrest⟩ := not_or.mp hown
    exact ⟨by rwa [get?_set_of_ne _ _ _ _ (Ne.symm hne)], hnext _ hrest⟩
  | delete other next =>
    refine ⟨?_, hnext _ hown⟩
    rw [get?_delete, habsent, ite_self]
  | lock other next =>
    dsimp only
    split
    · exact ⟨habsent, hthreads⟩
    · exact ⟨habsent, hnext _ hown⟩
  | unlock other next => exact ⟨habsent, hnext _ hown⟩

/-- A deletion while no program may write the key. -/
theorem gone_of_delete (hscript : system.threads number = .delete key next)
    (hthreads : ∀ other, ¬ Holds key (system.threads other)) : Gone key (turn shard system number now) := by
  have hown : ¬ Holds key next := by
    have hown := hthreads number
    rwa [hscript] at hown
  simp only [Gone, turn, hscript]
  exact ⟨by simp [get?_delete], not_holds_update hthreads hown⟩

/-- A program that deletes a key does so now or goes on to do it. -/
theorem deletes_turn (h : Deletes key (system.threads number)) :
    (∃ next, system.threads number = .delete key next) ∨ Deletes key ((turn shard system number now).threads number) := by
  have hnext : ∀ next : Script α, Deletes key next →
      Deletes key (Function.update system.threads number next number) := by
    intro next hdeletes
    rwa [Function.update_self]
  unfold turn
  cases hscript : system.threads number with
  | done =>
    rw [hscript] at h
    exact h.elim
  | clock next =>
    rw [hscript] at h
    exact .inr (hnext _ (h now))
  | get other next =>
    rw [hscript] at h
    exact .inr (hnext _ (h _))
  | set | unlock =>
    rw [hscript] at h
    exact .inr (hnext _ h)
  | delete other next =>
    rw [hscript] at h
    rcases h with rfl | h
    · exact .inl ⟨next, rfl⟩
    · exact .inr (hnext _ h)
  | lock other next =>
    dsimp only
    split
    · exact .inr h
    · rw [hscript] at h
      exact .inr (hnext _ h)

theorem threads_turn_of_ne {other : Nat} (h : other ≠ number) :
    (turn shard system number now).threads other = system.threads other := by
  unfold turn
  cases system.threads number with
  | lock key next =>
    dsimp only
    split
    · rfl
    · exact Function.update_of_ne h _ _
  | done => rfl
  | _ => exact Function.update_of_ne h _ _

end

end script
