import SingleAuth.Lib.Transition
import SingleAuth.Core.Secondary.Requests

open dict expiring script transition

namespace singleauth.secondary

/-! ## Concurrent calls -/

inductive Call where
  | deleteSession (token : String)
  | deleteUser (userID : String)
  | refreshUser (userID : Option String) (user : Dict String)
  | updateSession (token : String) (change : SessionUpdate)

def Call.script : Call → Script Cached
  | .deleteSession token => deleteStoredSession token
  | .deleteUser userID => deleteSecondaryUserSessions userID
  | .refreshUser userID user => refreshSecondaryUser userID user
  | .updateSession token change => updateStoredSession token change

/-- Calls that share the secondary storage, with the tokens that each of them is bound to
delete: the token that it was called with, or those of the list that it has read. -/
structure Calls where
  system : System Cached
  calls : Nat → Option Call
  owed : Nat → List String

inductive Event where
  | start (number : Nat) (call : Call)
  | turn (number : Nat) (now : Int)

/-- The tokens of the list that a call which revokes the sessions of a user reads at its
turn. -/
def listedAt (state : Calls) (number : Nat) (now : Int) : List String :=
  match state.calls number, state.system.threads number with
  | some (.deleteUser _), .get key _ =>
    (secondarySessionList (expiring.get (advance state.system.store now) key)).map ActiveSessionEntry.token
  | _, _ => []

/-- The tokens that a call is bound to delete from the start. -/
def Call.owed : Call → List String
  | .deleteSession token => [token]
  | _ => []

def interleave (state : Calls) : Event → Calls
  | .start number call =>
    match state.calls number with
    | some _ => state
    | none =>
      { system := { state.system with threads := Function.update state.system.threads number call.script }
        calls := Function.update state.calls number (some call)
        owed := Function.update state.owed number call.owed }
  | .turn number now =>
    { state with
      system := turn lockFor state.system number now
      owed := Function.update state.owed number (state.owed number ++ listedAt state number now) }

def idle (store : Store Cached) : Calls where
  system := { store, locked := fun _ => false, threads := fun _ => .done }
  calls := fun _ => none
  owed := fun _ => []

/-- The condition on a turn: when the key of a session is deleted, no call has a copy of
the session that it may still write back. -/
def NoCopies (state : Calls) : Event → Prop
  | .start _ _ => True
  | .turn number _ =>
    ∀ key next, state.system.threads number = .delete key next → isListKey key = false →
      ∀ other, ¬ Holds key (state.system.threads other)

/-! ## What calls may write -/

section

variable {token : String} {other userID : String} {system : System Cached} {now : Int}

theorem not_holds_store (htoken : isListKey token = false) {session : Session} {user : Dict String} {expiresAt : Int}
    (hne : other ≠ token) :
    ¬ Holds token (storeSecondarySessionPayload session user other userID expiresAt) := by
  have hlist : listKey userID ≠ token := (ne_listKey htoken userID).symm
  unfold storeSecondarySessionPayload
  split
  · exact id
  rintro ⟨now, h⟩
  dsimp only at h
  split at h
  · exact h
  rcases h with ⟨hkey, _⟩ | ⟨_, found, h⟩
  · exact hlist hkey
  dsimp only at h
  split at h
  · rcases h with hkey | hkey | h
    · exact hlist hkey
    · exact hne hkey
    · exact h
  · rcases h with hkey | h
    · exact hne hkey
    · exact h

theorem not_holds_removeSession (htoken : isListKey token = false) :
    ¬ Holds token (removeSession other (listKey userID)) := by
  have hlist : listKey userID ≠ token := (ne_listKey htoken userID).symm
  rintro (⟨hkey, _⟩ | ⟨_, found, now, h⟩)
  · exact hlist hkey
  dsimp only at h
  split at h
  · exact h
  · rcases h with hkey | h
    · exact hlist hkey
    · exact h

theorem not_holds_refreshEntries (user : Dict String) (now : Int) (entries : List ActiveSessionEntry) :
    ¬ Holds token (refreshEntries user now entries) := by
  induction entries with
  | nil => exact id
  | cons entry rest ih =>
    rw [refreshEntries]
    split
    · exact ih
    rintro (⟨_, h⟩ | ⟨hne, found, h⟩)
    · exact ih h
    dsimp only at h
    split at h
    · split at h
      · rcases h with hkey | h
        · exact hne hkey
        · exact ih h
      · exact ih h
    · exact ih h

/-- A call that has read nothing yet writes a session only if it finds it. -/
theorem not_holds_script (htoken : isListKey token = false) (call : Call) : ¬ Holds token call.script := by
  cases call with
  | deleteSession other =>
    rintro (⟨_, h⟩ | ⟨_, found, h⟩)
    · exact h
    dsimp only at h
    split at h
    · exact not_holds_removeSession htoken h
    · exact h
  | deleteUser userID =>
    rintro (⟨_, h⟩ | ⟨_, found, h⟩)
    · exact holds_deleteEach.mp h
    · exact holds_deleteEach.mp h
  | refreshUser userID user =>
    cases userID with
    | none => exact id
    | some userID =>
      rintro (⟨_, now, h⟩ | ⟨_, found, now, h⟩)
      · exact not_holds_refreshEntries user now _ h
      · exact not_holds_refreshEntries user now _ h
  | updateSession other change =>
    rintro (⟨_, h⟩ | ⟨hne, found, h⟩)
    · exact h
    dsimp only at h
    split at h
    · split at h
      · exact not_holds_store htoken hne h
      · exact h
    · exact h

/-! ## What calls delete -/

theorem deletes_deleteStoredSession (token : String) : Deletes token (deleteStoredSession token) := by
  intro found
  dsimp only
  split
  · intro list now
    dsimp only
    split
    · exact .inr (.inl rfl)
    · exact .inl rfl
  · exact .inl rfl

/-- Whatever list the program reads, it deletes the tokens of that list. -/
def DeletesListed : Script Cached → Prop
  | .done => True
  | .clock next => ∀ now, DeletesListed (next now)
  | .get _ next =>
    ∀ found, (∀ entry ∈ secondarySessionList found, Deletes entry.token (next found)) ∧ DeletesListed (next found)
  | .set _ _ _ next => DeletesListed next
  | .delete _ next => DeletesListed next
  | .lock _ next => DeletesListed next
  | .unlock _ next => DeletesListed next

theorem deletesListed_deleteUser (userID : String) : DeletesListed (deleteSecondaryUserSessions userID) := by
  have hsilent : ∀ keys : List String,
      DeletesListed (deleteEach keys (.delete (listKey userID) (.unlock (listKey userID) .done))) := by
    intro keys
    induction keys with
    | nil => trivial
    | cons first rest ih => exact ih
  intro found
  exact ⟨fun entry hentry => deletes_deleteEach _ (List.mem_map_of_mem hentry), hsilent _⟩

variable {number : Nat} {state : Calls}

theorem deletesListed_turn (h : DeletesListed (system.threads number))
    (now : Int) : DeletesListed ((turn lockFor system number now).threads number) := by
  have hnext : ∀ next : Script Cached, DeletesListed next →
      DeletesListed (Function.update system.threads number next number) := by
    intro next hnext
    rwa [Function.update_self]
  unfold turn
  cases hscript : system.threads number with
  | lock key next =>
    dsimp only
    split
    · exact h
    · rw [hscript] at h
      exact hnext _ h
  | done => exact h
  | clock next =>
    rw [hscript] at h
    exact hnext _ (h now)
  | get key next =>
    rw [hscript] at h
    exact hnext _ (h _).2
  | set | delete | unlock =>
    rw [hscript] at h
    exact hnext _ h

/-! ## Runs -/

/-- Every token that a call is bound to delete is gone, or the call will still delete it. -/
structure Revoking (state : Calls) : Prop where
  owed : ∀ number token, token ∈ state.owed number → isListKey token = false →
    Gone token state.system ∨ Deletes token (state.system.threads number)
  listed : ∀ number userID, state.calls number = some (.deleteUser userID) → DeletesListed (state.system.threads number)

theorem gone_start (htoken : isListKey token = false) (h : Gone token system) (number : Nat)
    (call : Call) : Gone token { system with threads := Function.update system.threads number call.script } := by
  obtain ⟨hnone, hthreads⟩ := h
  refine ⟨hnone, fun other => ?_⟩
  dsimp only
  by_cases hsame : other = number
  · rw [hsame, Function.update_self]
    exact not_holds_script htoken call
  · rw [Function.update_of_ne hsame]
    exact hthreads other

theorem deletes_script {call : Call} (h : token ∈ call.owed) : Deletes token call.script := by
  cases call with
  | deleteSession own =>
    cases List.mem_singleton.mp h
    exact deletes_deleteStoredSession token
  | _ => cases h

theorem interleave_start_revoking (h : Revoking state) (number : Nat) (call : Call) :
    Revoking (interleave state (.start number call)) := by
  cases hcall : state.calls number with
  | some other => simpa [interleave, hcall] using h
  | none =>
    simp only [interleave, hcall]
    constructor
    · intro other token howed htoken
      dsimp only at howed ⊢
      by_cases hsame : other = number
      · rw [hsame, Function.update_self] at howed ⊢
        exact .inr (deletes_script howed)
      · rw [Function.update_of_ne hsame] at howed ⊢
        exact (h.owed other token howed htoken).imp_left fun hgone => gone_start htoken hgone number call
    intro other userID hother
    dsimp only at hother ⊢
    by_cases hsame : other = number
    · rw [hsame, Function.update_self] at hother ⊢
      cases hother
      exact deletesListed_deleteUser userID
    · rw [Function.update_of_ne hsame] at hother ⊢
      exact h.listed other userID hother

/-- The tokens of a list that has just been read will be deleted. -/
theorem deletes_of_listedAt (h : Revoking state) (hlisted : token ∈ listedAt state number now) :
    Deletes token ((turn lockFor state.system number now).threads number) := by
  unfold listedAt at hlisted
  split at hlisted
  · next userID key next hcall hscript =>
    obtain ⟨entry, hentry, rfl⟩ := List.mem_map.mp hlisted
    have hdeletes := h.listed number userID hcall
    rw [hscript] at hdeletes
    simp only [turn, hscript, Function.update_self]
    exact (hdeletes _).1 entry hentry
  · cases hlisted

theorem interleave_turn_revoking (h : Revoking state)
    (hcopies : NoCopies state (.turn number now)) : Revoking (interleave state (.turn number now)) := by
  simp only [interleave]
  constructor
  · intro other token howed htoken
    dsimp only at howed ⊢
    by_cases hsame : other = number
    · subst hsame
      rw [Function.update_self] at howed
      rcases List.mem_append.mp howed with hold | hnew
      · rcases h.owed other token hold htoken with hgone | hdeletes
        · exact .inl (hgone.turn other now)
        · rcases deletes_turn hdeletes with ⟨next, hscript⟩ | hdeletes
          · exact .inl (gone_of_delete hscript (hcopies token next hscript htoken))
          · exact .inr hdeletes
      · exact .inr (deletes_of_listedAt h hnew)
    · rw [Function.update_of_ne hsame] at howed
      rw [threads_turn_of_ne hsame]
      exact (h.owed other token howed htoken).imp_left fun hgone => hgone.turn number now
  · intro other userID hother
    by_cases hsame : other = number
    · subst hsame
      exact deletesListed_turn (h.listed other userID hother) now
    · rw [threads_turn_of_ne hsame]
      exact h.listed other userID hother

theorem interleave_revoking {event : Event} (h : Revoking state) (hcopies : NoCopies state event) :
    Revoking (interleave state event) := by
  cases event with
  | start number call => exact interleave_start_revoking h number call
  | turn number now => exact interleave_turn_revoking h hcopies

/-- Through any interleaving of the storage accesses of deletions, refreshes and updates,
as long as a session key is deleted only while no call has a copy of the session to
write back: when a deletion is done, none of the tokens that it was to delete has a
session, whatever the other calls still do. -/
theorem reached_stays_revoked {store : Store Cached} {state : Calls}
    (hreached : Reached interleave NoCopies (idle store) state) {number : Nat}
    (hdone : state.system.threads number = .done) :
    ∀ token ∈ state.owed number, isListKey token = false → loadSecondarySession state.system.store token = none := by
  have hrevoking : Revoking state := by
    refine hreached.invariant Revoking ⟨fun _ token howed => ?_, fun _ _ hcall => ?_⟩ fun _ _ => interleave_revoking
    · exact absurd howed List.not_mem_nil
    · cases hcall
  intro token howed htoken
  rcases hrevoking.owed number token howed htoken with hgone | hdeletes
  · rw [loadSecondarySession, expiring.get, hgone.1, Option.map_none]
  · rw [hdone] at hdeletes
    exact hdeletes.elim

end

/-! ## A session that is refreshed -/

private def oneSession : Store Cached :=
  run 0 (storeSecondarySessionPayload { userID := some "u", expiresAt := some 10000000000, fields := .empty } .empty "a"
    "u" 10000000000) .empty

/-- A deletion of the session and a refresh of its user, both started. -/
private def bothStarted : Calls :=
  interleave (interleave (idle oneSession) (.start 0 (.deleteSession "a"))) (.start 1 (.refreshUser (some "u") .empty))

/-- The turn deletes nothing, or the program writes nothing behind the deletion. -/
private def quiet : Script Cached → Bool
  | .delete _ next => writesNothing next
  | _ => true
where
  writesNothing : Script Cached → Bool
    | .done => true
    | .delete _ next => writesNothing next
    | .unlock _ next => writesNothing next
    | _ => false

variable {script : Script Cached}

private theorem not_holds_of_writesNothing {key : String}
    (h : quiet.writesNothing script = true) : ¬ Holds key script := by
  induction script with
  | done => exact id
  | delete other next ih => exact ih h
  | unlock other next ih => exact ih h
  | clock | get | set | lock => cases h

private def quietTurns (state : Calls) : List Int → Bool
  | [] => true
  | now :: rest => quiet (state.system.threads 0) && quietTurns (interleave state (.turn 0 now)) rest

variable {state : Calls}

/-- Turns of one call while the others have no copies. -/
private theorem reached_turns {start : Calls} (hreached : Reached interleave NoCopies start state)
    (hothers : ∀ other, other ≠ 0 → ∀ key, isListKey key = false → ¬ Holds key (state.system.threads other))
    {times : List Int} (h : quietTurns state times = true) :
    Reached interleave NoCopies start (times.foldl (fun state now => interleave state (.turn 0 now)) state) := by
  induction times generalizing state with
  | nil => exact hreached
  | cons now rest ih =>
    rw [quietTurns, Bool.and_eq_true] at h
    have hcopies : NoCopies state (.turn 0 now) := by
      intro key next hscript hkey other
      by_cases hsame : other = 0
      · rw [hsame, hscript]
        rw [hscript] at h
        exact not_holds_of_writesNothing h.1
      · exact hothers other hsame key hkey
    refine ih (hreached.next hcopies) (fun other hne key hkey => ?_) h.2
    simp only [interleave]
    rw [threads_turn_of_ne hne]
    exact hothers other hne key hkey

private def isDone : Script Cached → Bool
  | .done => true
  | _ => false

private theorem eq_done (h : isDone script = true) : script = .done := by
  cases script with
  | done => rfl
  | _ => cases h

/-- A deletion runs before a refresh has read anything. -/
theorem reached_stays_revoked_session :
    let state := (List.replicate 7 (1000000000 : Int)).foldl (fun state now => interleave state (.turn 0 now)) bothStarted
    (loadSecondarySession oneSession "a").isSome ∧ state.system.threads 0 = .done ∧
      loadSecondarySession state.system.store "a" = none := by
  intro state
  have hstarted : Reached interleave NoCopies (idle oneSession) bothStarted := (Reached.start.next trivial).next trivial
  have hothers : ∀ other, other ≠ 0 → ∀ key, isListKey key = false → ¬ Holds key (bothStarted.system.threads other) := by
    intro other hne key hkey
    by_cases hone : other = 1
    · subst hone
      exact not_holds_script hkey (.refreshUser (some "u") .empty)
    have hidle : bothStarted.system.threads other = .done := by
      simp [bothStarted, interleave, idle, Function.update_of_ne hne, Function.update_of_ne hone]
    rw [hidle]
    exact id
  have hreached : Reached interleave NoCopies (idle oneSession) state :=
    reached_turns hstarted hothers (by decide)
  have hdone : state.system.threads 0 = .done := eq_done (by decide)
  refine ⟨by decide, hdone, reached_stays_revoked hreached hdone "a" ?_ (by decide)⟩
  have howed : (state.owed 0).contains "a" = true := by decide
  simpa using howed

/-- The refresh reads the session, the deletion runs, and the refresh writes it back. -/
private def writtenBack : Calls :=
  ([1, 1, 1, 0, 0, 0, 0, 0, 0, 0, 1].map fun number => Event.turn number 1000000000).foldl interleave bothStarted

private theorem threads_foldl_turns {numbers : List Nat} {now : Int} {other : Nat} (h : other ∉ numbers) :
    ((numbers.map fun number => Event.turn number now).foldl interleave state).system.threads other =
      state.system.threads other := by
  induction numbers generalizing state with
  | nil => rfl
  | cons number rest ih =>
    obtain ⟨hne, hrest⟩ := not_or.mp (mt List.mem_cons.mpr h)
    rw [List.map_cons, List.foldl_cons, ih hrest]
    exact threads_turn_of_ne hne

/-- A session may be back after its deletion, with all calls done. -/
theorem refresh_restores_session :
    ¬ ∀ (store : Store Cached) (state : Calls), Reached interleave (fun _ _ => True) (idle store) state →
      (∀ number, state.system.threads number = .done) → ∀ number token, token ∈ state.owed number →
        isListKey token = false → loadSecondarySession state.system.store token = none := by
  intro h
  have hreached : Reached interleave (fun _ _ => True) (idle oneSession) writtenBack :=
    ((Reached.start.next trivial).next trivial).foldl fun _ _ _ => trivial
  have hdone : ∀ number, writtenBack.system.threads number = .done := by
    intro number
    by_cases hzero : number = 0
    · rw [hzero]
      exact eq_done (by decide)
    by_cases hone : number = 1
    · rw [hone]
      exact eq_done (by decide)
    · rw [writtenBack, threads_foldl_turns (by simp [hzero, hone])]
      simp [bothStarted, interleave, idle, Function.update_of_ne hzero, Function.update_of_ne hone]
  have howed : (writtenBack.owed 0).contains "a" = true := by decide
  have hnone := h oneSession writtenBack hreached hdone 0 "a" (by simpa using howed) (by decide)
  have hsome : (loadSecondarySession writtenBack.system.store "a").isSome := by decide
  rw [hnone] at hsome
  cases hsome

end singleauth.secondary
