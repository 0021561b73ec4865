import SingleAuth.Lib.Process
import SingleAuth.Lib.Table

open process table transition

namespace singleauth.passkey

/-- A key that a user has registered. -/
structure Credential where
  (userId credentialID publicKey : String)

structure Passkey extends Credential where
  id : String
  counter : Nat

/-- The table, with the registrations so far, the rows whose key has verified the
assertion of a request that goes on, and the credentials that were signed in with. -/
structure Passkeys where
  rows : List Passkey := []
  registered : List Credential := []
  verified : List Passkey := []
  sessions : List Credential := []

/-- A storage call of one of the requests, with what is done up to the next. -/
inductive PasskeyCall where
  /-- The end of a registration that was verified. -/
  | create (row : Passkey)
  | delete (id : String)
  /-- `verifies` tells the keys that the assertion was made with. -/
  | find (credentialID : String) (verifies : String → Bool)
  | finish (number counter : Nat)

def Passkeys.step (passkeys : Passkeys) : PasskeyCall → Passkeys
  | .create row =>
    { passkeys with rows := passkeys.rows ++ [row], registered := passkeys.registered ++ [row.toCredential] }
  | .delete id => { passkeys with rows := deleteMany (fun row => row.id = id) passkeys.rows }
  | .find credentialID verifies =>
    match passkeys.rows.find? fun row => row.credentialID = credentialID with
    | none => passkeys
    | some row => if verifies row.publicKey then { passkeys with verified := passkeys.verified ++ [row] } else passkeys
  | .finish number counter =>
    match passkeys.verified[number]? with
    | none => passkeys
    | some row =>
      { passkeys with
        rows := (updateFirst (fun other => other.id = row.id) ({ · with counter }) passkeys.rows).getD passkeys.rows
        sessions := passkeys.sessions ++ [row.toCredential] }

/-- A credential ID belongs to one row, and who is signed in has registered it with
the key that was used. -/
structure OneRegistration (passkeys : Passkeys) : Prop where
  unique : (passkeys.rows.map fun row => row.credentialID).Nodup
  owner : ∀ session ∈ passkeys.sessions, session ∈ passkeys.registered

/-- No row with the credential ID is stored yet. -/
def Passkeys.unused (passkeys : Passkeys) : PasskeyCall → Bool
  | .create row => passkeys.rows.all fun other => other.credentialID ≠ row.credentialID
  | _ => true

/-- What is stored, verified and signed in with was registered. -/
structure Known (passkeys : Passkeys) : Prop where
  rows : passkeys.rows.map Passkey.toCredential ⊆ passkeys.registered
  verified : ∀ row ∈ passkeys.verified, row.toCredential ∈ passkeys.registered
  owner : ∀ session ∈ passkeys.sessions, session ∈ passkeys.registered

/-- Storing a counter leaves the credentials as they are. -/
theorem map_setCounter (id : String) (counter : Nat) (rows : List Passkey) :
    ((updateFirst (fun other => other.id = id) ({ · with counter }) rows).getD rows).map Passkey.toCredential =
      rows.map Passkey.toCredential := by
  cases hrows : updateFirst (fun other : Passkey => other.id = id) ({ · with counter }) rows with
  | none => rfl
  | some updated => exact map_updateFirst hrows fun _ => rfl

variable {passkeys : Passkeys} {call : PasskeyCall}

theorem Known.step (h : Known passkeys) : Known (passkeys.step call) := by
  cases call with
  | create row =>
    refine ⟨?_, fun other hother => List.mem_append_left _ (h.verified other hother),
      fun session hsession => List.mem_append_left _ (h.owner session hsession)⟩
    simp only [Passkeys.step, List.map_append]
    exact List.append_subset.mpr ⟨List.subset_append_of_subset_left _ h.rows, List.subset_append_right _ _⟩
  | delete id =>
    have hfewer : (deleteMany (fun row => row.id = id) passkeys.rows).Sublist passkeys.rows := List.filter_sublist
    exact ⟨fun _ hrow => h.rows ((hfewer.map _).subset hrow), h.verified, h.owner⟩
  | find credentialID verifies =>
    unfold Passkeys.step
    dsimp only
    split
    · exact h
    rename_i row hfound
    split
    · refine ⟨h.rows, fun other hother => ?_, h.owner⟩
      rcases mem_concat.mp hother with hold | rfl
      · exact h.verified other hold
      · exact h.rows (List.mem_map_of_mem (List.mem_of_find?_eq_some hfound))
    · exact h
  | finish number counter =>
    unfold Passkeys.step
    dsimp only
    split
    · exact h
    rename_i row hrow
    refine ⟨map_setCounter row.id counter passkeys.rows ▸ h.rows, h.verified, fun session hsession => ?_⟩
    rcases mem_concat.mp hsession with hold | rfl
    · exact h.owner session hold
    · exact h.verified row (List.mem_of_getElem? hrow)

/-- Whatever is registered, also one credential ID by two users, who is signed in has registered it with
the key that was used. -/
theorem session_registered {allowed : Passkeys → PasskeyCall → Prop}
    (hreached : Reached Passkeys.step allowed {} passkeys) : ∀ session ∈ passkeys.sessions, session ∈ passkeys.registered :=
  (hreached.invariant Known ⟨by simp, by simp, by simp⟩ fun _ _ h _ => h.step).owner

theorem unique_step (h : (passkeys.rows.map fun row => row.credentialID).Nodup)
    (hunused : passkeys.unused call = true) : ((passkeys.step call).rows.map fun row => row.credentialID).Nodup := by
  cases call with
  | create row =>
    have hnew : ∀ other ∈ passkeys.rows, other.credentialID ≠ row.credentialID := by
      simpa [Passkeys.unused] using hunused
    simp only [Passkeys.step, List.map_append, List.nodup_append]
    refine ⟨h, by simp, fun first hfirst second hsecond => ?_⟩
    obtain ⟨other, hother, rfl⟩ := List.mem_map.mp hfirst
    exact List.mem_singleton.mp hsecond ▸ hnew other hother
  | delete id => exact h.sublist (List.filter_sublist.map _)
  | find credentialID verifies =>
    unfold Passkeys.step
    dsimp only
    split
    · exact h
    · split <;> exact h
  | finish number counter =>
    unfold Passkeys.step
    dsimp only
    split
    · exact h
    · next row _ =>
      have hids := congrArg (List.map Credential.credentialID) (map_setCounter row.id counter passkeys.rows)
      rw [List.map_map, List.map_map] at hids
      exact hids ▸ h

private def registers (user credentialID key : String) : PasskeyCall := .create ⟨⟨user, credentialID, key⟩, user, 0⟩

/-- Alice signs in and deletes the passkey, and Bob registers its credential ID then. -/
private def takenOver : List PasskeyCall :=
  [registers "alice" "c" "k", registers "carol" "d" "m", .find "c" (· = "k"), .find "d" (· = "k"), .finish 0 1,
    .delete "alice", registers "bob" "c" "l", .find "c" (· = "l"), .finish 1 1]

def validateSignCount (stored reported : Nat) : Bool := !((reported > 0 || stored > 0) && reported ≤ stored)

/-- The counter of a passkey, the values that it had before, and the sign counts of the
assertions that were accepted. -/
structure SignCounts where
  counter : Nat
  earlier : List Nat := []
  accepted : List Nat := []

/-- A request before each of its calls for the passkey. The other checks of the assertion
and the hook pass if it is `verified`, and it is accepted if a session is `issued`. -/
inductive Authentication where
  | findPasskey (reported : Nat) (verified issued : Bool)
  | updateCounter (reported : Nat) (issued : Bool)
  | done

def verifyAuthentication : Authentication → SignCounts → Authentication × SignCounts
  | .findPasskey reported verified issued, counts =>
    (if verified && validateSignCount counts.counter reported then .updateCounter reported issued else .done, counts)
  | .updateCounter reported issued, counts =>
    (.done,
      { counter := reported
        earlier := counts.counter :: counts.earlier
        accepted := if issued then reported :: counts.accepted else counts.accepted })
  | .done, counts => (.done, counts)

/-- The count that is stored is still right for the counter that it replaces. -/
def stillValid : Authentication → SignCounts → Bool
  | .updateCounter reported _, counts => validateSignCount counts.counter reported
  | _, _ => true

/-- No sign count but zero is accepted twice, and the counter never decreases. -/
structure DetectsClones (counts : SignCounts) : Prop where
  distinct : (counts.accepted.filter (· ≠ 0)).Nodup
  increasing : (counts.counter :: counts.earlier).Pairwise (· ≥ ·)

structure Counted (counts : SignCounts) : Prop extends DetectsClones counts where
  reached : ∀ count ∈ counts.accepted, count ≤ counts.counter

theorem Counted.step {counts : SignCounts} (h : Counted counts) {call : Authentication}
    (hvalid : stillValid call counts = true) : Counted (verifyAuthentication call counts).2 := by
  cases call with
  | findPasskey | done => exact h
  | updateCounter reported issued =>
    have hgrows : counts.counter ≤ reported ∧ (reported ≠ 0 → counts.counter < reported) := by
      simp only [stillValid, validateSignCount, Bool.not_eq_true', Bool.and_eq_false_iff, Bool.or_eq_false_iff,
        decide_eq_false_iff_not] at hvalid
      omega
    have hbefore : ∀ count ∈ counts.accepted, count ≤ reported := fun count hcount =>
      Nat.le_trans (h.reached count hcount) hgrows.1
    have hincreasing : (reported :: counts.counter :: counts.earlier).Pairwise (· ≥ ·) := by
      refine h.increasing.cons fun count hcount => ?_
      rcases List.mem_cons.mp hcount with rfl | hearlier
      · exact hgrows.1
      · exact Nat.le_trans (List.rel_of_pairwise_cons h.increasing hearlier) hgrows.1
    cases issued with
    | false => exact ⟨⟨h.distinct, hincreasing⟩, hbefore⟩
    | true =>
      refine ⟨⟨?_, hincreasing⟩, List.forall_mem_cons.mpr ⟨Nat.le_refl _, hbefore⟩⟩
      by_cases hzero : reported = 0
      · simpa [verifyAuthentication, hzero] using h.distinct
      have hnew : reported ∉ counts.accepted := fun hmem =>
        absurd (h.reached reported hmem) (Nat.not_le.mpr (hgrows.2 hzero))
      simpa [verifyAuthentication, hzero, hnew] using h.distinct

/-- The counter detects clones where every count is stored over one that it is still right for. -/
theorem signCounts_detect_clones {counter : Nat} {requests : List Authentication}
    {system : System SignCounts Authentication}
    (h : Reached (fun system number => turn verifyAuthentication number system)
      (fun system number => admitsTurn stillValid system number = true) ⟨{ counter }, requests⟩ system) :
    DetectsClones system.shared := by
  have hstart : Holds Counted (fun _ => True) ⟨{ counter }, requests⟩ :=
    ⟨⟨⟨by simp, by simp⟩, by simp⟩, fun _ _ => trivial⟩
  exact (Holds.reached h hstart fun _ _ hvalid h _ => ⟨h.step hvalid, trivial⟩).shared.toDetectsClones

/-- Two assertions with the count five, and one with the count six. -/
def asserted (turns : List Nat) : System SignCounts Authentication :=
  turns.foldl (fun system number => turn verifyAuthentication number system)
    ⟨{ counter := 4 }, [.findPasskey 5 true true, .findPasskey 5 true true, .findPasskey 6 true true]⟩

theorem signCounts_detect_clones_in_turn : DetectsClones (asserted [0, 0, 1, 2, 2]).shared :=
  signCounts_detect_clones (.of_admits (fun _ _ h => h) .start (by decide))

/-- All have read the counter before one is stored: five is accepted twice, and follows six. -/
theorem signCount_accepted_twice :
    (asserted [0, 1, 2, 0, 2, 1]).shared = { counter := 5, earlier := [6, 5, 4], accepted := [5, 6, 5] } ∧
      ¬ DetectsClones (asserted [0, 1, 2, 0, 2, 1]).shared :=
  ⟨rfl, fun h => absurd h.distinct (by decide)⟩

end singleauth.passkey
