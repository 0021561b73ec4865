import SingleAuth.Lib.Fallible
import SingleAuth.Lib.Transition

open fallible transition

namespace singleauth.saml

/-! Times are in nanoseconds. -/

def defaultClockSkew : Int := 300000000000

def defaultAssertionTTL : Int := 900000000000

/-- The time that a record must not expire at. -/
def zeroTime : Int := -62135596800000000000

/-- What the validation reads of an assertion. `parse` reads its timestamps, and
`valid` is what all the other checks say at a time. -/
structure Assertion where
  id : String
  notBefore : String := ""
  notOnOrAfter : String := ""
  parse : String → Option Int
  valid : Int → Bool := fun _ => true

/-- The times that the assertions are reserved until. -/
abbrev MemoryStore : Type := String → Option Int

def checkTime (parse : String → Option Int) (raw invalid outside : String) (holds : Int → Bool) : Except String Unit :=
  if raw = "" then .ok ()
  else do
    let time ← expect (parse raw) invalid
    require (holds time = true) outside

namespace Assertion

variable (assertion : Assertion)

/-- An assertion without timestamps is valid at any time. -/
def validateTimestamp (now : Int) : Except String Unit := do
  checkTime assertion.parse assertion.notBefore "SAML_NOT_BEFORE_INVALID" "SAML_NOT_YET_VALID"
    fun notBefore => notBefore - defaultClockSkew ≤ now
  checkTime assertion.parse assertion.notOnOrAfter "SAML_NOT_ON_OR_AFTER_INVALID" "SAML_EXPIRED"
    fun notOnOrAfter => now ≤ notOnOrAfter + defaultClockSkew

def replayExpiry (now : Int) : Except String Int :=
  if assertion.notOnOrAfter = "" then .ok (now + defaultAssertionTTL)
  else do
    let notOnOrAfter ← expect (assertion.parse assertion.notOnOrAfter) "SAML_NOT_ON_OR_AFTER_INVALID"
    return notOnOrAfter + defaultClockSkew

def reserveAssertion (now : Int) (store : MemoryStore) : Except String MemoryStore := do
  if assertion.id = "" then return store
  let expiresAt ← assertion.replayExpiry now
  require (expiresAt ≠ zeroTime) "SAML_ASSERTION_REPLAY_STORE_FAILED"
  require (∀ reserved ∈ store assertion.id, reserved < now) "SAML_ASSERTION_REPLAYED"
  return Function.update store assertion.id (some expiresAt)

/-- One reading of the clock stands for the three that the source makes. -/
def validateResponse (now : Int) (store : MemoryStore) : Except String MemoryStore := do
  require (assertion.valid now = true) "SAML_RESPONSE_INVALID"
  assertion.validateTimestamp now
  assertion.reserveAssertion now store

/-- The store, and how often the response was accepted. -/
def present (state : MemoryStore × Nat) (now : Int) : MemoryStore × Nat :=
  match assertion.validateResponse now state.1 with
  | .ok store => (store, state.2 + 1)
  | .error _ => state

end Assertion

variable {assertion : Assertion}

/-- The response was never accepted, or once and is reserved as long as it is valid. -/
def Assertion.Reserved (assertion : Assertion) (state : MemoryStore × Nat) : Prop :=
  state.2 = 0 ∨ state.2 = 1 ∧ ∃ notOnOrAfter, assertion.parse assertion.notOnOrAfter = some notOnOrAfter ∧
    state.1 assertion.id = some (notOnOrAfter + defaultClockSkew)

/-- What an accepted response with an end has passed, and what it leaves. -/
theorem validateResponse_ok (hid : assertion.id ≠ "") (hend : assertion.notOnOrAfter ≠ "") {now : Int}
    {store after : MemoryStore} (h : assertion.validateResponse now store = .ok after) :
    ∃ notOnOrAfter, assertion.parse assertion.notOnOrAfter = some notOnOrAfter ∧
      now ≤ notOnOrAfter + defaultClockSkew ∧ (∀ reserved ∈ store assertion.id, reserved < now) ∧
      after assertion.id = some (notOnOrAfter + defaultClockSkew) := by
  obtain ⟨_, _, _, htime, h⟩ := ok_of_bind₂ h
  obtain ⟨_, _, htime⟩ := bind_eq_ok_iff.mp htime
  rw [checkTime, if_neg hend] at htime
  obtain ⟨notOnOrAfter, hparse, htime⟩ := bind_eq_ok_iff.mp htime
  rw [Assertion.reserveAssertion, if_neg hid, Assertion.replayExpiry, if_neg hend, hparse] at h
  obtain ⟨_, hexpiry, _, _, _, hfree, h⟩ := ok_of_bind₃ h
  cases hexpiry
  cases h
  exact ⟨notOnOrAfter, expect_eq_ok_iff.mp hparse, of_decide_eq_true (require_eq_ok_iff.mp htime),
    require_eq_ok_iff.mp hfree, Function.update_self ..⟩

/-- A response with an end is accepted at most once. -/
theorem accepted_at_most_once (hid : assertion.id ≠ "") (hend : assertion.notOnOrAfter ≠ "") {store : MemoryStore}
    {state : MemoryStore × Nat} (hreached : Reached assertion.present (fun _ _ => True) (store, 0) state) :
    state.2 ≤ 1 := by
  have h : assertion.Reserved state := by
    refine hreached.invariant assertion.Reserved (.inl rfl) fun state now hstate _ => ?_
    unfold Assertion.present
    split
    · next after hvalid =>
      obtain ⟨notOnOrAfter, hparse, hvalid, hfree, hafter⟩ := validateResponse_ok hid hend hvalid
      rcases hstate with hnone | ⟨_, other, hother, hreserved⟩
      · exact .inr ⟨congrArg (· + 1) hnone, notOnOrAfter, hparse, hafter⟩
      -- the reservation ends when the assertion does
      have hless := hfree _ hreserved
      rw [hparse] at hother
      cases hother
      omega
    · exact hstate
  rcases h with h | h <;> omega

def endless : Assertion := { id := "a", parse := fun _ => none }

/-- Without an end the reservation lapses, and the response does not. -/
theorem accepted_twice_without_end :
    ([0, defaultAssertionTTL + 1].foldl endless.present (fun _ => none, 0)).2 = 2 := by
  decide

def ending : Assertion := { id := "a", notOnOrAfter := "z", parse := fun _ => some 9 }

theorem accepted_at_most_once_with_end : ([0, 1].foldl ending.present (fun _ => none, 0)).2 ≤ 1 :=
  @accepted_at_most_once ending (by decide) (by decide) _ _ (Reached.start.foldl fun _ _ _ => trivial)

end singleauth.saml
