import Mathlib.Tactic.Common

namespace singleauth.secondary

/-- The millisecond that a time lies in. Times are nanoseconds. -/
def unixMilli (time : Int) : Int := time / 1000000

/-- Times of cached records are kept to the millisecond. -/
def toMillisecond (time : Int) : Int := unixMilli time * 1000000

def secondaryTTL (expiresAt now : Int) : Int :=
  let milliseconds := (expiresAt - now).tdiv 1000000
  if milliseconds ≤ 0 then 0 else milliseconds / 1000

variable {expiresAt now : Int}

/-- With a second or more to live, the milliseconds are those of the whole part. -/
theorem secondaryTTL_eq (h : 0 < secondaryTTL expiresAt now) :
    0 < expiresAt - now ∧ secondaryTTL expiresAt now = (expiresAt - now) / 1000000 / 1000 := by
  unfold secondaryTTL at h ⊢
  dsimp only at h ⊢
  split at h
  · omega
  rename_i hmilliseconds
  have hpositive : 0 < expiresAt - now := by
    by_contra hnot
    have hneg : (expiresAt - now).tdiv 1000000 = -((now - expiresAt).tdiv 1000000) := by
      rw [← Int.neg_tdiv, Int.neg_sub]
    have hnonneg : 0 ≤ (now - expiresAt).tdiv 1000000 := Int.tdiv_nonneg (by omega) (by omega)
    omega
  rw [if_neg hmilliseconds, Int.tdiv_eq_ediv_of_nonneg (by omega)]
  exact ⟨hpositive, rfl⟩

end singleauth.secondary
