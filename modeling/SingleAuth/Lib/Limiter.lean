import Mathlib.Data.List.Count
import Mathlib.Logic.Relation
import Mathlib.Tactic.Common

namespace limiter

/-- A guess, when it was made and whether it was right. -/
structure Guess where
  time : Int
  right : Bool

/-- A counter of wrong guesses, which locks for some time. -/
structure Limiter where
  count : Int
  lockedUntil : Option Int
  now : Int
  guesses : List Guess

section

variable (limit duration : Int)

inductive Step : Limiter → Limiter → Prop where
  | wait {limiter : Limiter} {later : Int} (hlater : limiter.now ≤ later) : Step limiter { limiter with now := later }
  /-- A lock whose time has passed is taken away. -/
  | lift {limiter : Limiter} {lockedUntil : Int} (hlocked : limiter.lockedUntil = some lockedUntil)
      (hpassed : lockedUntil ≤ limiter.now) : Step limiter { limiter with count := 0, lockedUntil := none }
  /-- A wrong guess is counted, and the last one that is allowed locks. -/
  | fail {limiter : Limiter} (hunlocked : limiter.lockedUntil = none) :
      Step limiter { limiter with
        count := limiter.count + 1
        lockedUntil := if limit ≤ limiter.count + 1 then some (limiter.now + duration) else none
        guesses := limiter.guesses ++ [⟨limiter.now, false⟩] }
  | succeed {limiter : Limiter} (hunlocked : limiter.lockedUntil = none) :
      Step limiter { limiter with count := 0, guesses := limiter.guesses ++ [⟨limiter.now, true⟩] }

def wrong (first last : Int) (guesses : List Guess) : Nat :=
  guesses.countP fun guess => !guess.right && first ≤ guess.time && guess.time ≤ last

def NoneRight (first last : Int) (guesses : List Guess) : Prop :=
  ∀ guess ∈ guesses, first ≤ guess.time → guess.time ≤ last → guess.right = false

/-- In a time shorter than a lock, without a right guess, there are not more
wrong guesses than allowed. -/
def Bounded (guesses : List Guess) : Prop :=
  ∀ first last, last < first + duration → NoneRight first last guesses → (wrong first last guesses : Int) ≤ limit

structure Watched (limiter : Limiter) : Prop where
  past : ∀ guess ∈ limiter.guesses, guess.time ≤ limiter.now
  /-- Without a lock the wrong guesses since a time are counted, unless that is longer ago than a lock lasts. -/
  unlocked : limiter.lockedUntil = none → ∀ first, NoneRight first limiter.now limiter.guesses →
    (wrong first limiter.now limiter.guesses : Int) < limit ∧
      (wrong first limiter.now limiter.guesses : Int) ≤ limiter.count ∨ first + duration ≤ limiter.now
  /-- A lock is longer than the time since any wrong guess. -/
  locked : ∀ lockedUntil, limiter.lockedUntil = some lockedUntil →
    ∀ guess ∈ limiter.guesses, guess.right = false → guess.time + duration ≤ lockedUntil
  bounded : Bounded limit duration limiter.guesses

variable {limit duration} {limiter later : Limiter} {first last : Int} {guesses : List Guess}

/-- A time that ends later than all guesses could as well end with the last one. -/
theorem wrong_of_past {other : Int} (hlast : ∀ guess ∈ guesses, guess.time ≤ last)
    (hother : ∀ guess ∈ guesses, guess.time ≤ other) : wrong first last guesses = wrong first other guesses := by
  refine List.countP_congr fun guess hguess => ?_
  simp [hlast guess hguess, hother guess hguess]

theorem wrong_append (first last : Int) (guesses : List Guess) (guess : Guess) :
    wrong first last (guesses ++ [guess]) =
      wrong first last guesses + (!guess.right && first ≤ guess.time && guess.time ≤ last).toNat := by
  unfold wrong
  rw [List.countP_append, List.countP_singleton]
  cases (!guess.right && decide (first ≤ guess.time) && decide (guess.time ≤ last)) <;> rfl

theorem wrong_append_le (first last : Int) (guesses : List Guess) (guess : Guess) :
    wrong first last (guesses ++ [guess]) ≤ wrong first last guesses + 1 := by
  rw [wrong_append]
  exact Nat.add_le_add_left (Bool.toNat_le _) _

theorem NoneRight.init {guess : Guess} (h : NoneRight first last (guesses ++ [guess])) : NoneRight first last guesses :=
  fun other hother => h other (List.mem_append_left _ hother)

theorem wrong_eq_zero
    (h : ∀ guess ∈ guesses, guess.right = false → guess.time < first) : wrong first last guesses = 0 := by
  refine List.countP_eq_zero.mpr fun guess hguess hcounted => ?_
  simp only [Bool.and_eq_true, Bool.not_eq_true', decide_eq_true_eq] at hcounted
  have hbefore := h guess hguess hcounted.1.1
  omega

theorem watched_init (hlimit : 1 ≤ limit) {count now : Int} (hcount : 0 ≤ count) (lockedUntil : Option Int) :
    Watched limit duration ⟨count, lockedUntil, now, []⟩ where
  past := by simp
  unlocked := by
    intro _ first _
    have hnone : wrong first now [] = 0 := rfl
    rw [hnone]
    exact .inl ⟨by omega, by omega⟩
  locked := by simp
  bounded := by
    intro first last _ _
    have hnone : wrong first last [] = 0 := rfl
    rw [hnone]
    omega

section

variable (h : Watched limit duration limiter)
include h

theorem Watched.past_append (right : Bool) :
    ∀ guess ∈ limiter.guesses ++ [⟨limiter.now, right⟩], guess.time ≤ limiter.now :=
  List.forall_mem_append.mpr ⟨h.past, List.forall_mem_singleton.mpr (Int.le_refl _)⟩

/-- One more wrong guess while there is no lock. -/
theorem Watched.bounded_fail (hunlocked : limiter.lockedUntil = none) :
    Bounded limit duration (limiter.guesses ++ [⟨limiter.now, false⟩]) := by
  intro first last hshort hright
  have hbefore := h.bounded first last hshort hright.init
  rw [wrong_append]
  by_cases hin : first ≤ limiter.now ∧ limiter.now ≤ last
  · -- the time goes on to now, so all guesses since its start are counted
    have hpast : ∀ guess ∈ limiter.guesses, guess.time ≤ last :=
      fun guess hguess => Int.le_trans (h.past guess hguess) hin.2
    have hsince : NoneRight first limiter.now limiter.guesses := fun guess hguess hfirst _ =>
      hright.init guess hguess hfirst (hpast guess hguess)
    rw [wrong_of_past hpast h.past]
    rcases h.unlocked hunlocked first hsince with ⟨hbelow, -⟩ | hlong
    · have hone : (!false && decide (first ≤ limiter.now) && decide (limiter.now ≤ last)).toNat = 1 := by simp [hin]
      rw [hone]
      omega
    · omega
  · have hzero : (!false && decide (first ≤ limiter.now) && decide (limiter.now ≤ last)).toNat = 0 := by
      simp only [Bool.not_false, Bool.true_and, ← Bool.decide_and, hin]
      rfl
    rw [hzero]
    omega

theorem Watched.step (hlimit : 1 ≤ limit)
    (hstep : Step limit duration limiter later) : Watched limit duration later := by
  cases hstep with
  | wait hlater =>
    rename_i time
    have hpast : ∀ guess ∈ limiter.guesses, guess.time ≤ time :=
      fun guess hguess => Int.le_trans (h.past guess hguess) hlater
    refine ⟨hpast, fun hunlocked first hright => ?_, h.locked, h.bounded⟩
    have hsince : NoneRight first limiter.now limiter.guesses := fun guess hguess hfirst _ =>
      hright guess hguess hfirst (hpast guess hguess)
    dsimp only
    rw [wrong_of_past hpast h.past]
    exact (h.unlocked hunlocked first hsince).imp_right fun hlong => Int.le_trans hlong hlater
  | lift hlocked hpassed =>
    rename_i lockedUntil
    refine ⟨h.past, fun _ first _ => ?_, by simp, h.bounded⟩
    by_cases hlong : first + duration ≤ limiter.now
    · exact .inr hlong
    -- a wrong guess since then would still be locked for
    have hnone : wrong first limiter.now limiter.guesses = 0 := wrong_eq_zero fun guess hguess hwrong => by
      have hguessed := h.locked lockedUntil hlocked guess hguess hwrong
      omega
    dsimp only
    rw [hnone]
    exact .inl ⟨by omega, by omega⟩
  | fail hunlocked =>
    have hpast := h.past_append false
    refine ⟨hpast, fun hopen first hright => ?_, fun lockedUntil hlocked guess hguess _ => ?_,
      h.bounded_fail hunlocked⟩
    · dsimp only at hopen hright ⊢
      split at hopen
      · cases hopen
      · next hbelow =>
        have hone := wrong_append_le first limiter.now limiter.guesses ⟨limiter.now, false⟩
        refine (h.unlocked hunlocked first hright.init).imp_left fun ⟨_, hcounted⟩ => ⟨?_, ?_⟩ <;> omega
    dsimp only at hlocked hguess
    split at hlocked
    · cases hlocked
      have htime := hpast guess hguess
      omega
    · cases hlocked
  | succeed hunlocked =>
    have hpast := h.past_append true
    refine ⟨hpast, fun _ first hright => ?_, fun lockedUntil hlocked => ?_, fun first last hshort hright => ?_⟩
    · -- the right guess is now, so nothing since `first` lies behind it
      have hafter : limiter.now < first := by
        by_contra hnot
        have := hright ⟨limiter.now, true⟩ (by simp) (Int.not_lt.mp hnot) (Int.le_refl _)
        cases this
      have hnone : wrong first limiter.now (limiter.guesses ++ [⟨limiter.now, true⟩]) = 0 :=
        wrong_eq_zero fun guess hguess _ => Int.lt_of_le_of_lt (hpast guess hguess) hafter
      dsimp only
      rw [hnone]
      exact .inl ⟨by omega, by omega⟩
    · dsimp only at hlocked
      rw [hunlocked] at hlocked
      cases hlocked
    · rw [wrong_append]
      exact h.bounded first last hshort hright.init

theorem Watched.steps (hlimit : 1 ≤ limit)
    (hsteps : Relation.ReflTransGen (Step limit duration) limiter later) : Watched limit duration later := by
  induction hsteps with
  | refl => exact h
  | tail _ hstep ih => exact ih.step hlimit hstep

end

end

end limiter
