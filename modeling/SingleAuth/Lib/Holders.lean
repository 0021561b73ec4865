import Mathlib.Tactic.Common

namespace holders

section

variable {α ι κ : Type}

/-- Someone holds the privilege, and whenever a pending operation is about to
take it from a holder, someone else holds it too. -/
structure Guarded (holds : α → Prop) (pending : ι → Option α) : Prop where
  held : ∃ z, holds z
  spare : ∀ p y, pending p = some y → holds y → ∃ z, z ≠ y ∧ holds z

variable {holds : α → Prop} {later pending : ι → Option α}

/-- Operations may finish or give up at any time. -/
theorem Guarded.drop (h : Guarded holds pending)
    (hlater : ∀ p y, later p = some y → pending p = some y) : Guarded holds later :=
  ⟨h.held, fun p y hp hy => h.spare p y (hlater p y hp) hy⟩

variable {p : ι} {after : α → Prop}

/-- An operation becomes pending on `y` when `y` is no holder or not the only
one. -/
theorem Guarded.arm (h : Guarded holds pending) (hothers : ∀ q, q ≠ p → later q = pending q)
    (hspare : ∀ y, later p = some y → pending p = some y ∨ (holds y → ∃ z, z ≠ y ∧ holds z)) :
    Guarded holds later := by
  refine ⟨h.held, fun q y hq hy => ?_⟩
  by_cases hqp : q = p
  · subst hqp
    rcases hspare y hq with hold | hnew
    · exact h.spare q y hold hy
    · exact hnew hy
  · exact h.spare q y (hothers q hqp ▸ hq) hy

/-- New holders keep the guard: before them there was a holder already. -/
theorem Guarded.grow (h : Guarded holds pending) (hgrow : ∀ z, holds z → after z) : Guarded after pending := by
  obtain ⟨z, hz⟩ := h.held
  refine ⟨⟨z, hgrow z hz⟩, fun p y hp _ => ?_⟩
  by_cases hy : holds y
  · obtain ⟨other, hne, hother⟩ := h.spare p y hp hy
    exact ⟨other, hne, hgrow other hother⟩
  · refine ⟨z, ?_, hgrow z hz⟩
    rintro rfl
    exact hy hz

/-- Taking the privilege from `x`, or from nobody, keeps the guard if every other
pending operation on a holder leaves a third one. -/
theorem Guarded.take {x : α} (h : Guarded holds pending) (hpending : pending p = some x) (hfinished : later p = none)
    (hothers : ∀ q, q ≠ p → later q = pending q) (hkept : ∀ z, holds z → z ≠ x → after z)
    (hold : ∀ z, after z → holds z)
    (hthird : holds x → ∀ q y, q ≠ p → pending q = some y → y ≠ x → holds y → ∃ z, z ≠ x ∧ z ≠ y ∧ holds z) :
    Guarded after later := by
  have hlater : ∀ q y, later q = some y → q ≠ p ∧ pending q = some y := by
    intro q y hq
    have hqp : q ≠ p := by
      rintro rfl
      rw [hfinished] at hq
      cases hq
    exact ⟨hqp, hothers q hqp ▸ hq⟩
  by_cases hx : holds x
  · obtain ⟨spare, hne, hspare⟩ := h.spare p x hpending hx
    have hafter : after spare := hkept spare hspare hne
    refine ⟨⟨spare, hafter⟩, fun q y hq hy => ?_⟩
    obtain ⟨hqp, hq⟩ := hlater q y hq
    by_cases hyx : y = x
    · exact ⟨spare, hyx ▸ hne, hafter⟩
    · obtain ⟨third, hthirdx, hthirdy, hholds⟩ := hthird hx q y hqp hq hyx (hold y hy)
      exact ⟨third, hthirdy, hkept third hholds hthirdx⟩
  · have hsame : ∀ z, holds z → after z := fun z hz => hkept z hz (fun heq => hx (heq ▸ hz))
    exact (h.grow hsame).drop fun q y hq => (hlater q y hq).2

/-! ## Locks -/

def Exclusive (held : ι → Option κ) : Prop := ∀ p q lock, held p = some lock → held q = some lock → p = q

/-- A party may let its lock go, and take one that nobody else holds. -/
theorem Exclusive.update [DecidableEq ι] {held : ι → Option κ} (h : Exclusive held) (p : ι) {entry : Option κ}
    (hentry : ∀ lock, entry = some lock → held p = some lock ∨ ∀ q, q ≠ p → held q ≠ some lock) :
    Exclusive (Function.update held p entry) := by
  have hfree : ∀ q lock, entry = some lock → q ≠ p → held q ≠ some lock := by
    intro q lock hlock hqp hq
    rcases hentry lock hlock with hp | hfree
    · exact hqp (h q p lock hq hp)
    · exact hfree q hqp hq
  intro first second lock hfirst hsecond
  by_cases hfirstp : first = p <;> by_cases hsecondp : second = p
  · exact hfirstp.trans hsecondp.symm
  · rw [hfirstp, Function.update_self] at hfirst
    rw [Function.update_of_ne hsecondp] at hsecond
    exact absurd hsecond (hfree second lock hfirst hsecondp)
  · rw [hsecondp, Function.update_self] at hsecond
    rw [Function.update_of_ne hfirstp] at hfirst
    exact absurd hfirst (hfree first lock hsecond hfirstp)
  · rw [Function.update_of_ne hfirstp] at hfirst
    rw [Function.update_of_ne hsecondp] at hsecond
    exact h first second lock hfirst hsecond

end

end holders
