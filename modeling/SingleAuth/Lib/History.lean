import Mathlib.Tactic.Common

namespace history

section

variable {α τ : Type} (touches : α → Prop) (before after : α → τ)

/-- The actions lead one after the other from a first value to a last one. Each action
that touches the value met it as the actions in front left it; the others are
passed over. -/
inductive Linear : τ → List α → τ → Prop where
  | nil (value : τ) : Linear value [] value
  | skip {action : α} {first last : τ} {rest : List α} (huntouched : ¬ touches action)
    (hrest : Linear first rest last) : Linear first (action :: rest) last
  | touch {action : α} {last : τ} {rest : List α} (htouched : touches action)
    (hrest : Linear (after action) rest last) : Linear (before action) (action :: rest) last

variable {touches before after} {first middle last : τ} {actions others : List α}

theorem Linear.append (h : Linear touches before after first actions middle)
    (hothers : Linear touches before after middle others last) :
    Linear touches before after first (actions ++ others) last := by
  induction h with
  | nil => exact hothers
  | skip huntouched _ ih => exact .skip huntouched (ih hothers)
  | touch htouched _ ih => exact .touch htouched (ih hothers)

variable {action : α}

/-- One action, which leaves what it does not touch as it was. -/
theorem Linear.single (h : ¬ touches action → after action = before action) :
    Linear touches before after (before action) [action] (after action) := by
  by_cases htouched : touches action
  · exact .touch htouched (.nil _)
  · rw [h htouched]
    exact .skip htouched (.nil _)

theorem Linear.of_untouched (h : Linear touches before after first actions last)
    (huntouched : ∀ action ∈ actions, ¬ touches action) : last = first := by
  induction h with
  | nil => rfl
  | skip _ _ ih => exact ih fun action hmem => huntouched action (List.mem_cons_of_mem _ hmem)
  | touch htouched _ _ => exact absurd htouched (huntouched _ List.mem_cons_self)

theorem Linear.of_forall_untouched (huntouched : ∀ action ∈ actions, ¬ touches action) :
    Linear touches before after first actions first := by
  induction actions with
  | nil => exact .nil first
  | cons action rest ih =>
    exact .skip (huntouched action List.mem_cons_self) (ih fun other hmem => huntouched other (List.mem_cons_of_mem _ hmem))

theorem Linear.split (h : Linear touches before after first (actions ++ others) last) :
    ∃ middle, Linear touches before after first actions middle ∧ Linear touches before after middle others last := by
  induction actions generalizing first with
  | nil => exact ⟨first, .nil first, h⟩
  | cons action rest ih =>
    cases h with
    | skip huntouched hrest =>
      obtain ⟨middle, hleft, hright⟩ := ih hrest
      exact ⟨middle, .skip huntouched hleft, hright⟩
    | touch htouched hrest =>
      obtain ⟨middle, hleft, hright⟩ := ih hrest
      exact ⟨middle, .touch htouched hleft, hright⟩

/-- A touching action at the head of a history met its first value. -/
theorem Linear.of_cons (h : Linear touches before after first (action :: actions) last)
    (htouched : touches action) : first = before action ∧ Linear touches before after (after action) actions last := by
  cases h with
  | skip huntouched _ => exact absurd htouched huntouched
  | touch _ hrest => exact ⟨rfl, hrest⟩

/-- A property that the last value has and the first one has not was brought about by
an action. -/
theorem Linear.exists_change (property : τ → Prop) (h : Linear touches before after first actions last)
    (hfirst : ¬ property first) (hlast : property last) :
    ∃ action ∈ actions, ¬ property (before action) ∧ property (after action) := by
  induction h with
  | nil => exact absurd hlast hfirst
  | skip _ _ ih =>
    obtain ⟨action, hmem, hchange⟩ := ih hfirst hlast
    exact ⟨action, List.mem_cons_of_mem _ hmem, hchange⟩
  | @touch action _ _ _ _ ih =>
    by_cases hafter : property (after action)
    · exact ⟨action, List.mem_cons_self, hfirst, hafter⟩
    · obtain ⟨other, hmem, hchange⟩ := ih hafter hlast
      exact ⟨other, List.mem_cons_of_mem _ hmem, hchange⟩

/-- Between two actions that touch the value, a property that the first of them ended
and the second one needs was brought about again. -/
theorem Linear.exists_between (property : τ → Prop) {front between behind : List α} {left right : α}
    (h : Linear touches before after first (front ++ left :: between ++ right :: behind) last)
    (hleft : touches left) (hright : touches right) (hended : ¬ property (after left))
    (hneeded : property (before right)) :
    ∃ action ∈ between, ¬ property (before action) ∧ property (after action) := by
  rw [List.append_assoc] at h
  obtain ⟨_, _, h⟩ := h.split
  obtain ⟨_, h⟩ := Linear.of_cons h hleft
  obtain ⟨middle, hbetween, h⟩ := Linear.split h
  obtain ⟨rfl, _⟩ := h.of_cons hright
  exact hbetween.exists_change property hended hneeded

/-- A measure that each action changes by a function of its own is changed by the
whole history as by these functions one after the other. -/
theorem Linear.foldl {μ : Type} (measure : τ → μ) (change : μ → α → μ)
    (h : Linear touches before after first actions last)
    (htouched : ∀ action ∈ actions, touches action → measure (after action) = change (measure (before action)) action)
    (huntouched : ∀ action ∈ actions, ¬ touches action → ∀ value, change value action = value) :
    measure last = actions.foldl change (measure first) := by
  induction h with
  | nil => rfl
  | skip hskip _ ih =>
    rw [List.foldl_cons, huntouched _ List.mem_cons_self hskip]
    exact ih (fun action hmem => htouched action (List.mem_cons_of_mem _ hmem))
      fun action hmem => huntouched action (List.mem_cons_of_mem _ hmem)
  | touch htouch _ ih =>
    rw [List.foldl_cons, ← htouched _ List.mem_cons_self htouch]
    exact ih (fun action hmem => htouched action (List.mem_cons_of_mem _ hmem))
      fun action hmem => huntouched action (List.mem_cons_of_mem _ hmem)

end

end history
