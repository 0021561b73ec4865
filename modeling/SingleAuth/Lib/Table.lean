import Mathlib.Algebra.GroupWithZero.Nat
import Mathlib.Data.List.Basic

namespace table

section

variable {α : Type}

/-- The matching rows in table order, at most `limit` of them. -/
def findMany (limit : Nat) (matching : α → Bool) (rows : List α) : List α := (rows.filter matching).take limit

def deleteMany (matching : α → Bool) (rows : List α) : List α := rows.filter (fun row => !matching row)

/-- Take the first matching row out. `none` when no row matches. -/
def consumeFirst (matching : α → Bool) : List α → Option (α × List α)
  | [] => none
  | row :: rest =>
    if matching row then some (row, rest)
    else (consumeFirst matching rest).map fun (taken, left) => (taken, row :: left)

/-- Change the first matching row. `none` when no row matches. -/
def updateFirst (matching : α → Bool) (change : α → α) : List α → Option (List α)
  | [] => none
  | row :: rest =>
    if matching row then some (change row :: rest) else (updateFirst matching change rest).map (row :: ·)

/-- The newest row; of several rows of that time the first one. -/
def newest (createdAt : α → Int) : List α → Option α :=
  List.foldl (fun latest row =>
    match latest with
    | none => some row
    | some other => if createdAt other < createdAt row then some row else some other) none

variable {row : α} {rows updated : List α} {matching : α → Bool} {change : α → α} {held : α → Option β}
  {same : β → β → Bool}

theorem mem_concat {row other : α} {rows : List α} : other ∈ rows ++ [row] ↔ other ∈ rows ∨ other = row := by
  rw [List.mem_append, List.mem_singleton]

theorem mem_of_newest {createdAt : α → Int} (h : newest createdAt rows = some row) : row ∈ rows := by
  have hfold : ∀ (rows : List α) (start : Option α), rows.foldl (fun latest row =>
      match latest with
      | none => some row
      | some other => if createdAt other < createdAt row then some row else some other) start = some row →
        row ∈ rows ∨ start = some row := by
    intro rows
    induction rows with
    | nil => exact fun start h => .inr h
    | cons first rest ih =>
      intro start h
      rcases ih _ h with hmem | hstart
      · exact .inl (List.mem_cons_of_mem _ hmem)
      dsimp only at hstart
      split at hstart
      · exact .inl (Option.some.inj hstart ▸ List.mem_cons_self)
      · split at hstart
        · exact .inl (Option.some.inj hstart ▸ List.mem_cons_self)
        · exact .inr hstart
  exact (hfold rows none h).resolve_right (by simp)

section

/-! Rows are kept under a key until they expire. -/

variable {κ : Type} [DecidableEq κ] (key : α → κ) (createdAt expiresAt : α → Int) (now : Int) (wanted : κ)

/-- The newest row of a key. -/
def latest (rows : List α) : Option α := newest createdAt (rows.filter fun row => key row = wanted)

/-- Read the newest row of a key, then delete what has expired. The row is returned even if it is among that. -/
def findLatest (rows : List α) : Option α × List α :=
  (latest key createdAt wanted rows, rows.filter fun row => ¬ expiresAt row < now)

/-- Take the rows of a key. The newest of them is returned, unless it has expired. -/
def consumeLatest (rows : List α) : Option α × List α :=
  match latest key createdAt wanted rows with
  | none => (none, rows)
  | some row => (if expiresAt row < now then none else some row, rows.filter fun row => key row ≠ wanted)

variable {key createdAt expiresAt now wanted}

theorem latest_some (h : latest key createdAt wanted rows = some row) : row ∈ rows ∧ key row = wanted := by
  simpa using mem_of_newest h

/-- A row that is taken was there and had not expired, and only the rows of other keys are left. -/
theorem consumeLatest_some {left : List α} (h : consumeLatest key createdAt expiresAt now wanted rows = (some row, left)) :
    (row ∈ rows ∧ key row = wanted) ∧ ¬ expiresAt row < now ∧ left = rows.filter fun row => key row ≠ wanted := by
  unfold consumeLatest at h
  split at h
  · cases h
  next found hfound =>
  obtain ⟨hlive, rfl⟩ := Prod.mk.inj h
  split at hlive
  · cases hlive
  · next hexpires =>
    cases hlive
    exact ⟨latest_some hfound, hexpires, rfl⟩

theorem consumeLatest_subset : (consumeLatest key createdAt expiresAt now wanted rows).2 ⊆ rows := by
  unfold consumeLatest
  split
  · exact List.Subset.refl _
  · exact fun row hrow => List.mem_of_mem_filter hrow

end

theorem mem_deleteMany : row ∈ deleteMany matching rows ↔ row ∈ rows ∧ matching row = false := by
  simp [deleteMany]

theorem findMany_subset {limit : Nat} : findMany limit matching rows ⊆ rows.filter matching :=
  List.take_subset limit _

section

variable (h : updateFirst matching change rows = some updated)
include h

/-- The first matching row, and what is in front of and behind it. -/
theorem updateFirst_split :
    ∃ before target behind, rows = before ++ target :: behind ∧ updated = before ++ change target :: behind ∧
      matching target = true := by
  induction rows generalizing updated with
  | nil => cases h
  | cons first rest ih =>
    rw [updateFirst] at h
    split at h
    · next hmatching =>
      cases h
      exact ⟨[], first, rest, rfl, rfl, hmatching⟩
    · obtain ⟨tail, htail, rfl⟩ := Option.map_eq_some_iff.mp h
      obtain ⟨before, target, behind, rfl, rfl, hmatching⟩ := ih htail
      exact ⟨first :: before, target, behind, rfl, rfl, hmatching⟩

theorem map_updateFirst {β : Type} {key : α → β} (hkey : ∀ row, key (change row) = key row) :
    updated.map key = rows.map key := by
  obtain ⟨before, target, behind, rfl, rfl, -⟩ := updateFirst_split h
  simp [hkey]

/-- Each row after the update is an old row or a changed matching one. -/
theorem mem_updateFirst (hrow : row ∈ updated) : row ∈ rows ∨ ∃ old ∈ rows, matching old = true ∧ row = change old := by
  obtain ⟨before, target, behind, rfl, rfl, hmatching⟩ := updateFirst_split h
  rw [List.mem_append, List.mem_cons] at hrow
  rcases hrow with hbefore | rfl | hbehind
  · exact .inl (List.mem_append_left _ hbefore)
  · exact .inr ⟨target, by simp, hmatching, rfl⟩
  · exact .inl (by simp [hbehind])

theorem exists_of_updateFirst : ∃ row ∈ rows, matching row = true := by
  obtain ⟨before, target, behind, rfl, -, hmatching⟩ := updateFirst_split h
  exact ⟨target, by simp, hmatching⟩

theorem mem_updateFirst_of_not_matching (hrow : row ∈ rows) (hother : matching row = false) : row ∈ updated := by
  obtain ⟨before, target, behind, rfl, rfl, hmatching⟩ := updateFirst_split h
  rw [List.mem_append, List.mem_cons] at hrow ⊢
  refine hrow.imp_right (.imp_left ?_)
  rintro rfl
  rw [hmatching] at hother
  cases hother

end

/-- Where a row matches, one that does is changed. -/
theorem exists_change_mem_updateFirst (matching : α → Bool) (change : α → α)
    (hrow : row ∈ rows) (hmatching : matching row = true) :
    ∃ updated, updateFirst matching change rows = some updated ∧
      ∃ old ∈ rows, matching old = true ∧ change old ∈ updated := by
  induction rows with
  | nil => cases hrow
  | cons first rest ih =>
    rw [updateFirst]
    split
    · next hfirst => exact ⟨_, rfl, first, List.mem_cons_self, hfirst, List.mem_cons_self⟩
    rename_i hfirst
    have hrest : row ∈ rest := by
      apply (List.mem_cons.mp hrow).resolve_left
      rintro rfl
      exact hfirst hmatching
    obtain ⟨updated, hupdated, old, hold, holdMatching, hchanged⟩ := ih hrest
    exact ⟨first :: updated, by rw [hupdated, Option.map_some], old, List.mem_cons_of_mem _ hold, holdMatching,
      List.mem_cons_of_mem _ hchanged⟩

variable {kept : α → Bool} {left : List α}

/-- An update of rows that are left out, and that stay left out, does not show. -/
theorem filter_updateFirst (h : updateFirst matching change rows = some updated)
    (hout : ∀ row ∈ rows, matching row = true → kept row = false ∧ kept (change row) = false) :
    updated.filter kept = rows.filter kept := by
  obtain ⟨before, target, behind, rfl, rfl, hmatching⟩ := updateFirst_split h
  obtain ⟨hbefore, hafter⟩ := hout target (by simp) hmatching
  simp [hbefore, hafter]

/-- With distinct keys, one of which the update is for, a search that does not
read what is updated finds the same row, updated or not. -/
theorem find?_updateFirst (wanted : α → Bool) {κ : Type} {key : α → κ} {target : κ}
    (h : updateFirst matching change rows = some updated) (hdistinct : (rows.map key).Nodup)
    (hkey : ∀ row, matching row = true → key row = target) (hwanted : ∀ row, wanted (change row) = wanted row) :
    updated.find? wanted = (rows.find? wanted).map fun row => if matching row then change row else row := by
  induction rows generalizing updated with
  | nil => cases h
  | cons row rest ih =>
    rw [List.map_cons, List.nodup_cons] at hdistinct
    rw [updateFirst] at h
    split at h
    · next hmatching =>
      cases h
      rw [List.find?_cons, List.find?_cons, hwanted]
      cases hrow : wanted row with
      | true => simp [hmatching]
      | false =>
        -- no other row has the key
        cases hfound : rest.find? wanted with
        | none => rfl
        | some found =>
          have hother : ¬ matching found = true := by
            intro hboth
            apply hdistinct.1
            rw [hkey row hmatching, ← hkey found hboth]
            exact List.mem_map_of_mem (List.mem_of_find?_eq_some hfound)
          simp [hother]
    · next hmatching =>
      obtain ⟨updated, hrest, rfl⟩ := Option.map_eq_some_iff.mp h
      rw [List.find?_cons, List.find?_cons]
      cases hrow : wanted row with
      | true => simp [hmatching]
      | false => exact ih hrest hdistinct.2

/-- The row that is taken out and those that are left are the rows there were. -/
theorem consumeFirst_perm
    (h : consumeFirst matching rows = some (row, left)) : matching row = true ∧ rows.Perm (row :: left) := by
  induction rows generalizing left with
  | nil => cases h
  | cons first rest ih =>
    rw [consumeFirst] at h
    split at h
    · next hmatching =>
      cases h
      exact ⟨hmatching, .refl _⟩
    obtain ⟨⟨taken, others⟩, htaken, heq⟩ := Option.map_eq_some_iff.mp h
    cases heq
    obtain ⟨hmatching, hperm⟩ := ih htaken
    exact ⟨hmatching, (hperm.cons first).trans (.swap row first others)⟩

/-! ## Counting rows -/

variable (counted : α → Bool)

theorem countP_deleteMany_le (matching : α → Bool) (rows : List α) :
    (deleteMany matching rows).countP counted ≤ rows.countP counted :=
  List.filter_sublist.countP_le

theorem countP_consumeFirst (h : consumeFirst matching rows = some (row, left)) :
    left.countP counted + (counted row).toNat = rows.countP counted := by
  rw [(consumeFirst_perm h).2.countP_eq, List.countP_cons]
  cases counted row <;> rfl

theorem countP_updateFirst (h : updateFirst matching change rows = some updated) :
    ∃ row, matching row = true ∧
      updated.countP counted + (counted row).toNat = rows.countP counted + (counted (change row)).toNat := by
  obtain ⟨before, target, behind, rfl, rfl, hmatching⟩ := updateFirst_split h
  refine ⟨target, hmatching, ?_⟩
  simp only [List.countP_append, List.countP_cons]
  cases counted target <;> cases counted (change target) <;> simp <;> omega

/-! ## Sums over rows -/

theorem sum_map_toNat (rows : List α) : (rows.map fun row => (counted row).toNat).sum = rows.countP counted := by
  induction rows with
  | nil => rfl
  | cons row rest ih =>
    rw [List.map_cons, List.sum_cons, List.countP_cons, ih]
    cases counted row <;> simp [Nat.add_comm]

theorem sum_map_filter_le (worth : α → Nat) (kept : α → Bool) (rows : List α) :
    ((rows.filter kept).map worth).sum ≤ (rows.map worth).sum := by
  induction rows with
  | nil => exact Nat.le_refl _
  | cons row rest ih =>
    rw [List.filter_cons]
    split
    · simpa using ih
    · rw [List.map_cons, List.sum_cons]
      omega

theorem sum_map_filter_add_le (worth : α → Nat) (hrow : row ∈ rows)
    (hout : kept row = false) : ((rows.filter kept).map worth).sum + worth row ≤ (rows.map worth).sum := by
  induction rows with
  | nil => cases hrow
  | cons first rest ih =>
    rw [List.map_cons, List.sum_cons, List.filter_cons]
    rcases List.mem_cons.mp hrow with rfl | hrest
    · rw [hout, if_neg Bool.false_ne_true]
      have hle := sum_map_filter_le worth kept rest
      omega
    have hle := ih hrest
    split
    · rw [List.map_cons, List.sum_cons]
      omega
    · omega

/-! ## Columns without duplicates -/

variable {β : Type}

/-- The first value of a column that a later row holds as well. -/
def findDuplicate (held : α → Option β) (same : β → β → Bool) : List α → Option β
  | [] => none
  | row :: rest =>
    match held row with
    | none => findDuplicate held same rest
    | some value =>
      if rest.any (fun other => (held other).any (same value)) then some value else findDuplicate held same rest

/-- No two rows hold the same value in a column. -/
def Distinct (held : α → Option β) (same : β → β → Bool) (rows : List α) : Prop :=
  rows.Pairwise fun left right => ∀ x ∈ held left, ∀ y ∈ held right, same x y = false

theorem findDuplicate_eq_none_iff : findDuplicate held same rows = none ↔ Distinct held same rows := by
  unfold Distinct
  induction rows with
  | nil => simp [findDuplicate]
  | cons row rest ih =>
    rw [findDuplicate, List.pairwise_cons, ← ih]
    cases hrow : held row with
    | none => simp
    | some value =>
      have hany : rest.any (fun other => (held other).any (same value)) = true ↔
          ∃ other ∈ rest, ∃ y ∈ held other, same value y = true := by
        simp [List.any_eq_true, Option.any_eq_true]
      by_cases hshared : rest.any (fun other => (held other).any (same value)) = true
      · obtain ⟨other, hother, y, hy, hsame⟩ := hany.mp hshared
        simp only [hshared, if_true, reduceCtorEq, false_iff, not_and]
        intro hapart
        simp [hapart other hother value rfl y hy] at hsame
      simp only [hshared, Bool.false_eq_true, if_false, iff_and_self]
      intro _ other hother x hx y hy
      cases hx
      rw [Bool.eq_false_iff]
      exact fun hsame => hshared (hany.mpr ⟨other, hother, y, hy, hsame⟩)

theorem Distinct.sublist {kept : List α}
    (h : Distinct held same rows) (hkept : kept.Sublist rows) : Distinct held same kept :=
  List.Pairwise.sublist hkept h

/-- A row may be replaced by one that holds its value, or a value of no other row. -/
theorem Distinct.replace {before behind : List α} {changed : α}
    (h : Distinct held same (before ++ row :: behind)) (hsymm : ∀ x y, same x y = same y x)
    (hvalue : ∀ x ∈ held changed, held row = some x ∨
      ∀ other ∈ before ++ behind, ∀ y ∈ held other, same x y = false) :
    Distinct held same (before ++ changed :: behind) := by
  unfold Distinct at h ⊢
  rw [List.pairwise_append, List.pairwise_cons] at h ⊢
  obtain ⟨hbefore, ⟨hrow, hbehind⟩, hcross⟩ := h
  refine ⟨hbefore, ⟨fun other hother x hx y hy => ?_, hbehind⟩, fun other hother right hright x hx y hy => ?_⟩
  · rcases hvalue x hx with hold | hfree
    · exact hrow other hother x hold y hy
    · exact hfree other (List.mem_append_right _ hother) y hy
  rcases List.mem_cons.mp hright with rfl | hright
  · rcases hvalue y hy with hold | hfree
    · exact hcross other hother row List.mem_cons_self x hx y hold
    · rw [hsymm]
      exact hfree other (List.mem_append_left _ hother) x hx
  · exact hcross other hother right (List.mem_cons_of_mem _ hright) x hx y hy

end

end table
