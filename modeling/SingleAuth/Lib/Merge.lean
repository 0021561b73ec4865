import Mathlib.Data.List.Nodup
import Mathlib.Tactic.Common

namespace merge

section

variable {α κ : Type} [DecidableEq κ] (key : α → κ) (changed : α → α → Bool)

/-- The row of a key; a later row stands for an earlier one of the same key. -/
def lookup (rows : List α) (k : κ) : Option α := rows.reverse.find? fun row => key row = k

/-- The branch's row differs from the one that it started with, if it had one. -/
def differs (old : Option α) (new : α) : Bool :=
  match old with
  | none => true
  | some old => changed old new

/-- The live rows after a branch is merged into them, and the keys that were placed.
A row that the branch deleted is dropped, one that it changed or created gives
way to the branch's row. -/
def mergeLive (base completed : List α) : List α → List α × List κ
  | [] => ([], [])
  | row :: rest =>
    let (merged, placed) := mergeLive base completed rest
    let old := lookup key base (key row)
    let new := lookup key completed (key row)
    if old.isSome && new.isNone then (merged, placed)
    else
      match new with
      | some new => ((if differs changed old new then new else row) :: merged, key row :: placed)
      | none => (row :: merged, key row :: placed)

/-- Three-way merge of rows: the live rows in their order, then the rows that the
branch created and that have not been placed. -/
def mergeRows (live base completed : List α) : List α :=
  let (merged, placed) := mergeLive key changed base completed live
  merged ++ completed.filter fun row => (lookup key base (key row)).isNone && !placed.contains (key row)

def Keyed (rows : List α) : Prop := (rows.map key).Nodup

/-- The row of one key after a merge: what the branch did to it since the base, on
top of the live row. -/
def resolve (live base completed : Option α) : Option α :=
  match base, completed with
  | some _, none => none
  | some old, some new => live.map fun row => if changed old new then new else row
  | none, some new => some new
  | none, none => live

/-- What becomes of one live row. -/
def mergeOne (base completed : List α) (row : α) : Option α :=
  resolve changed (some row) (lookup key base (key row)) (lookup key completed (key row))

variable {key changed} {live base completed : List α} {k : κ} {row : α} {rows : List α}

theorem key_of_lookup (h : lookup key rows k = some row) : key row = k := by
  simpa using List.find?_some h

theorem mem_of_lookup (h : lookup key rows k = some row) : row ∈ rows :=
  List.mem_reverse.mp (List.mem_of_find?_eq_some h)

theorem lookup_eq_none_iff : lookup key rows k = none ↔ ∀ row ∈ rows, key row ≠ k := by
  simp [lookup]

/-- With distinct keys the row of a key is the one that has it. -/
theorem Keyed.lookup_eq_some_iff (h : Keyed key rows) : lookup key rows k = some row ↔ row ∈ rows ∧ key row = k := by
  constructor
  · exact fun hfound => ⟨mem_of_lookup hfound, key_of_lookup hfound⟩
  rintro ⟨hrow, rfl⟩
  cases hfound : lookup key rows (key row) with
  | none => exact absurd rfl (lookup_eq_none_iff.mp hfound row hrow)
  | some other =>
    exact congrArg some (List.inj_on_of_nodup_map h (mem_of_lookup hfound) hrow (key_of_lookup hfound))

/-! ## The merge row by row -/

theorem mergeLive_eq :
    mergeLive key changed base completed live = (live.filterMap (mergeOne key changed base completed),
      (live.filter fun row => (mergeOne key changed base completed row).isSome).map key) := by
  induction live with
  | nil => rfl
  | cons row rest ih =>
    rw [mergeLive, ih]
    cases hold : lookup key base (key row) with
    | none => cases hnew : lookup key completed (key row) <;> simp [mergeOne, resolve, differs, hold, hnew]
    | some old =>
      cases hnew : lookup key completed (key row) with
      | none => simp [mergeOne, resolve, hold, hnew]
      | some new => cases hchanged : changed old new <;> simp [mergeOne, resolve, differs, hold, hnew, hchanged]

section

variable {result : α} (h : mergeOne key changed base completed row = some result)
include h

theorem mergeOne_cases : result = row ∨ lookup key completed (key row) = some result := by
  unfold mergeOne resolve at h
  split at h
  · cases h
  · next old new _ hnew =>
    simp only [Option.map_some, Option.some.injEq] at h
    subst h
    split
    · exact .inr hnew
    · exact .inl rfl
  · next new _ hnew => exact .inr (hnew.trans h)
  · exact .inl (Option.some.inj h).symm

/-- What the merge makes of a live row has the key of that row. -/
theorem key_mergeOne : key result = key row := by
  rcases mergeOne_cases h with rfl | hnew
  · rfl
  · exact key_of_lookup hnew

end

/-- The merged rows: what became of a live row, or a row that the branch created and
that no live row has the key of. -/
theorem mem_mergeRows :
    row ∈ mergeRows key changed live base completed ↔
      (∃ old ∈ live, mergeOne key changed base completed old = some row) ∨
        row ∈ completed ∧ lookup key base (key row) = none ∧ lookup key live (key row) = none := by
  have hplaced : ∀ k, lookup key base k = none →
      (k ∈ (live.filter fun old => (mergeOne key changed base completed old).isSome).map key ↔
        ∃ old ∈ live, key old = k) := by
    intro k hbase
    simp only [List.mem_map, List.mem_filter]
    constructor
    · rintro ⟨old, ⟨hold, _⟩, hk⟩
      exact ⟨old, hold, hk⟩
    · rintro ⟨old, hold, rfl⟩
      refine ⟨old, ⟨hold, ?_⟩, rfl⟩
      cases hnew : lookup key completed (key old) <;> simp [mergeOne, resolve, hbase, hnew]
  rw [mergeRows, mergeLive_eq, List.mem_append, List.mem_filterMap, List.mem_filter]
  refine or_congr_right (and_congr_right fun _ => ?_)
  rw [Bool.and_eq_true, Option.isNone_iff_eq_none]
  refine and_congr_right fun hbase => ?_
  rw [lookup_eq_none_iff, Bool.not_eq_true', ← Bool.not_eq_true, List.contains_iff_mem, hplaced _ hbase]
  simp

/-- A branch without rows, from a base without rows, changes nothing. -/
theorem mergeRows_nil : mergeRows key changed live [] [] = live := by
  have hone : mergeOne key changed [] [] = some := rfl
  simp [mergeRows, mergeLive_eq, hone]

theorem mem_of_mem_mergeRows (h : row ∈ mergeRows key changed live base completed) : row ∈ live ∨ row ∈ completed := by
  rcases mem_mergeRows.mp h with ⟨old, hold, hmerge⟩ | ⟨hcompleted, _⟩
  · rcases mergeOne_cases hmerge with rfl | hnew
    · exact .inl hold
    · exact .inr (mem_of_lookup hnew)
  · exact .inr hcompleted

theorem keyed_mergeRows (hlive : Keyed key live) (hcompleted : Keyed key completed) :
    Keyed key (mergeRows key changed live base completed) := by
  have hfirst : ((live.filterMap (mergeOne key changed base completed)).map key).Sublist (live.map key) := by
    induction live with
    | nil => simp
    | cons row rest ih =>
      have ih := ih (List.Nodup.of_cons hlive)
      cases hrow : mergeOne key changed base completed row with
      | none => simpa [List.filterMap_cons, hrow] using ih.cons (key row)
      | some result =>
        simp only [List.filterMap_cons, hrow, List.map_cons, key_mergeOne hrow]
        exact ih.cons_cons (key row)
  unfold Keyed
  rw [mergeRows, mergeLive_eq, List.map_append, List.nodup_append]
  refine ⟨hlive.sublist hfirst, hcompleted.sublist (List.filter_sublist.map key), ?_⟩
  intro k hk other hother heq
  subst heq
  obtain ⟨row, hrow, rfl⟩ := List.mem_map.mp hother
  obtain ⟨_, hadded⟩ := List.mem_filter.mp hrow
  -- The keys of the first part are exactly the placed ones.
  obtain ⟨result, hresult, hkey⟩ := List.mem_map.mp hk
  obtain ⟨old, hold, hmerge⟩ := List.mem_filterMap.mp hresult
  have hplaced : key row ∈ (live.filter fun old => (mergeOne key changed base completed old).isSome).map key := by
    refine List.mem_map.mpr ⟨old, List.mem_filter.mpr ⟨hold, by simp [hmerge]⟩, ?_⟩
    rw [← key_mergeOne hmerge, hkey]
  simp only [Bool.and_eq_true, Bool.not_eq_true', ← Bool.not_eq_true, List.contains_iff_mem] at hadded
  exact hadded.2 hplaced

/-- The merge does to the row of each key what `resolve` says. -/
theorem lookup_mergeRows (hlive : Keyed key live) (hcompleted : Keyed key completed) (k : κ) :
    lookup key (mergeRows key changed live base completed) k =
      resolve changed (lookup key live k) (lookup key base k) (lookup key completed k) := by
  refine Option.ext fun row => ?_
  have hkeyed : Keyed key (mergeRows key changed live base completed) := keyed_mergeRows hlive hcompleted
  rw [hkeyed.lookup_eq_some_iff, mem_mergeRows]
  cases hrow : lookup key live k with
  | some old =>
    have hold := hlive.lookup_eq_some_iff.mp hrow
    obtain ⟨hmem, rfl⟩ := hold
    have hone : resolve changed (some old) (lookup key base (key old)) (lookup key completed (key old)) =
        mergeOne key changed base completed old := rfl
    rw [hone]
    constructor
    · rintro ⟨⟨other, hother, hmerge⟩ | ⟨_, _, hnone⟩, hk⟩
      · have hsame : other = old :=
          List.inj_on_of_nodup_map hlive hother hmem ((key_mergeOne hmerge).symm.trans hk)
        rw [← hsame, hmerge]
      · rw [hk, hrow] at hnone
        cases hnone
    · exact fun hmerge => ⟨.inl ⟨old, hmem, hmerge⟩, key_mergeOne hmerge⟩
  | none =>
    have habsent := lookup_eq_none_iff.mp hrow
    constructor
    · rintro ⟨⟨other, hother, hmerge⟩ | ⟨hmem, hbase, _⟩, hk⟩
      · exact absurd ((key_mergeOne hmerge).symm.trans hk) (habsent other hother)
      · rw [hk] at hbase
        rw [hbase, hcompleted.lookup_eq_some_iff.mpr ⟨hmem, hk⟩]
        rfl
    intro hresolve
    unfold resolve at hresolve
    split at hresolve
    · cases hresolve
    · cases hresolve
    · next new hbase hnew =>
      cases hresolve
      obtain ⟨hmem, rfl⟩ := hcompleted.lookup_eq_some_iff.mp hnew
      exact ⟨.inr ⟨hmem, hbase, hrow⟩, rfl⟩
    · cases hresolve

end

end merge
