import Mathlib.Data.String.Basic
import Mathlib.Order.Basic

namespace dict

/-- Write one entry into a list of entries kept in ascending key order. An
entry of the same key is replaced, any other entry stays where it is. -/
def setEntry {α : Type} (key : String) (value : α) : List (String × α) → List (String × α)
  | [] => [(key, value)]
  | entry :: rest =>
    if key < entry.1 then (key, value) :: entry :: rest
    else if key = entry.1 then (key, value) :: rest
    else entry :: setEntry key value rest

/-- Ascending keys: no key occurs twice. -/
abbrev Ascending {α : Type} (entries : List (String × α)) : Prop :=
  entries.Pairwise (fun left right => left.1 < right.1)

variable {α : Type}

section

variable (key : String) (value : α) (entries : List (String × α)) (hsorted : Ascending entries)
include hsorted

/-- A write splits the entries at the key: what sorts before it, the new
entry, and what sorts behind it. -/
theorem setEntry_eq :
    setEntry key value entries =
      entries.filter (fun entry => entry.1 < key) ++ (key, value) ::
        entries.filter (fun entry => key < entry.1) := by
  induction entries with
  | nil => rfl
  | cons entry rest ih =>
    obtain ⟨hhead, htail⟩ := List.pairwise_cons.mp hsorted
    rw [setEntry]
    split
    · rename_i hbefore
      have hnone : (entry :: rest).filter (fun other => other.1 < key) = [] := by
        simp only [List.filter_eq_nil_iff, decide_eq_true_eq, List.mem_cons, forall_eq_or_imp]
        exact ⟨hbefore.asymm, fun other hother => (hbefore.trans (hhead other hother)).asymm⟩
      have hall : (entry :: rest).filter (fun other => key < other.1) = entry :: rest := by
        simp only [List.filter_eq_self, decide_eq_true_eq, List.mem_cons, forall_eq_or_imp]
        exact ⟨hbefore, fun other hother => hbefore.trans (hhead other hother)⟩
      rw [hnone, hall, List.nil_append]
    split
    · rename_i hequal
      subst hequal
      have hnone : rest.filter (fun other => other.1 < entry.1) = [] := by
        simp only [List.filter_eq_nil_iff, decide_eq_true_eq]
        exact fun other hother => (hhead other hother).asymm
      have hall : rest.filter (fun other => entry.1 < other.1) = rest := by
        simp only [List.filter_eq_self, decide_eq_true_eq]
        exact hhead
      rw [List.filter_cons_of_neg (by simp), List.filter_cons_of_neg (by simp), hnone, hall,
        List.nil_append]
    · rename_i hnot hne
      have hless : entry.1 < key := lt_of_le_of_ne (not_lt.mp hnot) (Ne.symm hne)
      rw [ih htail, List.filter_cons_of_pos (by simpa using hless),
        List.filter_cons_of_neg (by simpa using hnot), List.cons_append]

theorem setEntry_ascending : Ascending (setEntry key value entries) := by
  rw [setEntry_eq key value entries hsorted]
  refine List.pairwise_append.mpr ⟨hsorted.filter _, List.pairwise_cons.mpr ⟨?_, hsorted.filter _⟩, ?_⟩
  · intro entry hentry
    simpa using (List.mem_filter.mp hentry).2
  intro left hleft right hright
  have hbefore : left.1 < key := by simpa using (List.mem_filter.mp hleft).2
  rcases List.mem_cons.mp hright with rfl | hbehind
  · exact hbefore
  · exact hbefore.trans (by simpa using (List.mem_filter.mp hbehind).2)

end

/-- A string-keyed map, kept as its entries in ascending key order. -/
structure Dict (α : Type) where
  entries : List (String × α)
  ascending : Ascending entries

namespace Dict

def empty {α : Type} : Dict α := ⟨[], List.Pairwise.nil⟩

def get? {α : Type} (d : Dict α) (key : String) : Option α := d.entries.lookup key

def set {α : Type} (d : Dict α) (key : String) (value : α) : Dict α :=
  ⟨setEntry key value d.entries, setEntry_ascending key value d.entries d.ascending⟩

def erase {α : Type} (d : Dict α) (key : String) : Dict α :=
  ⟨d.entries.filter (fun entry => entry.1 ≠ key), d.ascending.filter _⟩

/-- Write a list of entries one after the other, a later one over an earlier one of the same key. -/
def setAll {α : Type} (d : Dict α) (entries : List (String × α)) : Dict α :=
  entries.foldl (fun d entry => d.set entry.1 entry.2) d

def ofEntries {α : Type} (entries : List (String × α)) : Dict α := empty.setAll entries

variable {α : Type} {entries : List (String × α)} {key : String} (d : Dict α) {value : α}

theorem mem_set (key : String) (value : α) (entry : String × α) :
    entry ∈ (d.set key value).entries ↔ entry = (key, value) ∨ entry ∈ d.entries ∧ entry.1 ≠ key := by
  simp only [set]
  rw [setEntry_eq key value d.entries d.ascending, List.mem_append, List.mem_cons, List.mem_filter,
    List.mem_filter, decide_eq_true_eq, decide_eq_true_eq, ne_iff_lt_or_gt]
  tauto

/-- After writing entries of distinct keys a map holds these entries, and its
own wherever none of them has the key. -/
theorem mem_setAll
    (hdistinct : entries.Pairwise (fun left right => left.1 ≠ right.1)) (entry : String × α) :
    entry ∈ (d.setAll entries).entries ↔
      entry ∈ entries ∨ entry ∈ d.entries ∧ ∀ written ∈ entries, entry.1 ≠ written.1 := by
  induction entries generalizing d with
  | nil => simp [setAll]
  | cons first rest ih =>
    obtain ⟨hfirst, hrest⟩ := List.pairwise_cons.mp hdistinct
    have hfold : d.setAll (first :: rest) = (d.set first.1 first.2).setAll rest := rfl
    rw [hfold, ih (d.set first.1 first.2) hrest, mem_set, List.mem_cons, List.forall_mem_cons]
    constructor
    · rintro (hmem | ⟨heq | ⟨hmem, hne⟩, hothers⟩)
      · exact Or.inl (Or.inr hmem)
      · exact Or.inl (Or.inl heq)
      · exact Or.inr ⟨hmem, hne, hothers⟩
    rintro ((heq | hmem) | ⟨hmem, hne, hothers⟩)
    · exact Or.inr ⟨Or.inl heq, fun written hwritten => by rw [heq]; exact hfirst written hwritten⟩
    · exact Or.inl hmem
    · exact Or.inr ⟨Or.inr ⟨hmem, hne⟩, hothers⟩

/-- Whatever a map holds after some writes was written or there before. -/
theorem mem_of_mem_setAll {entry : String × α}
    (h : entry ∈ (d.setAll entries).entries) : entry ∈ entries ∨ entry ∈ d.entries := by
  induction entries generalizing d with
  | nil => exact .inr h
  | cons first rest ih =>
    rcases ih (d.set first.1 first.2) h with hrest | hset
    · exact .inl (List.mem_cons_of_mem _ hrest)
    · rcases (mem_set d first.1 first.2 entry).mp hset with rfl | ⟨hold, _⟩
      · exact .inl List.mem_cons_self
      · exact .inr hold

/-- A key selects the one entry that is looked up under it. -/
theorem filter_key (key : String) :
    d.entries.filter (fun entry => entry.1 == key) = ((d.get? key).map (Prod.mk key)).toList := by
  have hlookup : ∀ entries : List (String × α), Ascending entries →
      entries.filter (fun entry => entry.1 == key) = ((entries.lookup key).map (Prod.mk key)).toList := by
    intro entries hsorted
    induction entries with
    | nil => rfl
    | cons entry rest ih =>
      obtain ⟨hhead, htail⟩ := List.pairwise_cons.mp hsorted
      by_cases hkey : entry.1 = key
      · have hnone : rest.filter (fun other => other.1 == key) = [] := by
          rw [List.filter_eq_nil_iff]
          intro other hother
          have hbehind := hhead other hother
          simp only [beq_iff_eq]
          rintro rfl
          exact absurd hkey hbehind.ne
        subst hkey
        rw [List.filter_cons_of_pos (by simp), hnone, List.lookup_cons]
        simp
      · have hne : (key == entry.1) = false := by simpa using Ne.symm hkey
        rw [List.filter_cons_of_neg (by simpa using hkey), ih htail, List.lookup_cons, hne]
  exact hlookup d.entries d.ascending

/-- A write leaves every selection of other keys as it was. -/
theorem filter_set_of_not (select : String → Bool) (value : α) (hother : select key = false) :
    (d.set key value).entries.filter (fun entry => select entry.1) =
      d.entries.filter (fun entry => select entry.1) := by
  have hsplit : ∀ entries : List (String × α), Ascending entries →
      (setEntry key value entries).filter (fun entry => select entry.1) =
        entries.filter (fun entry => select entry.1) := by
    intro entries hsorted
    induction entries with
    | nil => simp [setEntry, hother]
    | cons entry rest ih =>
      have ih := ih (List.pairwise_cons.mp hsorted).2
      rw [setEntry]
      split
      · simp [hother]
      split
      · rename_i hequal
        simp [hother, ← hequal]
      · simp [List.filter_cons, ih]
  exact hsplit d.entries d.ascending

/-- A write puts the entry of a selected key between the selected entries
that sort before it and those that sort behind it. -/
theorem filter_set_of_selected (select : String → Bool) (value : α) (hselected : select key = true) :
    (d.set key value).entries.filter (fun entry => select entry.1) =
      (d.entries.filter (fun entry => select entry.1)).filter (fun entry => entry.1 < key) ++
        (key, value) :: (d.entries.filter (fun entry => select entry.1)).filter (fun entry => key < entry.1) := by
  have hswap : ∀ keep : String × α → Bool,
      (d.entries.filter keep).filter (fun entry => select entry.1) =
        (d.entries.filter (fun entry => select entry.1)).filter keep := by
    intro keep
    simp only [List.filter_filter, Bool.and_comm]
  simp only [set]
  rw [setEntry_eq key value d.entries d.ascending, List.filter_append,
    List.filter_cons_of_pos (by simpa using hselected), hswap, hswap]

/-- Writes of other keys leave a selection as it was. -/
theorem filter_setAll_of_not (select : String → Bool) (hothers : ∀ entry ∈ entries, select entry.1 = false) :
    (d.setAll entries).entries.filter (fun entry => select entry.1) =
      d.entries.filter (fun entry => select entry.1) := by
  induction entries generalizing d with
  | nil => rfl
  | cons first rest ih =>
    obtain ⟨hfirst, hrest⟩ := List.forall_mem_cons.mp hothers
    have hfold : d.setAll (first :: rest) = (d.set first.1 first.2).setAll rest := rfl
    rw [hfold, ih (d.set first.1 first.2) hrest, filter_set_of_not d select first.2 hfirst]

variable {d} {left right : Dict α}

theorem get?_eq_of_filter_eq
    (hsame : left.entries.filter (fun entry => entry.1 == key) = right.entries.filter (fun entry => entry.1 == key)) :
    left.get? key = right.get? key := by
  rw [filter_key, filter_key] at hsame
  cases hleft : left.get? key <;> cases hright : right.get? key <;> simp_all

theorem get?_eq_some_iff : d.get? key = some value ↔ (key, value) ∈ d.entries := by
  have hfilter : (key, value) ∈ d.entries ↔ (key, value) ∈ d.entries.filter (fun entry => entry.1 == key) := by
    simp [List.mem_filter]
  rw [hfilter, filter_key]
  simp

theorem get?_set (d : Dict α) (key other : String) (value : α) :
    (d.set key value).get? other = if other = key then some value else d.get? other := by
  refine Option.ext fun found => ?_
  rw [get?_eq_some_iff, mem_set, ← get?_eq_some_iff]
  split
  · simp_all [eq_comm]
  · simp_all

theorem get?_set_self (d : Dict α) (key : String) (value : α) : (d.set key value).get? key = some value := by
  rw [get?_set, if_pos rfl]

theorem get?_set_of_ne (d : Dict α) {other : String} (value : α) (hne : other ≠ key) :
    (d.set key value).get? other = d.get? other := by
  rw [get?_set, if_neg hne]

/-- Two maps are the same when they have the same values under every key. -/
theorem ext_get? (h : ∀ key, left.get? key = right.get? key) : left = right := by
  have hmem : ∀ entry, entry ∈ left.entries ↔ entry ∈ right.entries := by
    rintro ⟨key, value⟩
    rw [← get?_eq_some_iff, ← get?_eq_some_iff, h]
  have hentries : left.entries = right.entries :=
    List.Perm.eq_of_pairwise (fun _ _ _ _ h1 h2 => absurd h1 h2.asymm) left.ascending right.ascending
      ((List.perm_ext_iff_of_nodup (left.ascending.imp fun h => by rintro rfl; exact lt_irrefl _ h)
        (right.ascending.imp fun h => by rintro rfl; exact lt_irrefl _ h)).mpr hmem)
  cases left
  cases right
  simpa using hentries

/-- Writing the value that a key already has changes nothing. -/
theorem set_of_get? (h : d.get? key = some value) : d.set key value = d := by
  refine ext_get? fun other => ?_
  rw [get?_set]
  split
  · next hother => rw [hother, h]
  · rfl

def filter {α : Type} (d : Dict α) (keep : String → α → Bool) : Dict α :=
  ⟨d.entries.filter fun entry => keep entry.1 entry.2, d.ascending.sublist List.filter_sublist⟩

theorem get?_filter_eq_some_iff {keep : String → α → Bool} :
    (d.filter keep).get? key = some value ↔ d.get? key = some value ∧ keep key value = true := by
  rw [get?_eq_some_iff, get?_eq_some_iff]
  simp [filter]

theorem get?_erase (d : Dict α) (key other : String) :
    (d.erase key).get? other = if other = key then none else d.get? other := by
  refine Option.ext fun value => ?_
  split <;> simp_all [get?_eq_some_iff, erase]

/-- Writes of other keys leave what is looked up under a key. -/
theorem get?_setAll_of_not (d : Dict α)
    (hothers : ∀ entry ∈ entries, entry.1 ≠ key) : (d.setAll entries).get? key = d.get? key :=
  get?_eq_of_filter_eq (d.filter_setAll_of_not (fun name => name == key) (by simpa using hothers))

/-- Merging one map into another: its own values stand, and the other's where it has none. -/
theorem get?_setAll_entries (d merged : Dict α) (key : String) :
    (d.setAll merged.entries).get? key = (merged.get? key).or (d.get? key) := by
  have hdistinct : merged.entries.Pairwise (fun left right => left.1 ≠ right.1) :=
    merged.ascending.imp fun h => h.ne
  cases hmerged : merged.get? key with
  | some value =>
    rw [Option.some_or, get?_eq_some_iff, mem_setAll d hdistinct]
    exact .inl (get?_eq_some_iff.mp hmerged)
  | none =>
    rw [Option.none_or]
    refine get?_setAll_of_not d fun entry hentry hkey => ?_
    have hfound : merged.get? key = some entry.2 := get?_eq_some_iff.mpr (hkey ▸ hentry)
    rw [hmerged] at hfound
    cases hfound

private theorem setAll_of_ascending (d : Dict α)
    (hsorted : Ascending (d.entries ++ entries)) : (d.setAll entries).entries = d.entries ++ entries := by
  induction entries generalizing d with
  | nil => simp [setAll]
  | cons entry rest ih =>
    have hbefore : ∀ other ∈ d.entries, other.1 < entry.1 := fun other hother =>
      (List.pairwise_append.mp hsorted).2.2 other hother entry List.mem_cons_self
    have hset : (d.set entry.1 entry.2).entries = d.entries ++ [entry] := by
      have hall : d.entries.filter (fun other => other.1 < entry.1) = d.entries := by
        simp only [List.filter_eq_self, decide_eq_true_eq]
        exact hbefore
      have hnone : d.entries.filter (fun other => entry.1 < other.1) = [] := by
        simp only [List.filter_eq_nil_iff, decide_eq_true_eq]
        exact fun other hother => (hbefore other hother).asymm
      simp only [set]
      rw [setEntry_eq _ _ _ d.ascending, hall, hnone]
    have hfold : d.setAll (entry :: rest) = (d.set entry.1 entry.2).setAll rest := rfl
    rw [hfold, ih (d.set entry.1 entry.2) (by rw [hset]; simpa using hsorted), hset]
    simp

/-- Entries in ascending key order are kept as they are. -/
theorem entries_ofEntries (hsorted : Ascending entries) : (ofEntries entries).entries = entries := by
  have hall : ((empty : Dict α).setAll entries).entries = (empty : Dict α).entries ++ entries :=
    setAll_of_ascending empty hsorted
  simpa [ofEntries, empty] using hall

end Dict

end dict
