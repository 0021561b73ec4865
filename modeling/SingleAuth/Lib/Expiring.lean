import SingleAuth.Lib.Dict

open dict

namespace expiring

/-- A value and the time it is dropped at. Times are nanoseconds. -/
structure Entry (α : Type) where
  value : α
  deadline : Int

/-- A store whose keys are dropped at their deadlines. -/
abbrev Store (α : Type) : Type := Dict (Entry α)

section

variable {α : Type}

def get (store : Store α) (key : String) : Option α := (store.get? key).map Entry.value

/-- Write a key for a number of seconds. A key without time to live is dropped at once. -/
def set (store : Store α) (now : Int) (key : String) (value : α) (ttl : Int) : Store α :=
  if 0 < ttl then Dict.set store key { value, deadline := now + ttl * 1000000000 } else Dict.erase store key

def delete (store : Store α) (key : String) : Store α := Dict.erase store key

def advance (store : Store α) (now : Int) : Store α :=
  ⟨store.entries.filter fun entry => now < entry.2.deadline, store.ascending.sublist List.filter_sublist⟩

theorem get?_delete (store : Store α) (key other : String) :
    (delete store key).get? other = if other = key then none else store.get? other :=
  Dict.get?_erase store key other

variable {key other : String} {entry : Entry α} {store : Store α}

theorem get?_set_of_ne (store : Store α) (now : Int) (value : α) (ttl : Int) (hne : other ≠ key) :
    (set store now key value ttl).get? other = store.get? other := by
  unfold set
  split
  · exact Dict.get?_set_of_ne store _ hne
  · rw [Dict.get?_erase, if_neg hne]

variable {ttl now : Int}

theorem get?_set_of_pos (store : Store α) (now : Int) (key : String) (value : α) (hpositive : 0 < ttl) :
    (set store now key value ttl).get? key = some { value, deadline := now + ttl * 1000000000 } := by
  rw [set, if_pos hpositive, Dict.get?_set_self]

theorem get_set_of_pos (store : Store α) (now : Int) (key : String) (value : α) (hpositive : 0 < ttl) :
    get (set store now key value ttl) key = some value := by
  rw [get, get?_set_of_pos _ _ _ _ hpositive, Option.map_some]

theorem get?_of_delete (h : (delete store key).get? other = some entry) : store.get? other = some entry := by
  rw [get?_delete] at h
  split at h
  · cases h
  · exact h

theorem get?_of_set {value : α} (h : (set store now key value ttl).get? other = some entry) :
    (other = key ∧ entry.value = value) ∨ store.get? other = some entry := by
  by_cases hsame : other = key
  · subst hsame
    by_cases hpositive : 0 < ttl
    · rw [get?_set_of_pos _ _ _ _ hpositive] at h
      cases h
      exact .inl ⟨rfl, rfl⟩
    · rw [set, if_neg hpositive, Dict.get?_erase, if_pos rfl] at h
      cases h
  · rw [get?_set_of_ne _ _ _ _ hsame] at h
    exact .inr h

/-- The keys that are left were there, and their time has not come. -/
theorem get?_advance_eq_some_iff :
    (advance store now).get? key = some entry ↔ store.get? key = some entry ∧ now < entry.deadline := by
  rw [Dict.get?_eq_some_iff, Dict.get?_eq_some_iff]
  simp [advance]

end

end expiring
