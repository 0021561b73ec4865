import SingleAuth.Lib.Dict
import SingleAuth.Lib.Fallible

open fallible

namespace dict.Dict

section

variable {α : Type} {key name : α → String}

/-- Items are entered one after the other, each under its key with its name. A
key that is met again has the same name. -/
def Registers (seen : Dict String) (key name : α → String) : List α → Prop
  | [] => True
  | item :: rest =>
    (seen.get? (key item)).getD (name item) = name item ∧
      (seen.set (key item) (name item)).Registers key name rest

variable {items : List α} {seen : Dict String}

/-- What was entered before under the key of an item has its name. -/
theorem Registers.prior (h : seen.Registers key name items) {item : α}
    (hitem : item ∈ items) {prior : String} (hprior : seen.get? (key item) = some prior) : prior = name item := by
  induction items generalizing seen prior with
  | nil => cases hitem
  | cons first rest ih =>
    obtain ⟨hfirst, hrest⟩ := h
    have hseen : ∀ {prior}, seen.get? (key first) = some prior → prior = name first := by
      intro prior hprior
      simpa [hprior] using hfirst
    rcases List.mem_cons.mp hitem with rfl | hlater
    · exact hseen hprior
    by_cases hsame : key item = key first
    · have hnamed : name first = name item := ih hrest hlater (by rw [hsame, get?_set_self])
      rw [hsame] at hprior
      rw [hseen hprior, hnamed]
    · exact ih hrest hlater (by rw [get?_set_of_ne _ _ hsame, hprior])

theorem Registers.injective (h : seen.Registers key name items) {left right : α}
    (hleft : left ∈ items) (hright : right ∈ items) (hkey : key left = key right) : name left = name right := by
  induction items generalizing seen with
  | nil => cases hleft
  | cons first rest ih =>
    obtain ⟨_, hrest⟩ := h
    have hfirst : ∀ {other}, other ∈ rest → key other = key first → name first = name other :=
      fun hother hsame => hrest.prior hother (by rw [hsame, get?_set_self])
    rcases List.mem_cons.mp hleft with rfl | hlater <;> rcases List.mem_cons.mp hright with rfl | hbehind
    · rfl
    · exact hfirst hbehind hkey.symm
    · exact (hfirst hlater hkey).symm
    · exact ih hrest hlater hbehind

end

section

variable {ε α β : Type}

/-- Write the value of an item under its column, if it has one. -/
def setSomeM (column : α → String) (stored : α → Except ε (Option β)) (d : Dict β) (item : α) : Except ε (Dict β) := do
  match ← stored item with
  | none => .ok d
  | some value => .ok (d.set (column item) value)

/-- After the items are written, each into a column of its own, a column has the
value of its item or what it had before. -/
theorem foldlM_setSomeM_get?_iff {column : α → String} {stored : α → Except ε (Option β)} {items : List α}
    (hdistinct : ∀ left ∈ items, ∀ right ∈ items, column left = column right → left = right) {start result : Dict β}
    (h : items.foldlM (setSomeM column stored) start = .ok result) {key : String} {value : β} :
    result.get? key = some value ↔
      (∃ item ∈ items, column item = key ∧ stored item = .ok (some value)) ∨
        (∀ item ∈ items, column item = key → stored item = .ok none) ∧ start.get? key = some value := by
  induction items generalizing start with
  | nil =>
    cases h
    simp
  | cons first rest ih =>
    rw [List.foldlM_cons] at h
    obtain ⟨next, hnext, h⟩ := bind_eq_ok_iff.mp h
    obtain ⟨found, hfound, hnext⟩ := bind_eq_ok_iff.mp hnext
    have hrest : ∀ left ∈ rest, ∀ right ∈ rest, column left = column right → left = right :=
      fun left hleft right hright =>
        hdistinct left (List.mem_cons_of_mem _ hleft) right (List.mem_cons_of_mem _ hright)
    rw [ih hrest h]
    cases found with
    | none =>
      cases hnext
      simp [hfound]
    | some written =>
      cases hnext
      by_cases hkey : column first = key
      · have hothers : ∀ item ∈ rest, column item = key → item = first := fun item hitem hcolumn =>
          hdistinct item (List.mem_cons_of_mem _ hitem) first List.mem_cons_self (hcolumn.trans hkey.symm)
        subst hkey
        rw [get?_set_self]
        constructor
        · rintro (⟨item, hitem, hcolumn, hstored⟩ | ⟨_, hvalue⟩)
          · exact .inl ⟨item, List.mem_cons_of_mem _ hitem, hcolumn, hstored⟩
          · cases hvalue
            exact .inl ⟨first, List.mem_cons_self, rfl, hfound⟩
        rintro (⟨item, hitem, hcolumn, hstored⟩ | ⟨hnone, _⟩)
        · by_cases hlater : item ∈ rest
          · exact .inl ⟨item, hlater, hcolumn, hstored⟩
          have hitem : item = first := (List.mem_cons.mp hitem).resolve_right hlater
          have hvalue : some written = some value := by
            rw [hitem] at hstored
            exact Except.ok.inj (hfound.symm.trans hstored)
          refine (em (first ∈ rest)).elim (fun hagain => ?_) fun hnot => .inr ⟨?_, hvalue⟩
          · exact .inl ⟨first, hagain, rfl, hitem ▸ hstored⟩
          · exact fun other hother hcolumn => absurd (hothers other hother hcolumn ▸ hother) hnot
        · cases hfound.symm.trans (hnone first List.mem_cons_self rfl)
      · rw [get?_set_of_ne _ _ (Ne.symm hkey)]
        simp [hkey]

end

end dict.Dict
