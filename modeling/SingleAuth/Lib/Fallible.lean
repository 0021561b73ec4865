import Mathlib.Data.List.Forall2

namespace fallible

variable {α β ε : Type}
  {first result : Except ε α} {next second : α → Except ε β} {γ δ : Type} {failure : ε} {condition : Prop}
  {found : Option α} {value : α} {convert : ε → δ} {items : List α}

theorem bind_eq_ok_iff {result : β} :
    (first >>= next) = .ok result ↔ ∃ value, first = .ok value ∧ next value = .ok result := by
  cases first with
  | error failure => simp [bind, Except.bind]
  | ok value => simp [bind, Except.bind]

theorem ok_of_bind₂ {next : α → β → Except ε γ} {result : γ}
    (h : (first >>= fun x => second x >>= next x) = .ok result) :
    ∃ x, first = .ok x ∧ ∃ y, second x = .ok y ∧ next x y = .ok result := by
  obtain ⟨x, hx, h⟩ := bind_eq_ok_iff.mp h
  exact ⟨x, hx, bind_eq_ok_iff.mp h⟩

theorem ok_of_bind₃ {third : α → β → Except ε γ} {next : α → β → γ → Except ε δ} {result : δ}
    (h : (first >>= fun x => second x >>= fun y => third x y >>= next x y) = .ok result) :
    ∃ x, first = .ok x ∧ ∃ y, second x = .ok y ∧ ∃ z, third x y = .ok z ∧ next x y z = .ok result := by
  obtain ⟨x, hx, h⟩ := bind_eq_ok_iff.mp h
  exact ⟨x, hx, ok_of_bind₂ h⟩

/-- Go on only under a condition. -/
def require {ε : Type} (condition : Prop) [Decidable condition] (failure : ε) : Except ε Unit :=
  if condition then .ok () else .error failure

theorem require_eq_ok_iff [Decidable condition] {result : Unit} :
    require condition failure = .ok result ↔ condition := by
  unfold require
  split <;> simp_all

theorem require_eq_error_iff [Decidable condition] {result : ε} :
    require condition failure = .error result ↔ ¬ condition ∧ failure = result := by
  unfold require
  split <;> simp_all

/-- Go on with the content of an optional value. -/
def expect {ε α : Type} (found : Option α) (failure : ε) : Except ε α :=
  match found with
  | some value => .ok value
  | none => .error failure

theorem expect_eq_ok_iff : expect found failure = .ok value ↔ found = some value := by
  cases found <;> simp [expect]

theorem expect_eq_error_iff {result : ε} : expect found failure = .error result ↔ found = none ∧ failure = result := by
  cases found <;> simp [expect]

theorem map_eq_ok_iff {convert : α → β} {value : β} :
    result.map convert = .ok value ↔ ∃ content, result = .ok content ∧ convert content = value := by
  cases result <;> simp [Except.map]

theorem mapError_eq_ok_iff : result.mapError convert = .ok value ↔ result = .ok value := by
  cases result <;> simp [Except.mapError]

theorem toOption_eq_some_iff : result.toOption = some value ↔ result = .ok value := by
  cases result <;> simp [Except.toOption]

theorem forM_eq_ok_iff {check : α → Except ε Unit} :
    items.forM check = .ok () ↔ ∀ item ∈ items, check item = .ok () := by
  induction items with
  | nil => exact ⟨fun _ _ hitem => absurd hitem List.not_mem_nil, fun _ => rfl⟩
  | cons item rest ih =>
    have hcons : (item :: rest).forM check = (check item >>= fun _ => rest.forM check) := rfl
    rw [hcons, bind_eq_ok_iff, List.forall_mem_cons, ← ih]
    exact ⟨fun ⟨(), hitem, hrest⟩ => ⟨hitem, hrest⟩, fun ⟨hitem, hrest⟩ => ⟨(), hitem, hrest⟩⟩

theorem mapM_eq_ok_iff {step : α → Except ε β} {results : List β} :
    items.mapM step = .ok results ↔ List.Forall₂ (fun item result => step item = .ok result) items results := by
  induction items generalizing results with
  | nil =>
    rw [List.mapM_nil, List.forall₂_nil_left_iff]
    exact ⟨fun h => (Except.ok.inj h).symm, fun h => congrArg Except.ok h.symm⟩
  | cons item rest ih =>
    rw [List.mapM_cons, List.forall₂_cons_left_iff, bind_eq_ok_iff]
    constructor
    · rintro ⟨result, hresult, h⟩
      obtain ⟨others, hothers, h⟩ := bind_eq_ok_iff.mp h
      cases h
      exact ⟨result, others, hresult, ih.mp hothers, rfl⟩
    · rintro ⟨result, others, hresult, hothers, rfl⟩
      exact ⟨result, hresult, bind_eq_ok_iff.mpr ⟨others, ih.mpr hothers, rfl⟩⟩

end fallible
