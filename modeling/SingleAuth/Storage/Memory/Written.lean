import SingleAuth.Storage.Memory.UniqueRuns

open dict fallible singleauth.storage

namespace singleauth.memory

section

variable {ω : Type} {config : Config ω}

/-! ## Columns of a valid schema -/

variable {library : Library} {seen : Dict String} {model : ResolvedModel ω} {data : Assignments} {normalized : Record}

theorem validateFields_registers {model : String} {fields : List (String × FieldAttribute ω)}
    (h : validateFields library model fields seen = .ok ()) :
    seen.Registers (fun entry => entry.2.physical entry.1) Prod.fst fields := by
  induction fields generalizing seen with
  | nil => trivial
  | cons first rest ih =>
    obtain ⟨name, field⟩ := first
    rw [validateFields] at h
    obtain ⟨_, _, _, _, _, hprior, h⟩ := ok_of_bind₃ h
    exact ⟨require_eq_ok_iff.mp hprior, ih h⟩

theorem validateModels_fields {schema : Schema ω} {models : List (String × ModelSchema ω)}
    (h : schema.validateModels library models seen = .ok ()) {entry : String × ModelSchema ω}
    (hentry : entry ∈ models) :
    validateFields library entry.1 entry.2.fields.entries (Dict.ofEntries [("id", "id")]) = .ok () := by
  induction models generalizing seen with
  | nil => cases hentry
  | cons first rest ih =>
    rw [Schema.validateModels] at h
    obtain ⟨_, _, _, _, _, hfields, h⟩ := ok_of_bind₃ h
    rcases List.mem_cons.mp hentry with rfl | hrest
    · exact hfields
    · exact ih h hrest

variable {name : String} {world : ω}

/-- The fields of a model have columns of their own, apart from that of the id. -/
theorem fields_registers (h : resolveModel config name = .ok model) :
    (Dict.ofEntries [("id", "id")]).Registers (fun entry : String × FieldAttribute ω => entry.2.physical entry.1)
      Prod.fst model.schema.fields.entries := by
  obtain ⟨entry, hentry, _, hfields⟩ := resolveModel_ok h
  have hvalid := config.valid
  rw [Schema.validate] at hvalid
  obtain ⟨_, hmodels, _⟩ := bind_eq_ok_iff.mp hvalid
  rw [hfields]
  exact validateFields_registers (validateModels_fields hmodels hentry)

theorem column_injective (h : resolveModel config name = .ok model)
    {left right : String × FieldAttribute ω} (hleft : left ∈ model.schema.fields.entries)
    (hright : right ∈ model.schema.fields.entries)
    (hcolumn : left.2.physical left.1 = right.2.physical right.1) : left = right := by
  have hname : left.1 = right.1 := (fields_registers h).injective hleft hright hcolumn
  have hboth : some left.2 = some right.2 := by
    rw [← Dict.get?_eq_some_iff.mpr hleft, hname, Dict.get?_eq_some_iff.mpr hright]
  exact Prod.ext hname (Option.some.inj hboth)

/-! ## What an update writes -/

/-- A name of the data is one of a field: its own, its column or, for the id, an alias. -/
def namesField (config : Config ω) (model : ResolvedModel ω) (canonical name : String) : Bool :=
  match resolveField config model name with
  | .ok field => field.canonical = canonical
  | .error _ => false

/-- The value that the data has for a field. The last one visited counts. -/
def named (config : Config ω) (model : ResolvedModel ω) (data : Assignments) (canonical : String) : Option Value :=
  data.foldl (fun found (name, value) => if namesField config model canonical name then some value else found) none

theorem normalizeInput_get? (h : normalizeInput config model data = .ok normalized) (canonical : String) :
    normalized.get? canonical = named config model data canonical := by
  have hempty : (none : Option Value) = (Dict.empty : Record).get? canonical := rfl
  rw [normalizeInput] at h
  rw [named, hempty]
  generalize (Dict.empty : Record) = start at h ⊢
  induction data generalizing start with
  | nil =>
    cases h
    rfl
  | cons first rest ih =>
    rw [List.foldlM_cons] at h
    obtain ⟨next, hnext, h⟩ := bind_eq_ok_iff.mp h
    rw [List.foldl_cons, ih next h]
    congr 1
    cases hfield : resolveField config model first.1 with
    | ok field =>
      simp only [hfield] at hnext
      cases hnext
      simp only [namesField, hfield, Dict.get?_set, decide_eq_true_eq, @eq_comm _ canonical]
    | error failure =>
      simp only [hfield] at hnext
      split at hnext
      · cases hnext
        simp [namesField, hfield]
      · cases hnext

/-- The value that goes into the column of a field, if any. -/
def storedValue (config : Config ω) (model : ResolvedModel ω) (world : ω) (create : Bool) (normalized : Record)
    (entry : String × FieldAttribute ω) : Except StorageError (Option Value) := do
  match ← suppliedValue model world create entry.1 entry.2 (normalized.get? entry.1) with
  | none => .ok none
  | some value =>
    ((encodeValue config.library config.capabilities world (normalizeField entry.1 entry.2) value).mapError
      (·.under ("memory: encode " ++ model.canonical ++ "." ++ entry.1))).map some

theorem encodeNormalized_eq (model : ResolvedModel ω) (world : ω) (normalized : Record) (create : Bool) :
    encodeNormalized config model world normalized create =
      model.schema.fields.entries.foldlM (Dict.setSomeM (fun entry => entry.2.physical entry.1)
        (storedValue config model world create normalized))
        (match normalized.get? "id" with
          | some id => Dict.empty.set "id" id
          | none => .empty) := by
  unfold encodeNormalized
  dsimp only
  congr 1
  funext encoded entry
  rw [Dict.setSomeM, storedValue]
  cases suppliedValue model world create entry.1 entry.2 (normalized.get? entry.1) with
  | error failure => rfl
  | ok supplied =>
    cases supplied with
    | none => rfl
    | some value =>
      simp only [bind, Except.bind]
      cases encodeValue config.library config.capabilities world (normalizeField entry.1 entry.2) value with
      | error failure => rfl
      | ok stored => rfl

/-- What an update with some data writes into a column: a value for the column's
field that the data has under a name of it or that the schema supplies, or an
id under one of its names. -/
inductive Written (config : Config ω) (model : ResolvedModel ω) (world : ω) (data : Assignments) (column : String)
    (value : Value) : Prop where
  | field {canonical attributes supplied} : (canonical, attributes) ∈ model.schema.fields.entries →
      attributes.physical canonical = column →
      suppliedValue model world false canonical attributes (named config model data canonical) = .ok (some supplied) →
      encodeValue config.library config.capabilities world (normalizeField canonical attributes) supplied = .ok value →
      Written config model world data column value
  | id : column = "id" → (∀ entry ∈ model.schema.fields.entries, entry.2.physical entry.1 ≠ "id") →
      named config model data "id" = some value → Written config model world data column value

theorem storedValue_eq_some_iff {create : Bool} {entry : String × FieldAttribute ω} {value : Value} :
    storedValue config model world create normalized entry = .ok (some value) ↔
      ∃ supplied, suppliedValue model world create entry.1 entry.2 (normalized.get? entry.1) = .ok (some supplied) ∧
        encodeValue config.library config.capabilities world (normalizeField entry.1 entry.2) supplied = .ok value := by
  rw [storedValue, bind_eq_ok_iff]
  constructor
  · rintro ⟨supplied, hsupplied, h⟩
    cases supplied with
    | none => cases h
    | some supplied =>
      obtain ⟨stored, hstored, heq⟩ := map_eq_ok_iff.mp h
      cases heq
      exact ⟨supplied, hsupplied, mapError_eq_ok_iff.mp hstored⟩
  · rintro ⟨supplied, hsupplied, hencoded⟩
    exact ⟨some supplied, hsupplied, map_eq_ok_iff.mpr ⟨value, mapError_eq_ok_iff.mpr hencoded, rfl⟩⟩

theorem suppliedValue_given {canonical : String} {attributes : FieldAttribute ω} (given : Value) :
    suppliedValue model world false canonical attributes (some given) = .ok (some given) := by
  unfold suppliedValue
  cases given <;> rfl

theorem encodeUpdate_get?_iff (hmodel : resolveModel config name = .ok model) {encoded : Record}
    (h : encodeUpdate config model world data = .ok encoded)
    (column : String) (value : Value) :
    encoded.get? column = some value ↔ Written config model world data column value := by
  obtain ⟨normalized, hnormalized, h⟩ := bind_eq_ok_iff.mp h
  have hnamed := normalizeInput_get? hnormalized
  rw [encodeNormalized_eq] at h
  have hdistinct : ∀ left ∈ model.schema.fields.entries, ∀ right ∈ model.schema.fields.entries,
      left.2.physical left.1 = right.2.physical right.1 → left = right :=
    fun left hleft right hright hcolumn => column_injective hmodel hleft hright hcolumn
  rw [Dict.foldlM_setSomeM_get?_iff hdistinct h]
  constructor
  · rintro (⟨entry, hentry, hcolumn, hstored⟩ | ⟨hfields, hid⟩)
    · obtain ⟨supplied, hsupplied, hencoded⟩ := storedValue_eq_some_iff.mp hstored
      rw [hnamed] at hsupplied
      exact .field hentry hcolumn hsupplied hencoded
    cases hgiven : normalized.get? "id" with
    | none =>
      rw [hgiven] at hid
      cases hid
    | some id =>
      rw [hgiven] at hid
      simp only [Dict.get?_set] at hid
      split at hid
      · next hcolumn =>
        cases hid
        refine .id hcolumn (fun entry hentry hown => ?_) ((hnamed "id").symm.trans hgiven)
        -- a field with the column of the id is the id, and the data has it
        have hcanonical : "id" = entry.1 := (fields_registers hmodel).prior hentry (by simp [hown, Dict.ofEntries,
          Dict.setAll, Dict.get?_set])
        have hnone := hfields entry hentry (hown.trans hcolumn.symm)
        rw [storedValue, ← hcanonical, hgiven, suppliedValue_given] at hnone
        obtain ⟨_, _, heq⟩ := map_eq_ok_iff.mp hnone
        cases heq
      · cases hid
  · rintro (⟨hentry, hcolumn, hsupplied, hencoded⟩ | ⟨rfl, hown, hgiven⟩)
    · rw [← hnamed] at hsupplied
      exact .inl ⟨_, hentry, hcolumn, storedValue_eq_some_iff.mpr ⟨_, hsupplied, hencoded⟩⟩
    rw [← hnamed] at hgiven
    refine .inr ⟨fun entry hentry hcolumn => absurd hcolumn (hown entry hentry), ?_⟩
    rw [hgiven]
    exact Dict.get?_set_self ..

end

end singleauth.memory
