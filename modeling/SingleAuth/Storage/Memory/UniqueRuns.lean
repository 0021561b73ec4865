import SingleAuth.Lib.Columns
import SingleAuth.Lib.Transition
import SingleAuth.Storage.Memory.Transaction

open dict fallible ieee singleauth.storage table transition

namespace singleauth.memory

section

variable {ω : Type} {config : Config ω}

/-! ## Tables of a valid schema -/

theorem validateModels_registers {library : Library} {schema : Schema ω} {models : List (String × ModelSchema ω)}
    {seen : Dict String} (h : schema.validateModels library models seen = .ok ()) :
    seen.Registers (fun entry => schema.tableName entry.1 entry.2) Prod.fst models := by
  induction models generalizing seen with
  | nil => trivial
  | cons first rest ih =>
    rw [Schema.validateModels] at h
    obtain ⟨_, _, _, hprior, _, _, h⟩ := ok_of_bind₃ h
    exact ⟨require_eq_ok_iff.mp hprior, ih h⟩

/-- A table belongs to one model only. -/
theorem tableName_injective (config : Config ω) {left right : String × ModelSchema ω}
    (hleft : left ∈ config.schema.models.entries) (hright : right ∈ config.schema.models.entries)
    (h : config.schema.tableName left.1 left.2 = config.schema.tableName right.1 right.2) : left = right := by
  have hvalid := config.valid
  rw [Schema.validate] at hvalid
  obtain ⟨_, hmodels, _⟩ := bind_eq_ok_iff.mp hvalid
  have hname : left.1 = right.1 := (validateModels_registers hmodels).injective hleft hright h
  have hboth : some left.2 = some right.2 := by
    rw [← Dict.get?_eq_some_iff.mpr hleft, hname, Dict.get?_eq_some_iff.mpr hright]
  exact Prod.ext hname (Option.some.inj hboth)

variable {model : ResolvedModel ω} {name : String} {fields : List String} {rows : List Record} {call : Call ω}

/-- A resolved model is one of the schema, with the table of that model. -/
theorem resolveModel_ok (h : resolveModel config name = .ok model) :
    ∃ entry ∈ config.schema.models.entries, model.physical = config.schema.tableName entry.1 entry.2 ∧
      model.schema.fields = entry.2.fields := by
  rw [resolveModel] at h
  obtain ⟨⟨table, canonical⟩, hresolved, h⟩ := bind_eq_ok_iff.mp h
  cases h
  unfold Schema.resolveModel at hresolved
  split at hresolved
  · next found hfound =>
    cases hresolved
    exact ⟨_, Dict.get?_eq_some_iff.mp hfound, rfl, rfl⟩
  dsimp only at hresolved
  generalize (if config.schema.usePlural = true then _ else _) = lookup at hresolved
  split at hresolved
  · next canonical found hfound =>
    cases hresolved
    exact ⟨_, List.mem_of_find?_eq_some hfound, rfl, rfl⟩
  · cases hresolved

/-! ## Duplicates -/

/-- No two rows of a table hold equal non-null values in `id` or in a unique field. -/
def UniqueTables (config : Config ω) (tables : Tables) : Prop :=
  ∀ entry ∈ config.schema.models.entries,
    UniqueRows (uniqueFields entry.2) ((tables.get? (config.schema.tableName entry.1 entry.2)).getD [])

theorem UniqueRows.sublist {kept : List Record} (h : UniqueRows fields rows)
    (hkept : kept.Sublist rows) : UniqueRows fields kept :=
  fun field hfield => (h field hfield).sublist hkept

variable {tables : Tables} {clauses : List Clause}

/-- An action that brings no duplicates into the rows of its model brings none into
the tables. -/
theorem onTable_unique
    {act : List Record → List Record × Except StorageError Outcome} (h : UniqueTables config tables)
    (hmodel : resolveModel config name = .ok model)
    (hact : ∀ rows, tables.get? model.physical = some rows → UniqueRows (uniqueFields model.schema) rows →
      UniqueRows (uniqueFields model.schema) (act rows).1) :
    UniqueTables config (onTable config.library tables model.physical act).1 := by
  unfold onTable
  split
  · exact h
  rename_i rows hrows
  intro entry hentry
  obtain ⟨own, hown, hphysical, hfields⟩ := resolveModel_ok hmodel
  have hunique : uniqueFields model.schema = uniqueFields own.2 := by rw [uniqueFields, uniqueFields, hfields]
  by_cases hsame : config.schema.tableName entry.1 entry.2 = model.physical
  · have heq : entry = own := tableName_injective config hentry hown (hsame.trans hphysical)
    have hbefore := h entry hentry
    rw [hsame, hrows, heq, ← hunique] at hbefore
    rw [hsame, Dict.get?_set_self, heq, ← hunique]
    exact hact rows hrows hbefore
  · rw [Dict.get?_set_of_ne _ _ hsame]
    exact h entry hentry

theorem createRow_unique {encoded : Record} {select : List String} (h : UniqueRows (uniqueFields model.schema) rows) :
    UniqueRows (uniqueFields model.schema) (createRow config call model encoded select rows).1 := by
  unfold createRow
  split
  · exact h
  · next hvalid => exact validateUniqueRows_ok_iff.mp hvalid

theorem updateRows_unique {update : Record}
    {finish : List (Record × Bool) → Except StorageError Outcome} (h : UniqueRows (uniqueFields model.schema) rows) :
    UniqueRows (uniqueFields model.schema) (updateRows config model clauses update finish rows).1 := by
  unfold updateRows
  split
  · exact h
  · split
    · exact h
    · next hvalid => exact validateUniqueRows_ok_iff.mp hvalid

theorem deleteMatching_unique {finish : Nat → Outcome} (h : UniqueRows fields rows) :
    UniqueRows fields (deleteMatching config clauses finish rows).1 := by
  unfold deleteMatching
  split
  · exact h
  rename_i marked hmarked
  refine h.sublist ?_
  have hrows := map_fst_filterRows hmarked
  exact hrows ▸ List.filter_sublist.map Prod.fst

theorem consumeFirst_unique (h : UniqueRows fields rows) :
    UniqueRows fields (consumeFirst config call model clauses rows).1 := by
  unfold consumeFirst
  split
  · exact h
  · exact h
  rename_i before target behind hfound
  refine h.sublist ?_
  rw [findFirst_eq hfound]
  exact (List.sublist_cons_self target behind).append_left before

/-! ## Increments -/

/-- The value that an increment writes into a field: the one to set, or else the sum. -/
def writtenValue (library : Library) (increments : Dict (Number binary64)) (set target : Record) (field : String) :
    Option Value :=
  (set.get? field).or ((increments.get? field).bind fun delta => (incrementedValue library target field delta).toOption)

/-- The increment writes no value into `id` or a unique field that another row of
the table holds there. -/
def SafeIncrement (config : Config ω) (call : Call ω) (tables : Tables) (name : String) (clauses : List Where)
    (increment : List (String × Number binary64)) (set : Assignments) : Prop :=
  ∀ model encoded increments assigned,
    prepareIncrement config call name clauses increment set = .ok (model, encoded, increments, assigned) →
    ∀ rows before target behind, tables.get? model.physical = some rows →
      findFirst config.library encoded rows = .ok (some (before, target, behind)) →
      ∀ field ∈ uniqueFields model.schema, ∀ value, writtenValue config.library increments assigned target field = some value →
        ∀ other ∈ before ++ behind, ∀ y ∈ heldValue field other, value.deepEqual y = false

theorem heldValue_eq_some_iff {field : String} {row : Record} {value : Value} :
    heldValue field row = some value ↔ row.get? field = some value ∧ value ≠ .null := by
  unfold heldValue
  split
  · next h => simp [h, eq_comm]
  rename_i h
  refine ⟨fun hfound => ⟨hfound, ?_⟩, fun hfound => hfound.1⟩
  rintro rfl
  exact h hfound

/-- A field of an incremented row: what was written into it, or what it held. -/
theorem get?_written (library : Library) (increments : Dict (Number binary64)) (set target : Record) (field : String) :
    (assign set (incrementFields library increments.entries target).1).get? field =
      (writtenValue library increments set target field).or (target.get? field) := by
  rw [get?_assign, get?_incrementFields, writtenValue, Option.or_assoc]
  cases increments.get? field with
  | none => rfl
  | some delta =>
    obtain ⟨value, hvalue⟩ := incrementedValue_ok library target field delta
    simp [hvalue, Except.toOption]

theorem incrementFirst_unique {increments : Dict (Number binary64)} {set : Record}
    (h : UniqueRows (uniqueFields model.schema) rows)
    (hsafe : ∀ before target behind, findFirst config.library clauses rows = .ok (some (before, target, behind)) →
      ∀ field ∈ uniqueFields model.schema, ∀ value, writtenValue config.library increments set target field = some value →
        ∀ other ∈ before ++ behind, ∀ y ∈ heldValue field other, value.deepEqual y = false) :
    UniqueRows (uniqueFields model.schema) (incrementFirst config call model clauses increments set rows).1 := by
  unfold incrementFirst
  split
  · exact h
  · exact h
  rename_i before target behind hfound
  split
  · next failure hfields =>
    have hok := incrementFields_ok config.library increments.entries target
    rw [hfields] at hok
    cases hok
  rename_i incremented hfields
  rw [findFirst_eq hfound] at h
  intro field hfield
  refine (h field hfield).replace Value.deepEqual_comm fun value hvalue => ?_
  obtain ⟨hget, hnull⟩ := heldValue_eq_some_iff.mp hvalue
  have hincremented : incremented = (incrementFields config.library increments.entries target).1 := by rw [hfields]
  rw [hincremented, get?_written] at hget
  cases hwritten : writtenValue config.library increments set target field with
  | some written =>
    rw [hwritten, Option.some_or, Option.some.injEq] at hget
    exact .inr (hsafe before target behind hfound field hfield value (hget ▸ hwritten))
  | none =>
    rw [hwritten, Option.none_or] at hget
    exact .inl (heldValue_eq_some_iff.mpr ⟨hget, hnull⟩)

/-- A call that is no increment, or a safe one. -/
def SafeCall (config : Config ω) (call : Call ω) (tables : Tables) : Operation → Prop
  | .incrementOne name clauses increment set => SafeIncrement config call tables name clauses increment set
  | _ => True

/-- Every call keeps the tables without duplicates, an increment if it is safe. -/
theorem perform_unique {operation : Operation} (h : UniqueTables config tables)
    (hsafe : SafeCall config call tables operation) :
    UniqueTables config (perform config call tables operation).1 := by
  cases operation with
  | create name data select forceAllowID =>
    simp only [perform, create]
    split
    · exact h
    · next model encoded hprepared => exact onTable_unique h (prepareCreate_ok hprepared) fun _ _ => createRow_unique
  | update name clauses data =>
    simp only [perform, update]
    split
    · exact h
    · exact h
    · next model encoded assigned hprepared =>
      exact onTable_unique h (prepareUpdate_ok hprepared) fun _ _ => updateRows_unique
  | updateMany name clauses data =>
    simp only [perform, updateMany]
    split
    · exact h
    · next model encoded assigned hprepared =>
      exact onTable_unique h (prepareUpdateMany_ok hprepared) fun _ _ => updateRows_unique
  | delete name clauses =>
    simp only [perform, delete]
    split
    · exact h
    rename_i model encoded hprepared
    split
    · exact h
    · exact onTable_unique h (prepareQuery_ok hprepared) fun _ _ => deleteMatching_unique
  | deleteMany name clauses =>
    simp only [perform, deleteMany]
    split
    · exact h
    · next model encoded hprepared =>
      exact onTable_unique h (prepareQuery_ok hprepared) fun _ _ => deleteMatching_unique
  | consumeOne name clauses =>
    simp only [perform, consumeOne]
    split
    · exact h
    · next model encoded hprepared =>
      exact onTable_unique h (prepareQuery_ok hprepared) fun _ _ => consumeFirst_unique
  | incrementOne name clauses increment set =>
    simp only [perform, incrementOne]
    split
    · exact h
    rename_i model encoded increments assigned hprepared
    refine onTable_unique h (prepareIncrement_ok hprepared) fun rows hrows hunique => ?_
    exact incrementFirst_unique hunique fun before target behind hfound =>
      hsafe model encoded increments assigned hprepared rows before target behind hrows hfound

/-! ## Runs -/

/-- The condition on an event: a direct call that increments is safe. Calls inside a
transaction need none, since the commit checks for duplicates. -/
def SafeEvent (config : Config ω) (state : AdapterState) : Event ω → Prop
  | .call call operation => SafeCall config call state.live operation
  | _ => True

theorem commit_unique {live base completed : Tables} (h : UniqueTables config live) :
    UniqueTables config (commit config live base completed).1 := by
  simp only [commit]
  split
  · exact h
  · next hvalid =>
    exact fun entry hentry => validateUniqueRows_ok_iff.mp (forM_eq_ok_iff.mp hvalid entry hentry)

theorem step_unique {state : AdapterState} {event : Event ω} (h : UniqueTables config state.live)
    (hsafe : SafeEvent config state event) : UniqueTables config (step config state event).live := by
  cases event with
  | call call operation => exact perform_unique h hsafe
  | start | inside =>
    simp only [step]
    split <;> exact h
  | commit number =>
    simp only [step]
    split
    · exact h
    · exact commit_unique h
  | rollback number => exact h

theorem new_unique (config : Config ω) : UniqueTables config (new config).live := by
  intro entry _
  have hempty : ((new config).live.get? (config.schema.tableName entry.1 entry.2)).getD [] = [] := by
    cases hrows : (new config).live.get? (config.schema.tableName entry.1 entry.2) with
    | none => rfl
    | some rows =>
      rcases Dict.mem_of_mem_setAll _ (Dict.get?_eq_some_iff.mp hrows) with hmem | hmem
      · obtain ⟨_, _, heq⟩ := List.mem_map.mp hmem
        exact (congrArg Prod.snd heq).symm
      · cases hmem
  rw [hempty]
  exact fun _ _ => List.Pairwise.nil

/-- From a new adapter, through direct calls and transactions in any order, no two
rows of a table ever hold equal non-null values in `id` or in a unique field, as
long as no direct increment writes a value there that another row holds. -/
theorem reached_unique {state : AdapterState} (hreached : Reached (step config) (SafeEvent config) (new config) state) :
    ∀ entry ∈ config.schema.models.entries, ∀ field ∈ uniqueFields entry.2,
      Distinct (heldValue field) Value.deepEqual
        ((state.live.get? (config.schema.tableName entry.1 entry.2)).getD []) := by
  have hunique : UniqueTables config state.live :=
    hreached.invariant (fun state => UniqueTables config state.live) (new_unique config) fun _ _ => step_unique
  exact hunique

/-- The increment writes `id` or a unique field. -/
def writesUnique (config : Config ω) (call : Call ω) (name : String) (clauses : List Where)
    (increment : List (String × Number binary64)) (set : Assignments) : Bool :=
  match prepareIncrement config call name clauses increment set with
  | .error _ => false
  | .ok (model, _, increments, assigned) =>
    (uniqueFields model.schema).any fun field => (assigned.get? field).isSome || (increments.get? field).isSome

/-- An increment of other fields is safe in any state. -/
theorem safeIncrement_of_not_writesUnique {clauses : List Where}
    {increment : List (String × Number binary64)} {set : Assignments}
    (h : writesUnique config call name clauses increment set = false) (tables : Tables) :
    SafeIncrement config call tables name clauses increment set := by
  intro model encoded increments assigned hprepared rows before target behind _ _ field hfield value hwritten
  rw [writesUnique, hprepared] at h
  have huntouched := List.any_eq_false.mp h field hfield
  simp only [Bool.or_eq_true, not_or, Bool.not_eq_true, Option.isSome_eq_false_iff, Option.isNone_iff_eq_none]
    at huntouched
  simp [writtenValue, huntouched] at hwritten

end

/-! ## A table of users -/

private def userModel : ModelSchema Unit where
  modelName := "user"
  fields := .ofEntries [("email", { type := .string, unique := true }), ("name", { type := .string })]

private def userSchema : Schema Unit where
  models := .ofEntries [("user", userModel)]
  usePlural := false

private def userConfig : Config Unit where
  library := textLibrary
  schema := userSchema
  valid := by rfl
  capabilities := { json := true, dates := true, booleans := true, arrays := true }
  idGenerator := fun _ _ => .error "no id"

private def createUser (id email : String) : Event Unit :=
  .call { world := () } (.create "user" [("id", .string id), ("email", .string email)] [] true)

private def setField (id field text : String) : Event Unit :=
  .call { world := () } (.incrementOne "user" [{ field := "id", value := .string id }] [] [(field, .string text)])

private def writesNoUnique : Event Unit → Bool
  | .call call (.incrementOne name clauses increment set) =>
    !writesUnique userConfig call name clauses increment set
  | _ => true

/-- Two users and a new name for one of them. -/
theorem reached_unique_name :
    let state := [createUser "1" "a@example.com", createUser "2" "b@example.com", setField "2" "name" "Ada"].foldl
      (step userConfig) (new userConfig)
    ((state.live.get? "user").getD []).length = 2 ∧
      ∀ entry ∈ userConfig.schema.models.entries, ∀ field ∈ uniqueFields entry.2,
        Distinct (heldValue field) Value.deepEqual
          ((state.live.get? (userConfig.schema.tableName entry.1 entry.2)).getD []) := by
  have hcheck : ∀ (state : AdapterState) (event : Event Unit),
      writesNoUnique event = true → SafeEvent userConfig state event := by
    intro state event hevent
    cases event with
    | call call operation =>
      cases operation with
      | incrementOne =>
        exact safeIncrement_of_not_writesUnique (by simpa [writesNoUnique] using hevent) state.live
      | _ => trivial
    | _ => trivial
  refine ⟨by decide, reached_unique (Reached.start.of_admits hcheck ?_)⟩
  decide

private def sameEmail : List (Event Unit) :=
  [createUser "1" "a@example.com", createUser "2" "b@example.com", setField "2" "email" "a@example.com"]

/-- A direct increment may set an email address that another user has. -/
theorem increment_breaks_unique :
    ¬ ∀ (config : Config Unit) (state : AdapterState),
      Reached (step config) (fun _ _ => True) (new config) state →
        ∀ entry ∈ config.schema.models.entries, ∀ field ∈ uniqueFields entry.2,
          Distinct (heldValue field) Value.deepEqual
            ((state.live.get? (config.schema.tableName entry.1 entry.2)).getD []) := by
  intro h
  have hreached : Reached (step userConfig) (fun _ _ => True) (new userConfig)
      (sameEmail.foldl (step userConfig) (new userConfig)) := Reached.start.foldl fun _ _ _ => trivial
  have hdistinct := findDuplicate_eq_none_iff.mpr
    (h userConfig _ hreached ("user", userModel) List.mem_cons_self "email" (by decide))
  have hduplicate : (findDuplicate (heldValue "email") Value.deepEqual
      (((sameEmail.foldl (step userConfig) (new userConfig)).live.get?
        (userConfig.schema.tableName "user" userModel)).getD [])).isSome = true := by
    decide
  rw [hdistinct] at hduplicate
  cases hduplicate

end singleauth.memory
