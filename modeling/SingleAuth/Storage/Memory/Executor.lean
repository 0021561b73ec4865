import SingleAuth.Storage.Memory.Unique

open dict fallible ieee singleauth.storage

namespace singleauth.memory

section

variable {ω : Type}

/-- What a call meets besides its parameters: the world that the functions of the
schema read, and the state of its context when it starts and when it has
written. -/
structure Call (ω : Type) where
  world : ω
  contextError : Option StorageError := none
  contextErrorAfter : Option StorageError := none

inductive Operation where
  | create (model : String) (data : Assignments) (select : List String) (forceAllowID : Bool)
  | update (model : String) (clauses : List Where) (update : Assignments)
  | updateMany (model : String) (clauses : List Where) (update : Assignments)
  | delete (model : String) (clauses : List Where)
  | deleteMany (model : String) (clauses : List Where)
  | consumeOne (model : String) (clauses : List Where)
  | incrementOne (model : String) (clauses : List Where) (increment : List (String × Number binary64))
    (set : Assignments)

inductive Outcome where
  | record (found : Option Record)
  | count (affected : Nat)
  | done

def checkContext (contextError : Option StorageError) : Except StorageError Unit :=
  match contextError with
  | some failure => .error failure
  | none => .ok ()

/-- Each row with the answer of the query. -/
def filterRows (library : Library) (clauses : List Clause) (rows : List Record) :
    Except StorageError (List (Record × Bool)) :=
  rows.mapM fun row => do return (row, ← matchRow library row clauses)

/-- The first row that a query selects, with the rows before and behind it. Rows
behind it are not looked at. -/
def findFirst (library : Library) (clauses : List Clause) :
    List Record → Except StorageError (Option (List Record × Record × List Record))
  | [] => .ok none
  | row :: rest => do
    if ← matchRow library row clauses then return some ([], row, rest)
    else
      let found ← findFirst library clauses rest
      return found.map fun (before, target, behind) => (row :: before, target, behind)

def assign (update row : Record) : Record := row.setAll update.entries

def assignSelected (update : Record) (marked : List (Record × Bool)) : List Record :=
  marked.map fun (row, selected) => if selected then assign update row else row

/-- An action on the rows of a table that exists. It returns the rows that the
table has afterwards. -/
def onTable (library : Library) (tables : Tables) (physical : String)
    (act : List Record → List Record × Except StorageError Outcome) : Tables × Except StorageError Outcome :=
  match tables.get? physical with
  | none => (tables, .error (Sentinel.modelNotFound.error (library.quote physical)))
  | some rows => ((tables.set physical (act rows).1), (act rows).2)

variable (config : Config ω) (call : Call ω)

def decodeOutcome (model : ResolvedModel ω) (found : Option Record) (select : List String) :
    Except StorageError Outcome :=
  match found with
  | none => .ok (.record none)
  | some raw => do
    let decoded ← decodeRecord config model call.world raw select
    return .record (some decoded)

def createRow (model : ResolvedModel ω) (encoded : Record) (select : List String) (rows : List Record) :
    List Record × Except StorageError Outcome :=
  match validateUniqueRows config.library model (rows ++ [encoded]) with
  | .error failure => (rows, .error failure)
  | .ok () =>
    (rows ++ [encoded], do
      checkContext call.contextErrorAfter
      decodeOutcome config call model (some encoded) select)

def prepareCreate (model : String) (data : Assignments) (forceAllowID : Bool) :
    Except StorageError (ResolvedModel ω × Record) := do
  checkContext call.contextError
  let model ← resolveModel config model
  let encoded ← encodeCreate config model call.world data forceAllowID
  return (model, encoded)

def create (tables : Tables) (model : String) (data : Assignments) (select : List String) (forceAllowID : Bool) :
    Tables × Except StorageError Outcome :=
  match prepareCreate config call model data forceAllowID with
  | .error failure => (tables, .error failure)
  | .ok (model, encoded) => onTable config.library tables model.physical (createRow config call model encoded select)

/-- The selected rows are updated if the result has no duplicates. `finish` gives
the result of the call. -/
def updateRows (model : ResolvedModel ω) (clauses : List Clause) (update : Record)
    (finish : List (Record × Bool) → Except StorageError Outcome) (rows : List Record) :
    List Record × Except StorageError Outcome :=
  match filterRows config.library clauses rows with
  | .error failure => (rows, .error failure)
  | .ok marked =>
    match validateUniqueRows config.library model (assignSelected update marked) with
    | .error failure => (rows, .error failure)
    | .ok () => (assignSelected update marked, finish marked)

/-- No update without a clause. -/
def prepareUpdate (model : String) (clauses : List Where) (data : Assignments) :
    Except StorageError (Option (ResolvedModel ω × List Clause × Record)) := do
  checkContext call.contextError
  let model ← resolveModel config model
  let clauses ← encodeWhere config model call.world clauses
  if clauses = [] then return none
  else
    let update ← encodeUpdate config model call.world data
    return some (model, clauses, update)

def firstUpdated (model : ResolvedModel ω) (update : Record) (marked : List (Record × Bool)) :
    Except StorageError Outcome :=
  let first := marked.find? fun (_, selected) => selected
  decodeOutcome config call model (first.map fun (row, _) => assign update row) []

/-- Without a clause nothing is updated: only `updateMany` is meant for all rows. -/
def update (tables : Tables) (model : String) (clauses : List Where) (data : Assignments) :
    Tables × Except StorageError Outcome :=
  match prepareUpdate config call model clauses data with
  | .error failure => (tables, .error failure)
  | .ok none => (tables, .ok (.record none))
  | .ok (some (model, clauses, update)) =>
    onTable config.library tables model.physical
      (updateRows config model clauses update (firstUpdated config call model update))

def prepareUpdateMany (model : String) (clauses : List Where) (data : Assignments) :
    Except StorageError (ResolvedModel ω × List Clause × Record) := do
  checkContext call.contextError
  let model ← resolveModel config model
  let clauses ← encodeWhere config model call.world clauses
  let update ← encodeUpdate config model call.world data
  return (model, clauses, update)

def updateMany (tables : Tables) (model : String) (clauses : List Where) (data : Assignments) :
    Tables × Except StorageError Outcome :=
  match prepareUpdateMany config call model clauses data with
  | .error failure => (tables, .error failure)
  | .ok (model, clauses, update) =>
    onTable config.library tables model.physical (updateRows config model clauses update fun marked =>
      .ok (.count (marked.filter fun (_, selected) => selected).length))

def deleteMatching (clauses : List Clause) (finish : Nat → Outcome) (rows : List Record) :
    List Record × Except StorageError Outcome :=
  match filterRows config.library clauses rows with
  | .error failure => (rows, .error failure)
  | .ok marked =>
    ((marked.filter fun (_, selected) => !selected).map Prod.fst,
      .ok (finish (marked.filter fun (_, selected) => selected).length))

def prepareQuery (model : String) (clauses : List Where) : Except StorageError (ResolvedModel ω × List Clause) := do
  checkContext call.contextError
  let model ← resolveModel config model
  let clauses ← encodeWhere config model call.world clauses
  return (model, clauses)

/-- Without a clause nothing is deleted. -/
def delete (tables : Tables) (model : String) (clauses : List Where) : Tables × Except StorageError Outcome :=
  match prepareQuery config call model clauses with
  | .error failure => (tables, .error failure)
  | .ok (model, clauses) =>
    if clauses = [] then (tables, .ok .done)
    else onTable config.library tables model.physical (deleteMatching config clauses fun _ => .done)

def deleteMany (tables : Tables) (model : String) (clauses : List Where) : Tables × Except StorageError Outcome :=
  match prepareQuery config call model clauses with
  | .error failure => (tables, .error failure)
  | .ok (model, clauses) => onTable config.library tables model.physical (deleteMatching config clauses .count)

def consumeFirst (model : ResolvedModel ω) (clauses : List Clause) (rows : List Record) :
    List Record × Except StorageError Outcome :=
  match findFirst config.library clauses rows with
  | .error failure => (rows, .error failure)
  | .ok none => (rows, .ok (.record none))
  | .ok (some (before, target, behind)) => (before ++ behind, decodeOutcome config call model (some target) [])

def consumeOne (tables : Tables) (model : String) (clauses : List Where) : Tables × Except StorageError Outcome :=
  match prepareQuery config call model clauses with
  | .error failure => (tables, .error failure)
  | .ok (model, clauses) => onTable config.library tables model.physical (consumeFirst config call model clauses)

/-- The value of a field plus a number. A value that is no number counts as null. -/
def incrementedValue (library : Library) (row : Record) (field : String) (delta : Number binary64) :
    Except StorageError Value :=
  let current := (row.get? field).getD .null
  addNumeric library (if (numericValue library current).isSome then current else .null) delta

/-- The increments are written one after the other: those before an error stay. -/
def incrementFields (library : Library) : List (String × Number binary64) → Record → Record × Except StorageError Unit
  | [], row => (row, .ok ())
  | (field, delta) :: rest, row =>
    match incrementedValue library row field delta with
    | .error failure => (row, .error failure)
    | .ok next => incrementFields library rest (row.set field next)

def resolveIncrements (model : ResolvedModel ω) (increment : List (String × Number binary64)) :
    Except StorageError (Dict (Number binary64)) :=
  increment.foldlM (fun increments (name, delta) => do
    let field ← resolveField config model name
    return increments.set field.physical delta) .empty

def incrementFirst (model : ResolvedModel ω) (clauses : List Clause) (increments : Dict (Number binary64))
    (set : Record) (rows : List Record) : List Record × Except StorageError Outcome :=
  match findFirst config.library clauses rows with
  | .error failure => (rows, .error failure)
  | .ok none => (rows, .ok (.record none))
  | .ok (some (before, target, behind)) =>
    match incrementFields config.library increments.entries target with
    | (incremented, .error failure) => (before ++ incremented :: behind, .error failure)
    | (incremented, .ok ()) =>
      let updated := assign set incremented
      (before ++ updated :: behind, decodeOutcome config call model (some updated) [])

def prepareIncrement (model : String) (clauses : List Where) (increment : List (String × Number binary64))
    (set : Assignments) :
    Except StorageError (ResolvedModel ω × List Clause × Dict (Number binary64) × Record) := do
  require (increment ≠ [] ∨ set ≠ []) (Sentinel.invalidIncrement.error "increment and set are both empty")
  checkContext call.contextError
  let model ← resolveModel config model
  let clauses ← encodeWhere config model call.world clauses
  let increments ← resolveIncrements config model increment
  let set ← (if set = [] then .ok .empty else encodeUpdate config model call.world set)
  require (increments.entries ≠ [] ∨ set.entries ≠ [])
    (Sentinel.invalidIncrement.error "all assignments transformed away")
  return (model, clauses, increments, set)

/-- The first row of the query gets its increments and then the values to set,
without a check for duplicates. -/
def incrementOne (tables : Tables) (model : String) (clauses : List Where) (increment : List (String × Number binary64))
    (set : Assignments) : Tables × Except StorageError Outcome :=
  match prepareIncrement config call model clauses increment set with
  | .error failure => (tables, .error failure)
  | .ok (model, clauses, increments, set) =>
    onTable config.library tables model.physical (incrementFirst config call model clauses increments set)

def perform (tables : Tables) : Operation → Tables × Except StorageError Outcome
  | .create model data select forceAllowID => create config call tables model data select forceAllowID
  | .update model clauses data => update config call tables model clauses data
  | .updateMany model clauses data => updateMany config call tables model clauses data
  | .delete model clauses => delete config call tables model clauses
  | .deleteMany model clauses => deleteMany config call tables model clauses
  | .consumeOne model clauses => consumeOne config call tables model clauses
  | .incrementOne model clauses increment set => incrementOne config call tables model clauses increment set

end

/-! ## Rows and queries -/

variable {clauses : List Clause} {library : Library} {rows : List Record}

theorem map_fst_filterRows {marked : List (Record × Bool)} (h : filterRows library clauses rows = .ok marked) :
    marked.map Prod.fst = rows := by
  induction rows generalizing marked with
  | nil =>
    cases h
    rfl
  | cons row rest ih =>
    have hcons : filterRows library clauses (row :: rest) =
        ((do return (row, ← matchRow library row clauses)) >>= fun first =>
          filterRows library clauses rest >>= fun others => pure (first :: others)) := by
      simp [filterRows, List.mapM_cons]
    rw [hcons] at h
    obtain ⟨first, hfirst, others, hothers, h⟩ := ok_of_bind₂ h
    obtain ⟨selected, _, hfirst⟩ := bind_eq_ok_iff.mp hfirst
    cases h
    cases hfirst
    simp [ih hothers]

theorem findFirst_eq {before behind : List Record} {target : Record}
    (h : findFirst library clauses rows = .ok (some (before, target, behind))) : rows = before ++ target :: behind := by
  induction rows generalizing before with
  | nil => cases h
  | cons row rest ih =>
    rw [findFirst] at h
    obtain ⟨selected, _, h⟩ := bind_eq_ok_iff.mp h
    split at h
    · cases h
      rfl
    obtain ⟨found, hfound, h⟩ := bind_eq_ok_iff.mp h
    simp only [pure, Except.pure, Except.ok.injEq, Option.map_eq_some_iff] at h
    obtain ⟨⟨before, target, behind⟩, rfl, heq⟩ := h
    cases heq
    simp [ih hfound]

/-- An increment of a number, or of null, does not fail. -/
theorem incrementedValue_ok (library : Library) (row : Record) (field : String) (delta : Number binary64) :
    ∃ value, incrementedValue library row field delta = .ok value := by
  simp only [incrementedValue]
  generalize (row.get? field).getD .null = current
  cases current with
  | int kind value =>
    simp only [numericValue, Option.isSome_some, if_true, addNumeric]
    split <;> exact ⟨_, rfl⟩
  | _ => simp [numericValue, addNumeric]

theorem incrementFields_ok (library : Library) (increments : List (String × Number binary64)) (row : Record) :
    (incrementFields library increments row).2 = .ok () := by
  induction increments generalizing row with
  | nil => rfl
  | cons first rest ih =>
    obtain ⟨value, hvalue⟩ := incrementedValue_ok library row first.1 first.2
    simp only [incrementFields, hvalue]
    exact ih _

/-- Each field of the row is incremented once. -/
theorem get?_incrementFields (library : Library) (increments : Dict (Number binary64)) (row : Record) (field : String) :
    (incrementFields library increments.entries row).1.get? field =
      match increments.get? field with
      | none => row.get? field
      | some delta => (incrementedValue library row field delta).toOption := by
  have hentries : ∀ (entries : List (String × Number binary64)), Ascending entries → ∀ row : Record,
      (incrementFields library entries row).1.get? field =
        match entries.lookup field with
        | none => row.get? field
        | some delta => (incrementedValue library row field delta).toOption := by
    intro entries hsorted
    induction entries with
    | nil => exact fun _ => rfl
    | cons first rest ih =>
      intro row
      obtain ⟨hhead, htail⟩ := List.pairwise_cons.mp hsorted
      obtain ⟨value, hvalue⟩ := incrementedValue_ok library row first.1 first.2
      simp only [incrementFields, hvalue]
      rw [ih htail, List.lookup_cons]
      by_cases hfield : field = first.1
      · subst hfield
        have habsent : rest.lookup first.1 = none := by
          rw [List.lookup_eq_none_iff]
          intro entry hentry
          simpa using (hhead entry hentry).ne
        rw [habsent, Dict.get?_set_self]
        simp [hvalue, Except.toOption]
      have hne : (field == first.1) = false := by simpa using hfield
      rw [hne]
      cases rest.lookup field with
      | none => simp [Dict.get?_set_of_ne row value hfield]
      | some delta => simp [incrementedValue, Dict.get?_set_of_ne row value hfield]
  exact hentries increments.entries increments.ascending row

/-- The fields of an update, and the row's own where it has none. -/
theorem get?_assign (update row : Record) (field : String) :
    (assign update row).get? field = (update.get? field).or (row.get? field) :=
  Dict.get?_setAll_entries row update field

/-! ## Preparation -/

section

variable {ω : Type} {config : Config ω} {call : Call ω}
  {data : Assignments} {model : ResolvedModel ω} {name : String} {clauses : List Where}

theorem prepareCreate_ok {forceAllowID : Bool}
    {encoded : Record} (h : prepareCreate config call name data forceAllowID = .ok (model, encoded)) :
    resolveModel config name = .ok model := by
  obtain ⟨_, _, _, hmodel, _, _, h⟩ := ok_of_bind₃ h
  cases h
  exact hmodel

variable {encoded : List Clause} {update : Record}

theorem prepareUpdate_ok
    (h : prepareUpdate config call name clauses data = .ok (some (model, encoded, update))) :
    resolveModel config name = .ok model := by
  obtain ⟨_, _, _, hmodel, _, _, h⟩ := ok_of_bind₃ h
  split at h
  · cases h
  · obtain ⟨_, _, h⟩ := bind_eq_ok_iff.mp h
    cases h
    exact hmodel

theorem prepareUpdateMany_ok
    (h : prepareUpdateMany config call name clauses data = .ok (model, encoded, update)) :
    resolveModel config name = .ok model := by
  obtain ⟨_, _, _, hmodel, h⟩ := ok_of_bind₂ h
  iterate 2 obtain ⟨_, _, h⟩ := bind_eq_ok_iff.mp h
  cases h
  exact hmodel

theorem prepareQuery_ok (h : prepareQuery config call name clauses = .ok (model, encoded)) :
    resolveModel config name = .ok model := by
  obtain ⟨_, _, _, hmodel, _, _, h⟩ := ok_of_bind₃ h
  cases h
  exact hmodel

theorem prepareIncrement_ok {increment : List (String × Number binary64)} {set : Assignments}
    {increments : Dict (Number binary64)} {assigned : Record}
    (h : prepareIncrement config call name clauses increment set = .ok (model, encoded, increments, assigned)) :
    resolveModel config name = .ok model := by
  obtain ⟨_, _, _, _, _, hmodel, h⟩ := ok_of_bind₃ h
  iterate 4 obtain ⟨_, _, h⟩ := bind_eq_ok_iff.mp h
  cases h
  exact hmodel

end

end singleauth.memory
