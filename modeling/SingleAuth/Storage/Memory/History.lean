import SingleAuth.Lib.History
import SingleAuth.Storage.Memory.ThreeWay

open dict fallible history ieee merge singleauth.storage

namespace singleauth.memory

structure RowKey where
  (table identity : String)
  deriving DecidableEq

def rowOf (library : Library) (tables : Tables) (key : RowKey) : Option Record :=
  lookup (rowIdentity library) ((tables.get? key.table).getD []) key.identity

/-- No two rows of a table have the same identity. -/
def KeyedTables (library : Library) (tables : Tables) : Prop :=
  ∀ name rows, tables.get? name = some rows → Keyed (rowIdentity library) rows

/-- The value of a field; a row or a field that is missing counts as null. -/
def fieldValue (row : Option Record) (field : String) : Value := (row.bind (·.get? field)).getD .null

/-- A value with a number added as an increment does it. -/
def plus (library : Library) (value : Value) (delta : Number binary64) : Value :=
  match addNumeric library (if (numericValue library value).isSome then value else .null) delta with
  | .ok sum => sum
  | .error _ => value

section

variable {ω : Type}

/-- A call that was made, with the tables that it ran on. -/
structure Action (ω : Type) where
  tables : Tables
  call : Call ω
  operation : Operation

/-- The row that an increment was made on, the numbers to add and the values to set. -/
structure Increment where
  key : RowKey
  target : Record
  increments : Dict (Number binary64)
  set : Record

def Increment.updated (library : Library) (increment : Increment) : Record :=
  assign increment.set (incrementFields library increment.increments.entries increment.target).1

variable (config : Config ω)

def queriedRow (tables : Tables) (model : ResolvedModel ω) (clauses : List Clause) : Option Record :=
  match findFirst config.library clauses ((tables.get? model.physical).getD []) with
  | .ok (some (_, target, _)) => some target
  | _ => none

def Action.before (key : RowKey) (action : Action ω) : Option Record := rowOf config.library action.tables key

def Action.after (key : RowKey) (action : Action ω) : Option Record :=
  rowOf config.library (perform config action.call action.tables action.operation).1 key

def Action.consumed (action : Action ω) : Option RowKey :=
  match action.operation with
  | .consumeOne name clauses => do
    let (model, encoded) ← (prepareQuery config action.call name clauses).toOption
    let target ← queriedRow config action.tables model encoded
    return { table := model.physical, identity := rowIdentity config.library target }
  | _ => none

def Action.incremented (action : Action ω) : Option Increment :=
  match action.operation with
  | .incrementOne name clauses increment set => do
    let (model, encoded, increments, assigned) ← (prepareIncrement config action.call name clauses increment set).toOption
    let target ← queriedRow config action.tables model encoded
    let key := { table := model.physical, identity := rowIdentity config.library target }
    return { key, target, increments, set := assigned }
  | _ => none

/-- What the call added to a field of a row, if it left the row its identity and did
not set the field as well. -/
def Action.delta (key : RowKey) (field : String) (action : Action ω) : Option (Number binary64) := do
  let increment ← action.incremented config
  if increment.key = key ∧ rowIdentity config.library (increment.updated config.library) = key.identity ∧
      (increment.set.get? field).isNone then
    increment.increments.get? field
  else none

/-- The call changed or incremented the row. -/
def Action.Touches (key : RowKey) (action : Action ω) : Prop :=
  action.after config key ≠ action.before config key ∨ ∃ increment ∈ action.incremented config, increment.key = key

/-! ## Interleaving with a log -/

/-- The adapter with the calls that were made: those that count as committed, and
those of each transaction under way. -/
structure LoggedState (ω : Type) where
  adapter : AdapterState
  committed : List (Action ω)
  pending : Nat → List (Action ω)

variable (state : LoggedState ω)

/-- The calls that an event makes final: a direct call, or those of a transaction that
commits. -/
def finished : Event ω → List (Action ω)
  | .call call operation => [{ tables := state.adapter.live, call, operation }]
  | .commit number =>
    match state.adapter.transactions number with
    | none => []
    | some transaction =>
      match (commit config state.adapter.live transaction.base transaction.working).2 with
      | .ok () => state.pending number
      | .error _ => []
  | _ => []

/-- The calls of the transactions that are under way after an event. -/
def underway : Event ω → Nat → List (Action ω)
  | .start number =>
    match state.adapter.transactions number with
    | some _ => state.pending
    | none => Function.update state.pending number []
  | .inside number call operation =>
    match state.adapter.transactions number with
    | none => state.pending
    | some transaction =>
      Function.update state.pending number
        (state.pending number ++ [{ tables := transaction.working, call, operation }])
  | _ => state.pending

def logStep (event : Event ω) : LoggedState ω where
  adapter := step config state.adapter event
  committed := state.committed ++ finished config state event
  pending := underway state event

/-- An adapter without transactions and without a history. -/
def unlogged (tables : Tables) : LoggedState ω where
  adapter := { live := tables, transactions := fun _ => none }
  committed := []
  pending := fun _ => []

/-- The condition on an event: rows are known by their identities, and when a
transaction commits, no row that one of its calls changed or incremented has been
changed outside since it started. Rows of the transaction must be comparable with
those that it started from. -/
def Isolated : Event ω → Prop
  | .call _ _ => KeyedTables config.library state.adapter.live
  | .inside number _ _ =>
    ∀ transaction ∈ state.adapter.transactions number, KeyedTables config.library transaction.working
  | .commit number =>
    ∀ transaction ∈ state.adapter.transactions number,
      KeyedTables config.library state.adapter.live ∧ KeyedTables config.library transaction.working ∧
        ∀ key,
          ((∃ action ∈ state.pending number, action.Touches config key) →
            rowOf config.library state.adapter.live key = rowOf config.library transaction.base key) ∧
          ∀ old ∈ rowOf config.library transaction.base key, ∀ new ∈ rowOf config.library transaction.working key,
            (rowChanged old new = false ↔ old = new)
  | _ => True

variable {config} {action : Action ω} {key : RowKey}

/-! ## Single calls -/

variable {tables : Tables} {library : Library} {field name : String} {delta : Number binary64}

theorem KeyedTables.getD (h : KeyedTables library tables) (name : String) :
    Keyed (rowIdentity library) ((tables.get? name).getD []) := by
  cases hrows : tables.get? name with
  | none => exact List.nodup_nil
  | some rows => exact h name rows hrows

theorem queriedRow_eq_some {model : ResolvedModel ω} {clauses : List Clause} {target : Record}
    (h : queriedRow config tables model clauses = some target) (hkeyed : KeyedTables config.library tables) :
    ∃ before behind, tables.get? model.physical = some (before ++ target :: behind) ∧
      findFirst config.library clauses (before ++ target :: behind) = .ok (some (before, target, behind)) ∧
      rowOf config.library tables ⟨model.physical, rowIdentity config.library target⟩ = some target := by
  unfold queriedRow at h
  split at h
  · next before found behind hfound =>
    cases h
    have hrows := findFirst_eq hfound
    cases htable : tables.get? model.physical with
    | none => simp [htable] at hrows
    | some rows =>
      obtain rfl : rows = before ++ target :: behind := by simpa [htable] using hrows
      refine ⟨before, behind, rfl, hrows ▸ hfound, ?_⟩
      rw [rowOf, htable]
      exact (hkeyed _ _ htable).lookup_eq_some_iff.mpr ⟨by simp, rfl⟩
  · cases h

/-- The consumed row was there, and it is gone. -/
theorem Action.consumed_spec (h : action.consumed config = some key) (hkeyed : KeyedTables config.library action.tables) :
    (action.before config key).isSome ∧ action.after config key = none := by
  unfold Action.consumed at h
  split at h
  · next name clauses hoperation =>
    obtain ⟨⟨model, encoded⟩, hprepared, h⟩ := Option.bind_eq_some_iff.mp h
    obtain ⟨target, htarget, h⟩ := Option.bind_eq_some_iff.mp h
    cases h
    have hprepared := toOption_eq_some_iff.mp hprepared
    obtain ⟨before, behind, htable, hfound, hbefore⟩ := queriedRow_eq_some htarget hkeyed
    have hrows := hkeyed _ _ htable
    refine ⟨by simp [Action.before, hbefore], ?_⟩
    have hafter : (perform config action.call action.tables action.operation).1 =
        action.tables.set model.physical (before ++ behind) := by
      simp only [hoperation, perform, consumeOne, hprepared, onTable, htable, consumeFirst, hfound]
    simp only [Action.after, rowOf, hafter, Dict.get?_set_self, Option.getD_some]
    refine lookup_eq_none_iff.mpr fun row hrow hsame => ?_
    simp only [Keyed, List.map_append, List.map_cons, List.nodup_middle, List.nodup_cons] at hrows
    apply hrows.1
    rw [← List.map_append]
    exact List.mem_map.mpr ⟨row, hrow, hsame⟩
  · cases h

/-- A call of ConsumeOne that answers with a row has consumed one. -/
theorem Action.consumed_of_answer {model : String} {clauses : List Where} {found : Record}
    (hoperation : action.operation = .consumeOne model clauses)
    (h : (perform config action.call action.tables action.operation).2 = .ok (.record (some found))) :
    (action.consumed config).isSome := by
  rw [hoperation, perform, consumeOne] at h
  unfold Action.consumed queriedRow
  rw [hoperation]
  split at h
  · cases h
  next hprepared =>
  unfold onTable at h
  split at h
  · cases h
  next hrows =>
  unfold consumeFirst at h
  split at h
  · cases h
  · cases h
  · next hfound => simp [hprepared, hrows, hfound, Except.toOption]

/-- The incremented row was there, and if it still has its identity, then it is there as
the increment leaves it. -/
theorem Action.incremented_spec {increment : Increment} (h : action.incremented config = some increment)
    (hkeyed : KeyedTables config.library action.tables) :
    action.before config increment.key = some increment.target ∧
      (rowIdentity config.library (increment.updated config.library) = increment.key.identity →
        action.after config increment.key = some (increment.updated config.library)) := by
  unfold Action.incremented at h
  split at h
  · next name clauses increment set hoperation =>
    obtain ⟨⟨model, encoded, increments, assigned⟩, hprepared, h⟩ := Option.bind_eq_some_iff.mp h
    obtain ⟨target, htarget, h⟩ := Option.bind_eq_some_iff.mp h
    cases h
    have hprepared := toOption_eq_some_iff.mp hprepared
    obtain ⟨before, behind, htable, hfound, hbefore⟩ := queriedRow_eq_some htarget hkeyed
    have hrows := hkeyed _ _ htable
    refine ⟨hbefore, fun hidentity => ?_⟩
    have hfields : incrementFields config.library increments.entries target =
        ((incrementFields config.library increments.entries target).1, .ok ()) :=
      Prod.ext rfl (incrementFields_ok config.library increments.entries target)
    have hafter : (perform config action.call action.tables action.operation).1 =
        action.tables.set model.physical
          (before ++ assign assigned (incrementFields config.library increments.entries target).1 :: behind) := by
      simp only [hoperation, perform, incrementOne, hprepared, onTable, htable, incrementFirst, hfound]
      rw [hfields]
    simp only [Action.after, rowOf, hafter, Dict.get?_set_self, Option.getD_some]
    have hkeyed : Keyed (rowIdentity config.library)
        (before ++ assign assigned (incrementFields config.library increments.entries target).1 :: behind) := by
      simp only [Increment.updated] at hidentity
      simpa [Keyed, hidentity] using hrows
    exact hkeyed.lookup_eq_some_iff.mpr ⟨by simp [Increment.updated], hidentity⟩
  · cases h

theorem incrementedValue_eq_plus (library : Library) (row : Record) (field : String) (delta : Number binary64) :
    incrementedValue library row field delta = .ok (plus library ((row.get? field).getD .null) delta) := by
  obtain ⟨value, hvalue⟩ := incrementedValue_ok library row field delta
  simp only [incrementedValue] at hvalue ⊢
  rw [hvalue, plus, hvalue]

/-- A call that adds to a field adds to the value that was there. -/
theorem Action.delta_spec (h : action.delta config key field = some delta)
    (hkeyed : KeyedTables config.library action.tables) :
    fieldValue (action.after config key) field =
      plus config.library (fieldValue (action.before config key) field) delta := by
  obtain ⟨increment, hincrement, hdelta⟩ := Option.bind_eq_some_iff.mp h
  split at hdelta
  · next hkept =>
    obtain ⟨rfl, hidentity, hunset⟩ := hkept
    obtain ⟨hbefore, hafter⟩ := Action.incremented_spec hincrement hkeyed
    rw [hbefore, hafter hidentity]
    simp only [fieldValue, Option.bind_some, Increment.updated]
    rw [get?_assign, Option.isNone_iff_eq_none.mp hunset, Option.none_or, get?_incrementFields, hdelta]
    simp [incrementedValue_eq_plus, Except.toOption]
  · cases hdelta

theorem Action.touches_of_delta (h : action.delta config key field = some delta) : action.Touches config key := by
  obtain ⟨increment, hincrement, h⟩ := Option.bind_eq_some_iff.mp h
  split at h
  · next hkept => exact .inr ⟨increment, hincrement, hkept.1⟩
  · cases h

theorem Action.linear_single (action : Action ω) (key : RowKey) :
    Linear (Action.Touches config key) (Action.before config key) (Action.after config key)
      (action.before config key) [action] (action.after config key) :=
  .single fun huntouched => not_not.mp fun hchanged => huntouched (.inl hchanged)

theorem onTable_isSome {physical : String}
    {act : List Record → List Record × Except StorageError Outcome} (h : (tables.get? name).isSome) :
    ((onTable library tables physical act).1.get? name).isSome := by
  unfold onTable
  split
  · exact h
  rw [Dict.get?_set]
  split
  · rfl
  · exact h

/-- No call drops a table. -/
theorem perform_isSome {call : Call ω} {operation : Operation}
    (h : (tables.get? name).isSome) : ((perform config call tables operation).1.get? name).isSome := by
  cases operation with
  | create | updateMany | deleteMany | consumeOne | incrementOne =>
    simp only [perform, create, updateMany, deleteMany, consumeOne, incrementOne]
    split
    · exact h
    · exact onTable_isSome h
  | update model clauses data =>
    simp only [perform, update]
    split
    · exact h
    · exact h
    · exact onTable_isSome h
  | delete model clauses =>
    simp only [perform, delete]
    split
    · exact h
    · split
      · exact h
      · exact onTable_isSome h

end

end singleauth.memory
