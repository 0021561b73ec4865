import SingleAuth.Lib.Merge
import SingleAuth.Storage.Memory.Executor

open dict merge singleauth.storage

namespace singleauth.memory

variable (library : Library)

def identityText (id : Value) : String := id.typeName ++ ":" ++ id.format library

/-- What a merge knows a row by. -/
def rowIdentity (row : Record) : String := identityText library ((row.get? "id").getD .null)

def rowChanged (base completed : Record) : Bool := !Record.deepEqual base completed

/-- The tables that a transaction saw or left. -/
def transactionModels (base completed : Tables) : List String :=
  base.entries.map Prod.fst ++ completed.entries.map Prod.fst

/-- The live tables with what a transaction changed between its base and its end. -/
def mergeTransaction (live base completed : Tables) : Tables :=
  (transactionModels base completed).foldl (fun merged model =>
    match completed.get? model with
    | none => merged.erase model
    | some completedRows =>
      merged.set model (mergeRows (rowIdentity library) rowChanged ((live.get? model).getD [])
        ((base.get? model).getD []) completedRows)) live

/-- Each table of the merge depends on its three versions only. -/
theorem get?_mergeTransaction (live base completed : Tables) (model : String) :
    (mergeTransaction library live base completed).get? model =
      if model ∈ transactionModels base completed then
        (completed.get? model).map fun completedRows =>
          mergeRows (rowIdentity library) rowChanged ((live.get? model).getD []) ((base.get? model).getD [])
            completedRows
      else live.get? model := by
  unfold mergeTransaction
  have hfold : ∀ (models : List String) (merged : Tables),
      (models.foldl (fun merged model =>
        match completed.get? model with
        | none => merged.erase model
        | some completedRows =>
          merged.set model (mergeRows (rowIdentity library) rowChanged ((live.get? model).getD [])
            ((base.get? model).getD []) completedRows)) merged).get? model =
        if model ∈ models then
          (completed.get? model).map fun completedRows =>
            mergeRows (rowIdentity library) rowChanged ((live.get? model).getD []) ((base.get? model).getD [])
              completedRows
        else merged.get? model := by
    intro models
    induction models with
    | nil => simp
    | cons first rest ih =>
      intro merged
      rw [List.foldl_cons, ih]
      by_cases hrest : model ∈ rest
      · simp [hrest]
      by_cases hfirst : model = first
      · subst hfirst
        cases completed.get? model <;> simp [hrest, Dict.get?_erase, Dict.get?_set]
      · cases completed.get? first <;> simp [hrest, hfirst, Dict.get?_erase, Dict.get?_set]
  exact hfold _ live

section

variable {ω : Type}

/-- The end of a transaction. Its tables are merged into the live ones if no
duplicates result. -/
def commit (config : Config ω) (live base completed : Tables) : Tables × Except StorageError Unit :=
  let merged := mergeTransaction config.library live base completed
  match validateUniqueTables config.library config.schema merged with
  | .error failure => (live, .error failure)
  | .ok () => (merged, .ok ())

/-! ## Interleaving -/

/-- A transaction under way: the tables that it started from and its own copy. -/
structure Transaction where
  (base working : Tables)

structure AdapterState where
  live : Tables
  transactions : Nat → Option Transaction

/-- One event: a direct call, or the start, a call, the commit or the end without
commit of a transaction. Calls and commits hold the lock of their tables. -/
inductive Event (ω : Type) where
  | call (call : Call ω) (operation : Operation)
  | start (number : Nat)
  | inside (number : Nat) (call : Call ω) (operation : Operation)
  | commit (number : Nat)
  | rollback (number : Nat)

def step (config : Config ω) (state : AdapterState) : Event ω → AdapterState
  | .call call operation => { state with live := (perform config call state.live operation).1 }
  | .start number =>
    match state.transactions number with
    | some _ => state
    | none =>
      { state with
        transactions := Function.update state.transactions number (some { base := state.live, working := state.live }) }
  | .inside number call operation =>
    match state.transactions number with
    | none => state
    | some transaction =>
      let working := (perform config call transaction.working operation).1
      { state with transactions := Function.update state.transactions number (some { transaction with working }) }
  | .commit number =>
    match state.transactions number with
    | none => state
    | some transaction =>
      { live := (commit config state.live transaction.base transaction.working).1
        transactions := Function.update state.transactions number none }
  | .rollback number => { state with transactions := Function.update state.transactions number none }

/-- A new adapter: an empty table for each model of the schema. -/
def new (config : Config ω) : AdapterState where
  live := .ofEntries (config.schema.models.entries.map fun (canonical, table) =>
    (config.schema.tableName canonical table, []))
  transactions := fun _ => none

end

end singleauth.memory
