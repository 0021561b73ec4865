import SingleAuth.Storage.Memory.Find

open dict singleauth.storage singleauth.memory

namespace singleauth.core

/-! ## Hooks -/

inductive HookOperation where
  | create | update | updateMany | delete
  deriving DecidableEq

def HookOperation.text : HookOperation → String
  | .create => "create"
  | .update => "update"
  | .updateMany => "updateMany"
  | .delete => "delete"

/-- What a hook is told besides its data. The contexts of the request are left out. -/
structure DatabaseHookContext where
  (source model : String)
  operation : HookOperation
  deriving DecidableEq

/-- The answer of a before hook: cancel the operation, or fields to write over the data. -/
structure DatabaseHookResult where
  cancel : Bool := false
  data : Record := .empty

/-- What hooks reach: the tables of the adapter, and `world` for all else. -/
structure Surroundings (σ : Type) where
  tables : Tables
  world : σ

abbrev DatabaseBeforeHook (σ : Type) : Type :=
  Record → DatabaseHookContext → Surroundings σ → Except String DatabaseHookResult × Surroundings σ

/-- An after hook is given the record of the operation, or the number of rows it is about. -/
abbrev DatabaseAfterHook (σ : Type) : Type :=
  Outcome → DatabaseHookContext → Surroundings σ → Except String Unit × Surroundings σ

structure DatabaseOperationHooks (σ : Type) where
  before : Option (DatabaseBeforeHook σ) := none
  after : Option (DatabaseAfterHook σ) := none

structure DatabaseModelHooks (σ : Type) where
  create : DatabaseOperationHooks σ := {}
  update : DatabaseOperationHooks σ := {}
  delete : DatabaseOperationHooks σ := {}

def hooksForOperation {σ : Type} (hooks : DatabaseModelHooks σ) : HookOperation → DatabaseOperationHooks σ
  | .create => hooks.create
  | .update => hooks.update
  | .updateMany => hooks.update
  | .delete => hooks.delete

/-- The hooks of one source, by the canonical names of models. -/
structure DatabaseHookEntry (σ : Type) where
  source : String
  hooks : Dict (DatabaseModelHooks σ)

def DatabaseHookEntry.find {σ : Type} (entry : DatabaseHookEntry σ) (model : String) (operation : HookOperation) :
    DatabaseOperationHooks σ :=
  match entry.hooks.get? model with
  | none => {}
  | some lifecycle => hooksForOperation lifecycle operation

/-! ## Runs of hooks -/

/-- What happens while a call is served. Hooks are numbered by their entries. -/
inductive HookEvent where
  /-- A before hook has answered for a row. -/
  | before (hook : Nat) (model : String) (row : Record) (cancelled : Bool)
  /-- The adapter has served a call that writes. -/
  | wrote (earlier later : Tables)
  /-- An after hook has returned without an error. -/
  | after (hook : Nat) (model : String) (value : Outcome)
  /-- An after hook waits for the end of the transaction. -/
  | queued (hook : Nat) (model : String) (value : Outcome)

/-- An after hook with what it is to be called with. -/
structure QueuedHook (σ : Type) where
  hook : DatabaseAfterHook σ
  value : Outcome
  context : DatabaseHookContext

structure Progress (σ : Type) where
  surroundings : Surroundings σ
  queue : List (QueuedHook σ) := []
  trace : List HookEvent := []

inductive HookedError where
  | storage (failure : StorageError)
  | hook (text : String)
  deriving DecidableEq

def hookFailure (source model : String) (operation : HookOperation) (stage cause : String) : HookedError :=
  .hook ("single-auth: database hook " ++ source ++ " " ++ model ++ "." ++ operation.text ++ " " ++ stage ++ ": " ++ cause)

/-- The executor. It queues after hooks where it serves a transaction. -/
structure HookedExecutor (ω σ : Type) where
  config : Config ω
  defaultLimit : Nat := 100
  registry : List (DatabaseHookEntry σ)
  queues : Bool := false

section

variable {σ α β : Type}

/-- A piece of a call: it fails or gives a value, and moves things on. -/
abbrev Step (σ α : Type) : Type := Progress σ → Except HookedError α × Progress σ

def done (value : α) : Step σ α := fun progress => (.ok value, progress)

def Step.andThen (first : Step σ α) (next : α → Step σ β) : Step σ β := fun progress =>
  match first progress with
  | (.error failure, progress) => (.error failure, progress)
  | (.ok value, progress) => next value progress

/-- The loop of the before hooks: `number` is that of the first entry left, `actual` the data with what hooks have
written over it. No data come back from a cancelled operation. -/
def beforeFrom (model : String) (operation : HookOperation) (original : Record) (chainActual : Bool) :
    Nat → List (DatabaseHookEntry σ) → Record → Step σ (Option Record)
  | _, [], actual => done (some actual)
  | number, entry :: rest, actual =>
    match (entry.find model operation).before with
    | none => beforeFrom model operation original chainActual (number + 1) rest actual
    | some hook => fun progress =>
      match hook (if chainActual then actual else original) ⟨entry.source, model, operation⟩ progress.surroundings with
      | (.error cause, surroundings) =>
        (.error (hookFailure entry.source model operation "before" cause), { progress with surroundings })
      | (.ok result, surroundings) =>
        let progress : Progress σ :=
          { progress with surroundings, trace := progress.trace ++ [.before number model original result.cancel] }
        if result.cancel then (.ok none, progress)
        else beforeFrom model operation original chainActual (number + 1) rest (actual.setAll result.data.entries) progress

def afterFrom (queues : Bool) (model : String) (operation : HookOperation) (value : Outcome) :
    Nat → List (DatabaseHookEntry σ) → Step σ Unit
  | _, [] => done ()
  | number, entry :: rest =>
    match (entry.find model operation).after with
    | none => afterFrom queues model operation value (number + 1) rest
    | some hook => fun progress =>
      let context : DatabaseHookContext := ⟨entry.source, model, operation⟩
      if queues then
        afterFrom queues model operation value (number + 1) rest
          { progress with
            queue := progress.queue ++ [{ hook, value, context }]
            trace := progress.trace ++ [.queued number model value] }
      else
        match hook value context progress.surroundings with
        | (.error cause, surroundings) =>
          (.error (hookFailure entry.source model operation "after" cause), { progress with surroundings })
        | (.ok (), surroundings) =>
          afterFrom queues model operation value (number + 1) rest
            { progress with surroundings, trace := progress.trace ++ [.after number model value] }

variable {ω : Type} (executor : HookedExecutor ω σ)

def HookedExecutor.before (model : String) (operation : HookOperation) (input : Record) (chainActual : Bool) :
    Step σ (Option Record) :=
  beforeFrom model operation input chainActual 0 executor.registry input

def HookedExecutor.afterHooks (model : String) (operation : HookOperation) (value : Outcome) : Step σ Unit :=
  afterFrom executor.queues model operation value 0 executor.registry

/-! ## Calls -/

def HookedExecutor.findMany (call : Call ω) (params : FindManyParams) (progress : Progress σ) :
    Except StorageError (List Record) :=
  memory.findMany executor.config executor.defaultLimit call progress.surroundings.tables params

def HookedExecutor.perform (call : Call ω) (operation : Operation) : Step σ Outcome := fun progress =>
  let (tables, result) := memory.perform executor.config call progress.surroundings.tables operation
  (result.mapError .storage,
    { progress with
      surroundings := { progress.surroundings with tables }
      trace := progress.trace ++ [.wrote progress.surroundings.tables tables] })

/-- An operation between its hooks: a create, whose hooks see what those before them wrote, an update or an update of
many. Nothing comes back from a cancelled one. -/
def HookedExecutor.custom (model : String) (operation : HookOperation) (data : Record) (chainActual : Bool)
    (callback : Record → Step σ Outcome) : Step σ (Option Outcome) :=
  (executor.before model operation data chainActual).andThen fun
    | none => done none
    | some data =>
      (callback data).andThen fun outcome =>
        (executor.afterHooks model operation outcome).andThen fun () => done (some outcome)

/-- The rows that a query finds. Its failure counts as none. -/
def HookedExecutor.snapshot (find : Call ω) (params : FindManyParams) (progress : Progress σ) : List Record :=
  (executor.findMany find params progress).toOption.getD []

def HookedExecutor.delete (find write : Call ω) (model : String) (clauses : List Where) : Step σ Unit := fun progress =>
  match executor.snapshot find { model, clauses, limit := some 1 } progress with
  | [] => (.ok (), progress)
  | row :: _ =>
    ((executor.before model .delete row true).andThen fun
      | none => done ()
      | some _ =>
        (executor.perform write (.delete model clauses)).andThen fun _ =>
          executor.afterHooks model .delete (.record (some row))) progress

/-- The before hooks of each row, unless one of them cancels. -/
def HookedExecutor.beforeRows (model : String) : List Record → Step σ Bool
  | [] => done true
  | row :: rest =>
    (executor.before model .delete row true).andThen fun
      | none => done false
      | some _ => HookedExecutor.beforeRows model rest

def HookedExecutor.afterRows (model : String) : List Record → Step σ Unit
  | [] => done ()
  | row :: rest =>
    (executor.afterHooks model .delete (.record (some row))).andThen fun () => HookedExecutor.afterRows model rest

def HookedExecutor.customDeleteMany (model : String) (rows : List Record) (callback : Step σ Outcome) : Step σ Outcome :=
  (executor.beforeRows model rows).andThen fun
    | false => done (.count 0)
    | true => callback.andThen fun deleted => (executor.afterRows model rows).andThen fun () => done deleted

/-- Hooks run for the rows that a query without a limit of its own finds. -/
def HookedExecutor.deleteMany (find write : Call ω) (model : String) (clauses : List Where) : Step σ Outcome :=
  fun progress =>
    executor.customDeleteMany model (executor.snapshot find { model, clauses } progress)
      (executor.perform write (.deleteMany model clauses)) progress

end

end singleauth.core
