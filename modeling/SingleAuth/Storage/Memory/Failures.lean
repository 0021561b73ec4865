import SingleAuth.Lib.Transition
import SingleAuth.Storage.Memory.Transaction

open dict ieee singleauth.storage transition

namespace singleauth.memory

section

variable {ω : Type} {config : Config ω} {call : Call ω}

/-- A failed call leaves what it works on as it was. -/
def CleanFailure {α : Type} (before : α) (after : α × Except StorageError Outcome) : Prop :=
  (∃ failure, after.2 = .error failure) → after.1 = before

variable {α : Type} {model : ResolvedModel ω} {select : List String} {rows : List Record} {clauses : List Clause}

theorem cleanFailure_unchanged (before : α) (result : Except StorageError Outcome) :
    CleanFailure before (before, result) :=
  fun _ => rfl

theorem cleanFailure_ok (before after : α) (outcome : Outcome) : CleanFailure before (after, .ok outcome) := by
  rintro ⟨failure, h⟩
  cases h

/-- A table is as it was exactly when its rows are. -/
theorem onTable_cleanFailure_iff {library : Library} {tables : Tables} {physical : String}
    {act : List Record → List Record × Except StorageError Outcome} :
    CleanFailure tables (onTable library tables physical act) ↔
      ∀ rows, tables.get? physical = some rows → CleanFailure rows (act rows) := by
  unfold onTable
  cases hrows : tables.get? physical with
  | none => simp [CleanFailure]
  | some rows =>
    have hset : tables.set physical (act rows).1 = tables ↔ (act rows).1 = rows := by
      constructor
      · intro hsame
        have hget := Dict.get?_set_self tables physical (act rows).1
        rw [hsame, hrows] at hget
        exact (Option.some.inj hget).symm
      · intro hsame
        rw [hsame]
        exact Dict.set_of_get? hrows
    simp only [CleanFailure, hset, Option.some.injEq, forall_eq']

/-- The record can be returned: every selected field exists, every stored value is
decoded and no output transform fails. -/
def Decodes (config : Config ω) (call : Call ω) (model : ResolvedModel ω) (raw : Record) (select : List String) : Prop :=
  ∃ decoded, decodeRecord config model call.world raw select = .ok decoded

theorem decodeOutcome_error_iff {raw : Record} :
    (∃ failure, decodeOutcome config call model (some raw) select = .error failure) ↔
      ¬ Decodes config call model raw select := by
  simp only [decodeOutcome, Decodes]
  cases decodeRecord config model call.world raw select <;> simp [bind, Except.bind, pure, Except.pure]

/-- A call that has written `after` fails cleanly if its record can be returned, or if
nothing was changed. -/
theorem decodeOutcome_cleanFailure_iff {before after : α} {raw : Record} :
    CleanFailure before (after, decodeOutcome config call model (some raw) select) ↔
      (after ≠ before → Decodes config call model raw select) := by
  rw [CleanFailure, decodeOutcome_error_iff, not_imp_comm]

theorem createRow_cleanFailure_iff {encoded : Record} :
    CleanFailure rows (createRow config call model encoded select rows) ↔
      (validateUniqueRows config.library model (rows ++ [encoded]) = .ok () →
        call.contextErrorAfter = none ∧ Decodes config call model encoded select) := by
  unfold createRow
  cases hvalid : validateUniqueRows config.library model (rows ++ [encoded]) with
  | error failure => simp [cleanFailure_unchanged]
  | ok =>
    have hgrown : rows ++ [encoded] ≠ rows := by simp
    cases hcontext : call.contextErrorAfter with
    | some failure => simp [CleanFailure, checkContext, bind, Except.bind]
    | none =>
      have hresult : (do
          checkContext none
          decodeOutcome config call model (some encoded) select) =
            decodeOutcome config call model (some encoded) select := rfl
      rw [hresult, decodeOutcome_cleanFailure_iff]
      simp [hgrown]

theorem updateRows_cleanFailure_iff {update : Record} {finish : List (Record × Bool) → Except StorageError Outcome} :
    CleanFailure rows (updateRows config model clauses update finish rows) ↔
      ∀ marked, filterRows config.library clauses rows = .ok marked →
        validateUniqueRows config.library model (assignSelected update marked) = .ok () →
          CleanFailure rows (assignSelected update marked, finish marked) := by
  unfold updateRows
  cases filterRows config.library clauses rows with
  | error failure => simp [cleanFailure_unchanged]
  | ok marked =>
    cases hvalid : validateUniqueRows config.library model (assignSelected update marked) with
    | error failure => simp [cleanFailure_unchanged, hvalid]
    | ok => simp [hvalid]

theorem deleteMatching_cleanFailure {finish : Nat → Outcome} (rows : List Record) :
    CleanFailure rows (deleteMatching config clauses finish rows) := by
  unfold deleteMatching
  split
  · exact cleanFailure_unchanged rows _
  · exact cleanFailure_ok rows _ _

theorem firstUpdated_cleanFailure_iff {update : Record} {marked : List (Record × Bool)} {after : List Record} :
    CleanFailure rows (after, firstUpdated config call model update marked) ↔
      ∀ first, marked.find? (fun entry => entry.2) = some first → after ≠ rows →
        Decodes config call model (assign update first.1) [] := by
  simp only [firstUpdated]
  cases marked.find? (fun entry => entry.2) with
  | none => simp [decodeOutcome, cleanFailure_ok]
  | some first => simp [decodeOutcome_cleanFailure_iff]

theorem consumeFirst_cleanFailure_iff :
    CleanFailure rows (consumeFirst config call model clauses rows) ↔
      ∀ before target behind, findFirst config.library clauses rows = .ok (some (before, target, behind)) →
        Decodes config call model target [] := by
  unfold consumeFirst
  split
  · next hfound => simp [cleanFailure_unchanged, hfound]
  · next hfound => simp [cleanFailure_unchanged, hfound]
  rename_i before target behind hfound
  have hshorter : before ++ behind ≠ rows := by
    intro hsame
    have hlength := congrArg List.length (hsame.trans (findFirst_eq hfound))
    simp only [List.length_append, List.length_cons] at hlength
    omega
  simp [decodeOutcome_cleanFailure_iff, hshorter, hfound]

def incrementedRow (library : Library) (increments : Dict (Number binary64)) (set target : Record) : Record :=
  assign set (incrementFields library increments.entries target).1

theorem incrementFirst_cleanFailure_iff {increments : Dict (Number binary64)} {set : Record} :
    CleanFailure rows (incrementFirst config call model clauses increments set rows) ↔
      ∀ before target behind, findFirst config.library clauses rows = .ok (some (before, target, behind)) →
        incrementedRow config.library increments set target ≠ target →
          Decodes config call model (incrementedRow config.library increments set target) [] := by
  unfold incrementFirst
  split
  · next hfound => simp [cleanFailure_unchanged, hfound]
  · next hfound => simp [cleanFailure_unchanged, hfound]
  rename_i before target behind hfound
  have hok := incrementFields_ok config.library increments.entries target
  split
  · next hfields =>
    rw [hfields] at hok
    cases hok
  rename_i incremented hfields
  have hrow : assign set incremented = incrementedRow config.library increments set target := by
    rw [incrementedRow, hfields]
  have hsame : before ++ incrementedRow config.library increments set target :: behind ≠ rows ↔
      incrementedRow config.library increments set target ≠ target := by
    rw [findFirst_eq hfound]
    simp
  rw [hrow, decodeOutcome_cleanFailure_iff, hsame]
  simp [hfound]

/-- The condition on a call: once it would write something new, its record can be
returned, and a create is not cancelled while it writes. -/
def ReturnsResult (config : Config ω) (call : Call ω) (tables : Tables) : Operation → Prop
  | .create name data select forceAllowID => ∀ model encoded rows,
      prepareCreate config call name data forceAllowID = .ok (model, encoded) →
      tables.get? model.physical = some rows →
      validateUniqueRows config.library model (rows ++ [encoded]) = .ok () →
        call.contextErrorAfter = none ∧ Decodes config call model encoded select
  | .update name clauses data => ∀ model encoded assigned rows marked first,
      prepareUpdate config call name clauses data = .ok (some (model, encoded, assigned)) →
      tables.get? model.physical = some rows → filterRows config.library encoded rows = .ok marked →
      validateUniqueRows config.library model (assignSelected assigned marked) = .ok () →
      marked.find? (fun entry => entry.2) = some first → assignSelected assigned marked ≠ rows →
        Decodes config call model (assign assigned first.1) []
  | .consumeOne name clauses => ∀ model encoded rows before target behind,
      prepareQuery config call name clauses = .ok (model, encoded) → tables.get? model.physical = some rows →
      findFirst config.library encoded rows = .ok (some (before, target, behind)) →
        Decodes config call model target []
  | .incrementOne name clauses increment set => ∀ model encoded increments assigned rows before target behind,
      prepareIncrement config call name clauses increment set = .ok (model, encoded, increments, assigned) →
      tables.get? model.physical = some rows →
      findFirst config.library encoded rows = .ok (some (before, target, behind)) →
      incrementedRow config.library increments assigned target ≠ target →
        Decodes config call model (incrementedRow config.library increments assigned target) []
  | _ => True

variable {tables : Tables} {name : String} {clauses : List Where} {data : Assignments}

theorem create_cleanFailure_iff {forceAllowID : Bool} :
    CleanFailure tables (create config call tables name data select forceAllowID) ↔
      ReturnsResult config call tables (.create name data select forceAllowID) := by
  simp only [create, ReturnsResult]
  cases prepareCreate config call name data forceAllowID with
  | error failure => simp [cleanFailure_unchanged]
  | ok prepared =>
    obtain ⟨model, encoded⟩ := prepared
    simp only [onTable_cleanFailure_iff, createRow_cleanFailure_iff]
    constructor
    · rintro h _ _ rows heq
      cases heq
      exact h rows
    · exact fun h rows => h model encoded rows rfl

theorem update_cleanFailure_iff :
    CleanFailure tables (update config call tables name clauses data) ↔
      ReturnsResult config call tables (.update name clauses data) := by
  simp only [update, ReturnsResult]
  cases prepareUpdate config call name clauses data with
  | error failure => simp [cleanFailure_unchanged]
  | ok prepared =>
    cases prepared with
    | none => simp [cleanFailure_unchanged]
    | some prepared =>
      obtain ⟨model, encoded, assigned⟩ := prepared
      simp only [onTable_cleanFailure_iff, updateRows_cleanFailure_iff, firstUpdated_cleanFailure_iff]
      constructor
      · rintro h _ _ _ rows marked first heq hrows hmarked hvalid
        cases heq
        exact h rows hrows marked hmarked hvalid first
      · exact fun h rows hrows marked hmarked hvalid first =>
          h model encoded assigned rows marked first rfl hrows hmarked hvalid

theorem updateMany_cleanFailure : CleanFailure tables (updateMany config call tables name clauses data) := by
  unfold updateMany
  split
  · exact cleanFailure_unchanged tables _
  rw [onTable_cleanFailure_iff]
  intro rows _
  rw [updateRows_cleanFailure_iff]
  exact fun marked _ _ => cleanFailure_ok rows _ _

theorem delete_cleanFailure : CleanFailure tables (delete config call tables name clauses) := by
  unfold delete
  split
  · exact cleanFailure_unchanged tables _
  · split
    · exact cleanFailure_unchanged tables _
    · exact onTable_cleanFailure_iff.mpr fun rows _ => deleteMatching_cleanFailure rows

theorem deleteMany_cleanFailure : CleanFailure tables (deleteMany config call tables name clauses) := by
  unfold deleteMany
  split
  · exact cleanFailure_unchanged tables _
  · exact onTable_cleanFailure_iff.mpr fun rows _ => deleteMatching_cleanFailure rows

theorem consumeOne_cleanFailure_iff :
    CleanFailure tables (consumeOne config call tables name clauses) ↔
      ReturnsResult config call tables (.consumeOne name clauses) := by
  simp only [consumeOne, ReturnsResult]
  cases prepareQuery config call name clauses with
  | error failure => simp [cleanFailure_unchanged]
  | ok prepared =>
    obtain ⟨model, encoded⟩ := prepared
    simp only [onTable_cleanFailure_iff, consumeFirst_cleanFailure_iff]
    constructor
    · rintro h _ _ rows before target behind heq hrows
      cases heq
      exact h rows hrows before target behind
    · exact fun h rows hrows before target behind => h model encoded rows before target behind rfl hrows

theorem incrementOne_cleanFailure_iff {increment : List (String × Number binary64)} {set : Assignments} :
    CleanFailure tables (incrementOne config call tables name clauses increment set) ↔
      ReturnsResult config call tables (.incrementOne name clauses increment set) := by
  simp only [incrementOne, ReturnsResult]
  cases prepareIncrement config call name clauses increment set with
  | error failure => simp [cleanFailure_unchanged]
  | ok prepared =>
    obtain ⟨model, encoded, increments, assigned⟩ := prepared
    simp only [onTable_cleanFailure_iff, incrementFirst_cleanFailure_iff]
    constructor
    · rintro h _ _ _ _ rows before target behind heq hrows
      cases heq
      exact h rows hrows before target behind
    · exact fun h rows hrows before target behind =>
        h model encoded increments assigned rows before target behind rfl hrows

/-- A failed call leaves every table as it was exactly under this condition: what it
returns is decoded only after it has written. -/
theorem perform_cleanFailure_iff (config : Config ω) (call : Call ω) (tables : Tables) (operation : Operation) :
    ((∃ failure, (perform config call tables operation).2 = .error failure) →
      (perform config call tables operation).1 = tables) ↔ ReturnsResult config call tables operation := by
  change CleanFailure tables (perform config call tables operation) ↔ _
  cases operation with
  | create => exact create_cleanFailure_iff
  | update => exact update_cleanFailure_iff
  | updateMany => exact iff_of_true updateMany_cleanFailure trivial
  | delete => exact iff_of_true delete_cleanFailure trivial
  | deleteMany => exact iff_of_true deleteMany_cleanFailure trivial
  | consumeOne => exact consumeOne_cleanFailure_iff
  | incrementOne => exact incrementOne_cleanFailure_iff

end

/-! ## A selection that does not exist -/

private def accountModel : ModelSchema Unit where
  modelName := "account"
  fields := .ofEntries [("name", { type := .string })]

private def accountConfig : Config Unit where
  library := textLibrary
  schema := { models := .ofEntries [("account", accountModel)], usePlural := false }
  valid := by rfl
  capabilities := { json := true, dates := true, booleans := true, arrays := true }
  idGenerator := fun _ _ => .ok (.string "1")

/-- A create that selects an unknown field stores the row and then fails. -/
theorem create_fails_after_writing :
    ¬ ∀ (config : Config Unit) (state : AdapterState) (call : Call Unit) (operation : Operation),
      Reached (step config) (fun _ _ => True) (new config) state →
        (∃ failure, (perform config call state.live operation).2 = .error failure) →
          (perform config call state.live operation).1 = state.live := by
  intro h
  have hsame := h accountConfig (new accountConfig) { world := () }
    (.create "account" [("name", .string "Ada")] ["nickname"] false) .start ⟨_, rfl⟩
  have hrows := congrArg (fun tables => ((tables.get? "account").getD []).length) hsame
  revert hrows
  decide

end singleauth.memory
