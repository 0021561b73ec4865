import SingleAuth.Storage.Memory.Executor

open fallible singleauth.storage

namespace singleauth.memory

/-- A query for several rows. Queries that sort or join are not modelled. -/
structure FindManyParams where
  model : String
  clauses : List Where
  limit : Option Int := none
  offset : Option Int := none
  select : List String := []

section

variable {ω : Type} (config : Config ω) (defaultLimit : Nat) (call : Call ω) (tables : Tables)

def selectRows (model : ResolvedModel ω) (clauses : List Clause) : Except StorageError (List Record) :=
  match tables.get? model.physical with
  | none => .error (Sentinel.modelNotFound.error (config.library.quote model.physical))
  | some rows => do
    let marked ← filterRows config.library clauses rows
    return (marked.filter fun (_, selected) => selected).map Prod.fst

def requireNonNegative (what : String) (number : Int) : Except StorageError Unit :=
  require (0 ≤ number) (Sentinel.invalidQuery.error (what ++ " must be non-negative"))

/-- The decoded rows of a query. Where the query has no limit, that of the adapter holds. -/
def findMany (params : FindManyParams) : Except StorageError (List Record) := do
  let (model, clauses) ← prepareQuery config call params.model params.clauses
  let limit := params.limit.getD defaultLimit
  let offset := params.offset.getD 0
  requireNonNegative "limit" limit
  requireNonNegative "offset" offset
  let rows ← selectRows config tables model clauses
  let page := (rows.drop offset.toNat).take limit.toNat
  let result ← page.mapM fun raw => decodeRecord config model call.world raw params.select
  checkContext call.contextErrorAfter
  return result

end

section

variable {ω : Type} {config : Config ω} {defaultLimit : Nat} {call : Call ω} {tables : Tables}

theorem checkContext_eq_ok_iff {contextError : Option StorageError} {result : Unit} :
    checkContext contextError = .ok result ↔ contextError = none := by
  cases contextError <;> simp [checkContext]

theorem selectRows_eq_ok_iff {model : ResolvedModel ω} {clauses : List Clause} {selected : List Record} :
    selectRows config tables model clauses = .ok selected ↔
      ∃ rows marked, tables.get? model.physical = some rows ∧ filterRows config.library clauses rows = .ok marked ∧
        selected = (marked.filter fun (_, selected) => selected).map Prod.fst := by
  unfold selectRows
  cases tables.get? model.physical with
  | none => simp
  | some rows =>
    simp only [Option.some.injEq, exists_and_left, exists_eq_left', bind_eq_ok_iff]
    refine exists_congr fun marked => and_congr_right fun _ => ?_
    exact ⟨fun h => (Except.ok.inj h).symm, fun h => congrArg Except.ok h.symm⟩

/-- A query without offset gives a record for each row that it selects, up to its limit. -/
theorem findMany_eq_ok_iff {name : String} {clauses : List Where} {limit : Option Int} {records : List Record} :
    findMany config defaultLimit call tables { model := name, clauses, limit } = .ok records ↔
      ∃ model encoded selected, prepareQuery config call name clauses = .ok (model, encoded) ∧
        0 ≤ limit.getD defaultLimit ∧ selectRows config tables model encoded = .ok selected ∧
        List.Forall₂ (fun raw record => decodeRecord config model call.world raw [] = .ok record)
          (selected.take (limit.getD defaultLimit).toNat) records ∧ call.contextErrorAfter = none := by
  unfold findMany
  constructor
  · intro h
    obtain ⟨⟨model, encoded⟩, hprepared, _, hlimit, _, _, h⟩ := ok_of_bind₃ h
    obtain ⟨selected, hselected, result, hresult, _, hcontext, h⟩ := ok_of_bind₃ h
    cases h
    exact ⟨model, encoded, selected, hprepared, require_eq_ok_iff.mp hlimit, hselected, mapM_eq_ok_iff.mp hresult,
      checkContext_eq_ok_iff.mp hcontext⟩
  rintro ⟨model, encoded, selected, hprepared, hlimit, hselected, hrecords, hcontext⟩
  refine bind_eq_ok_iff.mpr ⟨_, hprepared, ?_⟩
  refine bind_eq_ok_iff.mpr ⟨(), require_eq_ok_iff.mpr hlimit, ?_⟩
  refine bind_eq_ok_iff.mpr ⟨(), require_eq_ok_iff.mpr (le_refl 0), ?_⟩
  refine bind_eq_ok_iff.mpr ⟨selected, hselected, ?_⟩
  refine bind_eq_ok_iff.mpr ⟨records, mapM_eq_ok_iff.mpr hrecords, ?_⟩
  exact bind_eq_ok_iff.mpr ⟨(), checkContext_eq_ok_iff.mpr hcontext, rfl⟩

end

end singleauth.memory
