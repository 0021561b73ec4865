import Mathlib.Algebra.Ring.Int.Defs
import SingleAuth.Lib.Transition
import SingleAuth.Storage.Memory.History

open dict history ieee merge singleauth.storage transition

namespace singleauth.memory

section

variable {ω : Type} {config : Config ω} {key : RowKey}

/-- A list of calls leads from some tables to others, row by row. -/
structure Leads (config : Config ω) (first : Tables) (actions : List (Action ω)) (last : Tables) : Prop where
  keyed : ∀ action ∈ actions, KeyedTables config.library action.tables
  linear : ∀ key, Linear (Action.Touches config key) (Action.before config key) (Action.after config key)
    (rowOf config.library first key) actions (rowOf config.library last key)

theorem Leads.refl (tables : Tables) : Leads config tables [] tables :=
  ⟨fun _ hmem => absurd hmem List.not_mem_nil, fun _ => .nil _⟩

variable {actions : List (Action ω)} {first last start : Tables} {state : LoggedState ω}

theorem Leads.append {middle : Tables} {others : List (Action ω)}
    (h : Leads config first actions middle) (hothers : Leads config middle others last) :
    Leads config first (actions ++ others) last :=
  ⟨List.forall_mem_append.mpr ⟨h.keyed, hothers.keyed⟩, fun key => (h.linear key).append (hothers.linear key)⟩

theorem Leads.perform {tables : Tables} (h : Leads config first actions tables)
    (hkeyed : KeyedTables config.library tables) (call : Call ω) (operation : Operation) :
    Leads config first (actions ++ [⟨tables, call, operation⟩]) (memory.perform config call tables operation).1 := by
  refine h.append ⟨?_, fun key => Action.linear_single ⟨tables, call, operation⟩ key⟩
  rintro action hmem
  cases List.mem_singleton.mp hmem
  exact hkeyed

variable {base live working : Tables}

/-- The row of a key after a merge, when it is as it was at the start of the
transaction, or the transaction has left it alone. -/
theorem rowOf_mergeTransaction {key : RowKey}
    (hlive : KeyedTables config.library live) (hworking : KeyedTables config.library working)
    (hkept : ∀ name, (base.get? name).isSome → (working.get? name).isSome)
    (hcomparable : ∀ old ∈ rowOf config.library base key, ∀ new ∈ rowOf config.library working key,
      (rowChanged old new = false ↔ old = new)) :
    (rowOf config.library live key = rowOf config.library base key →
      rowOf config.library (mergeTransaction config.library live base working) key =
        rowOf config.library working key) ∧
    (rowOf config.library working key = rowOf config.library base key →
      rowOf config.library (mergeTransaction config.library live base working) key =
        rowOf config.library live key) := by
  have hmerged : rowOf config.library (mergeTransaction config.library live base working) key =
      resolve rowChanged (rowOf config.library live key) (rowOf config.library base key)
        (rowOf config.library working key) := by
    rw [rowOf, getD_mergeTransaction (hkept key.table), lookup_mergeRows (hlive.getD _) (hworking.getD _)]
    rfl
  rw [hmerged]
  generalize rowOf config.library live key = current
  generalize hold : rowOf config.library base key = old at hcomparable
  generalize hnew : rowOf config.library working key = new at hcomparable
  cases old with
  | none => cases new <;> simp +contextual [resolve]
  | some old =>
    cases new with
    | none => simp +contextual [resolve]
    | some new =>
      have hchanged := hcomparable old rfl new rfl
      constructor
      · rintro rfl
        by_cases hsame : old = new
        · simp [resolve, hsame]
        · simp [resolve, mt hchanged.mp hsame]
      · intro hsame
        cases hsame
        simp [resolve, hchanged.mpr rfl]

/-- What a transaction has done is put behind what has been done to the live tables. -/
theorem Leads.commit {pending : List (Action ω)}
    (h : Leads config first actions live) (hpending : Leads config base pending working)
    (hlive : KeyedTables config.library live) (hworking : KeyedTables config.library working)
    (hkept : ∀ name, (base.get? name).isSome → (working.get? name).isSome)
    (hisolated : ∀ key, (∃ action ∈ pending, action.Touches config key) →
      rowOf config.library live key = rowOf config.library base key)
    (hcomparable : ∀ key, ∀ old ∈ rowOf config.library base key, ∀ new ∈ rowOf config.library working key,
      (rowChanged old new = false ↔ old = new)) :
    Leads config first (actions ++ pending) (mergeTransaction config.library live base working) := by
  refine h.append ⟨hpending.keyed, fun key => ?_⟩
  obtain ⟨hchanged, hunchanged⟩ := rowOf_mergeTransaction hlive hworking hkept (hcomparable key)
  by_cases htouched : ∃ action ∈ pending, action.Touches config key
  · rw [hisolated key htouched, hchanged (hisolated key htouched)]
    exact hpending.linear key
  have huntouched : ∀ action ∈ pending, ¬ action.Touches config key := by
    intro action hmem htouch
    exact htouched ⟨action, hmem, htouch⟩
  rw [hunchanged ((hpending.linear key).of_untouched huntouched)]
  exact Linear.of_forall_untouched huntouched

/-- The calls lead from the base of a transaction to its own tables, and none of the tables is gone. -/
def Transaction.MadeBy (config : Config ω) (actions : List (Action ω)) (transaction : Transaction) : Prop :=
  Leads config transaction.base actions transaction.working ∧
    ∀ name, (transaction.base.get? name).isSome → (transaction.working.get? name).isSome

/-- The committed calls lead to the live tables, and those of each transaction to its own tables. -/
structure Serial (config : Config ω) (start : Tables) (state : LoggedState ω) : Prop where
  live : Leads config start state.committed state.adapter.live
  pending : ∀ number, ∀ transaction ∈ state.adapter.transactions number,
    transaction.MadeBy config (state.pending number)

theorem Serial.pending_update (h : Serial config start state) (number : Nat) {transaction : Option Transaction}
    (hown : ∀ found ∈ transaction, found.MadeBy config actions) :
    ∀ other, ∀ found ∈ Function.update state.adapter.transactions number transaction other,
      found.MadeBy config (Function.update state.pending number actions other) := by
  intro other found hfound
  by_cases hsame : other = number
  · subst hsame
    rw [Function.update_self] at hfound ⊢
    exact hown found hfound
  · rw [Function.update_of_ne hsame] at hfound ⊢
    exact h.pending other found hfound

theorem Serial.pending_end (h : Serial config start state) (number : Nat) :
    ∀ other, ∀ found ∈ Function.update state.adapter.transactions number none other,
      found.MadeBy config (state.pending other) := by
  rw [← Function.update_eq_self number state.pending]
  exact h.pending_update number fun _ hfound => by cases hfound

theorem logStep_serial {event : Event ω} (h : Serial config start state)
    (hisolated : Isolated config state event) : Serial config start (logStep config state event) := by
  cases event with
  | call call operation => exact ⟨h.live.perform hisolated call operation, h.pending⟩
  | start number =>
    cases hnumber : state.adapter.transactions number with
    | some transaction => simpa [logStep, step, finished, underway, hnumber] using h
    | none =>
      refine ⟨by simpa [logStep, step, finished, hnumber] using h.live, ?_⟩
      simp only [logStep, step, underway, hnumber]
      refine h.pending_update number ?_
      rintro _ ⟨⟩
      exact ⟨.refl _, fun _ => id⟩
  | inside number call operation =>
    cases hnumber : state.adapter.transactions number with
    | none => simpa [logStep, step, finished, underway, hnumber] using h
    | some transaction =>
      obtain ⟨hleads, hkept⟩ := h.pending number transaction hnumber
      refine ⟨by simpa [logStep, step, finished, hnumber] using h.live, ?_⟩
      simp only [logStep, step, underway, hnumber]
      refine h.pending_update number ?_
      rintro _ ⟨⟩
      exact ⟨hleads.perform (hisolated transaction hnumber) call operation,
        fun name hname => perform_isSome (hkept name hname)⟩
  | commit number =>
    cases hnumber : state.adapter.transactions number with
    | none => simpa [logStep, step, finished, underway, hnumber] using h
    | some transaction =>
      obtain ⟨hleads, hkept⟩ := h.pending number transaction hnumber
      obtain ⟨hlive, hworking, hrows⟩ := hisolated transaction hnumber
      have hmerged := h.live.commit hleads hlive hworking hkept (fun key => (hrows key).1) fun key => (hrows key).2
      constructor
      · simp only [logStep, step, finished, hnumber, memory.commit]
        cases validateUniqueTables config.library config.schema
            (mergeTransaction config.library state.adapter.live transaction.base transaction.working) with
        | error failure => simpa using h.live
        | ok => exact hmerged
      · simp only [logStep, step, underway, hnumber]
        exact h.pending_end number
  | rollback number =>
    refine ⟨by simpa [logStep, step, finished] using h.live, ?_⟩
    simp only [logStep, step, underway]
    exact h.pending_end number

theorem serial_unlogged (start : Tables) : Serial config start (unlogged start) :=
  ⟨.refl start, fun _ _ hnone => by cases hnone⟩

/-! ## Sums -/

theorem wrap_add (kind : IntKind) (value other : Int) : kind.wrap (kind.wrap value + other) = kind.wrap (value + other) := by
  have hwrap : BitVec.ofInt kind.bits (kind.wrap value) = BitVec.ofInt kind.bits value := by
    unfold IntKind.wrap
    split
    · exact BitVec.ofInt_toInt
    · rw [BitVec.ofInt_natCast, BitVec.ofNat_toNat, BitVec.setWidth_eq]
  have hsum : BitVec.ofInt kind.bits (kind.wrap value + other) = BitVec.ofInt kind.bits (value + other) := by
    rw [BitVec.ofInt_add, BitVec.ofInt_add, hwrap]
  rw [IntKind.wrap, hsum, IntKind.wrap]

/-- An integer takes whole numbers as an integer, an unsigned one those that are not
negative. -/
def Takes (library : Library) (kind : IntKind) (delta : Number binary64) : Prop :=
  isIntegral library delta = true ∧ (kind.signed = true ∨ less delta 0 = false)

/-- Whole numbers are added to an integer as their sum. -/
theorem foldl_plus_int {library : Library} {kind : IntKind} {deltas : List (Number binary64)}
    (htakes : ∀ delta ∈ deltas, Takes library kind delta) {value : Int} (hvalue : kind.wrap value = value) :
    deltas.foldl (plus library) (.int kind value) =
      .int kind (kind.wrap (value + (deltas.map (library.truncate kind)).sum)) := by
  induction deltas generalizing value with
  | nil => simp [hvalue]
  | cons delta rest ih =>
    obtain ⟨hintegral, hsign⟩ := htakes delta List.mem_cons_self
    have hplus : plus library (.int kind value) delta = .int kind (kind.wrap (value + library.truncate kind delta)) := by
      have hcondition : (isIntegral library delta && (kind.signed || !less delta 0)) = true := by
        rw [hintegral, Bool.true_and, Bool.or_eq_true, Bool.not_eq_true']
        exact hsign
      simp only [plus, numericValue, Option.isSome_some, if_true, addNumeric]
      rw [if_pos hcondition]
    have hwrapped : kind.wrap (kind.wrap (value + library.truncate kind delta)) =
        kind.wrap (value + library.truncate kind delta) := by
      simpa using wrap_add kind (value + library.truncate kind delta) 0
    rw [List.foldl_cons, hplus, ih (fun other hmem => htakes other (List.mem_cons_of_mem _ hmem)) hwrapped, wrap_add,
      List.map_cons, List.sum_cons, Int.add_assoc]

/-- The committed calls that added to a field, where no other committed call changed
the field, have led to their sum. -/
theorem Leads.fieldValue_eq (h : Leads config first actions last) {field : String}
    (honly : ∀ action ∈ actions, (action.delta config key field).isSome ∨
      fieldValue (action.after config key) field = fieldValue (action.before config key) field) :
    fieldValue (rowOf config.library last key) field =
      (actions.filterMap (Action.delta config key field)).foldl (plus config.library)
        (fieldValue (rowOf config.library first key) field) := by
  rw [List.foldl_filterMap]
  refine (h.linear key).foldl (fieldValue · field) _ (fun action hmem _ => ?_) fun action _ huntouched value => ?_
  · cases hdelta : action.delta config key field with
    | some delta => simpa using Action.delta_spec hdelta (h.keyed action hmem)
    | none => simpa [hdelta] using honly action hmem
  · cases hdelta : action.delta config key field with
    | some delta => exact absurd (Action.touches_of_delta hdelta) huntouched
    | none => rfl

/-- Two committed calls that consumed the row of one key: it was created again between
them. -/
theorem Leads.exists_created {front between behind : List (Action ω)} {left right : Action ω}
    (h : Leads config first (front ++ left :: between ++ right :: behind) last)
    (hleft : left.consumed config = some key) (hright : right.consumed config = some key) :
    ∃ action ∈ between, action.before config key = none ∧ (action.after config key).isSome := by
  obtain ⟨hleftBefore, hleftAfter⟩ := Action.consumed_spec hleft (h.keyed left (by simp))
  obtain ⟨hrightBefore, hrightAfter⟩ := Action.consumed_spec hright (h.keyed right (by simp))
  have htouches : ∀ action : Action ω, (action.before config key).isSome → action.after config key = none →
      action.Touches config key := by
    intro action hbefore hafter
    refine .inl fun hsame => ?_
    rw [← hsame, hafter] at hbefore
    cases hbefore
  obtain ⟨action, hmem, hbefore, hafter⟩ := (h.linear key).exists_between (fun row => row.isSome)
    (htouches left hleftBefore hleftAfter) (htouches right hrightBefore hrightAfter) (by simp [hleftAfter]) hrightBefore
  exact ⟨action, hmem, by simpa using hbefore, hafter⟩

/-! ## Atomicity -/

/-- Through direct calls and transactions in any order, as long as no transaction
commits a change of a row that was changed outside since it started: a stored row
is consumed by at most one committed call, and a field that committed calls only
add to holds its first value plus everything that they added. -/
theorem reached_atomic {start : Tables} {state : LoggedState ω}
    (hreached : Reached (logStep config) (Isolated config) (unlogged start) state) :
    (∀ key front left between right behind, state.committed = front ++ left :: between ++ right :: behind →
      left.consumed config = some key → right.consumed config = some key →
        ∃ action ∈ between, action.before config key = none ∧ (action.after config key).isSome) ∧
      ∀ key field,
        (∀ action ∈ state.committed, (action.delta config key field).isSome ∨
          fieldValue (action.after config key) field = fieldValue (action.before config key) field) →
        let deltas := state.committed.filterMap (Action.delta config key field)
        let first := fieldValue (rowOf config.library start key) field
        let last := fieldValue (rowOf config.library state.adapter.live key) field
        last = deltas.foldl (plus config.library) first ∧
          ∀ kind value, first = .int kind value → kind.wrap value = value →
            (∀ delta ∈ deltas, Takes config.library kind delta) →
              last = .int kind (kind.wrap (value + (deltas.map (config.library.truncate kind)).sum)) := by
  have hserial : Serial config start state :=
    hreached.invariant (Serial config start) (serial_unlogged start) fun _ _ => logStep_serial
  constructor
  · intro key front left between right behind hcommitted hleft hright
    have hleads := hserial.live
    rw [hcommitted] at hleads
    exact hleads.exists_created hleft hright
  intro key field honly deltas first last
  have hlast : last = deltas.foldl (plus config.library) first := hserial.live.fieldValue_eq honly
  refine ⟨hlast, fun kind value hfirst hvalue htakes => ?_⟩
  rw [hlast, hfirst, foldl_plus_int htakes hvalue]

end

/-! ## A table of tokens -/

private def tokenConfig : Config Unit where
  library := textLibrary
  schema := { models := .ofEntries [("token", { modelName := "token", fields := .empty })], usePlural := false }
  valid := by rfl
  capabilities := { json := true, dates := true, booleans := true, arrays := true }
  idGenerator := fun _ _ => .error "no id"

private def createToken : Event Unit := .call { world := () } (.create "token" [("id", .string "1")] [] true)

private def consumeToken : Operation := .consumeOne "token" [{ field := "id", value := .string "1" }]

private def tokenKey : RowKey := ⟨"token", "string:1"⟩

private def keyedCheck (tables : Tables) : Bool :=
  tables.entries.all fun (_, rows) => decide ((rows.map (rowIdentity tokenConfig.library)).Nodup)

private theorem keyedTables_of_check {tables : Tables} (h : keyedCheck tables = true) :
    KeyedTables tokenConfig.library tables := by
  intro name rows hrows
  have hentry := List.all_eq_true.mp h (name, rows) (Dict.get?_eq_some_iff.mp hrows)
  have hnodup : (rows.map (rowIdentity tokenConfig.library)).Nodup := of_decide_eq_true hentry
  exact hnodup

/-- A check of the calls; a commit is looked at by itself. -/
private def callCheck (state : LoggedState Unit) : Event Unit → Bool
  | .call _ _ => keyedCheck state.adapter.live
  | .inside number _ _ => (state.adapter.transactions number).all fun transaction => keyedCheck transaction.working
  | .commit _ => false
  | _ => true

private theorem isolated_of_check {state : LoggedState Unit} {event : Event Unit} (h : callCheck state event = true) :
    Isolated tokenConfig state event := by
  cases event with
  | call call operation => exact keyedTables_of_check h
  | inside number call operation =>
    intro transaction htransaction
    rw [callCheck, Option.mem_def.mp htransaction] at h
    exact keyedTables_of_check h
  | commit number => cases h
  | start number => trivial
  | rollback number => trivial

private def consumedInside : LoggedState Unit :=
  [createToken, .start 0, .inside 0 { world := () } consumeToken].foldl (logStep tokenConfig)
    (unlogged (new tokenConfig).live)

/-- Nothing has happened outside, and nothing is left inside. -/
private theorem isolated_consumedInside : Isolated tokenConfig consumedInside (.commit 0) := by
  intro transaction htransaction
  have hlive : consumedInside.adapter.live = transaction.base :=
    congrArg (fun found => (found.map Transaction.base).getD .empty) (Option.mem_def.mp htransaction)
  have hworking : transaction.working.entries.all (fun (_, rows) => rows.isEmpty) = true := by
    have hentries : ((consumedInside.adapter.transactions 0).all fun transaction =>
        transaction.working.entries.all fun (_, rows) => rows.isEmpty) = true := by decide
    simpa [Option.mem_def.mp htransaction] using hentries
  refine ⟨keyedTables_of_check (by decide), ?_, fun key => ⟨fun _ => by rw [hlive], ?_⟩⟩
  · intro name rows hrows
    have hempty := List.all_eq_true.mp hworking _ (Dict.get?_eq_some_iff.mp hrows)
    rw [List.isEmpty_iff.mp hempty]
    exact List.nodup_nil
  intro old _ new hnew
  have hmem := mem_of_lookup (Option.mem_def.mp hnew)
  cases htable : transaction.working.get? key.table with
  | none => simp [htable] at hmem
  | some rows =>
    have hempty := List.all_eq_true.mp hworking _ (Dict.get?_eq_some_iff.mp htable)
    simp [htable, List.isEmpty_iff.mp hempty] at hmem

/-- A token that is consumed in a transaction, created again and consumed by a direct
call. -/
theorem reached_atomic_token :
    let state := [createToken, .call { world := () } consumeToken].foldl (logStep tokenConfig)
      (logStep tokenConfig consumedInside (.commit 0))
    state.committed.map (Action.consumed tokenConfig) = [none, some tokenKey, none, some tokenKey] ∧
      ∃ action ∈ state.committed.drop 2, action.before tokenConfig tokenKey = none ∧
        (action.after tokenConfig tokenKey).isSome := by
  intro state
  have hinside : Reached (logStep tokenConfig) (Isolated tokenConfig) (unlogged (new tokenConfig).live) consumedInside :=
    Reached.start.of_admits (fun _ _ => isolated_of_check) (by decide)
  have hreached : Reached (logStep tokenConfig) (Isolated tokenConfig) (unlogged (new tokenConfig).live) state :=
    (hinside.next isolated_consumedInside).of_admits (fun _ _ => isolated_of_check) (by decide)
  have hconsumed : state.committed.map (Action.consumed tokenConfig) = [none, some tokenKey, none, some tokenKey] := by
    decide
  refine ⟨hconsumed, ?_⟩
  have hlength := congrArg List.length hconsumed
  rw [List.length_map] at hlength
  obtain ⟨first, second, third, fourth, hcommitted⟩ := List.length_eq_four.mp hlength
  rw [hcommitted] at hconsumed ⊢
  simp only [List.map_cons, List.map_nil, List.cons.injEq, and_true] at hconsumed
  obtain ⟨action, hmem, hbefore, hafter⟩ := (reached_atomic hreached).1 tokenKey [first] second [third] fourth []
    hcommitted hconsumed.2.1 hconsumed.2.2.2
  exact ⟨action, List.mem_cons.mpr (.inl (List.mem_singleton.mp hmem)), hbefore, hafter⟩

/-- Two transactions that both started before the other one committed may both consume
a token. -/
theorem transactions_consume_twice :
    ¬ ∀ (config : Config Unit) (state : LoggedState Unit),
      Reached (logStep config) (fun _ _ => True) (unlogged (new config).live) state →
        ∀ key front left between right behind, state.committed = front ++ left :: between ++ right :: behind →
          left.consumed config = some key → right.consumed config = some key →
            ∃ action ∈ between, action.before config key = none ∧ (action.after config key).isSome := by
  intro h
  let state := [createToken, .start 0, .start 1, .inside 0 { world := () } consumeToken,
    .inside 1 { world := () } consumeToken, .commit 0, .commit 1].foldl (logStep tokenConfig)
      (unlogged (new tokenConfig).live)
  have hconsumed : state.committed.map (Action.consumed tokenConfig) = [none, some tokenKey, some tokenKey] := by
    decide
  have hlength := congrArg List.length hconsumed
  rw [List.length_map] at hlength
  obtain ⟨first, second, third, hcommitted⟩ := List.length_eq_three.mp hlength
  rw [hcommitted] at hconsumed
  simp only [List.map_cons, List.map_nil, List.cons.injEq, and_true] at hconsumed
  obtain ⟨action, hmem, _⟩ := h tokenConfig state (Reached.start.foldl fun _ _ _ => trivial) tokenKey [first] second []
    third [] hcommitted hconsumed.2.1 hconsumed.2.2
  exact absurd hmem List.not_mem_nil

end singleauth.memory
