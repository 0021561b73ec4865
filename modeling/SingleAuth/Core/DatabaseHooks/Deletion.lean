import Mathlib.Data.List.Perm.Basic
import SingleAuth.Core.DatabaseHooks

open dict fallible singleauth.storage singleauth.memory

namespace singleauth.core

/-! ## Traces -/

section

variable {σ α β ω : Type} {later progress : Progress σ} {first second : List HookEvent} {entries : List (DatabaseHookEntry σ)}
  {model named name : String} {number hook : Nat} {rows : List Record} {entry : DatabaseHookEntry σ}
  {clauses : List Where} {find write : Call ω} {kind : Deletion} {config : Config ω} {finish : Nat → Outcome}
  {after tables : Tables} {outcome : Outcome} {world : ω}

theorem Step.andThen_eq_ok_iff {first : Step σ α} {next : α → Step σ β} {result : β} :
    first.andThen next progress = (.ok result, later) ↔
      ∃ value middle, first progress = (.ok value, middle) ∧ next value middle = (.ok result, later) := by
  unfold Step.andThen
  rcases first progress with ⟨_ | value, middle⟩
  · simp
  · simp

/-- The before hooks of a row, in the order in which they let it pass. -/
def beforeEvents (model : String) (operation : HookOperation) (row : Record) :
    Nat → List (DatabaseHookEntry σ) → List HookEvent
  | _, [] => []
  | number, entry :: rest =>
    match (entry.find model operation).before with
    | none => beforeEvents model operation row (number + 1) rest
    | some _ => .before number model row false :: beforeEvents model operation row (number + 1) rest

def afterEvents (queues : Bool) (model : String) (operation : HookOperation) (value : Outcome) :
    Nat → List (DatabaseHookEntry σ) → List HookEvent
  | _, [] => []
  | number, entry :: rest =>
    match (entry.find model operation).after with
    | none => afterEvents queues model operation value (number + 1) rest
    | some _ =>
      (if queues then .queued number model value else .after number model value) ::
        afterEvents queues model operation value (number + 1) rest

/-- The adapter writes nothing. -/
def Quiet (events : List HookEvent) : Prop := ∀ earlier later, .wrote earlier later ∉ events

theorem Quiet.append (hfirst : Quiet first) (hsecond : Quiet second) : Quiet (first ++ second) := by
  intro earlier later hmem
  rcases List.mem_append.mp hmem with hmem | hmem
  · exact hfirst earlier later hmem
  · exact hsecond earlier later hmem

theorem beforeEvents_eq (model : String) (operation : HookOperation) (row : Record) (number : Nat)
    (entries : List (DatabaseHookEntry σ)) :
    beforeEvents model operation row number entries = (entries.zipIdx number).filterMap fun entry =>
      (entry.1.find model operation).before.map fun _ => .before entry.2 model row false := by
  induction entries generalizing number with
  | nil => rfl
  | cons entry rest ih =>
    rw [beforeEvents, List.zipIdx_cons, List.filterMap_cons, ← ih]
    cases (entry.find model operation).before <;> rfl

theorem afterEvents_eq (queues : Bool) (model : String) (operation : HookOperation) (value : Outcome) (number : Nat)
    (entries : List (DatabaseHookEntry σ)) :
    afterEvents queues model operation value number entries = (entries.zipIdx number).filterMap fun entry =>
      (entry.1.find model operation).after.map fun _ =>
        if queues then .queued entry.2 model value else .after entry.2 model value := by
  induction entries generalizing number with
  | nil => rfl
  | cons entry rest ih =>
    rw [afterEvents, List.zipIdx_cons, List.filterMap_cons, ← ih]
    cases (entry.find model operation).after <;> rfl

/-- The before hooks leave their events. They write nothing through the executor, and unless one cancels,
all of them have run. -/
theorem beforeFrom_ok {operation : HookOperation} {original actual : Record} {chainActual : Bool} {result : Option Record}
    (h : beforeFrom model operation original chainActual number entries actual progress = (.ok result, later)) :
    ∃ events, later.trace = progress.trace ++ events ∧ Quiet events ∧
      (result.isSome → events = beforeEvents model operation original number entries) := by
  induction entries generalizing number actual progress with
  | nil =>
    cases h
    exact ⟨[], by simp, by simp [Quiet], fun _ => rfl⟩
  | cons entry rest ih =>
    unfold beforeFrom at h
    unfold beforeEvents
    cases hhook : (entry.find model operation).before with
    | none =>
      rw [hhook] at h
      exact ih h
    | some hook =>
      rw [hhook] at h
      dsimp only at h
      split at h
      · cases h
      rename_i answer surroundings hanswer
      split at h
      · cases h
        exact ⟨_, rfl, by simp [Quiet], by simp⟩
      rename_i hcancel
      obtain ⟨events, htrace, hquiet, hevents⟩ := ih h
      refine ⟨.before number model original false :: events, ?_, ?_, ?_⟩
      · simpa [hcancel] using htrace
      · simpa [Quiet] using hquiet
      · intro hresult
        rw [hevents hresult]

theorem afterFrom_ok {queues : Bool} {operation : HookOperation} {value : Outcome}
    (h : afterFrom queues model operation value number entries progress = (.ok (), later)) :
    later.trace = progress.trace ++ afterEvents queues model operation value number entries := by
  induction entries generalizing number progress with
  | nil =>
    cases h
    simp [afterEvents]
  | cons entry rest ih =>
    unfold afterFrom at h
    unfold afterEvents
    cases hhook : (entry.find model operation).after with
    | none =>
      rw [hhook] at h
      exact ih h
    | some hook =>
      rw [hhook] at h
      dsimp only at h
      split at h
      · next hqueues =>
        have htrace := ih h
        simpa [hqueues] using htrace
      rename_i hqueues
      split at h
      · cases h
      · have htrace := ih h
        simpa [hqueues] using htrace

variable {executor : HookedExecutor ω σ}

theorem beforeRows_ok {allowed : Bool} (h : executor.beforeRows model rows progress = (.ok allowed, later)) :
    ∃ events, later.trace = progress.trace ++ events ∧ Quiet events ∧
      (allowed = true → events = rows.flatMap fun row => beforeEvents model .delete row 0 executor.registry) := by
  induction rows generalizing progress with
  | nil =>
    cases h
    exact ⟨[], by simp, by simp [Quiet], fun _ => rfl⟩
  | cons row rest ih =>
    obtain ⟨result, middle, hbefore, h⟩ := Step.andThen_eq_ok_iff.mp h
    obtain ⟨events, htrace, hquiet, hevents⟩ := beforeFrom_ok hbefore
    cases result with
    | none =>
      cases h
      exact ⟨events, htrace, hquiet, by simp⟩
    | some data =>
      obtain ⟨others, hothers, hquietOthers, hrest⟩ := ih h
      refine ⟨events ++ others, ?_, hquiet.append hquietOthers, ?_⟩
      · rw [hothers, htrace, List.append_assoc]
      · intro hallowed
        rw [hrest hallowed, hevents rfl, List.flatMap_cons]

theorem afterRows_ok (h : executor.afterRows model rows progress = (.ok (), later)) :
    later.trace = progress.trace ++ rows.flatMap fun row =>
      afterEvents executor.queues model .delete (.record (some row)) 0 executor.registry := by
  induction rows generalizing progress with
  | nil =>
    cases h
    simp
  | cons row rest ih =>
    obtain ⟨_, middle, hafter, h⟩ := Step.andThen_eq_ok_iff.mp h
    rw [ih h, afterFrom_ok hafter, List.flatMap_cons, List.append_assoc]

/-- The rows of a model that a before hook has let pass. -/
def passed (hook : Nat) (model : String) (events : List HookEvent) : List Record :=
  events.filterMap fun
    | .before number named row false => if number = hook ∧ named = model then some row else none
    | _ => none

/-- The rows of a model that an after hook has been called with, or is queued for. -/
def followed (hook : Nat) (model : String) (events : List HookEvent) : List Record :=
  events.filterMap fun
    | .after number named (.record row) | .queued number named (.record row) =>
      if number = hook ∧ named = model then row else none
    | _ => none

/-- The hook of an entry with a given number, of all the numbered entries that have one, is there once. -/
theorem filterMap_zipIdx {α β γ : Type} (hookOf : α → Option β) {entry : α} {entries : List α} {index : Nat}
    (hentry : entries[index]? = some entry) (hhook : (hookOf entry).isSome) (result : γ) (number : Nat) :
    ((entries.zipIdx number).filterMap fun entry =>
        (hookOf entry.1).bind fun _ => if entry.2 = number + index then some result else none) = [result] := by
  induction entries generalizing number index with
  | nil => cases hentry
  | cons first rest ih =>
    rw [List.zipIdx_cons, List.filterMap_cons]
    cases index with
    | zero =>
      obtain rfl : first = entry := by simpa using hentry
      obtain ⟨called, hcalled⟩ := Option.isSome_iff_exists.mp hhook
      have hrest : ((rest.zipIdx (number + 1)).filterMap fun entry =>
          (hookOf entry.1).bind fun _ => if entry.2 = number + 0 then some result else none) = [] := by
        rw [List.filterMap_eq_nil_iff]
        intro entry hentry
        have hlater := List.le_snd_of_mem_zipIdx hentry
        rw [if_neg (by omega), Option.bind_fun_none]
      rw [hrest]
      simp [hcalled]
    | succ index =>
      have hnext := ih hentry (number + 1)
      rw [show number + 1 + index = number + (index + 1) by omega] at hnext
      simpa using hnext

/-- A before hook of a model is shown the rows that the executor goes through, if these are of that model. -/
theorem passed_rows (rows : List Record)
    (hentry : executor.registry[hook]? = some entry) (hhook : (entry.find model .delete).before.isSome) :
    passed hook model (rows.flatMap fun row => beforeEvents named .delete row 0 executor.registry) =
      if named = model then rows else [] := by
  rw [passed, List.filterMap_flatMap]
  simp only [beforeEvents_eq, List.filterMap_filterMap, Option.bind_map, Function.comp_def]
  by_cases hmodel : named = model
  · subst hmodel
    have hrow := fun row : Record => filterMap_zipIdx (·.find named .delete |>.before) hentry hhook row 0
    simp only [Nat.zero_add] at hrow
    simp [hrow]
  · simp [hmodel]

theorem followed_rows (rows : List Record)
    (hentry : executor.registry[hook]? = some entry) (hhook : (entry.find model .delete).after.isSome) :
    followed hook model (rows.flatMap fun row =>
        afterEvents executor.queues named .delete (.record (some row)) 0 executor.registry) =
      if named = model then rows else [] := by
  rw [followed, List.filterMap_flatMap]
  simp only [afterEvents_eq, List.filterMap_filterMap, Option.bind_map, Function.comp_def]
  by_cases hmodel : named = model
  · subst hmodel
    have hrow := fun row : Record => filterMap_zipIdx (·.find named .delete |>.after) hentry hhook row 0
    simp only [Nat.zero_add] at hrow
    cases executor.queues <;> simp [hrow]
  · cases executor.queues <;> simp [hmodel]

/-! ## Deletions -/

inductive Deletion where
  | one | many
  deriving DecidableEq

/-- The limit of the query for the rows that hooks are shown. -/
def Deletion.limit : Deletion → Option Int
  | .one => some 1
  | .many => none

def Deletion.operation (model : String) (clauses : List Where) : Deletion → Operation
  | .one => .delete model clauses
  | .many => .deleteMany model clauses

variable (executor)

def HookedExecutor.remove (find write : Call ω) (model : String) (clauses : List Where) : Deletion → Step σ Unit
  | .one => executor.delete find write model clauses
  | .many => (executor.deleteMany find write model clauses).andThen fun _ => done ()

def HookedExecutor.shown (find : Call ω) (model : String) (clauses : List Where) (kind : Deletion)
    (progress : Progress σ) : List Record :=
  executor.snapshot find { model, clauses, limit := kind.limit } progress

/-- The rows that the adapter takes away. `Delete` takes none where it is given no clause. -/
def HookedExecutor.doomed (write : Call ω) (model : String) (clauses : List Where) (kind : Deletion)
    (tables : Tables) : Except StorageError (List Record) := do
  let (model, encoded) ← prepareQuery executor.config write model clauses
  if kind = .one ∧ encoded = [] then return [] else selectRows executor.config tables model encoded

variable {executor} {shown : List Record} {last : Progress σ}

theorem shown_eq :
    executor.shown find model clauses kind progress =
      (executor.findMany find { model, clauses, limit := kind.limit } progress).toOption.getD [] := rfl

theorem length_shown_one (find : Call ω) (model : String) (clauses : List Where) (progress : Progress σ) :
    (executor.shown find model clauses .one progress).length ≤ 1 := by
  rw [shown_eq]
  cases hfound : executor.findMany find { model, clauses, limit := Deletion.one.limit } progress with
  | error failure => simp [Except.toOption]
  | ok records =>
    obtain ⟨_, _, selected, _, _, _, hrecords, _⟩ := findMany_eq_ok_iff.mp hfound
    have hlength := hrecords.length_eq
    simp only [Deletion.limit, Option.getD_some, List.length_take] at hlength
    simp only [Except.toOption, Option.getD_some]
    omega

/-- A call that succeeds has found nothing to delete, or a hook has cancelled it, or it has gone through the rows
before and after the adapter wrote. -/
theorem remove_ok
    (h : executor.remove find write model clauses kind progress = (.ok (), last))
    (hshown : executor.shown find model clauses kind progress = shown) :
    kind = .one ∧ shown = [] ∧ last = progress ∨ executor.beforeRows model shown progress = (.ok false, last) ∨
      ∃ middle outcome written, (kind = .one → shown ≠ []) ∧
        executor.beforeRows model shown progress = (.ok true, middle) ∧
        executor.perform write (kind.operation model clauses) middle = (.ok outcome, written) ∧
        executor.afterRows model shown written = (.ok (), last) := by
  subst hshown
  cases kind with
  | one =>
    have hshort : (executor.shown find model clauses .one progress).length ≤ 1 := length_shown_one find model clauses progress
    have hsnapshot : executor.snapshot find { model, clauses, limit := some 1 } progress =
        executor.shown find model clauses .one progress := rfl
    unfold HookedExecutor.remove HookedExecutor.delete at h
    dsimp only at h
    rw [hsnapshot] at h
    cases hshown : executor.shown find model clauses .one progress with
    | nil =>
      rw [hshown] at h
      cases h
      exact .inl ⟨rfl, rfl, rfl⟩
    | cons row rest =>
      rw [hshown] at h hshort
      have hrest : rest = [] := List.length_eq_zero_iff.mp (by simpa using hshort)
      subst hrest
      obtain ⟨result, middle, hbefore, h⟩ := Step.andThen_eq_ok_iff.mp h
      refine .inr ?_
      cases result with
      | none =>
        cases h
        exact .inl (Step.andThen_eq_ok_iff.mpr ⟨none, last, hbefore, rfl⟩)
      | some data =>
        obtain ⟨outcome, written, hwritten, hafter⟩ := Step.andThen_eq_ok_iff.mp h
        refine .inr ⟨middle, outcome, written, by simp, ?_, hwritten, ?_⟩
        · exact Step.andThen_eq_ok_iff.mpr ⟨some data, middle, hbefore, rfl⟩
        · exact Step.andThen_eq_ok_iff.mpr ⟨(), last, hafter, rfl⟩
  | many =>
    obtain ⟨deleted, final, h, hfinal⟩ := Step.andThen_eq_ok_iff.mp h
    cases hfinal
    obtain ⟨allowed, middle, hbefore, h⟩ := Step.andThen_eq_ok_iff.mp h
    refine .inr ?_
    cases allowed with
    | false =>
      cases h
      exact .inl hbefore
    | true =>
      obtain ⟨outcome, written, hwritten, h⟩ := Step.andThen_eq_ok_iff.mp h
      obtain ⟨_, final, hafter, h⟩ := Step.andThen_eq_ok_iff.mp h
      cases h
      exact .inr ⟨middle, _, written, by simp, hbefore, hwritten, hafter⟩

/-- The rows that a query selects and those it leaves are all the rows. -/
theorem deleteMatching_perm {clauses : List Clause}
    {marked : List (Record × Bool)} (h : filterRows config.library clauses rows = .ok marked) :
    rows.Perm ((deleteMatching config clauses finish rows).1 ++
      (marked.filter fun (_, selected) => selected).map Prod.fst) := by
  have hrows := map_fst_filterRows h
  unfold deleteMatching
  rw [h]
  rw [← hrows, ← List.map_append]
  apply List.Perm.map
  have hsplit := List.filter_append_perm (fun entry : Record × Bool => !entry.2) marked
  simp only [Bool.not_not] at hsplit
  exact hsplit.symm

theorem onTable_deleteMatching {model : ResolvedModel ω} {clauses : List Clause}
    (h : onTable config.library tables model.physical (deleteMatching config clauses finish) = (after, .ok outcome)) :
    ∃ removed, selectRows config tables model clauses = .ok removed ∧
      ((tables.get? model.physical).getD []).Perm ((after.get? model.physical).getD [] ++ removed) ∧
      ∀ other, other ≠ model.physical → after.get? other = tables.get? other := by
  unfold onTable at h
  cases hrows : tables.get? model.physical with
  | none =>
    rw [hrows] at h
    cases h
  | some rows =>
    rw [hrows] at h
    obtain ⟨rfl, hresult⟩ := Prod.mk.inj h
    have hmarked : ∃ marked, filterRows config.library clauses rows = .ok marked := by
      unfold deleteMatching at hresult
      cases hfiltered : filterRows config.library clauses rows with
      | error failure =>
        rw [hfiltered] at hresult
        cases hresult
      | ok marked => exact ⟨marked, rfl⟩
    obtain ⟨marked, hmarked⟩ := hmarked
    refine ⟨_, selectRows_eq_ok_iff.mpr ⟨rows, marked, hrows, hmarked, rfl⟩, ?_, ?_⟩
    · rw [Dict.get?_set_self]
      exact deleteMatching_perm hmarked
    · exact fun other hother => Dict.get?_set_of_ne tables _ hother

/-- What the adapter writes when it deletes: the table without the doomed rows. -/
theorem perform_ok {middle written : Progress σ}
    (h : executor.perform write (kind.operation name clauses) middle = (.ok outcome, written)) :
    written.trace = middle.trace ++ [.wrote middle.surroundings.tables written.surroundings.tables] ∧
      ∃ physical removed, executor.doomed write name clauses kind middle.surroundings.tables = .ok removed ∧
        ((middle.surroundings.tables.get? physical).getD []).Perm
          ((written.surroundings.tables.get? physical).getD [] ++ removed) ∧
        ∀ other, other ≠ physical → written.surroundings.tables.get? other = middle.surroundings.tables.get? other := by
  unfold HookedExecutor.perform at h
  obtain ⟨hresult, rfl⟩ := Prod.mk.inj h
  rw [mapError_eq_ok_iff] at hresult
  refine ⟨rfl, ?_⟩
  generalize middle.surroundings.tables = tables at hresult ⊢
  unfold HookedExecutor.doomed
  cases hprepared : prepareQuery executor.config write name clauses with
  | error failure => cases kind <;> simp [Deletion.operation, memory.delete, memory.deleteMany, hprepared] at hresult
  | ok prepared =>
    obtain ⟨model, encoded⟩ := prepared
    cases kind with
    | one =>
      simp only [Deletion.operation, memory.delete, hprepared] at hresult ⊢
      by_cases hempty : encoded = []
      · rw [if_pos hempty]
        exact ⟨model.physical, [], bind_eq_ok_iff.mpr ⟨_, rfl, if_pos ⟨trivial, hempty⟩⟩, by simp, fun _ _ => rfl⟩
      rw [if_neg hempty] at hresult ⊢
      obtain ⟨removed, hremoved, hperm, hothers⟩ := onTable_deleteMatching (Prod.ext rfl hresult)
      exact ⟨model.physical, removed, bind_eq_ok_iff.mpr ⟨_, rfl, (if_neg fun h => hempty h.2).trans hremoved⟩, hperm,
        hothers⟩
    | many =>
      simp only [Deletion.operation, memory.deleteMany, hprepared] at hresult ⊢
      obtain ⟨removed, hremoved, hperm, hothers⟩ := onTable_deleteMatching (Prod.ext rfl hresult)
      refine ⟨model.physical, removed, bind_eq_ok_iff.mpr ⟨_, rfl, ?_⟩, hperm, hothers⟩
      exact (if_neg fun h => Deletion.noConfusion h.1).trans hremoved

/-! ## Rows that pass their hooks -/

variable (executor)

/-- For each of the rows there is one of its own among the records. -/
def Covers (config : Config ω) (model : ResolvedModel ω) (world : ω) (records rows : List Record) : Prop :=
  ∃ decoded, List.Forall₂ (fun raw record => decodeRecord config model world raw [] = .ok record) rows decoded ∧
    decoded.Subperm records

/-- Every row that leaves a table has been shown to each before hook of its model, which let it pass, and is shown
to each after hook, at once or when the transaction ends. -/
def Accounted (model : ResolvedModel ω) (world : ω) (trace : List HookEvent) : Prop :=
  ∀ early earlier later late, trace = early ++ .wrote earlier later :: late →
    ∀ physical removed, ((earlier.get? physical).getD []).Perm ((later.get? physical).getD [] ++ removed) →
      ∀ hook entry, executor.registry[hook]? = some entry →
        ((entry.find model.canonical .delete).before.isSome →
          Covers executor.config model world (passed hook model.canonical early) removed) ∧
        ((entry.find model.canonical .delete).after.isSome →
          Covers executor.config model world (followed hook model.canonical late) removed)

def Hooked (model : String) : Prop :=
  ∃ entry ∈ executor.registry, (entry.find model .delete).before.isSome ∨ (entry.find model .delete).after.isSome

/-- The table, and the world that the schema reads, are as they were when the rows were asked for. -/
def Undisturbed (find write : Call ω) (model : ResolvedModel ω) (progress middle : Progress σ) : Prop :=
  middle.surroundings.tables.get? model.physical = progress.surroundings.tables.get? model.physical ∧
    find.world = write.world

/-- The rows that are deleted are those that hooks are shown. Where the hooks leave the table and the world as they
are, this is so if the query for the rows succeeds and its limit is not less than their number. -/
structure ShowsDoomed (find write : Call ω) (name : String) (clauses : List Where) (kind : Deletion)
    (model : ResolvedModel ω) (progress middle : Progress σ) (doomed : List Record) : Prop where
  undisturbed : Undisturbed find write model progress middle →
    (∃ records, executor.findMany find { model := name, clauses, limit := kind.limit } progress = .ok records) ∧
      doomed.length ≤ (kind.limit.getD executor.defaultLimit).toNat
  disturbed : ¬ Undisturbed find write model progress middle →
    Covers executor.config model find.world (executor.shown find name clauses kind progress) doomed

/-- Unless a hook cancels the call: the model has no hooks for deletions, or nothing is deleted, or the call uses the
canonical name of the model and hooks are shown what is deleted. -/
def ShowsAll (find write : Call ω) (name : String) (clauses : List Where) (kind : Deletion) (model : ResolvedModel ω)
    (progress : Progress σ) : Prop :=
  ∀ middle doomed,
    executor.beforeRows name (executor.shown find name clauses kind progress) progress = (.ok true, middle) →
    executor.doomed write name clauses kind middle.surroundings.tables = .ok doomed →
      (kind = .one ∧ executor.shown find name clauses kind progress = []) ∨ ¬ Hooked executor model.canonical ∨
        doomed = [] ∨ name = model.canonical ∧ ShowsDoomed executor find write name clauses kind model progress middle doomed

variable {executor}

theorem Covers.of_perm {model : ResolvedModel ω} {records others : List Record}
    (h : Covers config model world records rows) (hperm : others.Perm rows) : Covers config model world records others := by
  obtain ⟨decoded, hdecoded, hsub⟩ := h
  obtain ⟨reordered, hreordered, hsame⟩ := List.perm_comp_forall₂ hperm hdecoded
  exact ⟨reordered, hreordered, hsame.subperm.trans hsub⟩

theorem covers_nil (config : Config ω) (model : ResolvedModel ω) (world : ω) (records : List Record) :
    Covers config model world records [] :=
  ⟨[], .nil, List.nil_subperm⟩

theorem Covers.eq_nil {model : ResolvedModel ω} (h : Covers config model world [] rows) : rows = [] := by
  obtain ⟨decoded, hdecoded, hsub⟩ := h
  have hnil : decoded = [] := List.subperm_nil.mp hsub
  subst hnil
  exact List.forall₂_nil_right_iff.mp hdecoded

/-- The query of a call depends on the world alone, if it can be made. -/
theorem prepareQuery_eq {first second : ResolvedModel ω × List Clause} (hworld : find.world = write.world)
    (hfirst : prepareQuery config find name clauses = .ok first)
    (hsecond : prepareQuery config write name clauses = .ok second) : first = second := by
  unfold prepareQuery at hfirst hsecond
  obtain ⟨_, _, hfirst⟩ := bind_eq_ok_iff.mp hfirst
  obtain ⟨_, _, hsecond⟩ := bind_eq_ok_iff.mp hsecond
  rw [hworld, hsecond] at hfirst
  exact (Except.ok.inj hfirst).symm

theorem doomed_ok
    {model : ResolvedModel ω} {doomed : List Record} (hmodel : resolveModel executor.config name = .ok model)
    (h : executor.doomed write name clauses kind tables = .ok doomed) (hne : doomed ≠ []) :
    ∃ encoded, prepareQuery executor.config write name clauses = .ok (model, encoded) ∧
      selectRows executor.config tables model encoded = .ok doomed := by
  obtain ⟨⟨resolved, encoded⟩, hprepared, h⟩ := bind_eq_ok_iff.mp h
  have hresolved := prepareQuery_ok hprepared
  rw [hmodel] at hresolved
  cases hresolved
  dsimp only at h
  split at h
  · cases h
    exact absurd rfl hne
  · exact ⟨encoded, hprepared, h⟩

section

variable {find write : Call ω} {name : String} {clauses : List Where} {kind : Deletion} {model : ResolvedModel ω}
  {progress middle : Progress σ} {doomed : List Record}

/-- What a successful query for the rows gives, if nothing has changed when they are deleted. -/
theorem Undisturbed.forall₂ (h : Undisturbed find write model progress middle)
    (hmodel : resolveModel executor.config name = .ok model)
    (hdoomed : executor.doomed write name clauses kind middle.surroundings.tables = .ok doomed) (hne : doomed ≠ [])
    {records : List Record}
    (hfound : executor.findMany find { model := name, clauses, limit := kind.limit } progress = .ok records) :
    List.Forall₂ (fun raw record => decodeRecord executor.config model find.world raw [] = .ok record)
      (doomed.take (kind.limit.getD executor.defaultLimit).toNat) records := by
  obtain ⟨encoded, hprepared, hselected⟩ := doomed_ok hmodel hdoomed hne
  obtain ⟨_, _, selected, hasked, _, hfoundRows, hrecords, _⟩ := findMany_eq_ok_iff.mp hfound
  cases prepareQuery_eq h.2 hasked hprepared
  have hsame : selectRows executor.config middle.surroundings.tables model encoded =
      selectRows executor.config progress.surroundings.tables model encoded := by
    unfold selectRows
    rw [h.1]
  rw [hsame, hfoundRows] at hselected
  cases hselected
  exact hrecords

theorem showsDoomed_iff (hmodel : resolveModel executor.config name = .ok model)
    (hdoomed : executor.doomed write name clauses kind middle.surroundings.tables = .ok doomed) (hne : doomed ≠ []) :
    ShowsDoomed executor find write name clauses kind model progress middle doomed ↔
      Covers executor.config model find.world (executor.shown find name clauses kind progress) doomed := by
  by_cases hcalm : Undisturbed find write model progress middle
  · constructor
    · intro hshows
      obtain ⟨⟨records, hfound⟩, hlimit⟩ := hshows.undisturbed hcalm
      have hrecords := hcalm.forall₂ hmodel hdoomed hne hfound
      rw [List.take_of_length_le hlimit] at hrecords
      refine ⟨records, hrecords, ?_⟩
      rw [shown_eq, hfound]
      exact List.Subperm.refl records
    rintro ⟨decoded, hdecoded, hsub⟩
    refine ⟨fun _ => ?_, fun hnot => absurd hcalm hnot⟩
    rw [shown_eq] at hsub
    cases hfound : executor.findMany find { model := name, clauses, limit := kind.limit } progress with
    | error failure =>
      rw [hfound] at hsub
      exact absurd (Covers.eq_nil ⟨decoded, hdecoded, hsub⟩) hne
    | ok records =>
      rw [hfound] at hsub
      have hlength := (hcalm.forall₂ hmodel hdoomed hne hfound).length_eq
      have hshown : decoded.length ≤ records.length := hsub.length_le
      rw [← hdecoded.length_eq] at hshown
      rw [List.length_take] at hlength
      exact ⟨⟨records, rfl⟩, by omega⟩
  · exact ⟨fun hshows => hshows.disturbed hcalm, fun hcovers => ⟨fun h => absurd h hcalm, fun _ => hcovers⟩⟩

theorem accounted_of_quiet {trace : List HookEvent} (hquiet : Quiet trace) (world : ω) :
    Accounted executor model world trace := by
  intro early earlier later late htrace
  exact absurd (htrace ▸ List.mem_append_right early List.mem_cons_self) (hquiet earlier later)

variable {earlier later : Tables} {physical : String} {world : ω}

section

variable (hperm : ((earlier.get? physical).getD []).Perm ((later.get? physical).getD [] ++ doomed))
include hperm

/-- Rows that leave a table that is written once are the doomed ones, in some order. -/
theorem removed_cases {other : String} {removed : List Record}
    (hothers : ∀ other, other ≠ physical → later.get? other = earlier.get? other)
    (hremoved : ((earlier.get? other).getD []).Perm ((later.get? other).getD [] ++ removed)) :
    removed = [] ∨ removed.Perm doomed := by
  by_cases hsame : other = physical
  · subst hsame
    exact .inr ((List.perm_append_left_iff _).mp (hremoved.symm.trans hperm))
  rw [hothers other hsame] at hremoved
  have hlength := hremoved.length_eq
  rw [List.length_append] at hlength
  exact .inl (List.length_eq_zero_iff.mp (by omega))

/-- Where the adapter has written once between the hooks of the rows that were shown, these have to cover the doomed
ones, as far as they are shown under the name of the model. -/
theorem accounted_iff_covers
    (hothers : ∀ other, other ≠ physical → later.get? other = earlier.get? other) :
    Accounted executor model world
        ((shown.flatMap fun row => beforeEvents name .delete row 0 executor.registry) ++ .wrote earlier later ::
          shown.flatMap fun row => afterEvents executor.queues name .delete (.record (some row)) 0 executor.registry) ↔
      (Hooked executor model.canonical →
        Covers executor.config model world (if name = model.canonical then shown else []) doomed) := by
  constructor
  · rintro haccounted ⟨entry, hentry, hhook⟩
    obtain ⟨hook, hentry⟩ := List.mem_iff_getElem?.mp hentry
    obtain ⟨hpassed, hfollowed⟩ := haccounted _ _ _ _ rfl physical doomed hperm hook entry hentry
    rcases hhook with hhook | hhook
    · rw [← passed_rows shown hentry hhook]
      exact hpassed hhook
    · rw [← followed_rows shown hentry hhook]
      exact hfollowed hhook
  intro hcovers early before after late htrace other removed hremoved hook entry hentry
  -- the trace has one write, so it is split there
  obtain ⟨rfl, hwrote, rfl⟩ := (List.append_cons_inj_of_notMem (by simp [beforeEvents_eq])
    (by cases executor.queues <;> simp [afterEvents_eq])).mp htrace
  cases hwrote
  have hremovedCovered : Hooked executor model.canonical →
      Covers executor.config model world (if name = model.canonical then shown else []) removed := by
    intro hhooked
    rcases removed_cases hperm hothers hremoved with rfl | hsame
    · exact covers_nil _ _ _ _
    · exact (hcovers hhooked).of_perm hsame
  have hmem := List.mem_of_getElem? hentry
  constructor
  · intro hhook
    rw [passed_rows shown hentry hhook]
    exact hremovedCovered ⟨entry, hmem, .inl hhook⟩
  · intro hhook
    rw [followed_rows shown hentry hhook]
    exact hremovedCovered ⟨entry, hmem, .inr hhook⟩

end

/-- Hooks that see the doomed rows under the name of their model. -/
theorem covers_visible_iff :
    Covers executor.config model world (if name = model.canonical then shown else []) doomed ↔
      doomed = [] ∨ name = model.canonical ∧ Covers executor.config model world shown doomed := by
  by_cases hname : name = model.canonical
  · simp only [hname, if_true, true_and]
    refine ⟨.inr, ?_⟩
    rintro (rfl | hcovers)
    · exact covers_nil _ _ _ _
    · exact hcovers
  simp only [hname, if_false, false_and, or_false]
  refine ⟨Covers.eq_nil, ?_⟩
  rintro rfl
  exact covers_nil _ _ _ _

/-- What a call that succeeds leaves in the trace: nothing of the adapter where it found no row or was cancelled, and
else one write between the hooks of the rows that were shown. -/
theorem remove_trace (hempty : progress.trace = [])
    (hok : executor.remove find write name clauses kind progress = (.ok (), last))
    (hshown : executor.shown find name clauses kind progress = shown) :
    Quiet last.trace ∧ (kind = .one ∧ shown = [] ∨ executor.beforeRows name shown progress = (.ok false, last)) ∨
      ∃ middle doomed earlier later physical, (kind = .one → shown ≠ []) ∧
        executor.beforeRows name shown progress = (.ok true, middle) ∧
        executor.doomed write name clauses kind middle.surroundings.tables = .ok doomed ∧
        ((earlier.get? physical).getD []).Perm ((later.get? physical).getD [] ++ doomed) ∧
        (∀ other, other ≠ physical → later.get? other = earlier.get? other) ∧
        last.trace =
          (shown.flatMap fun row => beforeEvents name .delete row 0 executor.registry) ++ .wrote earlier later ::
            shown.flatMap fun row => afterEvents executor.queues name .delete (.record (some row)) 0 executor.registry := by
  rcases remove_ok hok hshown with
    ⟨hkind, hnone, rfl⟩ | hcancelled | ⟨middle, outcome, written, hsome, hbefore, hwritten, hafter⟩
  · exact .inl ⟨by simp [Quiet, hempty], .inl ⟨hkind, hnone⟩⟩
  · obtain ⟨events, htrace, hquiet, _⟩ := beforeRows_ok hcancelled
    rw [hempty, List.nil_append] at htrace
    exact .inl ⟨htrace ▸ hquiet, .inr hcancelled⟩
  obtain ⟨events, hfirst, _, hevents⟩ := beforeRows_ok hbefore
  obtain ⟨hwrote, physical, doomed, hdoomed, hperm, hothers⟩ := perform_ok hwritten
  have htrace := afterRows_ok hafter
  rw [hwrote, hfirst, hevents rfl, hempty, List.nil_append, List.append_assoc, List.singleton_append] at htrace
  exact .inr ⟨middle, doomed, _, _, physical, hsome, hbefore, hdoomed, hperm, hothers, htrace⟩

/-- In a call that succeeds every deleted row passes its hooks exactly if hooks are shown all that is deleted. -/
theorem remove_accounted_iff (surroundings : Surroundings σ) (queue : List (QueuedHook σ)) {last : Progress σ}
    (hok : executor.remove find write name clauses kind { surroundings, queue } = (.ok (), last)) :
    (∀ model, resolveModel executor.config name = .ok model → Accounted executor model find.world last.trace) ↔
      ∀ model, resolveModel executor.config name = .ok model →
        ShowsAll executor find write name clauses kind model { surroundings, queue } := by
  refine forall₂_congr fun model hmodel => ?_
  rcases remove_trace rfl hok rfl with ⟨hquiet, hidle⟩ |
    ⟨middle, doomed, earlier, later, physical, hsome, hbefore, hdoomed, hperm, hothers, htrace⟩
  · refine iff_of_true (accounted_of_quiet hquiet _) fun middle doomed hallowed _ => ?_
    rcases hidle with hnone | hcancelled
    · exact .inl hnone
    · rw [hcancelled] at hallowed
      cases hallowed
  have hshows : ShowsAll executor find write name clauses kind model { surroundings, queue } ↔
      (¬ Hooked executor model.canonical ∨ doomed = [] ∨
        name = model.canonical ∧
          ShowsDoomed executor find write name clauses kind model { surroundings, queue } middle doomed) := by
    constructor
    · intro hall
      rcases hall middle doomed hbefore hdoomed with ⟨hkind, hnone⟩ | hall
      · exact absurd hnone (hsome hkind)
      · exact hall
    intro hall other others hother hothersDoomed
    rw [hbefore] at hother
    cases hother
    rw [hdoomed] at hothersDoomed
    cases hothersDoomed
    exact .inr hall
  rw [htrace, accounted_iff_covers hperm hothers, covers_visible_iff, hshows, imp_iff_not_or]
  by_cases hnone : doomed = []
  · simp [hnone]
  · rw [showsDoomed_iff hmodel hdoomed hnone]

end

end

/-! A table of sessions with a hook for their deletion. -/

private def sessionModel : ModelSchema Unit where
  modelName := "session"
  fields := .ofEntries [("userId", { type := .string })]

private def sessionConfig : Config Unit where
  library := textLibrary
  schema := { models := .ofEntries [("session", sessionModel)], usePlural := false }
  valid := by rfl
  capabilities := { json := true, dates := true, booleans := true, arrays := true }
  idGenerator := fun _ _ => .ok (.string "1")

private def auditedExecutor : HookedExecutor Unit Unit where
  config := sessionConfig
  registry :=
    [{ source := "user"
       hooks := .ofEntries
        [("session", { delete := { before := some fun _ _ surroundings => (.ok {}, surroundings), after := none } })] }]

private def sessions (count : Nat) : Surroundings Unit where
  tables := .ofEntries [("session", (List.range count).map fun n =>
    Dict.ofEntries [("id", .string (String.ofList (List.replicate (n + 1) 's'))), ("userId", .string "ada")])]
  world := ()

private def ofAda : List Where := [{ field := "userId", value := .string "ada" }]

private def deleteSessions (count : Nat) : Except HookedError Unit × Progress Unit :=
  auditedExecutor.remove { world := () } { world := () } "session" ofAda .many { surroundings := sessions count }

private theorem deleteSessions_eq {count : Nat} (h : (deleteSessions count).1.toOption = some ()) :
    auditedExecutor.remove { world := () } { world := () } "session" ofAda .many { surroundings := sessions count } =
      (.ok (), (deleteSessions count).2) :=
  Prod.ext (toOption_eq_some_iff.mp h) rfl

/-- What the hook leaves of the tables, and the number of rows that are shown and deleted. -/
private def shownAndDoomed (count : Nat) : Nat × Option Nat :=
  let shown := auditedExecutor.shown { world := () } "session" ofAda .many { surroundings := sessions count }
  let middle := (auditedExecutor.beforeRows "session" shown { surroundings := sessions count }).2
  (shown.length,
    (auditedExecutor.doomed { world := () } "session" ofAda .many middle.surroundings.tables).toOption.map List.length)

theorem remove_accounted_two_sessions :
    (deleteSessions 2).1.toOption = some () ∧ ∀ model, resolveModel sessionConfig "session" = .ok model →
      Accounted auditedExecutor model () (deleteSessions 2).2.trace := by
  have hok : (deleteSessions 2).1.toOption = some () := by decide +kernel
  have hcounts : shownAndDoomed 2 = (2, some 2) := by decide +kernel
  refine ⟨hok, ?_⟩
  refine (remove_accounted_iff (sessions 2) [] (deleteSessions_eq hok)).mpr ?_
  intro model hmodel middle doomed hbefore hdoomed
  cases hmodel
  have hmiddle := congrArg Prod.snd hbefore
  subst hmiddle
  have hlength : doomed.length = 2 := by
    have hsecond := congrArg Prod.snd hcounts
    simp only [shownAndDoomed] at hsecond
    rw [hdoomed] at hsecond
    exact Option.some.inj hsecond
  refine .inr (.inr (.inr ⟨rfl, fun _ => ⟨?_, ?_⟩, fun hnot => (hnot ⟨rfl, rfl⟩).elim⟩))
  · exact ⟨_, rfl⟩
  · rw [hlength]
    decide

/-- Of a hundred and one sessions that are deleted together, the hooks are shown a hundred. -/
theorem deletes_unshown_session :
    ¬ ∀ (executor : HookedExecutor Unit Unit) (find write : Call Unit) (name : String) (clauses : List Where)
      (kind : Deletion) (surroundings : Surroundings Unit) (last : Progress Unit) (model : ResolvedModel Unit),
      executor.remove find write name clauses kind { surroundings } = (.ok (), last) →
        resolveModel executor.config name = .ok model → Accounted executor model find.world last.trace := by
  intro hclaim
  have hok : (deleteSessions 101).1.toOption = some () := by decide +kernel
  have hcounts : shownAndDoomed 101 = (100, some 101) := by decide +kernel
  have hresolved : ∃ model, resolveModel sessionConfig "session" = .ok model ∧ model.canonical = "session" := ⟨_, rfl, rfl⟩
  obtain ⟨model, hmodel, hcanonical⟩ := hresolved
  have haccounted := hclaim _ _ _ _ _ _ _ _ model (deleteSessions_eq hok) hmodel
  rcases remove_trace rfl (deleteSessions_eq hok) rfl with ⟨_, hidle⟩ |
    ⟨middle, doomed, earlier, later, physical, _, hbefore, hdoomed, hperm, hothers, htrace⟩
  · have hallowed : (auditedExecutor.beforeRows "session"
        (auditedExecutor.shown { world := () } "session" ofAda .many { surroundings := sessions 101 })
        { surroundings := sessions 101 }).1.toOption = some true := by
      decide +kernel
    rcases hidle with ⟨hkind, _⟩ | hcancelled
    · cases hkind
    · rw [hcancelled] at hallowed
      cases hallowed
  have hhooked : Hooked auditedExecutor model.canonical := by
    rw [hcanonical]
    exact ⟨_, List.mem_singleton_self _, .inl rfl⟩
  rw [htrace, accounted_iff_covers hperm hothers] at haccounted
  obtain ⟨decoded, hdecoded, hsub⟩ := haccounted hhooked
  rw [if_pos hcanonical.symm] at hsub
  have hshown := congrArg Prod.fst hcounts
  have hlength := congrArg Prod.snd hcounts
  simp only [shownAndDoomed] at hshown hlength
  rw [hbefore, hdoomed] at hlength
  have hmany : doomed.length = 101 := Option.some.inj hlength
  have hfew := hsub.length_le
  have hdecodedLength := hdecoded.length_eq
  omega

end singleauth.core
