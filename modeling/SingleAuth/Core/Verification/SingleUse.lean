import SingleAuth.Lib.Table
import SingleAuth.Lib.Transition
import SingleAuth.Core.Verification.Store

open expiring fallible transition

namespace singleauth.verification

section

variable {mode : Mode} {digest : String → String} {call : Call} {config : IdentifierStorage}
  {configs : IdentifierStorage → Prop} {identifier : String}

/-! ## Keys of an identifier -/

/-- A call looks for the identifier under the key. -/
def Tries (digest : String → String) (config : IdentifierStorage) (identifier key : String) : Prop :=
  ∃ identifiers, verificationIdentifiersToTry digest config identifier = .ok identifiers ∧ key ∈ identifiers

/-- One of the configurations in use looks for the identifier under the key. -/
def KeyOf (digest : String → String) (configs : IdentifierStorage → Prop) (identifier key : String) : Prop :=
  ∃ config, configs config ∧ Tries digest config identifier key

/-- There is a value under the key where consumption looks for it. -/
def Holds (mode : Mode) (state : State) (key : String) : Prop :=
  if mode.usesDatabase then ∃ row ∈ state.rows, row.identifier = key
  else ((state.cache.get? (verificationPrefix ++ key)).isSome)

/-- The key that a create call stores a value under, if it stores one. -/
def written (mode : Mode) (digest : String → String) (call : Call) (config : IdentifierStorage)
    (identifier value : String) (expiresAt : Int) : Option String :=
  match prepareCreate mode digest call config identifier value expiresAt with
  | .ok (some (stored, data)) =>
    if mode.usesDatabase then if call.databaseError.isNone then some data.identifier else none
    else if (cachedTTL mode call stored data).isSome ∧ (call.secondaryError (verificationPrefix ++ stored)).isNone then
      some stored
    else none
  | _ => none

/-! ## Rows -/

variable {rows : List Verification} {identifiers : List String} {cache : Store Verification} {key : String}
  {state : State} {row : Verification} {left : List Verification} {stored identifier : String}

theorem mem_of_latestVerification
    (h : latestVerification identifier rows = some row) : row ∈ rows ∧ row.identifier = identifier :=
  table.latest_some h

theorem mem_of_consumeOne {id : String} {winner : Verification}
    (h : consumeOne id rows = some (winner, left)) (hmem : row ∈ left) : row ∈ rows :=
  (table.consumeFirst_perm h).2.mem_iff.mpr (List.mem_cons_of_mem _ hmem)

/-- What a consumption in the database does: it takes all rows of one of the
identifiers that has rows, or it returns nothing. -/
theorem consumeRows_spec {consumed : Option Verification}
    (h : consumeRows call rows identifiers = .ok (left, consumed)) :
    (consumed = none ∧ left = rows) ∨
      ∃ stored ∈ identifiers, (∃ row ∈ rows, row.identifier = stored) ∧
        ∀ row ∈ left, row ∈ rows ∧ row.identifier ≠ stored := by
  induction identifiers with
  | nil =>
    cases h
    exact .inl ⟨rfl, rfl⟩
  | cons stored rest ih =>
    have hrest : consumeRows call rows rest = .ok (left, consumed) →
        (consumed = none ∧ left = rows) ∨
          ∃ other ∈ stored :: rest, (∃ row ∈ rows, row.identifier = other) ∧
            ∀ row ∈ left, row ∈ rows ∧ row.identifier ≠ other := by
      intro h
      rcases ih h with hnone | ⟨other, hother, hspec⟩
      · exact .inl hnone
      · exact .inr ⟨other, List.mem_cons_of_mem stored hother, hspec⟩
    rw [consumeRows] at h
    split at h
    · exact hrest h
    rename_i latest hlatest
    obtain ⟨cancelled, _, h⟩ := bind_eq_ok_iff.mp h
    split at h
    · exact hrest h
    split at h
    · exact hrest h
    rename_i winner others hothers
    cases h
    refine .inr ⟨stored, List.mem_cons_self, ⟨latest, mem_of_latestVerification hlatest⟩, fun row hrow => ?_⟩
    obtain ⟨hmem, hkept⟩ := List.mem_filter.mp hrow
    exact ⟨mem_of_consumeOne hothers hmem, by simpa using hkept⟩

/-! ## Keys of the secondary storage -/

theorem prefixed_inj {left right : String} : verificationPrefix ++ left = verificationPrefix ++ right ↔ left = right := by
  simp [String.ext_iff]

theorem isSome_of_delete (h : ((delete cache identifier).get? key).isSome) : (cache.get? key).isSome := by
  rw [get?_delete] at h
  split at h
  · cases h
  · exact h

theorem isSome_of_deleteKeys
    (h : ((deleteKeys call cache identifiers).1.get? key).isSome) : (cache.get? key).isSome := by
  induction identifiers generalizing cache with
  | nil => exact h
  | cons first rest ih =>
    rw [deleteKeys] at h
    unfold onKey at h
    cases hfailure : call.secondaryError (verificationPrefix ++ first) with
    | some failure => simpa [hfailure] using h
    | none =>
      simp only [hfailure] at h
      exact isSome_of_delete (ih h)

/-- A key that has been deleted does not come back. -/
theorem get?_deleteKeys_delete : (deleteKeys call (delete cache key) identifiers).1.get? key = none := by
  refine Option.not_isSome_iff_eq_none.mp fun hsome => ?_
  have hbefore := isSome_of_deleteKeys hsome
  rw [get?_delete, if_pos rfl] at hbefore
  cases hbefore

theorem get?_deleteKeys_of_ok
    (h : (deleteKeys call cache identifiers).2 = .ok ()) (hmem : identifier ∈ identifiers) :
    (deleteKeys call cache identifiers).1.get? (verificationPrefix ++ identifier) = none := by
  induction identifiers generalizing cache with
  | nil => cases hmem
  | cons first rest ih =>
    rw [deleteKeys] at h ⊢
    unfold onKey at h ⊢
    cases hfailure : call.secondaryError (verificationPrefix ++ first) with
    | some failure => simp [hfailure] at h
    | none =>
      simp only [hfailure] at h ⊢
      rcases List.mem_cons.mp hmem with rfl | hmem
      · exact get?_deleteKeys_delete
      · exact ih h hmem

/-- When the key of an identifier and then those of its alternatives are deleted, none of them is left. -/
theorem get?_of_deleted_alternatives {call : Call}
    (hok : (deleteKeys call (delete cache (verificationPrefix ++ identifier))
      (identifiers.filter fun alternative => alternative ≠ identifier)).2 = .ok ()) (hstored : stored ∈ identifiers) :
    (deleteKeys call (delete cache (verificationPrefix ++ identifier))
      (identifiers.filter fun alternative => alternative ≠ identifier)).1.get? (verificationPrefix ++ stored) = none := by
  by_cases hsame : stored = identifier
  · -- The key of the consumed identifier has gone before the others.
    rw [hsame]
    exact get?_deleteKeys_delete
  · apply get?_deleteKeys_of_ok hok
    exact List.mem_filter.mpr ⟨hstored, by simpa using hsame⟩

/-- What a consumption in the secondary storage does: it brings no keys, and if it
returns a record, then one of the identifiers had a key and none has one now. -/
theorem consumeSecondaryVerifications_spec (call : Call) (cache : Store Verification)
    {remaining : List String} (hsubset : remaining ⊆ identifiers) :
    (∀ key, ((consumeSecondaryVerifications call identifiers cache remaining).1.get? key).isSome →
        (cache.get? key).isSome) ∧
      ∀ record, (consumeSecondaryVerifications call identifiers cache remaining).2 = .ok (some record) →
        (∃ stored ∈ identifiers, (cache.get? (verificationPrefix ++ stored)).isSome) ∧
          ∀ stored ∈ identifiers, (consumeSecondaryVerifications call identifiers cache remaining).1.get?
            (verificationPrefix ++ stored) = none := by
  induction remaining generalizing cache with
  | nil => exact ⟨fun _ => id, fun record h => by cases h⟩
  | cons identifier rest ih =>
    obtain ⟨hidentifier, hrest⟩ := List.cons_subset.mp hsubset
    cases hfailure : call.secondaryError (verificationPrefix ++ identifier) with
    | some failure =>
      simp only [consumeSecondaryVerifications, consumeSecondaryVerification, hfailure]
      exact ⟨fun _ => id, fun record h => by cases h⟩
    | none =>
      simp only [consumeSecondaryVerifications, consumeSecondaryVerification, hfailure]
      cases hconsumed : (get cache (verificationPrefix ++ identifier)).bind (unexpired call) with
      | none =>
        obtain ⟨hkeys, hrecord⟩ := ih (delete cache (verificationPrefix ++ identifier)) hrest
        refine ⟨fun key hkey => isSome_of_delete (hkeys key hkey), fun record h => ?_⟩
        obtain ⟨⟨stored, hstored, hsome⟩, hnone⟩ := hrecord record h
        exact ⟨⟨stored, hstored, isSome_of_delete hsome⟩, hnone⟩
      | some consumed =>
        have hpresent : (cache.get? (verificationPrefix ++ identifier)).isSome := by
          cases hfound : cache.get? (verificationPrefix ++ identifier) with
          | none => simp [expiring.get, hfound] at hconsumed
          | some entry => rfl
        dsimp only
        cases hresult : deleteKeys call (delete cache (verificationPrefix ++ identifier))
            (identifiers.filter fun alternative => alternative ≠ identifier) with
        | mk left result =>
          have hkeys : ∀ key, (left.get? key).isSome → (cache.get? key).isSome := by
            intro key hkey
            have hleft := congrArg Prod.fst hresult
            dsimp only at hleft
            rw [← hleft] at hkey
            exact isSome_of_delete (isSome_of_deleteKeys hkey)
          cases result with
          | error failure => exact ⟨hkeys, fun record h => by cases h⟩
          | ok =>
            refine ⟨hkeys, fun record _ => ⟨⟨identifier, hidentifier, hpresent⟩, fun stored hstored => ?_⟩⟩
            have hnone := get?_of_deleted_alternatives (congrArg Prod.snd hresult) hstored
            rwa [hresult] at hnone

/-! ## Calls -/

/-- What a consumption does: it brings no values, and if it returns a record, then it
has found one under a key that it tries. That key holds nothing afterwards, and in
the secondary storage neither do the other keys that it tries. -/
theorem consumeStoredVerification_spec (mode : Mode) (digest : String → String) (call : Call) (config : IdentifierStorage)
    (state : State) (identifier : String) :
    (∀ key, Holds mode (consumeStoredVerification mode digest call config state identifier).1 key →
        Holds mode state key) ∧
      ∀ record, (consumeStoredVerification mode digest call config state identifier).2 = .ok (some record) →
        ∃ stored, Tries digest config identifier stored ∧ Holds mode state stored ∧
          ∀ key, key = stored ∨ (mode.usesDatabase = false ∧ Tries digest config identifier key) →
            ¬ Holds mode (consumeStoredVerification mode digest call config state identifier).1 key := by
  cases htried : verificationIdentifiersToTry digest config identifier with
  | error failure =>
    simp only [consumeStoredVerification, htried]
    exact ⟨fun _ => id, fun record h => by cases h⟩
  | ok identifiers =>
    have htries : ∀ key, Tries digest config identifier key ↔ key ∈ identifiers := by
      intro key
      simp [Tries, htried]
    cases hmode : mode.usesDatabase with
    | true =>
      simp only [consumeStoredVerification, htried, hmode, if_true, Holds]
      split
      · exact ⟨fun _ => id, fun record h => by cases h⟩
      · exact ⟨fun _ => id, fun record h => by cases h⟩
      · exact ⟨fun _ => id, fun record h => by cases h⟩
      rename_i rows consumed _ hrows
      have hfinish : (finishConsume mode call { state with rows } identifiers consumed).1.rows = rows := by
        unfold finishConsume
        split
        · rfl
        · split
          · split <;> rfl
          · rfl
      rw [hfinish]
      rcases consumeRows_spec hrows with ⟨hnone, _⟩ | ⟨stored, hstored, hrow, hleft⟩
      · cases hnone
      refine ⟨fun key ⟨row, hmem, hkey⟩ => ⟨row, (hleft row hmem).1, hkey⟩, fun record _ =>
        ⟨stored, (htries stored).mpr hstored, hrow, ?_⟩⟩
      rintro key (rfl | ⟨hfalse, _⟩) ⟨row, hmem, hkey⟩
      · exact (hleft row hmem).2 hkey
      · cases hfalse
    | false =>
      simp only [consumeStoredVerification, htried, hmode, Holds]
      obtain ⟨hkeys, hrecord⟩ := consumeSecondaryVerifications_spec call state.cache
        (List.Subset.refl identifiers)
      refine ⟨fun key => hkeys _, fun record h => ?_⟩
      obtain ⟨⟨stored, hstored, hsome⟩, hnone⟩ := hrecord record h
      refine ⟨stored, (htries stored).mpr hstored, hsome, fun key hkey hholds => ?_⟩
      have hmem : key ∈ identifiers := by
        rcases hkey with rfl | ⟨_, hkey⟩
        · exact hstored
        · exact (htries key).mp hkey
      simp [hnone key hmem] at hholds

theorem rows_storeCreated (state : State) (stored : String) (data : Verification) :
    (storeCreated mode call state stored data).1.rows = state.rows := by
  unfold storeCreated
  split <;> rfl

theorem cache_storeCreated (state : State) (stored : String) (data : Verification) :
    (storeCreated mode call state stored data).1.cache =
      (storeSecondaryVerificationAt mode call stored data state.cache).1 := by
  unfold storeCreated
  split <;> next hstore => rw [hstore]

/-- The secondary storage gets a value under the stored identifier only, and only if the value
has time to live and the storage does not fail. -/
theorem isSome_of_storeSecondaryVerificationAt {store : Store Verification} {data : Verification}
    (h : ((storeSecondaryVerificationAt mode call stored data store).1.get? (verificationPrefix ++ key)).isSome) :
    (store.get? (verificationPrefix ++ key)).isSome ∨
      key = stored ∧ (cachedTTL mode call stored data).isSome ∧
        (call.secondaryError (verificationPrefix ++ stored)).isNone := by
  unfold storeSecondaryVerificationAt at h
  cases httl : cachedTTL mode call stored data with
  | none => exact .inl (by simpa [httl] using h)
  | some ttl =>
    simp only [httl, onKey] at h
    cases hfailure : call.secondaryError (verificationPrefix ++ stored) with
    | some failure => exact .inl (by simpa [hfailure] using h)
    | none =>
      simp only [hfailure] at h
      by_cases hsame : key = stored
      · exact .inr ⟨hsame, rfl, rfl⟩
      · rw [get?_set_of_ne _ _ _ _ (mt prefixed_inj.mp hsame)] at h
        exact .inl h

/-- A create call brings a value under the key that it writes only. -/
theorem holds_of_create {value : String} {expiresAt : Int}
    (h : Holds mode (createStoredVerification mode digest call config state identifier value expiresAt).1 key) :
    Holds mode state key ∨ written mode digest call config identifier value expiresAt = some key := by
  unfold createStoredVerification at h
  unfold written
  cases hprepared : prepareCreate mode digest call config identifier value expiresAt with
  | error failure => exact .inl (by simpa [hprepared] using h)
  | ok prepared =>
    cases prepared with
    | none => exact .inl (by simpa [hprepared] using h)
    | some prepared =>
      obtain ⟨stored, data⟩ := prepared
      simp only [hprepared] at h ⊢
      cases hmode : mode.usesDatabase with
      | true =>
        simp only [hmode, if_true] at h ⊢
        cases herror : call.databaseError with
        | some failure => exact .inl (by simpa [herror] using h)
        | none =>
          simp only [herror, Holds, hmode, if_true, rows_storeCreated] at h ⊢
          obtain ⟨row, hmem, hkey⟩ := h
          rcases table.mem_concat.mp hmem with hmem | rfl
          · exact .inl ⟨row, hmem, hkey⟩
          · exact .inr (congrArg some hkey)
      | false =>
        simp only [hmode, Holds, Bool.false_eq_true, if_false, cache_storeCreated] at h ⊢
        rcases isSome_of_storeSecondaryVerificationAt h with hheld | ⟨hsame, hwrites⟩
        · exact .inl hheld
        · exact .inr (by rw [if_pos hwrites, hsame])

theorem holds_of_advance {now : Int} (h : Holds mode (state.advance now) key) : Holds mode state key := by
  unfold Holds at h ⊢
  split
  · next hmode =>
    rw [if_pos hmode] at h
    exact h
  rename_i hmode
  rw [if_neg hmode] at h
  obtain ⟨entry, hentry⟩ := Option.isSome_iff_exists.mp h
  rw [(get?_advance_eq_some_iff.mp hentry).1]
  rfl

/-! ## Single use -/

/-- No key of the identifier holds a value. -/
def Spent (mode : Mode) (digest : String → String) (configs : IdentifierStorage → Prop) (identifier : String)
    (state : State) : Prop :=
  ∀ key, KeyOf digest configs identifier key → ¬ Holds mode state key

/-- The condition on a consumption: the identifier has values under one key only, or all
in the secondary storage and under keys that the call tries. -/
def OneKey (mode : Mode) (digest : String → String) (configs : IdentifierStorage → Prop) (config : IdentifierStorage)
    (identifier : String) (state : State) : Prop :=
  ∀ left right, KeyOf digest configs identifier left → KeyOf digest configs identifier right →
    Holds mode state left → Holds mode state right →
      left = right ∨
        mode.usesDatabase = false ∧ Tries digest config identifier left ∧ Tries digest config identifier right

/-- The condition on a create call for another identifier: it stores nothing under a
key of this one. -/
def Separate (mode : Mode) (digest : String → String) (configs : IdentifierStorage → Prop) (identifier : String) :
    Event → Prop
  | .create call config other value expiresAt =>
    other ≠ identifier → ∀ key ∈ written mode digest call config other value expiresAt,
      ¬ KeyOf digest configs identifier key
  | .consume _ _ _ => True

/-- The event creates no new value for the identifier. -/
def NoNewValue (mode : Mode) (digest : String → String) (identifier : String) : Event → Prop
  | .create call config other value expiresAt =>
    other = identifier → written mode digest call config other value expiresAt = none
  | .consume _ _ _ => True

theorem step_spent {event : Event} (h : Spent mode digest configs identifier state)
    (hseparate : Separate mode digest configs identifier event) (hnone : NoNewValue mode digest identifier event) :
    Spent mode digest configs identifier (step mode digest state event) := by
  intro key hkey hafter
  cases event with
  | consume call config other =>
    exact h key hkey (holds_of_advance ((consumeStoredVerification_spec mode digest call config _ other).1 key hafter))
  | create call config other value expiresAt =>
    rcases holds_of_create hafter with hbefore | hwritten
    · exact h key hkey (holds_of_advance hbefore)
    by_cases hother : other = identifier
    · rw [hnone hother] at hwritten
      cases hwritten
    · exact hseparate hother key hwritten hkey

theorem consume_of_spent (h : Spent mode digest configs identifier state) (hconfig : configs config)
    (record : Verification) :
    (consumeStoredVerification mode digest call config state identifier).2 ≠ .ok (some record) := by
  intro hconsumed
  obtain ⟨stored, htries, hholds, _⟩ := (consumeStoredVerification_spec mode digest call config state identifier).2
    record hconsumed
  exact h stored ⟨config, hconfig, htries⟩ hholds

/-- Once a consumption of an identifier has returned a record, no later one of it does,
under any of the configurations in use, until a new value is created for it. The
identifier must have had its values under one key when it was consumed, or all in
the secondary storage where the call deletes them, and other identifiers must not be
stored under its keys. -/
theorem consume_once {state later : State} {record : Verification} {call call' : Call} {config config' : IdentifierStorage}
    (hconfig : configs config) (hconfig' : configs config')
    (hkey : OneKey mode digest configs config identifier state)
    (hconsumed : (consumeStoredVerification mode digest call config state identifier).2 = .ok (some record))
    (hlater : Reached (step mode digest)
      (fun _ event => Separate mode digest configs identifier event ∧ NoNewValue mode digest identifier event)
      (consumeStoredVerification mode digest call config state identifier).1 later) (found : Verification) :
    (consumeStoredVerification mode digest call' config' (later.advance call'.now) identifier).2 ≠ .ok (some found) := by
  obtain ⟨hkeys, hrecord⟩ := consumeStoredVerification_spec mode digest call config state identifier
  obtain ⟨stored, htries, hholds, hgone⟩ := hrecord record hconsumed
  have hspent : Spent mode digest configs identifier later := by
    refine hlater.invariant (Spent mode digest configs identifier) (fun key hkeyOf hafter => ?_)
      fun _ _ hspent hevent => step_spent hspent hevent.1 hevent.2
    rcases hkey key stored hkeyOf ⟨config, hconfig, htries⟩ (hkeys key hafter) hholds with rfl | ⟨hmode, hboth, _⟩
    · exact hgone key (.inl rfl) hafter
    · exact hgone key (.inr ⟨hmode, hboth⟩) hafter
  exact consume_of_spent (fun key hkeyOf hholds => hspent key hkeyOf (holds_of_advance hholds)) hconfig' found

end

/-! ## A change of the configuration -/

private def plainIdentifiers : IdentifierStorage where
  default := { strategy := .plain }
  overrides := []
  valid := by rfl

private def hashedIdentifiers : IdentifierStorage where
  default := { strategy := .hashed }
  overrides := []
  valid := by rfl

private def eitherConfig (config : IdentifierStorage) : Prop := config = plainIdentifiers ∨ config = hashedIdentifiers

private def labelDigest (identifier : String) : String := "digest of " ++ identifier

private def secondaryOnly : Mode := { secondary := true, storeInDatabase := false }

private def databaseOnly : Mode := { secondary := false, storeInDatabase := false }

private def tokenCall (id : String) : Call := { now := 0, generatedID := .ok (some id) }

/-- A plain value and then a hashed one of the same identifier. -/
private def storedTwice (mode : Mode) : State :=
  [Event.create (tokenCall "1") plainIdentifiers "token" "old" 60000000000,
    .create (tokenCall "2") hashedIdentifiers "token" "new" 60000000000].foldl (step mode labelDigest)
      { rows := [], cache := .empty }

private def returns (result : Except String (Option Verification)) : Bool := (result.toOption.bind id).isSome

private theorem exists_of_returns {result : Except String (Option Verification)} (h : returns result = true) :
    ∃ record, result = .ok (some record) := by
  cases result with
  | error failure => cases h
  | ok found =>
    cases found with
    | none => cases h
    | some record => exact ⟨record, rfl⟩

private theorem tries_hashed {config : IdentifierStorage} (hconfig : eitherConfig config) {key : String}
    (h : Tries labelDigest config "token" key) : Tries labelDigest hashedIdentifiers "token" key := by
  obtain ⟨identifiers, htried, hmem⟩ := h
  refine ⟨["digest of token", "token"], by rfl, ?_⟩
  rcases hconfig with rfl | rfl
  · have hidentifiers : identifiers = ["token"] := (Except.ok.inj htried).symm
    rw [hidentifiers] at hmem
    exact List.mem_cons_of_mem _ hmem
  · have hidentifiers : identifiers = ["digest of token", "token"] := (Except.ok.inj htried).symm
    rwa [hidentifiers] at hmem

/-- In the secondary storage both values are gone with the first consumption, also after
a value of another identifier has been created. -/
theorem consume_once_secondary :
    let consumed := consumeStoredVerification secondaryOnly labelDigest { now := 0 } hashedIdentifiers
      (storedTwice secondaryOnly) "token"
    (∃ record, consumed.2 = .ok (some record)) ∧
      ∀ found, (consumeStoredVerification secondaryOnly labelDigest { now := 1 } plainIdentifiers
        ((step secondaryOnly labelDigest consumed.1 (.create (tokenCall "3") plainIdentifiers "other" "x" 60000000000)).advance
          1) "token").2 ≠ .ok (some found) := by
  intro consumed
  have hrecord : ∃ record, consumed.2 = .ok (some record) := exists_of_returns (by decide)
  refine ⟨hrecord, fun found => ?_⟩
  obtain ⟨record, hrecord⟩ := hrecord
  have hkey : OneKey secondaryOnly labelDigest eitherConfig hashedIdentifiers "token" (storedTwice secondaryOnly) := by
    rintro left right ⟨_, hleftConfig, hleft⟩ ⟨_, hrightConfig, hright⟩ _ _
    exact .inr ⟨rfl, tries_hashed hleftConfig hleft, tries_hashed hrightConfig hright⟩
  refine consume_once (.inr rfl) (.inl rfl) hkey hrecord (Reached.start.next ⟨?_, ?_⟩) found
  · rintro _ key hwritten ⟨_, hconfig, htries⟩
    have hkey : key = "other" := (Option.some.inj (Option.mem_def.mp hwritten)).symm
    obtain ⟨identifiers, htried, hmem⟩ := tries_hashed hconfig htries
    have hidentifiers : identifiers = ["digest of token", "token"] := (Except.ok.inj htried).symm
    rw [hidentifiers, hkey] at hmem
    revert hmem
    decide
  · exact fun hother => absurd hother (by decide)

/-- In the database only the rows of the key that was found are deleted: a value from
before the change of the configuration can be consumed after the one from behind it. -/
theorem consume_twice_database :
    ¬ ∀ (mode : Mode) (digest : String → String) (state later : State) (record found : Verification) (call call' : Call)
      (config config' : IdentifierStorage) (identifier : String),
      Reached (step mode digest) (fun _ _ => True) { rows := [], cache := .empty } state →
        (consumeStoredVerification mode digest call config state identifier).2 = .ok (some record) →
          Reached (step mode digest) (fun _ event => NoNewValue mode digest identifier event)
            (consumeStoredVerification mode digest call config state identifier).1 later →
            (consumeStoredVerification mode digest call' config' (later.advance call'.now) identifier).2 ≠
              .ok (some found) := by
  intro h
  have hfirst : returns (consumeStoredVerification databaseOnly labelDigest { now := 0 } hashedIdentifiers
      (storedTwice databaseOnly) "token").2 = true := by decide
  have hsecond : returns (consumeStoredVerification databaseOnly labelDigest { now := 0 } hashedIdentifiers
      ((consumeStoredVerification databaseOnly labelDigest { now := 0 } hashedIdentifiers
        (storedTwice databaseOnly) "token").1.advance 0) "token").2 = true := by decide
  obtain ⟨record, hrecord⟩ := exists_of_returns hfirst
  obtain ⟨found, hfound⟩ := exists_of_returns hsecond
  exact h databaseOnly labelDigest (storedTwice databaseOnly) _ record found { now := 0 } { now := 0 } hashedIdentifiers
    hashedIdentifiers "token" (Reached.start.foldl fun _ _ _ => trivial) hrecord .start hfound

end singleauth.verification
