import SingleAuth.Storage.Memory.Transaction

open dict merge singleauth.storage table

namespace singleauth.memory

section

variable {library : Library} {ids : Value → Prop} {inUse : Record → Prop}

/-! ## Rows by id -/

def hasID (id : Value) (row : Record) : Bool := (heldValue "id" row).any fun own => own.deepEqual id

def findRow (rows : List Record) (id : Value) : Option Record := rows.find? (hasID id)

/-- The texts of ids tell them apart as deep equality does. -/
def Faithful (library : Library) (ids : Value → Prop) : Prop :=
  ∀ left right, ids left → ids right →
    (identityText library left = identityText library right ↔ left.deepEqual right = true)

variable {id : Value}

theorem rowIdentity_of_heldValue {row : Record} (h : heldValue "id" row = some id) :
    rowIdentity library row = identityText library id := by
  rw [rowIdentity]
  unfold heldValue at h
  split at h
  · cases h
  · rw [h, Option.getD_some]

variable {rows : List Record}

/-- Rows with distinct ids are those with distinct identities. -/
theorem keyed_iff_distinct (hfaithful : Faithful library ids)
    (hids : ∀ row ∈ rows, ∃ id, heldValue "id" row = some id ∧ ids id) :
    Keyed (rowIdentity library) rows ↔ Distinct (heldValue "id") Value.deepEqual rows := by
  rw [Keyed, List.Nodup, List.pairwise_map, Distinct]
  refine List.Pairwise.iff_of_mem fun {left right} hleft hright => ?_
  obtain ⟨leftID, hleftID, hleft⟩ := hids left hleft
  obtain ⟨rightID, hrightID, hright⟩ := hids right hright
  rw [rowIdentity_of_heldValue hleftID, rowIdentity_of_heldValue hrightID, ne_eq, hfaithful _ _ hleft hright]
  simp [hleftID, hrightID]

theorem findRow_eq_lookup (hfaithful : Faithful library ids) (hid : ids id)
    (hids : ∀ row ∈ rows, ∃ own, heldValue "id" row = some own ∧ ids own)
    (hkeyed : Keyed (rowIdentity library) rows) :
    findRow rows id = lookup (rowIdentity library) rows (identityText library id) := by
  have hmatch : ∀ row ∈ rows, hasID id row = true ↔ rowIdentity library row = identityText library id := by
    intro row hrow
    obtain ⟨own, hown, hmem⟩ := hids row hrow
    rw [hasID, hown, rowIdentity_of_heldValue hown, hfaithful own id hmem hid, Option.any_some]
  refine Option.ext fun row => ?_
  rw [hkeyed.lookup_eq_some_iff]
  constructor
  · intro hfound
    have hrow := List.mem_of_find?_eq_some hfound
    exact ⟨hrow, (hmatch row hrow).mp (List.find?_some hfound)⟩
  rintro ⟨hrow, hidentity⟩
  cases hfound : findRow rows id with
  | none =>
    have hnone := List.find?_eq_none.mp hfound row hrow
    exact absurd ((hmatch row hrow).mpr hidentity) hnone
  | some other =>
    have hother := List.mem_of_find?_eq_some hfound
    have hsame : rowIdentity library other = rowIdentity library row :=
      ((hmatch other hother).mp (List.find?_some hfound)).trans hidentity.symm
    exact congrArg some (List.inj_on_of_nodup_map hkeyed hother hrow hsame)

/-! ## The merge -/

/-- A table of the merge, where the transaction has not dropped it. -/
theorem getD_mergeTransaction {live base completed : Tables} {name : String}
    (hkept : (base.get? name).isSome → (completed.get? name).isSome) :
    ((mergeTransaction library live base completed).get? name).getD [] =
      mergeRows (rowIdentity library) rowChanged ((live.get? name).getD []) ((base.get? name).getD [])
        ((completed.get? name).getD []) := by
  have hmem : ∀ tables : Tables, name ∈ tables.entries.map Prod.fst ↔ (tables.get? name).isSome := by
    intro tables
    rw [Option.isSome_iff_exists]
    simp [Dict.get?_eq_some_iff]
  rw [get?_mergeTransaction]
  cases hcompleted : completed.get? name with
  | some rows =>
    have hmodel : name ∈ transactionModels base completed :=
      List.mem_append_right _ ((hmem completed).mpr (by simp [hcompleted]))
    simp [hmodel]
  | none =>
    have hbase : base.get? name = none := by
      cases h : base.get? name with
      | none => rfl
      | some rows => simp [h, hcompleted] at hkept
    have hmodel : name ∉ transactionModels base completed := by
      simp only [transactionModels, List.mem_append, hmem, hbase, hcompleted]
      simp
    simp [hmodel, hbase, mergeRows_nil]

/-- The rows are in use, and no two of a table have one id. -/
def Within (inUse : Record → Prop) (tables : Tables) : Prop :=
  ∀ name rows, tables.get? name = some rows →
    (∀ row ∈ rows, inUse row) ∧ Distinct (heldValue "id") Value.deepEqual rows

theorem Within.getD {tables : Tables} (h : Within inUse tables) (name : String) :
    (∀ row ∈ (tables.get? name).getD [], inUse row) ∧
      Distinct (heldValue "id") Value.deepEqual ((tables.get? name).getD []) := by
  cases hrows : tables.get? name with
  | none => exact ⟨by simp, List.Pairwise.nil⟩
  | some rows => exact h name rows hrows

/-- The ids of the rows in use. -/
def idsOf (inUse : Record → Prop) (id : Value) : Prop := ∃ row, inUse row ∧ heldValue "id" row = some id

open Classical in
/-- The merge does to the row of each id what the transaction did to it, on top of the live row, and no id
occurs twice. -/
structure Merges (library : Library) (inUse : Record → Prop) (live base completed : Tables) : Prop where
  row : ∀ name id, idsOf inUse id →
    let find := fun tables : Tables => findRow ((tables.get? name).getD []) id
    find (mergeTransaction library live base completed) =
      resolve (fun old new => decide (old ≠ new)) (find live) (find base) (find completed)
  distinct : ∀ name, Distinct (heldValue "id") Value.deepEqual
    (((mergeTransaction library live base completed).get? name).getD [])

/-- Ids are told apart by their texts, and deep equality tells whether a row was changed into another of its
id. -/
structure TellsApart (library : Library) (inUse : Record → Prop) : Prop where
  ids : Faithful library (idsOf inUse)
  rows : ∀ left right leftID rightID, inUse left → inUse right → heldValue "id" left = some leftID →
    heldValue "id" right = some rightID → leftID.deepEqual rightID = true → left ≠ right →
      rowChanged left right = true ∧ rowChanged left left = false

/-- Two rows in use that a query by one id finds are told apart. -/
theorem TellsApart.of_hasID (h : TellsApart library inUse) (hid : idsOf inUse id) {left right : Record}
    (hleft : inUse left ∧ hasID id left = true) (hright : inUse right ∧ hasID id right = true) (hne : left ≠ right) :
    rowChanged left right = true ∧ rowChanged left left = false := by
  obtain ⟨leftID, hleftID, hleftSame⟩ := (Option.any_eq_true _ _).mp hleft.2
  obtain ⟨rightID, hrightID, hrightSame⟩ := (Option.any_eq_true _ _).mp hright.2
  have hleftUse : idsOf inUse leftID := ⟨left, hleft.1, hleftID⟩
  have hrightUse : idsOf inUse rightID := ⟨right, hright.1, hrightID⟩
  have htexts := ((h.ids _ _ hleftUse hid).mpr hleftSame).trans ((h.ids _ _ hrightUse hid).mpr hrightSame).symm
  exact h.rows left right _ _ hleft.1 hright.1 hleftID hrightID ((h.ids _ _ hleftUse hrightUse).mp htexts) hne

open Classical in
/-- What deep equality finds changed is what is changed, among rows of one id. -/
theorem TellsApart.resolve_eq (h : TellsApart library inUse) (hid : idsOf inUse id) {live base completed : List Record}
    (hlive : ∀ row ∈ live, inUse row) (hbase : ∀ row ∈ base, inUse row) (hcompleted : ∀ row ∈ completed, inUse row) :
    resolve rowChanged (findRow live id) (findRow base id) (findRow completed id) =
      resolve (fun old new => decide (old ≠ new)) (findRow live id) (findRow base id) (findRow completed id) := by
  have hfound : ∀ {rows row}, (∀ row ∈ rows, inUse row) → findRow rows id = some row →
      inUse row ∧ hasID id row = true :=
    fun hrows hrow => ⟨hrows _ (List.mem_of_find?_eq_some hrow), List.find?_some hrow⟩
  cases hold : findRow base id with
  | none => cases findRow completed id <;> rfl
  | some old =>
    cases hnew : findRow completed id with
    | none => rfl
    | some new =>
      cases hcurrent : findRow live id with
      | none => rfl
      | some current =>
        have hold := hfound hbase hold
        by_cases heq : old = new
        · subst heq
          by_cases hother : old = current
          · subst hother
            simp [resolve]
          · simp [resolve, (h.of_hasID hid hold (hfound hlive hcurrent) hother).2]
        · simp [resolve, (h.of_hasID hid hold (hfound hcompleted hnew) heq).1, heq]

theorem TellsApart.merges (h : TellsApart library inUse)
    (hids : ∀ row, inUse row → ∃ id, heldValue "id" row = some id ∧ id.deepEqual id = true)
    {live base completed : Tables} (hlive : Within inUse live) (hbase : Within inUse base)
    (hcompleted : Within inUse completed) (hkept : ∀ name, (base.get? name).isSome → (completed.get? name).isSome) :
    Merges library inUse live base completed := by
  have hidentified : ∀ {rows : List Record}, (∀ row ∈ rows, inUse row) →
      ∀ row ∈ rows, ∃ id, heldValue "id" row = some id ∧ idsOf inUse id := by
    intro rows hrows row hrow
    obtain ⟨id, hid, _⟩ := hids row (hrows row hrow)
    exact ⟨id, hid, row, hrows row hrow, hid⟩
  have hmerged : ∀ name, ∀ row ∈ mergeRows (rowIdentity library) rowChanged ((live.get? name).getD [])
      ((base.get? name).getD []) ((completed.get? name).getD []), inUse row := by
    intro name row hrow
    rcases mem_of_mem_mergeRows hrow with hrow | hrow
    · exact (hlive.getD name).1 row hrow
    · exact (hcompleted.getD name).1 row hrow
  have hkeyed : ∀ {tables : Tables}, Within inUse tables → ∀ name,
      Keyed (rowIdentity library) ((tables.get? name).getD []) := fun htables name =>
    (keyed_iff_distinct h.ids (hidentified (htables.getD name).1)).mpr (htables.getD name).2
  have hmergedKeyed : ∀ name, Keyed (rowIdentity library) (mergeRows (rowIdentity library) rowChanged
      ((live.get? name).getD []) ((base.get? name).getD []) ((completed.get? name).getD [])) := fun name =>
    keyed_mergeRows (hkeyed hlive name) (hkeyed hcompleted name)
  constructor
  · intro name id hid
    dsimp only
    rw [getD_mergeTransaction (hkept name),
      findRow_eq_lookup h.ids hid (hidentified (hmerged name)) (hmergedKeyed name),
      lookup_mergeRows (hkeyed hlive name) (hkeyed hcompleted name),
      ← findRow_eq_lookup h.ids hid (hidentified (hlive.getD name).1) (hkeyed hlive name),
      ← findRow_eq_lookup h.ids hid (hidentified (hbase.getD name).1) (hkeyed hbase name),
      ← findRow_eq_lookup h.ids hid (hidentified (hcompleted.getD name).1) (hkeyed hcompleted name)]
    exact h.resolve_eq hid (hlive.getD name).1 (hbase.getD name).1 (hcompleted.getD name).1
  · intro name
    rw [getD_mergeTransaction (hkept name)]
    exact (keyed_iff_distinct h.ids (hidentified (hmerged name))).mp (hmergedKeyed name)

/-! ## Rows that are not told apart -/

private def single (rows : List Record) : Tables := .ofEntries [("t", rows)]

private theorem get?_single (rows : List Record) (name : String) :
    (single rows).get? name = if name = "t" then some rows else none := by
  simp only [single, Dict.ofEntries, Dict.setAll, List.foldl_cons, List.foldl_nil, Dict.get?_set]
  rfl

private theorem within_single (rows : List Record) (hrows : ∀ row ∈ rows, inUse row) (hshort : rows.length ≤ 1) :
    Within inUse (single rows) := by
  intro name found hfound
  rw [get?_single] at hfound
  split at hfound
  · cases hfound
    refine ⟨hrows, ?_⟩
    match rows, hshort with
    | [], _ => exact .nil
    | [_], _ => exact List.pairwise_singleton _ _
  · cases hfound

section

variable (hmerges : ∀ live base completed, Within inUse live → Within inUse base → Within inUse completed →
  (∀ name, (base.get? name).isSome → (completed.get? name).isSome) → Merges library inUse live base completed)
include hmerges

open Classical in
/-- What the merge of single rows has to be. -/
private theorem merges_single (live base completed : List Record) (hlive : ∀ row ∈ live, inUse row)
    (hbase : ∀ row ∈ base, inUse row) (hcompleted : ∀ row ∈ completed, inUse row)
    (hshort : live.length ≤ 1 ∧ base.length ≤ 1 ∧ completed.length ≤ 1) (hid : idsOf inUse id) :
    findRow (mergeRows (rowIdentity library) rowChanged live base completed) id =
      resolve (fun old new => decide (old ≠ new)) (findRow live id) (findRow base id) (findRow completed id) := by
  have hkept : ∀ name, ((single base).get? name).isSome → ((single completed).get? name).isSome := by
    intro name hname
    rw [get?_single] at hname ⊢
    split at hname
    · next heq => simp [heq]
    · cases hname
  have hrow := (hmerges _ _ _ (within_single live hlive hshort.1) (within_single base hbase hshort.2.1)
    (within_single completed hcompleted hshort.2.2) hkept).row "t" id hid
  dsimp only at hrow
  rw [getD_mergeTransaction (hkept "t")] at hrow
  simpa only [get?_single, if_true, Option.getD_some] using hrow

section

variable (hids : ∀ row, inUse row → ∃ id, heldValue "id" row = some id ∧ id.deepEqual id = true)
include hids

omit hmerges in
private theorem findRow_self {row : Record} (huse : inUse row) (hheld : heldValue "id" row = some id) :
    findRow [row] id = some row := by
  obtain ⟨own, hown, hsame⟩ := hids row huse
  cases hheld.symm.trans hown
  simp [findRow, hasID, hheld, hsame]

theorem Merges.faithful : Faithful library (idsOf inUse) := by
  rintro left right ⟨leftRow, hleft, hleftID⟩ ⟨rightRow, hright, hrightID⟩
  -- one row was deleted, the other is live
  have hrow := merges_single hmerges [rightRow] [leftRow] [] (by simpa using hright) (by simpa using hleft) (by simp)
    (by simp) ⟨rightRow, hright, hrightID⟩
  rw [findRow_self hids hright hrightID] at hrow
  have hmerged : mergeRows (rowIdentity library) rowChanged [rightRow] [leftRow] [] =
      if identityText library left = identityText library right then [] else [rightRow] := by
    rw [← rowIdentity_of_heldValue hleftID, ← rowIdentity_of_heldValue hrightID]
    split
    · next heq => simp [mergeRows, mergeLive, lookup, heq]
    · next hne => simp [mergeRows, mergeLive, lookup, hne]
  rw [hmerged] at hrow
  by_cases hsame : left.deepEqual right = true
  · refine iff_of_true (by_contra fun hne => ?_) hsame
    rw [if_neg hne, findRow_self hids hright hrightID] at hrow
    simp [findRow, hasID, hleftID, hsame, resolve] at hrow
  · refine iff_of_false (fun heq => ?_) hsame
    rw [if_pos heq] at hrow
    simp [findRow, hasID, hleftID, hsame, resolve] at hrow

theorem Merges.tellsApart : TellsApart library inUse := by
  have hfaithful := Merges.faithful hmerges hids
  refine ⟨hfaithful, fun left right leftID rightID hleft hright hleftID hrightID hsame hne => ?_⟩
  have heq : rowIdentity library left = rowIdentity library right := by
    rw [rowIdentity_of_heldValue hleftID, rowIdentity_of_heldValue hrightID]
    exact (hfaithful _ _ ⟨left, hleft, hleftID⟩ ⟨right, hright, hrightID⟩).mpr hsame
  have hfound : findRow [left] rightID = some left := by simp [findRow, hasID, hleftID, hsame]
  have hmerged : ∀ {live old new : Record}, rowIdentity library old = rowIdentity library live →
      rowIdentity library new = rowIdentity library live →
        mergeRows (rowIdentity library) rowChanged [live] [old] [new] = [if rowChanged old new then new else live] := by
    intro live old new hold hnew
    simp [mergeRows, mergeLive, lookup, differs, hold, hnew]
  constructor
  · have hrow := merges_single hmerges [left] [left] [right] (by simpa using hleft) (by simpa using hleft)
      (by simpa using hright) (by simp) ⟨right, hright, hrightID⟩
    rw [hmerged rfl heq.symm, hfound, findRow_self hids hright hrightID] at hrow
    by_contra hchanged
    rw [if_neg hchanged, hfound] at hrow
    simp [resolve, hne] at hrow
  · have hrow := merges_single hmerges [right] [left] [left] (by simpa using hright) (by simpa using hleft)
      (by simpa using hleft) (by simp) ⟨right, hright, hrightID⟩
    rw [hmerged heq heq, hfound, findRow_self hids hright hrightID] at hrow
    by_contra hchanged
    rw [if_pos (Bool.not_eq_false _ ▸ hchanged), hfound] at hrow
    simp [resolve] at hrow
    exact hne hrow

end

end

/-- The merge of a transaction that drops no table is right for all tables of the rows in use exactly when
their ids are told apart by their texts and deep equality tells what was changed. -/
theorem merges_iff {library : Library} {inUse : Record → Prop}
    (hids : ∀ row, inUse row → ∃ id, heldValue "id" row = some id ∧ id.deepEqual id = true) :
    (∀ live base completed, Within inUse live → Within inUse base → Within inUse completed →
      (∀ name, (base.get? name).isSome → (completed.get? name).isSome) → Merges library inUse live base completed) ↔
        TellsApart library inUse :=
  ⟨fun h => Merges.tellsApart h hids, fun h _ _ _ hlive hbase hcompleted => h.merges hids hlive hbase hcompleted⟩

end

/-! ## A row with a number that is none -/

private def namedRow (name : String) : Record := .ofEntries [("id", .string "1"), ("name", .string name)]

private def isNamed (row : Record) : Prop := row = namedRow "Ada" ∨ row = namedRow "Eve"

private theorem named_tellsApart : TellsApart textLibrary isNamed := by
  have hid : ∀ {row id}, isNamed row → heldValue "id" row = some id → id = .string "1" := by
    rintro row id (rfl | rfl) hheld <;> exact (Option.some.inj hheld).symm
  constructor
  · rintro left right ⟨leftRow, hleft, hleftID⟩ ⟨rightRow, hright, hrightID⟩
    rw [hid hleft hleftID, hid hright hrightID]
    simp [Value.deepEqual]
  · rintro left right leftID rightID (rfl | rfl) (rfl | rfl) _ _ _ hne
    · exact absurd rfl hne
    · decide
    · decide
    · exact absurd rfl hne

/-- The transaction leaves the row alone, and the name that it was given outside stays. -/
theorem merges_iff_named :
    findRow (((mergeTransaction textLibrary (single [namedRow "Eve"]) (single [namedRow "Ada"])
      (single [namedRow "Ada"])).get? "t").getD []) (.string "1") = some (namedRow "Eve") := by
  have hids : ∀ row, isNamed row → ∃ id, heldValue "id" row = some id ∧ id.deepEqual id = true := by
    rintro row (rfl | rfl) <;> exact ⟨.string "1", rfl, rfl⟩
  have hmerges := (merges_iff hids).mpr named_tellsApart _ _ _
    (within_single [namedRow "Eve"] (by simp [isNamed]) (by simp))
    (within_single [namedRow "Ada"] (by simp [isNamed]) (by simp))
    (within_single [namedRow "Ada"] (by simp [isNamed]) (by simp)) (fun _ h => h)
  have hrow := hmerges.row "t" (.string "1") ⟨namedRow "Eve", .inr rfl, rfl⟩
  dsimp only at hrow
  rw [hrow]
  simp only [get?_single, if_true, Option.getD_some]
  have hlive : findRow [namedRow "Eve"] (.string "1") = some (namedRow "Eve") := rfl
  have hbase : findRow [namedRow "Ada"] (.string "1") = some (namedRow "Ada") := rfl
  rw [hlive, hbase]
  simp [resolve]

/-- A row whose score is no number. -/
private def unscoredRow (name : String) : Record :=
  .ofEntries [("id", .string "1"), ("name", .string name), ("score", .float64 0x7ff8000000000000)]

/-- The transaction leaves the row alone, but takes back the name that it was given outside. -/
theorem mergeTransaction_reverts :
    ¬ Merges textLibrary (fun row => row = unscoredRow "Ada" ∨ row = unscoredRow "Eve") (single [unscoredRow "Eve"])
      (single [unscoredRow "Ada"]) (single [unscoredRow "Ada"]) := by
  intro h
  have hrow := h.row "t" (.string "1") ⟨unscoredRow "Eve", .inr rfl, rfl⟩
  dsimp only at hrow
  rw [getD_mergeTransaction fun hbase => hbase] at hrow
  simp only [get?_single, if_true, Option.getD_some] at hrow
  have hlive : findRow [unscoredRow "Eve"] (.string "1") = some (unscoredRow "Eve") := rfl
  have hbase : findRow [unscoredRow "Ada"] (.string "1") = some (unscoredRow "Ada") := rfl
  have hmerged : findRow (mergeRows (rowIdentity textLibrary) rowChanged [unscoredRow "Eve"] [unscoredRow "Ada"]
      [unscoredRow "Ada"]) (.string "1") = some (unscoredRow "Ada") := rfl
  rw [hlive, hbase, hmerged] at hrow
  simp [resolve] at hrow
  have hnames := congrArg (fun row : Record => (row.get? "name").any fun name => name.deepEqual (.string "Ada")) hrow
  revert hnames
  decide

end singleauth.memory
