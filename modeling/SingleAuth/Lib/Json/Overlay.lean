import SingleAuth.Lib.Json.Struct

open dict

namespace json

/-- The members a table of optional members really writes. -/
def written (table : List (String × Option Value)) : List (String × Value) :=
  table.filterMap (fun entry => entry.2.map (Prod.mk entry.1))

/-- The values an object holds under spellings of `name` that a decoder reads
after the member written under `name` itself, and all values of that
spelling when none is written. -/
def behind (name : String) (isWritten : Bool) (object : Object) : List Value :=
  values ((spelled name object.entries).filter (fun member => !isWritten || decide (name < member.1)))

/-- No two entries of the table spell the same name. -/
abbrev DistinctNames (table : List (String × Option Value)) : Prop :=
  table.Pairwise (fun left right => spells left.1 right.1 = false)

private theorem written_unspelled (name : String) (table : List (String × Option Value))
    (hothers : ∀ entry ∈ table, spells name entry.1 = false) :
    ∀ member ∈ written table, spells name member.1 = false := by
  intro member hmember
  obtain ⟨entry, hentry, hvalue⟩ := List.mem_filterMap.mp hmember
  obtain ⟨value, _, rfl⟩ := Option.map_eq_some_iff.mp hvalue
  exact hothers entry hentry

variable {name : String} {table : List (String × Option Value)} {value? : Option Value}

/-- The members of a name's spelling, after a table was written over an
object: the object's own before the written one, the written one, and the
object's own behind it. -/
private theorem spelled_overlay (object : Object)
    (hdistinct : DistinctNames table) (hentry : (name, value?) ∈ table) :
    spelled name (object.setAll (written table)).entries =
      value?.elim (spelled name object.entries) (fun value =>
        (spelled name object.entries).filter (fun member => member.1 < name) ++
          (name, value) :: (spelled name object.entries).filter (fun member => name < member.1)) := by
  obtain ⟨first, last, rfl⟩ := List.append_of_mem hentry
  obtain ⟨_, htail, hcross⟩ := List.pairwise_append.mp hdistinct
  have hfirst := written_unspelled name first (fun entry hmem => by
    rw [spells_comm]
    exact hcross entry hmem _ List.mem_cons_self)
  have hlast := written_unspelled name last (List.pairwise_cons.mp htail).1
  cases value? with
  | none =>
    have hsplit : written (first ++ (name, none) :: last) = written first ++ written last := by
      simp [written]
    have hnone : ∀ member ∈ written (first ++ (name, none) :: last), spells name member.1 = false := by
      rw [hsplit]
      intro member hmember
      exact (List.mem_append.mp hmember).elim (hfirst member) (hlast member)
    exact object.filter_setAll_of_not (spells name) hnone
  | some value =>
    have hsplit : written (first ++ (name, some value) :: last) =
        written first ++ (name, value) :: written last := by
      simp [written]
    have hfold : object.setAll (written first ++ (name, value) :: written last) =
        ((object.setAll (written first)).set name value).setAll (written last) := by
      simp only [Dict.setAll, List.foldl_append, List.foldl_cons]
    rw [spelled, hsplit, hfold, Dict.filter_setAll_of_not _ (spells name) hlast,
      Dict.filter_set_of_selected _ (spells name) value (spells_self name),
      Dict.filter_setAll_of_not object (spells name) hfirst]
    rfl

variable {α : Type}

/-- A field decoded from an object that a table was written over starts from
the written value and then reads the object's own members behind it; all
members of the field's spelling that the table leaves must have its type. -/
theorem read_overlay_eq_some_iff (kind : Kind α) (object : Object) (hdistinct : DistinctNames table)
    (hentry : (name, value?) ∈ table) {content target result : α}
    (hwritten : ∀ value, value? = some value →
      kind.admits value = true ∧ ∀ current, kind.store current value = target)
    (hunwritten : value? = none → content = target) :
    kind.read name content (object.setAll (written table)).entries = some result ↔
      (∀ member ∈ spelled name object.entries, (value?.isSome → member.1 ≠ name) → kind.admits member.2 = true) ∧
        (behind name value?.isSome object).foldl kind.store target = result := by
  rw [Kind.read_eq_some_iff, spelled_overlay object hdistinct hentry]
  cases value? with
  | none =>
    have hbehind : behind name (none : Option Value).isSome object = values (spelled name object.entries) := by
      simp [behind]
    rw [hunwritten rfl, hbehind]
    simp only [Option.elim_none, values, List.forall_mem_map, Option.isSome_none, Bool.false_eq_true,
      IsEmpty.forall_iff, forall_const]
  | some value =>
    obtain ⟨hadmits, hstore⟩ := hwritten value rfl
    simp only [Option.elim_some, values, List.map_append, List.map_cons, List.foldl_append, List.foldl_cons,
      hstore, behind, Option.isSome_some, Bool.not_true, Bool.false_or]
    refine and_congr_left' ?_
    simp only [List.mem_append, List.mem_cons, List.mem_map, List.mem_filter, decide_eq_true_eq]
    constructor
    · intro hall member hmember hne
      rcases lt_or_gt_of_ne (hne trivial) with hbefore | hbehind
      · exact hall member.2 (Or.inl ⟨member, ⟨hmember, hbefore⟩, rfl⟩)
      · exact hall member.2 (Or.inr (Or.inr ⟨member, ⟨hmember, hbehind⟩, rfl⟩))
    rintro hall value' (⟨member, ⟨hmember, hbefore⟩, rfl⟩ | rfl | ⟨member, ⟨hmember, hbehind⟩, rfl⟩)
    · exact hall member hmember (fun _ => hbefore.ne)
    · exact hadmits
    · exact hall member hmember (fun _ => hbehind.ne')

/-- A field decoded from nothing but a written table is decoded from the value
the table has for it. -/
theorem read_written (kind : Kind α) (hdistinct : DistinctNames table) (hentry : (name, value?) ∈ table)
    (content : α) :
    kind.read name content (Dict.ofEntries (written table)).entries =
      kind.read name content (value?.map (Prod.mk name)).toList := by
  have hspelled := spelled_overlay Dict.empty hdistinct hentry
  have hempty : spelled name (Dict.empty : Object).entries = [] := rfl
  rw [hempty] at hspelled
  cases value? with
  | none | some =>
    rw [Kind.read, Kind.read, show Dict.ofEntries (written table) = Dict.empty.setAll (written table) from rfl, hspelled]
    simp [spelled]

end json
