import Mathlib.Data.List.Dedup
import Mathlib.Data.List.Sort
import SingleAuth.Lib.Url

open bytes

namespace url

def ampersand : UInt8 := 38
def equalsSign : UInt8 := 61
def semicolon : UInt8 := 59
def plusSign : UInt8 := 43
def space : UInt8 := 32
def tilde : UInt8 := 126

/-! ## Escapes of a query component -/

def queryEscapeByte (b : UInt8) : Bytes :=
  if b = space then [plusSign]
  else if isAlphanumeric b || b ∈ ascii "-_.~" then [b]
  else [percent, upperHex (b / 16), upperHex (b % 16)]

def queryEscape (text : Bytes) : Bytes := text.flatMap queryEscapeByte

/-- A plus sign stands for a space; the rest is read as in a path. -/
def queryUnescape (text : Bytes) : Option Bytes :=
  pathUnescape (text.map fun b => if b = plusSign then space else b)

/-- The bytes that may stand in a written component. -/
def mayStandInQuery (b : UInt8) : Bool :=
  isAlphanumeric b || b ∈ ascii "-_.~+%"

/-- A way to write one byte of a component so that it can be read back. -/
structure ComponentWriter where
  write : UInt8 → Bytes
  read : ∀ b rest, queryUnescape (write b ++ rest) = (queryUnescape rest).map (b :: ·)
  stands : ∀ b, ∀ c ∈ write b, mayStandInQuery c = true

/-- A text is read on its own before what follows it. -/
theorem queryUnescape_append {text decoded : Bytes} (h : queryUnescape text = some decoded) (rest : Bytes) :
    queryUnescape (text ++ rest) = (queryUnescape rest).map (decoded ++ ·) := by
  unfold queryUnescape at h ⊢
  rw [List.map_append, pathUnescape_append h]

/-- `url.QueryEscape`, byte by byte. -/
def queryWriter : ComponentWriter where
  write := queryEscapeByte
  read b := queryUnescape_append (forall_byte (p := fun b => queryUnescape (queryEscapeByte b) = some [b])
    (by decide +kernel) b)
  stands b := List.all_eq_true.mp (forall_byte (p := fun b => (queryEscapeByte b).all mayStandInQuery = true)
    (by decide +kernel) b)

namespace ComponentWriter

variable (writer : ComponentWriter)

def component (text : Bytes) : Bytes := text.flatMap writer.write

/-- Pairs as a query writes them: `key=value`, with an ampersand between. -/
def serialize (pairs : List (Bytes × Bytes)) : Bytes :=
  join ampersand (pairs.map fun pair => writer.component pair.1 ++ equalsSign :: writer.component pair.2)

theorem queryUnescape_component (text : Bytes) : queryUnescape (writer.component text) = some text := by
  induction text with
  | nil => rfl
  | cons b text ih =>
    rw [component, List.flatMap_cons, writer.read]
    rw [component] at ih
    rw [ih]
    rfl

theorem not_mem_component {b : UInt8} (h : mayStandInQuery b = false) (text : Bytes) : b ∉ writer.component text := by
  intro hmem
  obtain ⟨c, -, hb⟩ := List.mem_flatMap.mp hmem
  rw [writer.stands c b hb] at h
  cases h

end ComponentWriter

/-! ## Reading a query -/

/-- The text before the first equals sign and the text after it, which is empty where there is no such sign. -/
def cutEquals (part : Bytes) : Bytes × Bytes :=
  (before equalsSign part, part.drop ((before equalsSign part).length + 1))

def parsePair (part : Bytes) : Option (Bytes × Bytes) :=
  if semicolon ∈ part then none
  else do
    let key ← queryUnescape (cutEquals part).1
    let value ← queryUnescape (cutEquals part).2
    return (key, value)

/-- `url.ParseQuery`, with no result where it reports an error. Empty parts are skipped. -/
def parseQuery (text : Bytes) : Option (List (Bytes × Bytes)) :=
  ((text.splitOn ampersand).filter (· ≠ [])).mapM parsePair

theorem cutEquals_append {key : Bytes} (h : equalsSign ∉ key) (value : Bytes) :
    cutEquals (key ++ equalsSign :: value) = (key, value) := by
  have hkey : before equalsSign (key ++ equalsSign :: value) = key := by
    rw [before_append h, before_cons_self, List.append_nil]
  unfold cutEquals
  rw [hkey]
  simp [List.drop_append]

namespace ComponentWriter

variable (writer : ComponentWriter)

theorem parsePair_written (key value : Bytes) :
    parsePair (writer.component key ++ equalsSign :: writer.component value) = some (key, value) := by
  have hsemicolon : semicolon ∉ writer.component key ++ equalsSign :: writer.component value := by
    rw [List.mem_append, List.mem_cons, not_or, not_or]
    exact ⟨writer.not_mem_component (by decide) key, by decide, writer.not_mem_component (by decide) value⟩
  unfold parsePair
  rw [if_neg hsemicolon, cutEquals_append (writer.not_mem_component (by decide) key)]
  simp only [queryUnescape_component]
  rfl

theorem parseQuery_serialize (pairs : List (Bytes × Bytes)) : parseQuery (writer.serialize pairs) = some pairs := by
  unfold parseQuery serialize join
  cases pairs with
  | nil => rfl
  | cons pair pairs =>
    rw [List.splitOn_intercalate ampersand]
    · rw [List.filter_eq_self.mpr]
      · rw [List.mapM_map]
        generalize pair :: pairs = all
        induction all with
        | nil => rfl
        | cons first rest ih => simp [List.mapM_cons, parsePair_written, ih]
      · intro part hpart
        obtain ⟨first, -, rfl⟩ := List.mem_map.mp hpart
        simp
    · intro part hpart
      obtain ⟨first, -, rfl⟩ := List.mem_map.mp hpart
      rw [List.mem_append, List.mem_cons, not_or, not_or]
      exact ⟨writer.not_mem_component (by decide) first.1, by decide, writer.not_mem_component (by decide) first.2⟩
    · simp

theorem serialize_injective : Function.Injective writer.serialize := by
  intro first second h
  have hread := congrArg parseQuery h
  rwa [parseQuery_serialize, parseQuery_serialize, Option.some.injEq] at hread

end ComponentWriter

/-! ## Values -/

/-- Named values, in the order in which those of one name were added. A map from names to lists of values is such
a list, up to the order of the names. -/
abbrev Values := List (Bytes × Bytes)

namespace Values

def all (values : Values) (name : Bytes) : List Bytes := (values.filter (·.1 = name)).map (·.2)

def get (values : Values) (name : Bytes) : Bytes := (values.all name).headD []

def del (values : Values) (name : Bytes) : Values := values.filter (·.1 ≠ name)

def add (values : Values) (name value : Bytes) : Values := values ++ [(name, value)]

def set (values : Values) (name value : Bytes) : Values := (values.del name).add name value

def names (values : Values) : List Bytes := (values.map (·.1)).dedup

def sortNames (names : List Bytes) : List Bytes := names.insertionSort (· ≤ ·)

/-- The values, one name after the other. -/
def grouped (values : Values) : Values :=
  (sortNames values.names).flatMap fun name => (values.all name).map fun value => (name, value)

def encode (values : Values) : Bytes := queryWriter.serialize values.grouped

@[simp] theorem all_nil (name : Bytes) : all [] name = [] := rfl

@[simp] theorem all_append (first second : Values) (name : Bytes) :
    all (first ++ second) name = first.all name ++ second.all name := by
  simp [all]

theorem all_cons (pair : Bytes × Bytes) (values : Values) (name : Bytes) :
    all (pair :: values) name = if pair.1 = name then pair.2 :: values.all name else values.all name := by
  unfold all
  rw [List.filter_cons]
  by_cases h : pair.1 = name <;> simp [h]

variable {name : Bytes} {values : Values}

theorem mem_all {value : Bytes} : value ∈ values.all name ↔ (name, value) ∈ values := by
  simp [all]

theorem all_del_self (values : Values) (name : Bytes) : (values.del name).all name = [] := by
  rw [List.eq_nil_iff_forall_not_mem]
  intro value hmem
  have hpair := mem_all.mp hmem
  simp [del] at hpair

variable {other : Bytes} {keys : List Bytes} {first second : Values}

theorem all_del_of_ne (h : other ≠ name) (values : Values) : (values.del name).all other = values.all other := by
  unfold all del
  rw [List.filter_filter]
  congr 1
  apply List.filter_congr
  intro pair _
  by_cases hpair : pair.1 = other
  · simp [hpair, h]
  · simp [hpair]

theorem mem_names : name ∈ values.names ↔ values.all name ≠ [] := by
  unfold names all
  rw [List.mem_dedup, ne_eq, List.map_eq_nil_iff, List.filter_eq_nil_iff, List.mem_map]
  simp

theorem all_tagged (name other : Bytes) (texts : List Bytes) :
    all (texts.map fun value => (name, value)) other = if name = other then texts else [] := by
  induction texts with
  | nil => simp
  | cons text texts ih =>
    rw [List.map_cons, all_cons, ih]
    split <;> rfl

theorem all_flatMap_tagged (hnodup : keys.Nodup) (texts : Bytes → List Bytes) (name : Bytes) :
    all (keys.flatMap fun key => (texts key).map fun value => (key, value)) name
      = if name ∈ keys then texts name else [] := by
  induction keys with
  | nil => rfl
  | cons key keys ih =>
    obtain ⟨hkey, hkeys⟩ := List.nodup_cons.mp hnodup
    rw [List.flatMap_cons, all_append, all_tagged, ih hkeys]
    by_cases hname : key = name
    · subst hname
      simp [hkey]
    · have hother : name ≠ key := fun h => hname h.symm
      simp [hname, hother]

theorem nodup_sortNames : (sortNames values.names).Nodup :=
  (List.perm_insertionSort (· ≤ ·) values.names).nodup_iff.mpr (List.nodup_dedup _)

theorem mem_sortNames : name ∈ sortNames keys ↔ name ∈ keys :=
  (List.perm_insertionSort (· ≤ ·) keys).mem_iff

/-- Grouping the names does not change the values of one. -/
@[simp] theorem all_grouped (values : Values) (name : Bytes) : values.grouped.all name = values.all name := by
  unfold grouped
  rw [all_flatMap_tagged nodup_sortNames]
  split
  · rfl
  · next hnone =>
    rw [mem_sortNames, mem_names] at hnone
    exact (not_not.mp hnone).symm

/-- Reading what was encoded gives every name its values in their order. -/
theorem parseQuery_encode (values : Values) : parseQuery values.encode = some values.grouped :=
  queryWriter.parseQuery_serialize values.grouped

theorem all_set_self (values : Values) (name value : Bytes) : (values.set name value).all name = [value] := by
  rw [set, add, all_append, all_del_self, List.nil_append, all_cons, if_pos rfl]
  rfl

theorem all_set_of_ne (h : other ≠ name) (values : Values) (value : Bytes) :
    (values.set name value).all other = values.all other := by
  rw [set, add, all_append, all_del_of_ne h, all_cons, if_neg h.symm]
  simp

/-- How often a pair occurs is how often its value occurs under its name. -/
theorem count_eq_count_all (values : Values) (name value : Bytes) :
    values.count (name, value) = (values.all name).count value := by
  induction values with
  | nil => rfl
  | cons pair values ih =>
    obtain ⟨key, text⟩ := pair
    rw [all_cons, List.count_cons, ih]
    by_cases hkey : key = name
    · subst hkey
      simp [List.count_cons]
    · simp [hkey]

theorem perm_of_all_eq (h : ∀ name, first.all name = second.all name) : first.Perm second := by
  rw [List.perm_iff_count]
  rintro ⟨name, value⟩
  rw [count_eq_count_all, count_eq_count_all, h]

theorem perm_del (h : first.Perm second) (name : Bytes) : (first.del name).Perm (second.del name) :=
  h.filter _

theorem names_perm (h : first.Perm second) : first.names.Perm second.names :=
  (h.map _).dedup

/-! ### Sorted pairs -/

/-- The order of pairs: by name, then by value. -/
def PairLe (first second : Bytes × Bytes) : Prop :=
  first.1 < second.1 ∨ first.1 = second.1 ∧ first.2 ≤ second.2

instance : DecidableRel PairLe := fun first second =>
  inferInstanceAs (Decidable (first.1 < second.1 ∨ first.1 = second.1 ∧ first.2 ≤ second.2))

instance : Std.Total PairLe where
  total first second := by
    unfold PairLe
    by_cases hlt : first.1 < second.1
    · exact .inl (.inl hlt)
    · by_cases hgt : second.1 < first.1
      · exact .inr (.inl hgt)
      · have heq : first.1 = second.1 := List.le_antisymm hgt hlt
        rcases List.le_total first.2 second.2 with hle | hle
        · exact .inl (.inr ⟨heq, hle⟩)
        · exact .inr (.inr ⟨heq.symm, hle⟩)

instance : IsTrans (Bytes × Bytes) PairLe where
  trans first second third hfirst hsecond := by
    rcases hfirst with hlt | ⟨heq, hle⟩
    · rcases hsecond with hlt' | ⟨heq', -⟩
      · exact .inl (List.lt_trans hlt hlt')
      · exact .inl (heq' ▸ hlt)
    · rcases hsecond with hlt' | ⟨heq', hle'⟩
      · exact .inl (heq ▸ hlt')
      · exact .inr ⟨heq.trans heq', List.le_trans hle hle'⟩

theorem PairLe.antisymm {first second : Bytes × Bytes} (h : PairLe first second) (h' : PairLe second first) :
    first = second := by
  rcases h with hlt | ⟨heq, hle⟩
  · rcases h' with hgt | ⟨heq, -⟩
    · exact absurd (List.lt_trans hlt hgt) (List.lt_irrefl _)
    · exact absurd (heq ▸ hlt) (List.lt_irrefl _)
  · rcases h' with hgt | ⟨-, hge⟩
    · exact absurd (heq ▸ hgt) (List.lt_irrefl _)
    · exact Prod.ext heq (List.le_antisymm hle hge)

def sortPairs (values : Values) : Values := values.insertionSort PairLe

/-- Sorting forgets the order and nothing else. -/
theorem sortPairs_eq_iff : sortPairs first = sortPairs second ↔ first.Perm second := by
  have hfirst := List.perm_insertionSort PairLe first
  have hsecond := List.perm_insertionSort PairLe second
  constructor
  · intro h
    unfold sortPairs at h
    exact hfirst.symm.trans (h ▸ hsecond)
  · intro h
    exact List.Perm.eq_of_pairwise (fun _ _ _ _ => PairLe.antisymm) (List.pairwise_insertionSort PairLe first)
      (List.pairwise_insertionSort PairLe second) ((hfirst.trans h).trans hsecond.symm)

end Values

end url
