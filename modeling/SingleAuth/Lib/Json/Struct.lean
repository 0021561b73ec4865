import SingleAuth.Lib.Json.Value

namespace json

/-- The type of a record's field: the values it admits, and what an admitted
value makes of the field's content. -/
structure Kind (α : Type) where
  admits : Value → Bool
  store : α → Value → α

/-- Decode one field of a record from the members whose key spells its name,
one after the other. A value of the wrong type makes the decoding fail. -/
def Kind.read {α : Type} (kind : Kind α) (name : String) (content : α) (members : List (String × Value)) :
    Option α :=
  if (values (spelled name members)).all kind.admits then
    some ((values (spelled name members)).foldl kind.store content)
  else none

namespace Kind

/-- A field of a plain type. A null leaves it as it is. -/
def scalar {α : Type} (get : Value → Option α) : Kind α where
  admits value := value.isNull || (get value).isSome
  store content value := (get value).getD content

def string : Kind String := scalar Value.string?

def bool : Kind Bool := scalar Value.bool?

def int64 : Kind Int64 := scalar Value.int64?

/-- A pointer to a plain type. A null clears it. -/
def pointer {α : Type} (get : Value → Option α) : Kind (Option α) where
  admits value := value.isNull || (get value).isSome
  store _ value := get value

/-- Decode the elements of a list of strings. A null element leaves the
element that was there before. -/
def storeStrings : List String → List Value → List String
  | _, [] => []
  | old, element :: rest => (element.string?).getD (old.headD "") :: storeStrings old.tail rest

/-- A list of strings. A null clears it. -/
def strings : Kind (Option (List String)) where
  admits value := value.isNull ||
    (value.array?).any (fun elements => elements.all (fun element => element.isNull || (element.string?).isSome))
  store content value := (value.array?).map (storeStrings (content.getD []))

/-- A pointer to a nested record. An object is decoded over the record the
pointer already leads to, a null clears the pointer. -/
def struct {τ : Type} (zero : τ) (decode : τ → List (String × Value) → Option τ) : Kind (Option τ) where
  admits value := value.isNull || (value.object?).any (fun members => (decode zero members).isSome)
  store content value := (value.object?).bind (decode (content.getD zero))

/-- A nested record held in place. A null leaves it as it is. -/
def inline {τ : Type} (zero : τ) (decode : τ → List (String × Value) → Option τ) : Kind τ where
  admits value := value.isNull || (value.object?).any (fun members => (decode zero members).isSome)
  store content value := ((value.object?).bind (decode content)).getD content

end Kind

variable {members : List (String × Value)} {name : String} {α : Type}

theorem Kind.read_eq_some_iff {kind : Kind α} {content result : α} :
    kind.read name content members = some result ↔
      (∀ value ∈ values (spelled name members), kind.admits value = true) ∧
        (values (spelled name members)).foldl kind.store content = result := by
  rw [Kind.read]
  split
  · rename_i hall
    rw [Option.some_inj]
    exact ⟨fun hresult => ⟨List.all_eq_true.mp hall, hresult⟩, fun hboth => hboth.2⟩
  rename_i hnot
  simp only [reduceCtorEq, false_iff, not_and]
  intro hall
  exact absurd (List.all_eq_true.mpr hall) hnot

/-- Writing keys of other spellings does not change how a field is decoded. -/
theorem Kind.read_setAll_of_other (kind : Kind α) (content : α) (object : Object)
    (hother : ∀ member ∈ members, spells name member.1 = false) :
    kind.read name content (object.setAll members).entries = kind.read name content object.entries := by
  have hsame : spelled name (object.setAll members).entries = spelled name object.entries :=
    object.filter_setAll_of_not (spells name) hother
  rw [Kind.read, Kind.read, hsame]

variable {τ : Type}

/-- A nested record is decoded from the one object under its name. -/
theorem Kind.read_inline_obj (zero : τ) (decode : τ → List (String × Value) → Option τ) (name : String)
    (members : List (String × Value)) :
    (Kind.inline zero decode).read name zero [(name, .obj members)] = decode zero members := by
  cases hdecode : decode zero members <;>
    simp [Kind.read, spelled, values, Kind.inline, Value.isNull, hdecode]

/-! ## Records as they are written -/

/-- A member that is left out when its text is empty. -/
def omitEmpty (name content : String) : List (String × Value) :=
  if content = "" then [] else [(name, .str content)]

theorem spelled_append (name : String) (first last : List (String × Value)) :
    spelled name (first ++ last) = spelled name first ++ spelled name last :=
  List.filter_append first last

theorem spelled_omitEmpty {other content : String} (hother : spells name other = false) :
    spelled name (omitEmpty other content) = [] := by
  unfold omitEmpty
  split <;> simp [spelled, hother]

/-- A text that is left out when it is empty is read back. -/
theorem read_omitEmpty (name content : String)
    (hmembers : spelled name members = spelled name (omitEmpty name content)) :
    Kind.string.read name "" members = some content := by
  rw [Kind.read, hmembers]
  unfold omitEmpty
  split
  · rename_i hempty
    simp [spelled, values, hempty]
  · simp [spelled, values, Kind.string, Kind.scalar]

private theorem storeStrings_map (old texts : List String) : Kind.storeStrings old (texts.map Value.str) = texts := by
  induction texts generalizing old with
  | nil => rfl
  | cons text rest ih => simp [Kind.storeStrings, ih]

theorem strings_admits (texts : List String) : Kind.strings.admits (.arr (texts.map Value.str)) = true := by
  simp [Kind.strings, Value.array?, Value.isNull]

theorem strings_store (texts : List String) : Kind.strings.store none (.arr (texts.map Value.str)) = some texts := by
  simp [Kind.strings, Value.array?, storeStrings_map]

def lastOf {α : Type} (get : Value → Option α) (contents : List Value) : Option α :=
  (contents.filterMap get).getLast?

variable (get : Value → Option α)

/-- Values decoded into a plain field leave the last one of the field's type. -/
theorem foldl_scalar (contents : List Value) (old : α) :
    contents.foldl (Kind.scalar get).store old = (lastOf get contents).getD old := by
  induction contents generalizing old with
  | nil => rfl
  | cons value rest ih =>
    rw [List.foldl_cons, ih]
    cases hget : get value with
    | none => simp [Kind.scalar, lastOf, hget]
    | some content =>
      simp only [Kind.scalar, lastOf, hget, List.filterMap_cons_some hget, List.getLast?_cons, Option.getD_some]

/-- A plain field keeps its content when the last value of its type is that content. -/
theorem foldl_scalar_eq_iff (contents : List Value) (content : α) :
    contents.foldl (Kind.scalar get).store content = content ↔
      ∀ last, lastOf get contents = some last → last = content := by
  rw [foldl_scalar]
  cases lastOf get contents with
  | none => simp
  | some last => simp

/-- Values decoded into a pointer leave what the last one says, null included. -/
theorem foldl_pointer (contents : List Value) (old : Option α) :
    contents.foldl (Kind.pointer get).store old = (contents.getLast?).elim old get := by
  induction contents generalizing old with
  | nil => rfl
  | cons value rest ih =>
    rw [List.foldl_cons, ih]
    cases rest with
    | nil => rfl
    | cons next rest =>
      rw [List.getLast?_cons_cons, List.getLast?_cons]
      rfl

/-- Values decoded into a pointer to a nested record leave it nil when the last
of them is null, or when there is none and it was nil. -/
theorem foldl_struct_eq_none_iff {zero : τ} {decode : τ → List (String × Value) → Option τ}
    (huniform : ∀ content members, (decode content members).isSome = (decode zero members).isSome)
    {contents : List Value} (hadmits : ∀ value ∈ contents, (Kind.struct zero decode).admits value = true) :
    contents.foldl (Kind.struct zero decode).store none = none ↔
      ∀ last, contents.getLast? = some last → last.isNull = true := by
  rcases List.eq_nil_or_concat contents with rfl | ⟨first, last, rfl⟩
  · simp
  have hlast := hadmits last (by simp)
  rw [List.concat_eq_append, List.foldl_append, List.getLast?_append_cons]
  simp only [List.foldl_cons, List.foldl_nil, List.getLast?_singleton, Option.some.injEq, forall_eq']
  cases last with
  | obj members =>
    have hdecodes : (decode zero members).isSome = true := by
      simpa [Kind.struct, Value.isNull, Value.object?] using hlast
    simp only [Kind.struct, Value.object?, Option.bind_some, Value.isNull, Bool.false_eq_true, iff_false]
    exact Option.isSome_iff_ne_none.mp ((huniform _ members).trans hdecodes)
  | null => simp [Kind.struct, Value.object?, Value.isNull]
  | bool | num | str | arr => simp [Kind.struct, Value.object?, Value.isNull] at hlast

theorem foldl_pointer_eq_iff (contents : List Value) (content : Option α) :
    contents.foldl (Kind.pointer get).store content = content ↔
      ∀ last, contents.getLast? = some last → get last = content := by
  rw [foldl_pointer]
  cases contents.getLast? with
  | none => simp
  | some last => simp

end json
