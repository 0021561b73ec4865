import SingleAuth.Lib.Json.Overlay

open dict

namespace json

mutual

/-- What a document becomes when it is decoded to generic maps and lists and
encoded again: the keys of every object are sorted and kept once. -/
def generic : Value → Value
  | .null => .null
  | .bool value => .bool value
  | .num value => .num value
  | .str value => .str value
  | .arr elements => .arr (genericAll elements)
  | .obj members => .obj (Dict.ofEntries (genericMembers members)).entries

def genericAll : List Value → List Value
  | [] => []
  | element :: rest => generic element :: genericAll rest

def genericMembers : List (String × Value) → List (String × Value)
  | [] => []
  | (key, value) :: rest => (key, generic value) :: genericMembers rest

end

theorem genericMembers_eq_map (members : List (String × Value)) :
    genericMembers members = members.map (fun member => (member.1, generic member.2)) := by
  induction members with
  | nil => rfl
  | cons member rest ih => rw [genericMembers, ih, List.map_cons]

/-- The generic map a document with these members is decoded to. -/
def toObject (members : List (String × Value)) : Object := Dict.ofEntries (genericMembers members)

/-- The members of a written table are made generic one by one. -/
theorem genericMembers_written (table : List (String × Option Value)) :
    genericMembers (written table) = written (table.map (fun entry => (entry.1, entry.2.map generic))) := by
  rw [genericMembers_eq_map]
  simp only [written, List.map_filterMap, List.filterMap_map]
  congr 1
  funext entry
  cases hvalue : entry.2 <;> simp [hvalue]

/-- A generic map that is encoded and decoded again holds the same keys. -/
theorem get?_toObject (object : Object) (key : String) :
    (toObject object.entries).get? key = (object.get? key).map generic := by
  have hsorted : Ascending (genericMembers object.entries) := by
    rw [genericMembers_eq_map]
    exact List.pairwise_map.mpr object.ascending
  rw [toObject, Dict.get?, Dict.entries_ofEntries hsorted, genericMembers_eq_map, Dict.get?]
  induction object.entries with
  | nil => rfl
  | cons entry rest ih =>
    rw [List.map_cons, List.lookup_cons, List.lookup_cons, ih]
    cases key == entry.1 <;> rfl

/-- A generic map held in a field. An object is decoded over the map that is
already there, a null clears it. -/
def Kind.map : Kind (Option Object) where
  admits value := value.isNull || value.object?.isSome
  store content value := value.object?.map (fun members => (content.getD Dict.empty).setAll (genericMembers members))

end json
