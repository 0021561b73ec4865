import SingleAuth.Lib.Json.Value

open json

namespace singleauth.httpio

/-- The string of an optional member, and whether the member is there with a
value of that type. A null counts as there. -/
def optionalString (body : Object) (name : String) : Option String × Bool :=
  match body.get? name with
  | some .null => (none, true)
  | some (.str text) => (some text, true)
  | _ => (none, false)

def optionalBool (body : Object) (name : String) : Option Bool × Bool :=
  match body.get? name with
  | some .null => (none, true)
  | some (.bool flag) => (some flag, true)
  | _ => (none, false)

end singleauth.httpio
