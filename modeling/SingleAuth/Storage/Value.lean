import SingleAuth.Lib.Dict
import SingleAuth.Lib.Ieee

open dict ieee

namespace singleauth.storage

inductive IntKind where
  | int | int8 | int16 | int32 | int64
  | uint | uint8 | uint16 | uint32 | uint64
  deriving DecidableEq

def IntKind.name : IntKind → String
  | .int => "int"
  | .int8 => "int8"
  | .int16 => "int16"
  | .int32 => "int32"
  | .int64 => "int64"
  | .uint => "uint"
  | .uint8 => "uint8"
  | .uint16 => "uint16"
  | .uint32 => "uint32"
  | .uint64 => "uint64"

def IntKind.signed : IntKind → Bool
  | .int | .int8 | .int16 | .int32 | .int64 => true
  | _ => false

def IntKind.bits : IntKind → Nat
  | .int8 | .uint8 => 8
  | .int16 | .uint16 => 16
  | .int32 | .uint32 => 32
  | .int | .int64 | .uint | .uint64 => 64

/-- The value that arithmetic of that kind keeps of an integer. -/
def IntKind.wrap (kind : IntKind) (value : Int) : Int :=
  if kind.signed then (BitVec.ofInt kind.bits value).toInt else (BitVec.ofInt kind.bits value).toNat

/-- A point in time: the instant, and how it is represented (its zone and clock
reading), which deep equality sees as well. -/
structure Time where
  instant : Int
  representation : String
  deriving DecidableEq

inductive ElementType where
  | any | string | float64
  deriving DecidableEq

/-- A stored value. A map keeps its members with their keys ascending. -/
inductive Value where
  | null
  | string (text : String)
  | bool (value : Bool)
  | int (kind : IntKind) (value : Int)
  | float32 (value : Number binary32)
  | float64 (value : Number binary64)
  | time (value : Time)
  | slice (element : ElementType) (items : List Value)
  | object (members : List (String × Value))

/-- A dynamic row. A missing key and a key that holds null are different. -/
abbrev Record : Type := Dict Value

/-! ## Deep equality -/

mutual

def Value.deepEqual : Value → Value → Bool
  | .null, .null => true
  | .string left, .string right => left = right
  | .bool left, .bool right => left = right
  | .int leftKind left, .int rightKind right => leftKind = rightKind && left = right
  | .float32 left, .float32 right => equal left right
  | .float64 left, .float64 right => equal left right
  | .time left, .time right => left = right
  | .slice leftElement left, .slice rightElement right => leftElement = rightElement && Value.itemsEqual left right
  | .object left, .object right => Value.membersEqual left right
  | _, _ => false

def Value.itemsEqual : List Value → List Value → Bool
  | [], [] => true
  | left :: lefts, right :: rights => left.deepEqual right && Value.itemsEqual lefts rights
  | _, _ => false

def Value.membersEqual : List (String × Value) → List (String × Value) → Bool
  | [], [] => true
  | (leftKey, left) :: lefts, (rightKey, right) :: rights =>
    leftKey = rightKey && left.deepEqual right && Value.membersEqual lefts rights
  | _, _ => false

end

def Record.deepEqual (left right : Record) : Bool := Value.membersEqual left.entries right.entries

mutual

theorem Value.deepEqual_comm (left right : Value) : left.deepEqual right = right.deepEqual left := by
  cases left <;> cases right <;> try rfl
  case string left right => simp only [Value.deepEqual, eq_comm]
  case bool left right => simp only [Value.deepEqual, eq_comm]
  case int leftKind left rightKind right =>
    simp only [Value.deepEqual, eq_comm (a := leftKind), eq_comm (a := left)]
  case float32 left right => exact equal_comm left right
  case float64 left right => exact equal_comm left right
  case time left right => simp only [Value.deepEqual, eq_comm]
  case slice leftElement left rightElement right =>
    simp only [Value.deepEqual, eq_comm (a := leftElement), Value.itemsEqual_comm left right]
  case object left right =>
    simp only [Value.deepEqual]
    exact Value.membersEqual_comm left right

theorem Value.itemsEqual_comm (lefts rights : List Value) :
    Value.itemsEqual lefts rights = Value.itemsEqual rights lefts := by
  cases lefts <;> cases rights <;> try rfl
  case cons left lefts right rights =>
    simp only [Value.itemsEqual]
    rw [Value.deepEqual_comm left right, Value.itemsEqual_comm lefts rights]

theorem Value.membersEqual_comm (lefts rights : List (String × Value)) :
    Value.membersEqual lefts rights = Value.membersEqual rights lefts := by
  cases lefts <;> cases rights <;> try rfl
  case cons left lefts right rights =>
    obtain ⟨leftKey, left⟩ := left
    obtain ⟨rightKey, right⟩ := right
    simp only [Value.membersEqual]
    rw [Value.deepEqual_comm left right, Value.membersEqual_comm lefts rights, decide_eq_decide.mpr eq_comm]

end

end singleauth.storage
