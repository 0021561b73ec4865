import SingleAuth.Storage.Query

open ieee singleauth.storage text

namespace singleauth.memory

variable (library : Library)

def sliceValues : Value → Except StorageError (List Value)
  | .slice _ items => .ok items
  | _ => .error (Sentinel.invalidQuery.error "expected an array")

def numericValue : Value → Option (Number binary64)
  | .int _ value => some (library.floatOfInt value)
  | .float32 value => some (library.widen value)
  | .float64 value => some value
  | _ => none

/-- A number on one side also equals a text of it on the other. -/
def numberEquals (number : Number binary64) (other : Value) : Option Bool :=
  match numericValue library other with
  | some otherNumber => some (equal number otherNumber)
  | none =>
    match other with
    | .string text => some (((library.parseFloat text).map (equal number)).getD false)
    | _ => none

def equalValues (left right : Value) (insensitive : Bool) : Bool :=
  match left, right with
  | .null, .null => true
  | .null, _ | _, .null => false
  | .string left, .string right => if insensitive then library.equalFold left right else left = right
  | .time left, .time right => left.instant = right.instant
  | left, right =>
    match (numericValue library left).bind (numberEquals library · right) with
    | some result => result
    | none =>
      match numericValue library right, left with
      | some rightNumber, .string text => ((library.parseFloat text).map (equal · rightNumber)).getD false
      | _, _ => left.deepEqual right

/-- How two values compare, if they do. -/
def compareValues : Value → Value → Option Ordering
  | .time left, .time right => some (compare left.instant right.instant)
  | .string left, .string right => some (compareOfLessAndEq left right)
  | .bool left, .bool right => some (compare left right)
  | left, right =>
    match numericValue library left, numericValue library right with
    | some left, some right => some (if less left right then .lt else if less right left then .gt else .eq)
    | _, _ => none

/-- Texts are folded to lower case for a search that ignores case. -/
def foldCase (insensitive : Bool) (line : String) : String := if insensitive then library.toLower line else line

def contains (container expected : Value) (insensitive : Bool) : Bool :=
  match container with
  | .string actual =>
    match expected with
    | .string expected => text.contains (foldCase library insensitive actual) (foldCase library insensitive expected)
    | _ => false
  | .slice _ items => items.any fun item => equalValues library item expected insensitive
  | _ => false

def isStringOperand : Value → Bool
  | .string _ => true
  | .slice _ items => items.all fun item => match item with
    | .string _ => true
    | _ => false
  | _ => false

def evaluate (record : Record) (clause : Clause) : Except StorageError Bool :=
  let actual := (record.get? clause.field).getD .null
  let expected := clause.value
  let insensitive := clause.mode = .insensitive && isStringOperand expected
  let compared (accept : Ordering → Bool) : Except StorageError Bool :=
    .ok (((compareValues library actual expected).map accept).getD false)
  match clause.operator with
  | .eq => .ok (equalValues library actual expected insensitive)
  | .ne => .ok (!equalValues library actual expected insensitive)
  | .isIn => do return (← sliceValues expected).any fun item => equalValues library actual item insensitive
  | .notIn => do return !(← sliceValues expected).any fun item => equalValues library actual item insensitive
  | .contains => .ok (contains library actual expected insensitive)
  | .startsWith =>
    match actual, expected with
    | .string actual, .string expected =>
      .ok (hasPrefix (foldCase library insensitive actual) (foldCase library insensitive expected))
    | _, _ => .ok false
  | .endsWith =>
    match actual, expected with
    | .string actual, .string expected =>
      .ok (hasSuffix (foldCase library insensitive actual) (foldCase library insensitive expected))
    | _, _ => .ok false
  | .lt => compared (· == .lt)
  | .lte => compared (· != .gt)
  | .gt => compared (· == .gt)
  | .gte => compared (· != .lt)
  | .unsupported text => .error (Sentinel.invalidQuery.error ("unsupported operator " ++ library.quote text))

/-- The clauses from left to right. The first one is visited again. -/
def matchRow (record : Record) : List Clause → Except StorageError Bool
  | [] => .ok true
  | first :: rest => do
    let start ← evaluate library record first
    (first :: rest).foldlM (fun result clause => do
      let next ← evaluate library record clause
      return if clause.connector = .or then result || next else result && next) start

end singleauth.memory
