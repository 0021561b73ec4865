import SingleAuth.Lib.Dict
import Mathlib.Algebra.Group.Int.Defs

open dict

namespace json

/-- A number literal: an integer literal by its value, a literal with a
fraction or an exponent by its decimal mantissa and exponent. -/
inductive Number where
  | int (value : Int)
  | dec (mantissa exponent : Int)
deriving DecidableEq, Repr

/-- A JSON document. An object keeps its members in the order they are written. -/
inductive Value where
  | null
  | bool (value : Bool)
  | num (value : Number)
  | str (value : String)
  | arr (elements : List Value)
  | obj (members : List (String × Value))

/-- The generic map an object is decoded to; the encoder writes it back with its keys ascending. -/
abbrev Object := Dict Value

namespace Value

def isNull : Value → Bool
  | null => true
  | _ => false

def string? : Value → Option String
  | str value => some value
  | _ => none

def bool? : Value → Option Bool
  | bool value => some value
  | _ => none

/-- An integer literal that fits a signed 64-bit integer. -/
def int64? : Value → Option Int64
  | num (.int value) => if -2 ^ 63 ≤ value ∧ value < 2 ^ 63 then some (Int64.ofInt value) else none
  | _ => none

def array? : Value → Option (List Value)
  | arr elements => some elements
  | _ => none

def object? : Value → Option (List (String × Value))
  | obj members => some members
  | _ => none

/-- The literal the encoder writes for a signed 64-bit integer. -/
def ofInt64 (value : Int64) : Value := num (.int value.toInt)

@[simp] theorem int64?_ofInt64 (value : Int64) : (ofInt64 value).int64? = some value := by
  have hlow := value.le_toInt
  have hhigh := value.toInt_lt
  simp only [ofInt64, int64?]
  rw [if_pos ⟨by simpa using hlow, by simpa using hhigh⟩, Int64.ofInt_toInt]

@[simp] theorem string?_str (value : String) : (str value).string? = some value := rfl

@[simp] theorem bool?_bool (value : Bool) : (bool value).bool? = some value := rfl

@[simp] theorem object?_obj (members : List (String × Value)) : (obj members).object? = some members := rfl

end Value

/-- Case folding of one character as key matching applies it. Besides the
ASCII capitals only the long s and the Kelvin sign fold to ASCII. -/
def foldRune (c : Char) : Char :=
  if c = '\u017f' then 's' else if c = '\u212a' then 'k' else c.toLower

def foldName (name : String) : List Char := name.toList.map foldRune

/-- A key spells a field name when the two agree up to case folding. -/
def spells (name key : String) : Bool := foldName key == foldName name

@[simp] theorem spells_self (name : String) : spells name name = true := by
  simp [spells]

theorem spells_comm (name key : String) : spells name key = spells key name := by
  simp only [spells, Bool.beq_comm]

/-- The values of the members whose key spells `name`, in document order. -/
def spelled (name : String) (members : List (String × Value)) : List (String × Value) :=
  members.filter (fun entry => spells name entry.1)

def values (members : List (String × Value)) : List Value := members.map Prod.snd

end json
