import Mathlib.Algebra.Group.Nat.Defs
import Mathlib.Tactic.Common

namespace ieee

/-- A binary interchange format: its width and the magnitude of its infinity. -/
structure Format where
  (width infinity : Nat)

def binary32 : Format := ⟨32, 0x7f800000⟩

def binary64 : Format := ⟨64, 0x7ff0000000000000⟩

abbrev Number (format : Format) : Type := BitVec format.width

section

variable {format : Format}

def magnitude (x : Number format) : Nat := x.toNat % 2 ^ (format.width - 1)

def isNaN (x : Number format) : Bool := format.infinity < magnitude x

/-- The two zeros are equal, and a NaN equals nothing. -/
def equal (x y : Number format) : Bool :=
  !isNaN x && !isNaN y && (x = y || magnitude x = 0 && magnitude y = 0)

/-- The order of the numbers is that of their signed magnitudes. -/
def signed (x : Number format) : Int := if x.msb then -(magnitude x : Int) else magnitude x

def less (x y : Number format) : Bool := !isNaN x && !isNaN y && signed x < signed y

theorem equal_comm (x y : Number format) : equal x y = equal y x := by
  unfold equal
  rw [Bool.and_comm (!isNaN x), Bool.and_comm (decide (magnitude x = 0)), decide_eq_decide.mpr (eq_comm (a := x))]

end

end ieee
