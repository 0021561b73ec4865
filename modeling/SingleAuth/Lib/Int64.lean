import Mathlib.Tactic.Common

namespace int64

def max : Int := 9223372036854775807

def min : Int := -9223372036854775808

def InRange (value : Int) : Prop := min ≤ value ∧ value ≤ max

instance (value : Int) : Decidable (InRange value) := inferInstanceAs (Decidable (_ ∧ _))

def wrap (value : Int) : Int := (value - min) % 18446744073709551616 + min

def saturate (value : Int) : Int := if max < value then max else if value < min then min else value

variable {value : Int}

theorem wrap_of_inRange (h : InRange value) : wrap value = value := by
  unfold InRange min max at h
  unfold wrap min
  omega

theorem wrap_succ (hnonneg : 0 ≤ value) (hlt : value < max) : wrap (value + 1) = value + 1 := by
  refine wrap_of_inRange ⟨?_, hlt⟩
  unfold min
  omega

variable {bound : Int}

/-- Saturation does not change which values in range a value exceeds. -/
theorem lt_saturate_iff (h : InRange bound) (hmax : bound ≠ max) : bound < saturate value ↔ bound < value := by
  unfold InRange min max at h
  unfold max at hmax
  unfold saturate min max
  omega

theorem lt_of_lt_saturate (h : InRange bound) (hlt : bound < saturate value) : bound < value := by
  unfold InRange min max at h
  unfold saturate min max at hlt
  omega

end int64
