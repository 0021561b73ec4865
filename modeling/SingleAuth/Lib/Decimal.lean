import Mathlib.Data.Nat.Digits.Defs
import Mathlib.Tactic.Common

namespace decimal

/-- What a scan of digits ends with. -/
inductive Scan where
  | malformed
  | overflow
  | read (magnitude : Nat)

/-- Read digits up to the one at which the magnitude leaves 64 bits. What stands
behind that digit is not looked at. -/
def scan : Nat → List Char → Scan
  | total, [] => .read total
  | total, c :: rest =>
    if c.isDigit then
      if 10 * total + (c.toNat - '0'.toNat) < 2 ^ 64 then scan (10 * total + (c.toNat - '0'.toNat)) rest else .overflow
    else .malformed

/-- Whether a literal has a minus sign, and what follows its sign. -/
def sign : List Char → Bool × List Char
  | '-' :: rest => (true, rest)
  | '+' :: rest => (false, rest)
  | rest => (false, rest)

/-- The number of 64 bits that a literal is read as, and whether it was read
without an error. Beside an error stands zero for a malformed literal and the
nearest bound for one that is out of range. -/
def atoi (literal : String) : Int × Bool :=
  let (negative, digits) := sign literal.toList
  if digits = [] then (0, false)
  else
    match scan 0 digits with
    | .malformed => (0, false)
    | .overflow => (if negative then -2 ^ 63 else 2 ^ 63 - 1, false)
    | .read magnitude =>
      if negative then if magnitude ≤ 2 ^ 63 then (-magnitude, true) else (-2 ^ 63, false)
      else if magnitude < 2 ^ 63 then (magnitude, true) else (2 ^ 63 - 1, false)

theorem neg_pow_le_atoi (literal : String) : -2 ^ 63 ≤ (atoi literal).1 := by
  unfold atoi
  dsimp only
  split
  · decide
  split
  · decide
  · split <;> decide
  · split <;> split <;> dsimp only <;> omega

theorem le_ofDigitChars (digits : List Char) (total : Nat) : total ≤ Nat.ofDigitChars 10 digits total := by
  induction digits generalizing total with
  | nil => exact Nat.le_refl _
  | cons c rest ih =>
    rw [Nat.ofDigitChars_cons]
    have hrest := ih (10 * total + (c.toNat - '0'.toNat))
    omega

/-- Digits of a number that fits are read to the end: every beginning of them is
a number that fits as well. -/
theorem scan_eq_read {digits : List Char} {total : Nat} (hdigits : ∀ c ∈ digits, c.isDigit = true)
    (hfits : Nat.ofDigitChars 10 digits total < 2 ^ 64) :
    scan total digits = .read (Nat.ofDigitChars 10 digits total) := by
  induction digits generalizing total with
  | nil => rfl
  | cons c rest ih =>
    rw [Nat.ofDigitChars_cons] at hfits ⊢
    have hnext := le_ofDigitChars rest (10 * total + (c.toNat - '0'.toNat))
    rw [scan, if_pos (hdigits c List.mem_cons_self), if_pos (by omega)]
    exact ih (fun d hd => hdigits d (List.mem_cons_of_mem _ hd)) hfits

theorem scan_toDigits {number : Nat} (h : number < 2 ^ 64) : scan 0 (Nat.toDigits 10 number) = .read number := by
  have hvalue : Nat.ofDigitChars 10 (Nat.toDigits 10 number) 0 = number := Nat.ofDigitChars_ten_toDigits
  have hdigits : ∀ c ∈ Nat.toDigits 10 number, c.isDigit = true :=
    fun c hc => Nat.isDigit_of_mem_toDigits (by decide) (by decide) hc
  rw [scan_eq_read hdigits (by rwa [hvalue]), hvalue]

theorem sign_toDigits (number : Nat) : sign (Nat.toDigits 10 number) = (false, Nat.toDigits 10 number) := by
  have hdigit : ∀ c ∈ Nat.toDigits 10 number, c.isDigit = true :=
    fun c hc => Nat.isDigit_of_mem_toDigits (by decide) (by decide) hc
  unfold sign
  split
  · next heq => exact absurd (hdigit '-' (heq ▸ List.mem_cons_self)) (by decide)
  · next heq => exact absurd (hdigit '+' (heq ▸ List.mem_cons_self)) (by decide)
  · rfl

/-- A number of 64 bits is read back from its literal. -/
theorem atoi_toString {number : Int} (hlower : -2 ^ 63 ≤ number) (hupper : number < 2 ^ 63) :
    atoi (toString number) = (number, true) := by
  unfold atoi
  cases number with
  | ofNat n =>
    have hchars : (toString (Int.ofNat n)).toList = Nat.toDigits 10 n := Nat.toList_repr
    have hfits : n < 2 ^ 63 := by simp only [Int.ofNat_eq_natCast] at hupper; omega
    rw [hchars, sign_toDigits]
    simp only [Nat.toDigits_ne_nil, scan_toDigits (show n < 2 ^ 64 by omega), hfits, Bool.false_eq_true, if_true,
      if_false, Int.ofNat_eq_natCast]
  | negSucc n =>
    have hchars : (toString (Int.negSucc n)).toList = '-' :: Nat.toDigits 10 (n + 1) := by
      rw [show toString (Int.negSucc n) = "-" ++ Nat.repr (n + 1) from rfl, String.toList_append, Nat.toList_repr]
      rfl
    have hfits : n + 1 ≤ 2 ^ 63 := by omega
    rw [hchars]
    simp only [sign, Nat.toDigits_ne_nil, scan_toDigits (show n + 1 < 2 ^ 64 by omega), hfits, if_true, if_false]
    rfl

end decimal
