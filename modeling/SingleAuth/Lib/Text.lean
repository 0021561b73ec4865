import Mathlib.Data.String.Basic
import Mathlib.Data.List.DropRight
import Mathlib.Algebra.Group.Int.Defs

namespace text

/-- The white space characters of Unicode. -/
def isSpace (c : Char) : Bool :=
  c ∈ ['\t', '\n', '\u000b', '\u000c', '\r', ' ', '\u0085', '\u00a0', '\u1680', '\u2028', '\u2029', '\u202f',
    '\u205f', '\u3000'] || ('\u2000' ≤ c && c ≤ '\u200a')

/-- The pieces between separators, empty ones included. -/
def splitChars (separator : Char) : List Char → List (List Char)
  | [] => [[]]
  | c :: rest =>
    if c = separator then [] :: splitChars separator rest
    else
      match splitChars separator rest with
      | [] => [[c]]
      | piece :: pieces => (c :: piece) :: pieces

def split (separator : Char) (line : String) : List String :=
  (splitChars separator line.toList).map String.ofList

def trimSpace (line : String) : String :=
  String.ofList ((line.toList.dropWhile isSpace).reverse.dropWhile isSpace).reverse

private theorem trimSpace_toList (line : String) :
    (trimSpace line).toList = (line.toList.dropWhile isSpace).rdropWhile isSpace := by
  rw [trimSpace, String.toList_ofList, List.rdropWhile]

/-- Trimming leaves no white space to trim at the front either: what is left is
the beginning of a text without leading white space. -/
theorem trimSpace_trimSpace (line : String) : trimSpace (trimSpace line) = trimSpace line := by
  have hfront : (trimSpace line).toList.dropWhile isSpace = (trimSpace line).toList := by
    rw [trimSpace_toList]
    obtain ⟨rest, hrest⟩ := List.rdropWhile_prefix isSpace (line.toList.dropWhile isSpace)
    cases hkept : (line.toList.dropWhile isSpace).rdropWhile isSpace with
    | nil => rfl
    | cons c kept =>
      rw [hkept] at hrest
      have hhead := List.head_dropWhile_not isSpace (l := line.toList) (by rw [← hrest]; simp)
      simp only [← hrest, List.cons_append, List.head_cons] at hhead
      rw [List.dropWhile_cons_of_neg (by simp [hhead])]
  apply String.toList_inj.mp
  rw [trimSpace_toList (trimSpace line), hfront, trimSpace_toList, List.rdropWhile_idempotent]

variable {c separator : Char} {line first : String}

theorem mem_trimSpace (h : c ∈ (trimSpace line).toList) : c ∈ line.toList := by
  rw [trimSpace_toList] at h
  have hfront : c ∈ line.toList.dropWhile isSpace := (List.rdropWhile_prefix isSpace _).subset h
  exact (List.dropWhile_suffix isSpace).subset hfront

theorem not_mem_of_mem_splitOn {line piece : List Char} (h : piece ∈ line.splitOn separator) : separator ∉ piece := by
  induction line generalizing piece with
  | nil =>
    simp only [List.splitOn_nil, List.mem_singleton] at h
    simp [h]
  | cons c rest ih =>
    rw [List.splitOn_cons_eq_if_modifyHead] at h
    split at h
    · rcases List.mem_cons.mp h with rfl | hrest
      · simp
      · exact ih hrest
    rename_i hne
    cases hpieces : rest.splitOn separator with
    | nil => simp [hpieces] at h
    | cons first others =>
      rw [hpieces, List.modifyHead_cons] at h
      rcases List.mem_cons.mp h with rfl | hothers
      · have hfirst := ih (hpieces ▸ List.mem_cons_self)
        have hc : separator ≠ c := fun heq => hne (by simp [heq])
        simp [hc, hfirst]
      · exact ih (hpieces ▸ List.mem_cons_of_mem _ hothers)

/-- The pieces between runs of white space, none of them empty. -/
def fieldChars : List Char → List Char → List (List Char)
  | word, [] => if word = [] then [] else [word.reverse]
  | word, c :: rest =>
    if isSpace c then (if word = [] then fieldChars [] rest else word.reverse :: fieldChars [] rest)
    else fieldChars (c :: word) rest

def fields (line : String) : List String := (fieldChars [] line.toList).map String.ofList

/-- A decimal integer literal with an optional sign that fits 64 bits. -/
def parseInt64 (literal : String) : Option Int :=
  let (negative, digits) := match literal.toList with
    | '-' :: rest => (true, rest)
    | '+' :: rest => (false, rest)
    | rest => (false, rest)
  if digits = [] ∨ digits.any (fun c => !c.isDigit) then none
  else
    let magnitude : Int := digits.foldl (fun total c => total * 10 + (c.toNat - '0'.toNat : Nat)) 0
    let value := if negative then -magnitude else magnitude
    if -2 ^ 63 ≤ value ∧ value < 2 ^ 63 then some value else none

/-! ## Parts of a text -/

def hasPrefix (line part : String) : Bool := part.toList.isPrefixOf line.toList

def hasSuffix (line part : String) : Bool := part.toList.isSuffixOf line.toList

def contains (line part : String) : Bool := line.toList.tails.any part.toList.isPrefixOf

def trimSuffix (line suffix : String) : String :=
  if hasSuffix line suffix then String.ofList (line.toList.take (line.toList.length - suffix.toList.length)) else line

/-- What stands before and after the last separator. -/
def cutLast (separator : Char) (line : String) : Option (String × String) :=
  let reversed := line.toList.reverse
  if separator ∈ reversed then
    some (String.ofList (reversed.dropWhile (· ≠ separator)).tail.reverse,
      String.ofList (reversed.takeWhile (· ≠ separator)).reverse)
  else none

theorem cutLast_append (first : String) {last : String} (hlast : separator ∉ last.toList) :
    cutLast separator (first ++ separator.toString ++ last) = some (first, last) := by
  have hchars : (first ++ separator.toString ++ last).toList.reverse =
      last.toList.reverse ++ separator :: first.toList.reverse := by simp
  have hother : ∀ c ∈ last.toList.reverse, decide (c ≠ separator) = true :=
    fun c hc => decide_eq_true fun heq => hlast (List.mem_reverse.mp (heq ▸ hc))
  unfold cutLast
  rw [hchars, if_pos (by simp), List.dropWhile_append_of_pos hother, List.takeWhile_append_of_pos hother]
  simp

/-- What stands before and after the first separator. -/
def cut (separator : Char) (line : String) : Option (String × String) :=
  if separator ∈ line.toList then
    some (String.ofList (line.toList.takeWhile (· ≠ separator)),
      String.ofList (line.toList.dropWhile (· ≠ separator)).tail)
  else none

theorem cut_append (hfirst : separator ∉ first.toList) (rest : String) :
    cut separator (first ++ separator.toString ++ rest) = some (first, rest) := by
  have hchars : (first ++ separator.toString ++ rest).toList = first.toList ++ separator :: rest.toList := by simp
  have hother : ∀ c ∈ first.toList, decide (c ≠ separator) = true :=
    fun c hc => decide_eq_true fun heq => hfirst (heq ▸ hc)
  unfold cut
  rw [hchars, if_pos (by simp), List.dropWhile_append_of_pos hother, List.takeWhile_append_of_pos hother]
  simp

theorem not_mem_of_cut {rest : String} (h : cut separator line = some (first, rest)) : separator ∉ first.toList := by
  unfold cut at h
  split at h
  · cases h
    rw [String.toList_ofList]
    exact fun hmem => by simpa using List.mem_takeWhile_imp hmem
  · cases h

theorem not_mem_of_cut_eq_none (h : cut separator line = none) : separator ∉ line.toList := by
  unfold cut at h
  split at h
  · cases h
  · next hnot => exact hnot

/-- Texts that agree up to the first separator and from there on. -/
theorem append_separator_inj {α : Type} {separator : α} {left right first second : List α}
    (hleft : separator ∉ left) (hright : separator ∉ right) :
    left ++ separator :: first = right ++ separator :: second ↔ left = right ∧ first = second := by
  refine ⟨fun h => ?_, fun ⟨hsame, hrest⟩ => by rw [hsame, hrest]⟩
  induction left generalizing right with
  | nil =>
    cases right with
    | nil => exact ⟨rfl, (List.cons.inj h).2⟩
    | cons c rest => exact absurd ((List.cons.inj h).1 ▸ List.mem_cons_self) hright
  | cons c rest ih =>
    cases right with
    | nil => exact absurd ((List.cons.inj h).1 ▸ List.mem_cons_self) hleft
    | cons d others =>
      obtain ⟨rfl, htails⟩ := List.cons.inj h
      obtain ⟨rfl, hends⟩ := ih (fun hmem => hleft (List.mem_cons_of_mem _ hmem))
        (fun hmem => hright (List.mem_cons_of_mem _ hmem)) htails
      exact ⟨rfl, hends⟩

/-- A decimal number has digits and perhaps a sign. -/
theorem mem_toString_int {number : Int} (h : c ∈ (toString number).toList) : c.isDigit = true ∨ c = '-' := by
  have hdigits : ∀ n : Nat, ∀ c ∈ (Nat.repr n).toList, c.isDigit = true := by
    intro n c hc
    rw [Nat.repr, String.toList_ofList] at hc
    exact Nat.isDigit_of_mem_toDigits (by decide) (by decide) hc
  cases number with
  | ofNat n => exact .inl (hdigits n c h)
  | negSucc n =>
    have hchars : (toString (Int.negSucc n)).toList = '-' :: (Nat.repr n.succ).toList := by
      rw [show toString (Int.negSucc n) = "-" ++ Nat.repr n.succ from rfl, String.toList_append]
      rfl
    rw [hchars] at h
    rcases List.mem_cons.mp h with hsign | hdigit
    · exact .inr hsign
    · exact .inl (hdigits _ c hdigit)

end text
