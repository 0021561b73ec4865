import Mathlib.Data.List.Basic
import Mathlib.Data.List.TakeWhile

namespace bytes

/-- A string of the program: any sequence of bytes, not only valid UTF-8. -/
abbrev Bytes := List UInt8

instance lawfulBEq : LawfulBEq Bytes := inferInstance

def ascii (text : String) : Bytes := text.toList.map (fun c => UInt8.ofNat c.toNat)

def utf8 (text : String) : Bytes := text.toList.flatMap String.utf8EncodeChar

def slash : UInt8 := 47
def percent : UInt8 := 37
def questionMark : UInt8 := 63

/-- What the standard library knows about characters. -/
structure Unicode where
  /-- The characters of a byte string, with U+FFFD for bytes that are not UTF-8. -/
  runes : Bytes → List Char
  isLetter : Char → Bool
  isDigit : Char → Bool
  toUpper : String → String
  equalFold : String → String → Bool

/-- The library's behaviour on ASCII input. -/
def asciiUnicode : Unicode where
  runes text := text.map (fun b => Char.ofNat b.toNat)
  isLetter c := c.isAlpha
  isDigit c := c.isDigit
  toUpper text := String.ofList (text.toList.map Char.toUpper)
  equalFold left right := left.toList.map Char.toLower == right.toList.map Char.toLower

def before (separator : UInt8) (text : Bytes) : Bytes := text.takeWhile (· != separator)

def trimPrefix (start text : Bytes) : Bytes :=
  match start.isPrefixOf? text with
  | some rest => rest
  | none => text

def trimRight (b : UInt8) (text : Bytes) : Bytes := (text.reverse.dropWhile (· = b)).reverse

def join (separator : UInt8) (pieces : List Bytes) : Bytes := [separator].intercalate pieces

/-- What holds of the numbers below 256 holds of every byte. -/
theorem forall_byte {p : UInt8 → Prop} (h : ∀ n < 256, p (UInt8.ofNat n)) (b : UInt8) : p b := by
  have hb := h b.toNat b.toNat_lt
  rwa [UInt8.ofNat_toNat] at hb

theorem trimPrefix_singleton_cons (b : UInt8) (text : Bytes) : trimPrefix [b] (b :: text) = text := by
  simp [trimPrefix, List.isPrefixOf?]

theorem trimPrefix_append (start text : Bytes) : trimPrefix start (start ++ text) = text := by
  rw [trimPrefix, List.isPrefixOf?_eq_some_iff_append_eq.mpr rfl]

theorem splitOn_injective (separator : UInt8) {first second : Bytes}
    (h : first.splitOn separator = second.splitOn separator) : first = second := by
  have hjoined := congrArg [separator].intercalate h
  rwa [List.intercalate_splitOn, List.intercalate_splitOn] at hjoined

theorem length_splitOn (separator : UInt8) (text : Bytes) :
    (text.splitOn separator).length = text.count separator + 1 := by
  unfold List.splitOn
  induction text with
  | nil => rfl
  | cons b text ih =>
    rw [List.splitOnP_cons_eq_if_modifyHead, List.count_cons]
    split
    · rw [List.length_cons, ih]
    · rw [List.length_modifyHead, ih, Nat.add_zero]

theorem not_mem_before (separator : UInt8) (text : Bytes) : separator ∉ before separator text := by
  intro hmem
  have hall := List.all_takeWhile (p := (· != separator)) (l := text)
  rw [List.all_eq_true] at hall
  simpa using hall separator hmem

variable {separator b : UInt8} {text decoded : Bytes}

theorem before_append (h : separator ∉ text) (rest : Bytes) :
    before separator (text ++ rest) = text ++ before separator rest := by
  unfold before
  apply List.takeWhile_append_of_pos
  intro b hb
  simp only [bne_iff_ne]
  rintro rfl
  exact h hb

theorem before_eq_self (h : separator ∉ text) : before separator text = text := by
  simpa [before] using before_append h []

@[simp] theorem before_cons_self (separator : UInt8) (rest : Bytes) : before separator (separator :: rest) = [] := by
  simp [before]

theorem before_cons_of_ne (h : b ≠ separator) (rest : Bytes) :
    before separator (b :: rest) = b :: before separator rest := by
  simp [before, h]

/-- What is trimmed off at the end, and what is left. -/
theorem trimRight_append (b : UInt8) (text : Bytes) : ∃ count, text = trimRight b text ++ List.replicate count b := by
  refine ⟨(text.reverse.takeWhile (· = b)).length, ?_⟩
  have htrimmed : text.reverse.takeWhile (· = b) = List.replicate (text.reverse.takeWhile (· = b)).length b := by
    refine List.eq_replicate_iff.mpr ⟨rfl, fun c hc => ?_⟩
    have hbyte := List.mem_takeWhile_imp hc
    exact of_decide_eq_true hbyte
  have hsplit := congrArg List.reverse (List.takeWhile_append_dropWhile (p := (· = b)) (l := text.reverse))
  rw [List.reverse_append, List.reverse_reverse, htrimmed, List.reverse_replicate] at hsplit
  exact hsplit.symm

theorem getLast?_trimRight (b : UInt8) (text : Bytes) : (trimRight b text).getLast? ≠ some b := by
  intro hlast
  rw [trimRight, List.getLast?_reverse] at hlast
  have hhead := List.head?_dropWhile_not (fun c : UInt8 => decide (c = b)) text.reverse
  rw [hlast] at hhead
  simp at hhead

theorem trimRight_of_getLast? (h : text.getLast? ≠ some b) : trimRight b text = text := by
  obtain ⟨count, htext⟩ := trimRight_append b text
  cases count with
  | zero => simpa using htext.symm
  | succ count =>
    rw [List.replicate_succ', ← List.append_assoc] at htext
    rw [htext, List.getLast?_concat] at h
    exact absurd rfl h

/-- A text that is shifted by adding in front what is one byte at its end has only that byte. -/
theorem eq_of_shift {front : Bytes} {count total : Nat} (hfront : front ≠ [])
    (h : front ++ text ++ List.replicate count b = text ++ List.replicate total b) : ∀ c ∈ text, c = b := by
  have hreverse := congrArg (fun bytes : Bytes => bytes.reverse.dropWhile (· = b)) h
  have hdrop : ∀ n (rest : Bytes), (List.replicate n b ++ rest).dropWhile (· = b) = rest.dropWhile (· = b) := by
    intro n rest
    rw [List.dropWhile_append, List.dropWhile_eq_nil_iff.mpr]
    · rfl
    · intro c hc
      exact decide_eq_true (List.eq_of_mem_replicate hc)
  simp only [List.reverse_append, List.reverse_replicate, hdrop, List.dropWhile_append] at hreverse
  split at hreverse
  · next hempty =>
    intro c hc
    have hall := List.dropWhile_eq_nil_iff.mp (List.isEmpty_iff.mp hempty) c (List.mem_reverse.mpr hc)
    exact of_decide_eq_true hall
  have hlength := congrArg List.length hreverse
  rw [List.length_append, List.length_reverse] at hlength
  have hpositive := List.length_pos_iff.mpr hfront
  omega

/-! ## Percent escapes -/

def hexDigit (b : UInt8) : Option UInt8 :=
  if 48 ≤ b ∧ b ≤ 57 then some (b - 48)
  else if 97 ≤ b ∧ b ≤ 102 then some (b - 97 + 10)
  else if 65 ≤ b ∧ b ≤ 70 then some (b - 65 + 10)
  else none

/-- The text with each escape replaced by its byte. A percent sign that two
hexadecimal digits do not follow is an error. -/
def pathUnescape : Bytes → Option Bytes
  | [] => some []
  | [b] => if b = percent then none else some [b]
  | [b, c] => if b = percent ∨ c = percent then none else some [b, c]
  | b :: high :: low :: rest =>
    if b = percent then
      match hexDigit high, hexDigit low with
      | some h, some l => (pathUnescape rest).map ((h * 16 + l) :: ·)
      | _, _ => none
    else (pathUnescape (high :: low :: rest)).map (b :: ·)

theorem pathUnescape_of_no_percent (h : percent ∉ text) : pathUnescape text = some text := by
  fun_induction pathUnescape text with
  | case1 => rfl
  | case2 => simp at h
  | case3 => rfl
  | case4 b c hescape => grind
  | case5 => rfl
  | case6 => simp at h
  | case7 => simp at h
  | case8 b high low rest hb ih => simp [ih (fun hmem => h (List.mem_cons_of_mem b hmem))]

theorem pathUnescape_cons_of_ne (h : b ≠ percent) (text : Bytes) :
    pathUnescape (b :: text) = (pathUnescape text).map (b :: ·) := by
  match text with
  | [] => simp [pathUnescape, h]
  | [c] =>
    by_cases hc : c = percent
    · simp [pathUnescape, hc]
    · simp [pathUnescape, h, hc]
  | c :: d :: rest => rw [pathUnescape, if_neg h]

/-- How a text is read, from byte to byte. -/
inductive Unescapes : Bytes → Bytes → Prop where
  | nil : Unescapes [] []
  | plain {b : UInt8} {text decoded : Bytes} (hb : b ≠ percent) (hrest : Unescapes text decoded) :
    Unescapes (b :: text) (b :: decoded)
  | escape {high low first second : UInt8} {text decoded : Bytes} (hhigh : hexDigit high = some first)
    (hlow : hexDigit low = some second) (hrest : Unescapes text decoded) :
    Unescapes (percent :: high :: low :: text) ((first * 16 + second) :: decoded)

theorem unescapes_of_pathUnescape (h : pathUnescape text = some decoded) : Unescapes text decoded := by
  fun_induction pathUnescape text generalizing decoded with
  | case1 =>
    cases h
    exact .nil
  | case2 | case4 | case7 => cases h
  | case3 b hb =>
    cases h
    exact .plain hb .nil
  | case5 b c hnone =>
    cases h
    rw [not_or] at hnone
    exact .plain hnone.1 (.plain hnone.2 .nil)
  | case6 high low tail first second hlow hhigh ih =>
    obtain ⟨inner, hinner, rfl⟩ := Option.map_eq_some_iff.mp h
    exact .escape hhigh hlow (ih hinner)
  | case8 b high low tail hb ih =>
    obtain ⟨inner, hinner, rfl⟩ := Option.map_eq_some_iff.mp h
    exact .plain hb (ih hinner)

/-- A text is read on its own before what follows it. -/
theorem pathUnescape_append (h : pathUnescape text = some decoded) (rest : Bytes) :
    pathUnescape (text ++ rest) = (pathUnescape rest).map (decoded ++ ·) := by
  replace h := unescapes_of_pathUnescape h
  induction h with
  | nil => simp
  | plain hb _ ih =>
    rw [List.cons_append, pathUnescape_cons_of_ne hb, ih, Option.map_map]
    rfl
  | escape hhigh hlow _ ih =>
    rw [List.cons_append, List.cons_append, List.cons_append, pathUnescape, if_pos rfl, hhigh, hlow]
    dsimp only
    rw [ih, Option.map_map]
    rfl

/-- A text that is written byte by byte is read back if each byte is. -/
theorem pathUnescape_flatMap {write : UInt8 → Bytes} (h : ∀ b, pathUnescape (write b) = some [b]) (text : Bytes) :
    pathUnescape (text.flatMap write) = some text := by
  induction text with
  | nil => rfl
  | cons b text ih =>
    rw [List.flatMap_cons, pathUnescape_append (h b), ih]
    rfl

theorem pathUnescape_percent_slash (rest : Bytes) : pathUnescape (percent :: slash :: rest) = none := by
  cases rest with
  | nil => rfl
  | cons c rest =>
    have hslash : hexDigit slash = none := by decide
    simp [pathUnescape, hslash]

theorem pathUnescape_percent_byte_slash (c : UInt8) (rest : Bytes) :
    pathUnescape (percent :: c :: slash :: rest) = none := by
  have hslash : hexDigit slash = none := by decide
  simp only [pathUnescape, if_true, hslash]
  cases hexDigit c <;> rfl

/-- An escape does not reach over a slash. -/
theorem pathUnescape_isSome_of_slash {rest : Bytes} (h : (pathUnescape (text ++ slash :: rest)).isSome) :
    (pathUnescape text).isSome := by
  fun_induction pathUnescape text with
  | case1 => rfl
  | case2 => simp [pathUnescape_percent_slash] at h
  | case3 b hb => rfl
  | case4 b c hescape =>
    by_cases hb : b = percent
    · rw [hb] at h
      simp [pathUnescape_percent_byte_slash] at h
    rw [hescape.resolve_left hb] at h
    change (pathUnescape (b :: percent :: slash :: rest)).isSome at h
    rw [pathUnescape_cons_of_ne hb, pathUnescape_percent_slash] at h
    cases h
  | case5 b c hnone => rfl
  | case6 high low tail first second hlow hhigh ih =>
    change (pathUnescape (percent :: high :: low :: (tail ++ slash :: rest))).isSome at h
    simp only [pathUnescape, if_true, hhigh, hlow, Option.isSome_map] at h ⊢
    exact ih h
  | case7 high low tail hinvalid =>
    change (pathUnescape (percent :: high :: low :: (tail ++ slash :: rest))).isSome at h
    rw [pathUnescape, if_pos rfl] at h
    split at h
    · next first second hfirst hsecond => exact (hinvalid first second hfirst hsecond).elim
    · cases h
  | case8 b high low tail hb ih =>
    change (pathUnescape (b :: ((high :: low :: tail) ++ slash :: rest))).isSome at h
    rw [pathUnescape_cons_of_ne hb, Option.isSome_map] at h
    rw [Option.isSome_map]
    exact ih h

/-- Slashes at the end stand for themselves. -/
theorem pathUnescape_append_slashes {count : Nat}
    (h : pathUnescape (text ++ List.replicate count slash) = some decoded) :
    ∃ inner, pathUnescape text = some inner ∧ decoded = inner ++ List.replicate count slash := by
  have hslashes : pathUnescape (List.replicate count slash) = some (List.replicate count slash) := by
    apply pathUnescape_of_no_percent
    intro hmem
    have heq := List.eq_of_mem_replicate hmem
    revert heq
    decide
  have htext : (pathUnescape text).isSome := by
    cases count with
    | zero => simpa using Option.isSome_of_mem h
    | succ count => exact pathUnescape_isSome_of_slash (Option.isSome_of_mem h)
  obtain ⟨inner, hinner⟩ := Option.isSome_iff_exists.mp htext
  rw [pathUnescape_append hinner, hslashes] at h
  cases h
  exact ⟨inner, hinner, rfl⟩

theorem pathUnescape_ne_nil (h : pathUnescape text = some decoded) (hne : text ≠ []) : decoded ≠ [] := by
  cases unescapes_of_pathUnescape h with
  | nil => exact absurd rfl hne
  | plain | escape => simp

section

variable {α β : Type} {f : α → Option β} {x : α} {xs : List α} {ys : List β}

theorem mapM_cons_eq_some_iff : (x :: xs).mapM f = some ys ↔
    ∃ y, f x = some y ∧ ∃ rest, xs.mapM f = some rest ∧ y :: rest = ys := by
  simp [List.mapM_cons, Option.bind_eq_some_iff]

theorem length_of_mapM (h : xs.mapM f = some ys) : ys.length = xs.length := by
  induction xs generalizing ys with
  | nil =>
    cases h
    rfl
  | cons x xs ih =>
    obtain ⟨y, -, ys, hys, rfl⟩ := mapM_cons_eq_some_iff.mp h
    rw [List.length_cons, List.length_cons, ih hys]

end

/-- Pieces between slashes are decoded one by one. -/
theorem pathUnescape_join {raws pieces : List Bytes} (h : raws.mapM pathUnescape = some pieces) :
    pathUnescape (join slash raws) = some (join slash pieces) := by
  induction raws generalizing pieces with
  | nil =>
    cases h
    rfl
  | cons raw rest ih =>
    obtain ⟨piece, hpiece, others, hothers, rfl⟩ := mapM_cons_eq_some_iff.mp h
    have hrest := ih hothers
    cases rest with
    | nil =>
      cases hothers
      simpa [join] using hpiece
    | cons next rest =>
      have hne : others ≠ [] := by
        rintro rfl
        cases length_of_mapM hothers
      obtain ⟨second, others, rfl⟩ := List.exists_cons_of_ne_nil hne
      unfold join at hrest ⊢
      have hslash : slash ≠ percent := by decide
      rw [List.intercalate_cons_cons, List.intercalate_cons_cons, List.append_assoc, pathUnescape_append hpiece,
        List.singleton_append, pathUnescape_cons_of_ne hslash, hrest]
      simp
end bytes
