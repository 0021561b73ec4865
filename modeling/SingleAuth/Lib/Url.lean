import SingleAuth.Lib.Bytes

open bytes

namespace url

/-! ## Escapes of a path -/

def isAlphanumeric (b : UInt8) : Bool :=
  (97 ≤ b && b ≤ 122) || (65 ≤ b && b ≤ 90) || (48 ≤ b && b ≤ 57)

def shouldEscape (b : UInt8) : Bool := !(isAlphanumeric b || b ∈ ascii "-_.~$&+,/:;=@")

def mayStand (b : UInt8) : Bool := b ∈ ascii "!'()*[]%" || !shouldEscape b

def validEncoded (text : Bytes) : Bool := text.all mayStand

def upperHex (digit : UInt8) : UInt8 := if digit < 10 then 48 + digit else 55 + digit

def escapeByte (b : UInt8) : Bytes :=
  if shouldEscape b then [percent, upperHex (b / 16), upperHex (b % 16)] else [b]

def escape (text : Bytes) : Bytes := text.flatMap escapeByte

variable {digit : UInt8} {text : Bytes} {b : UInt8} {decoded path : Bytes}

theorem mayStand_of_hexDigit (h : hexDigit b = some digit) : mayStand b = true :=
  forall_byte (p := fun b => (hexDigit b).isSome → mayStand b = true) (by decide +kernel) b (Option.isSome_of_mem h)

theorem pathUnescape_escape (text : Bytes) : pathUnescape (escape text) = some text :=
  pathUnescape_flatMap (forall_byte (by decide +kernel)) text

/-- What is written for bytes that may stand in a path may stand there. -/
theorem validEncoded_of_decoded (h : pathUnescape text = some decoded)
    (hdecoded : ∀ b ∈ decoded, mayStand b = true) : validEncoded text = true := by
  unfold validEncoded
  replace h := unescapes_of_pathUnescape h
  induction h with
  | nil => rfl
  | plain _ _ ih =>
    have hrest := ih fun b hb => hdecoded b (List.mem_cons_of_mem _ hb)
    rw [List.all_cons, hrest, hdecoded _ List.mem_cons_self, Bool.and_true]
  | escape hhigh hlow _ ih =>
    have hrest := ih fun b hb => hdecoded b (List.mem_cons_of_mem _ hb)
    have hpercent : mayStand percent = true := by decide
    simp only [List.all_cons, hpercent, mayStand_of_hexDigit hhigh, mayStand_of_hexDigit hlow, hrest, Bool.and_true]

/-- A text of nothing but slashes that does not end in one has an escape. -/
theorem count_slash_lt (h : pathUnescape text = some decoded)
    (hslashes : ∀ b ∈ decoded, b = slash) (hne : text ≠ []) (hlast : text.getLast? ≠ some slash) :
    text.count slash < decoded.length := by
  have hdigit : ∀ {b digit : UInt8}, hexDigit b = some digit → b ≠ slash := by
    rintro b digit hb rfl
    have hslash : hexDigit slash = none := by decide
    rw [hslash] at hb
    cases hb
  replace h := unescapes_of_pathUnescape h
  induction h with
  | nil => exact absurd rfl hne
  | plain _ _ ih =>
    rename_i b tail inner _ _
    by_cases htail : tail = []
    · simp [htail, hslashes b List.mem_cons_self] at hlast
    have hrest := ih (fun b hb => hslashes b (List.mem_cons_of_mem _ hb)) htail
      (fun htailLast => hlast (by simp [List.getLast?_cons, htailLast]))
    rw [List.count_cons, List.length_cons]
    split <;> omega
  | escape hhigh hlow _ ih =>
    rename_i tail inner _
    have hpercent : percent ≠ slash := by decide
    rw [List.count_cons_of_ne hpercent, List.count_cons_of_ne (hdigit hhigh), List.count_cons_of_ne (hdigit hlow)]
    by_cases htail : tail = []
    · simp [htail]
    have hrest := ih (fun b hb => hslashes b (List.mem_cons_of_mem _ hb)) htail
      (fun htailLast => hlast (by simp [List.getLast?_cons, htailLast]))
    rw [List.length_cons]
    omega

/-! ## Addresses -/

/-- An address, as far as its path goes. `rawPath` is empty where the path is written as `escape` writes it. -/
structure URL where
  (scheme host path rawPath : Bytes)
  deriving DecidableEq

/-- The scheme before the colon, if there is one, and what follows. A colon at the start is an error. -/
def getScheme (text : Bytes) : Option (Bytes × Bytes) :=
  let scheme := text.takeWhile fun b => isAlphanumeric b || b ∈ ascii "+-."
  match text.drop scheme.length with
  | 58 :: rest =>
    if scheme = [] then none
    else if (scheme.head?.any fun b => (97 ≤ b && b ≤ 122) || (65 ≤ b && b ≤ 90)) then some (scheme, rest)
    else some ([], text)
  | _ => some ([], text)

def isControl (b : UInt8) : Bool := b < 32 || b = 127

def setPath (url : URL) (text : Bytes) : Option URL :=
  (pathUnescape text).map fun path =>
    { url with path, rawPath := if text = escape path then [] else text }

variable (authority : Bytes → Option Bytes)

/-- Read an address without its fragment. `authority` gives the host of what stands between the two slashes and
the path, if that is well formed. -/
def parseWithout (text : Bytes) : Option URL :=
  if text.any isControl then none
  else if text = ascii "*" then some { scheme := [], host := [], path := ascii "*", rawPath := [] }
  else
    match getScheme text with
    | none => none
    | some (scheme, rest) =>
      let rest := before questionMark rest
      let url : URL := { scheme, host := [], path := [], rawPath := [] }
      if rest.head? ≠ some slash ∧ scheme ≠ [] then some url
      else if rest.head? ≠ some slash ∧ 58 ∈ before slash rest then none
      else if (ascii "//").isPrefixOf rest ∧ (scheme ≠ [] ∨ ¬ (ascii "///").isPrefixOf rest) then
        let named := before slash (rest.drop 2)
        match authority named with
        | none => none
        | some host => setPath { url with host } ((rest.drop 2).drop named.length)
      else setPath url rest

def fragmentMark : UInt8 := 35

def parse (text : Bytes) : Option URL :=
  let address := before fragmentMark text
  match parseWithout authority address with
  | none => none
  | some url =>
    let fragment := text.drop (address.length + 1)
    if (pathUnescape fragment).isSome then some url else none

def URL.escapedPath (url : URL) : Bytes :=
  if url.rawPath ≠ [] ∧ validEncoded url.rawPath ∧ pathUnescape url.rawPath = some url.path then url.rawPath
  else if url.path = ascii "*" then ascii "*"
  else escape url.path

/-- The escaped path of an address whose path is read from `text`. -/
def spelling (text path : Bytes) : Bytes := if validEncoded text then text else escape path

theorem escapedPath_setPath (h : pathUnescape text = some path) (hstar : path ≠ ascii "*") (url : URL) :
    { url with path, rawPath := if text = escape path then [] else text : URL }.escapedPath = spelling text path := by
  unfold URL.escapedPath spelling
  by_cases heq : text = escape path
  · simp [← heq, hstar]
  have hne : text ≠ [] := by
    rintro rfl
    cases h
    exact heq rfl
  simp [heq, hne, h, hstar]

theorem pathUnescape_spelling (h : pathUnescape text = some path) : pathUnescape (spelling text path) = some path := by
  unfold spelling
  split
  · exact h
  · exact pathUnescape_escape path

/-- What has to be well formed around the path of an address for it to be read, and the host then. -/
def gate (host query : Bytes) : Option Bytes :=
  let asked := before fragmentMark query
  if host.any isControl ∨ asked.any isControl then none
  else if (pathUnescape (query.drop (asked.length + 1))).isSome then authority host
  else none

section

variable {scheme host path query : Bytes} (hscheme : scheme = ascii "http" ∨ scheme = ascii "https")
  (hhost : slash ∉ host ∧ questionMark ∉ host ∧ fragmentMark ∉ host) (hhead : path.head? = some slash)
  (hpath : questionMark ∉ path ∧ fragmentMark ∉ path ∧ path.any isControl = false)

include hscheme hhost hhead hpath

theorem parseWithout_pieces (authority : Bytes → Option Bytes) (hquery : before questionMark query = []) :
    parseWithout authority (scheme ++ ascii "://" ++ host ++ (path ++ query)) =
      if host.any isControl ∨ query.any isControl then none
      else (authority host).bind fun named => setPath { scheme, host := named, path := [], rawPath := [] } path := by
  obtain ⟨hslash, hquestion, -⟩ := hhost
  have hne : scheme ≠ [] := by rcases hscheme with rfl | rfl <;> decide
  have hcontrol : (scheme ++ ascii "://" ++ host ++ (path ++ query)).any isControl =
      (host.any isControl || query.any isControl) := by
    have hfront : (scheme ++ ascii "://").any isControl = false := by rcases hscheme with rfl | rfl <;> decide
    rw [List.append_assoc, List.any_append, hfront, List.any_append, List.any_append, hpath.2.2, Bool.false_or, Bool.false_or]
  have hstar : scheme ++ ascii "://" ++ host ++ (path ++ query) ≠ ascii "*" := by
    rcases hscheme with rfl | rfl <;> exact fun heq => by cases heq
  have hrest : before questionMark (slash :: slash :: (host ++ (path ++ query))) = slash :: slash :: (host ++ path) := by
    have hmark : questionMark ∉ slash :: slash :: (host ++ path) := by
      have hdifferent : questionMark ≠ slash := by decide
      simp [hdifferent, hquestion, hpath.1]
    rw [← List.append_assoc, ← List.cons_append, ← List.cons_append, before_append hmark, hquery, List.append_nil]
  have hnamed : before slash (host ++ path) = host := by
    cases path with
    | nil => cases hhead
    | cons b rest =>
      cases hhead
      rw [before_append hslash, before_cons_self, List.append_nil]
  have hscheme' : getScheme (scheme ++ ascii "://" ++ host ++ (path ++ query)) =
      some (scheme, slash :: slash :: (host ++ (path ++ query))) := by
    rcases hscheme with rfl | rfl <;> rfl
  unfold parseWithout
  rw [hcontrol, if_neg hstar, hscheme']
  simp only [Bool.or_eq_true, hrest, List.head?_cons, ne_eq, not_true_eq_false, false_and, if_false, List.drop_succ_cons,
    List.drop_zero, hnamed, List.drop_left, hne, not_false_eq_true, true_or, and_true]
  have hprefix : (ascii "//").isPrefixOf (slash :: slash :: (host ++ path)) = true := by
    rw [List.isPrefixOf_iff_prefix]
    exact ⟨host ++ path, rfl⟩
  rw [if_pos hprefix]
  cases authority host <;> rfl

/-- An address with a scheme, a host, a path and a query, if it has one, is read piece by piece. -/
theorem parse_pieces (authority : Bytes → Option Bytes) (hquery : query = [] ∨ query.head? = some questionMark) :
    parse authority (scheme ++ ascii "://" ++ host ++ (path ++ query)) =
      (gate authority host query).bind fun named => setPath { scheme, host := named, path := [], rawPath := [] } path := by
  have hfront : fragmentMark ∉ scheme ++ ascii "://" ++ host ++ path := by
    have hscheme : fragmentMark ∉ scheme ++ ascii "://" := by rcases hscheme with rfl | rfl <;> decide
    simp only [List.mem_append, not_or] at hscheme ⊢
    exact ⟨⟨hscheme, hhost.2.2⟩, hpath.2.1⟩
  have hasked : before questionMark (before fragmentMark query) = [] := by
    cases query with
    | nil => rfl
    | cons b rest =>
      have hb : b = questionMark := by simpa using hquery
      have hdifferent : questionMark ≠ fragmentMark := by decide
      rw [hb, before_cons_of_ne hdifferent, before_cons_self]
  have haddress : before fragmentMark (scheme ++ ascii "://" ++ host ++ (path ++ query)) =
      scheme ++ ascii "://" ++ host ++ (path ++ before fragmentMark query) := by
    rw [← List.append_assoc, before_append hfront, List.append_assoc]
  have hfragment : (scheme ++ ascii "://" ++ host ++ (path ++ query)).drop
      ((scheme ++ ascii "://" ++ host ++ (path ++ before fragmentMark query)).length + 1) =
      query.drop ((before fragmentMark query).length + 1) := by
    rw [← List.append_assoc, ← List.append_assoc, List.length_append, Nat.add_assoc, List.drop_length_add_append]
  unfold parse gate
  dsimp only
  rw [haddress, hfragment, parseWithout_pieces hscheme hhost hhead hpath authority hasked]
  by_cases hcontrol : host.any isControl ∨ (before fragmentMark query).any isControl
  · simp only [if_pos hcontrol, Option.bind_none]
  simp only [if_neg hcontrol]
  by_cases hfragment : (pathUnescape (query.drop ((before fragmentMark query).length + 1))).isSome = true
  all_goals
    simp only [hfragment, if_true]
    cases (authority host).bind fun named => setPath { scheme, host := named, path := [], rawPath := [] } path <;> rfl

end

end url
