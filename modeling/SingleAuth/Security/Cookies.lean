import SingleAuth.Lib.Query

open bytes url

namespace singleauth.cookies

def quote : UInt8 := 34

def tab : UInt8 := 9

/-- The bytes of `ValidName`. -/
def isNameByte (b : UInt8) : Bool := isAlphanumeric b || b ∈ ascii "!#$%&'*+-.^_`|~"

def validName (name : Bytes) : Bool := name ≠ [] && name.all isNameByte

def isValueByte (b : UInt8) : Bool := 32 ≤ b && b ≤ 126 && b ≠ quote && b ≠ semicolon && b ≠ 92

def validValue (value : Bytes) : Bool := value.all isValueByte

def isOWS (b : UInt8) : Bool := b = space || b = tab

def trimOWS (text : Bytes) : Bytes := ((text.dropWhile isOWS).reverse.dropWhile isOWS).reverse

def unquote (value : Bytes) : Bytes :=
  if 2 ≤ value.length ∧ value.head? = some quote ∧ value.getLast? = some quote then value.tail.dropLast else value

def tryDecode (value : Bytes) : Bytes := if percent ∈ value then (pathUnescape value).getD value else value

def isPlain (b : UInt8) : Bool := isAlphanumeric b || b ∈ ascii "-_.!~*'()"

def encodeByte (b : UInt8) : Bytes := if isPlain b then [b] else [percent, upperHex (b / 16), upperHex (b % 16)]

def encodeURIComponent (value : Bytes) : Bytes := value.flatMap encodeByte

/-- Cookies in the order in which their names were first set. The index of the source says where a name stands. -/
@[ext]
structure Parsed where
  pairs : List (Bytes × Bytes)
  valid : ∀ name ∈ pairs.map (·.1), validName name = true
  distinct : (pairs.map (·.1)).Nodup

def setPair (pairs : List (Bytes × Bytes)) (name value : Bytes) : List (Bytes × Bytes) :=
  if name ∈ pairs.map (·.1) then pairs.map fun pair => if pair.1 = name then (name, value) else pair
  else pairs ++ [(name, value)]

theorem map_fst_setPair (pairs : List (Bytes × Bytes)) (name value : Bytes) :
    (setPair pairs name value).map (·.1) =
      if name ∈ pairs.map (·.1) then pairs.map (·.1) else pairs.map (·.1) ++ [name] := by
  unfold setPair
  split
  · rw [List.map_map]
    refine List.map_congr_left fun pair _ => ?_
    by_cases h : pair.1 = name <;> simp [h]
  · simp

namespace Parsed

def empty : Parsed := ⟨[], by simp, by simp⟩

/-- A name that is not valid is left out. -/
def set (parsed : Parsed) (name value : Bytes) : Parsed :=
  if hname : validName name = true then
    { pairs := setPair parsed.pairs name value
      valid := by
        rw [map_fst_setPair]
        split
        · exact parsed.valid
        · exact List.forall_mem_append.mpr ⟨parsed.valid, by simpa using hname⟩
      distinct := by
        rw [map_fst_setPair]
        split
        · exact parsed.distinct
        · next hnew => exact List.concat_eq_append ▸ parsed.distinct.concat hnew }
  else parsed

def setAll (parsed : Parsed) (pairs : List (Bytes × Bytes)) : Parsed :=
  pairs.foldl (fun parsed pair => parsed.set pair.1 pair.2) parsed

end Parsed

def written (pair : Bytes × Bytes) : Bytes := pair.1 ++ equalsSign :: encodeURIComponent pair.2

def Parsed.header (parsed : Parsed) : Bytes := (ascii "; ").intercalate (parsed.pairs.map written)

def parseChunk (parsed : Parsed) (chunk : Bytes) : Parsed :=
  if equalsSign ∈ chunk then
    let name := trimOWS (cutEquals chunk).1
    let value := unquote (trimOWS (cutEquals chunk).2)
    if validName name && validValue value then parsed.set name (tryDecode value) else parsed
  else parsed

def parse (header : Bytes) : Parsed :=
  if header.length < 2 then .empty else (header.splitOn semicolon).foldl parseChunk .empty

/-! ## What is written is read -/

/-- What an encoded value is made of. -/
theorem encodeByte_spec :
    ∀ b, pathUnescape (encodeByte b) = some [b] ∧ (encodeByte b).all (fun c => isValueByte c && !isOWS c) = true :=
  forall_byte (by decide +kernel)

variable {name value : Bytes} {b : UInt8}

theorem isValueByte_of_mem (h : b ∈ encodeURIComponent value) : isValueByte b = true ∧ isOWS b = false := by
  obtain ⟨c, -, hc⟩ := List.mem_flatMap.mp h
  simpa using List.all_eq_true.mp (encodeByte_spec c).2 b hc

theorem tryDecode_encodeURIComponent (value : Bytes) : tryDecode (encodeURIComponent value) = value := by
  have hread : pathUnescape (encodeURIComponent value) = some value :=
    pathUnescape_flatMap (fun b => (encodeByte_spec b).1) value
  unfold tryDecode
  split
  · rw [hread, Option.getD_some]
  · next hplain => exact Option.some.inj ((pathUnescape_of_no_percent hplain).symm.trans hread)

theorem trimOWS_eq_self {text : Bytes} (h : ∀ b ∈ text, isOWS b = false) : trimOWS text = text := by
  have hkept : ∀ text : Bytes, (∀ b ∈ text, isOWS b = false) → text.dropWhile isOWS = text := by
    intro text htext
    cases text with
    | nil => rfl
    | cons b text => rw [List.dropWhile_cons_of_neg (by simp [htext b List.mem_cons_self])]
  rw [trimOWS, hkept text h, hkept text.reverse (by simpa using h), List.reverse_reverse]

theorem isNameByte_of_mem (hname : validName name = true) (h : b ∈ name) : isNameByte b = true :=
  List.all_eq_true.mp (Bool.and_eq_true_iff.mp hname).2 b h

theorem parseChunk_written (parsed : Parsed) (hname : validName name = true) (value : Bytes) :
    parseChunk parsed (written (name, value)) = parsed.set name value := by
  have hequals : equalsSign ∉ name := fun h => absurd (isNameByte_of_mem hname h) (by decide)
  have hspace : ∀ b, isNameByte b = true → isOWS b = false := forall_byte (by decide +kernel)
  have htrim : trimOWS name = name := trimOWS_eq_self fun b hb => hspace b (isNameByte_of_mem hname hb)
  have hvalue : trimOWS (encodeURIComponent value) = encodeURIComponent value :=
    trimOWS_eq_self fun b hb => (isValueByte_of_mem hb).2
  have hquote : unquote (encodeURIComponent value) = encodeURIComponent value := by
    refine if_neg fun h => ?_
    exact absurd (isValueByte_of_mem (List.mem_of_mem_head? h.2.1)).1 (by decide)
  have hvalid : validValue (encodeURIComponent value) = true :=
    List.all_eq_true.mpr fun b hb => (isValueByte_of_mem hb).1
  unfold parseChunk written
  rw [if_pos (by simp), cutEquals_append hequals]
  dsimp only
  rw [hvalue, hquote, htrim, hname, hvalid, tryDecode_encodeURIComponent]
  rfl

theorem parseChunk_space (parsed : Parsed) (chunk : Bytes) :
    parseChunk parsed (space :: chunk) = parseChunk parsed chunk := by
  have hspace : space ≠ equalsSign := by decide
  have hcut : cutEquals (space :: chunk) = (space :: (cutEquals chunk).1, (cutEquals chunk).2) := by
    simp [cutEquals, before_cons_of_ne hspace]
  have htrim : ∀ text, trimOWS (space :: text) = trimOWS text := fun _ => rfl
  unfold parseChunk
  rw [hcut]
  simp only [List.mem_cons, hspace.symm, false_or, htrim]

theorem semicolon_not_mem (hname : validName name = true) (value : Bytes) : semicolon ∉ written (name, value) := by
  rw [written, List.mem_append, List.mem_cons, not_or, not_or]
  refine ⟨fun h => ?_, by decide, fun h => ?_⟩
  · exact absurd (isNameByte_of_mem hname h) (by decide)
  · exact absurd (isValueByte_of_mem h).1 (by decide)

namespace Parsed

/-- The chunk of every pair is read, with a space before all but the first. -/
theorem foldl_parseChunk (parsed : Parsed) (pair : Bytes × Bytes) (pairs : List (Bytes × Bytes))
    (hvalid : ∀ name ∈ (pair :: pairs).map (·.1), validName name = true) :
    (((ascii "; ").intercalate ((pair :: pairs).map written)).splitOn semicolon).foldl parseChunk parsed =
      parsed.setAll (pair :: pairs) := by
  rw [List.map_cons, List.forall_mem_cons] at hvalid
  have hnone := semicolon_not_mem hvalid.1 pair.2
  induction pairs generalizing parsed pair with
  | nil =>
    rw [List.map_singleton, List.intercalate_singleton, List.splitOn_eq_singleton hnone]
    exact parseChunk_written parsed hvalid.1 pair.2
  | cons next pairs ih =>
    have hheader : (ascii "; ").intercalate ((pair :: next :: pairs).map written) =
        written pair ++ semicolon :: space :: (ascii "; ").intercalate ((next :: pairs).map written) := by
      rw [List.map_cons, List.map_cons, List.intercalate_cons_cons, List.append_assoc]
      rfl
    have hspaced : ∀ (parsed : Parsed) (chunks : List Bytes),
        (chunks.modifyHead (space :: ·)).foldl parseChunk parsed = chunks.foldl parseChunk parsed := by
      intro parsed chunks
      cases chunks with
      | nil => rfl
      | cons chunk chunks => exact congrArg (chunks.foldl parseChunk) (parseChunk_space parsed chunk)
    rw [hheader, List.splitOn_append_cons_self_of_not_mem hnone, List.splitOn_cons_eq_if_modifyHead,
      if_neg (by decide), List.foldl_cons, hspaced, parseChunk_written parsed hvalid.1 pair.2]
    rw [List.map_cons, List.forall_mem_cons] at hvalid
    exact ih _ next hvalid.2 (semicolon_not_mem hvalid.2.1 next.2)

/-- Pairs of new names are added one after the other. -/
theorem pairs_setAll (parsed : Parsed) {pairs : List (Bytes × Bytes)}
    (hvalid : ∀ name ∈ pairs.map (·.1), validName name = true)
    (hdistinct : ((parsed.pairs ++ pairs).map (·.1)).Nodup) : (parsed.setAll pairs).pairs = parsed.pairs ++ pairs := by
  induction pairs generalizing parsed with
  | nil => simp [setAll]
  | cons pair pairs ih =>
    rw [List.map_cons, List.forall_mem_cons] at hvalid
    have hnew : pair.1 ∉ parsed.pairs.map (·.1) := by
      rw [List.map_append, List.map_cons] at hdistinct
      exact fun hmem => List.disjoint_of_nodup_append hdistinct hmem List.mem_cons_self
    have hset : (parsed.set pair.1 pair.2).pairs = parsed.pairs ++ [pair] := by
      rw [set, dif_pos hvalid.1]
      exact if_neg hnew
    have hsplit : parsed.pairs ++ pair :: pairs = (parsed.set pair.1 pair.2).pairs ++ pairs := by
      rw [hset, List.append_assoc, List.singleton_append]
    rw [hsplit] at hdistinct ⊢
    exact ih _ hvalid.2 hdistinct

theorem parse_header (parsed : Parsed) : parse parsed.header = parsed := by
  obtain ⟨pairs, hvalid, hdistinct⟩ := parsed
  cases pairs with
  | nil => rfl
  | cons pair pairs =>
    have hlong : ¬ (header ⟨pair :: pairs, hvalid, hdistinct⟩).length < 2 := by
      have hname : pair.1 ≠ [] := of_decide_eq_true (Bool.and_eq_true_iff.mp (hvalid pair.1 List.mem_cons_self)).1
      have hpos := List.length_pos_iff.mpr hname
      rw [header, List.map_cons]
      cases pairs <;> simp [written, List.intercalate_cons_cons] <;> omega
    refine Parsed.ext ?_
    rw [parse, if_neg hlong, header, foldl_parseChunk .empty pair pairs hvalid]
    exact pairs_setAll .empty hvalid hdistinct

end Parsed

theorem mem_setPair {pairs : List (Bytes × Bytes)} {pair : Bytes × Bytes} :
    pair ∈ setPair pairs name value ↔ pair = (name, value) ∨ pair ∈ pairs ∧ pair.1 ≠ name := by
  unfold setPair
  split
  · next hname =>
    obtain ⟨old, hold, hsame⟩ := List.mem_map.mp hname
    rw [List.mem_map]
    grind
  · next hname => grind

/-- The header of a jar is read as the jar, whether it was built by calls of `set` or read itself. A call with a valid
name stores its value under the name and leaves all others. -/
theorem jar_round_trip (parsed : Parsed) : parse parsed.header = parsed ∧ ∀ name value, validName name = true →
    ∀ pair, pair ∈ (parsed.set name value).pairs ↔ pair = (name, value) ∨ pair ∈ parsed.pairs ∧ pair.1 ≠ name := by
  refine ⟨parsed.parse_header, fun name value hname pair => ?_⟩
  rw [Parsed.set, dif_pos hname]
  exact mem_setPair

end singleauth.cookies
