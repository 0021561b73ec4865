import SingleAuth.Lib.Fallible

open fallible

namespace singleauth.core

/-- The errors a request ends with: one that is reported to the client, or an
internal one. -/
inductive Failure where
  | api (status : Nat) (code message : String)
  | internal (text : String)
deriving DecidableEq, Repr

/-- The characters one buffer of random bytes contributes while `missing` of
them are still wanted. Bytes from `ceiling` on are rejected. -/
def acceptBytes (alphabet : List Char) (ceiling : Nat) : Nat → List UInt8 → List Char
  | 0, _ => []
  | _, [] => []
  | missing + 1, byte :: rest =>
    if byte.toNat ≥ ceiling then acceptBytes alphabet ceiling (missing + 1) rest
    else alphabet.getD (byte.toNat % alphabet.length) ' ' :: acceptBytes alphabet ceiling missing rest

/-- The read loop: whole buffers are read until no character is missing. Every
round takes a buffer off the source, so the source's length bounds the
number of rounds. -/
def readRandom (alphabet : List Char) (ceiling bufferSize : Nat) :
    Nat → Nat → List UInt8 → Except Failure (List Char × List UInt8)
  | _, 0, random => .ok ([], random)
  | 0, _ + 1, _ => .error (.internal "single-auth: generate random identifier")
  | rounds + 1, missing + 1, random =>
    if random.length < bufferSize then .error (.internal "single-auth: generate random identifier")
    else do
      let accepted := acceptBytes alphabet ceiling (missing + 1) (random.take bufferSize)
      let (others, rest) ←
        readRandom alphabet ceiling bufferSize rounds (missing + 1 - accepted.length) (random.drop bufferSize)
      .ok (accepted ++ others, rest)

/-- A random string over an alphabet, and the bytes the source still holds. -/
def randomStringFromAlphabet (random : Option (List UInt8)) (size : Int) (alphabet : String) :
    Except Failure (String × List UInt8) :=
  match random with
  | none => .error (.internal "single-auth: random source is nil")
  | some bytes =>
    let letters := alphabet.toList
    if size < 0 ∨ letters.length < 2 ∨ letters.length > 256 then
      .error (.internal "single-auth: invalid random string configuration")
    else do
      let ceiling := 256 - 256 % letters.length
      let (characters, rest) ←
        readRandom letters ceiling (size.toNat * 2 + 1) (bytes.length + 1) size.toNat bytes
      .ok (String.ofList characters, rest)

/-- Characters drawn one byte at a time, and the bytes the source still holds.
Bytes from `limit` on are skipped; a source that runs out yields nothing. -/
def drawCharacters (alphabet : List Char) (limit : Nat) : Nat → List UInt8 → Option (List Char × List UInt8)
  | 0, random => some ([], random)
  | _ + 1, [] => none
  | missing + 1, byte :: rest =>
    if byte.toNat ≥ limit then drawCharacters alphabet limit (missing + 1) rest
    else (drawCharacters alphabet limit missing rest).map (fun drawn =>
      (alphabet.getD (byte.toNat % alphabet.length) ' ' :: drawn.1, drawn.2))

theorem acceptBytes_length_le (alphabet : List Char) (ceiling missing : Nat) (bytes : List UInt8) :
    (acceptBytes alphabet ceiling missing bytes).length ≤ missing := by
  induction bytes generalizing missing with
  | nil => cases missing <;> simp [acceptBytes]
  | cons byte rest ih =>
    cases missing with
    | zero => simp [acceptBytes]
    | succ missing =>
      rw [acceptBytes]
      split
      · exact ih (missing + 1)
      · simpa using ih missing

variable {rest : List UInt8}

theorem readRandom_length {alphabet : List Char} {ceiling bufferSize rounds missing : Nat}
    {random : List UInt8} {characters : List Char}
    (hread : readRandom alphabet ceiling bufferSize rounds missing random = .ok (characters, rest)) :
    characters.length = missing := by
  induction rounds generalizing missing random characters rest with
  | zero =>
    cases missing with
    | zero =>
      simp only [readRandom, Except.ok.injEq, Prod.mk.injEq] at hread
      simp [← hread.1]
    | succ missing => simp [readRandom] at hread
  | succ rounds ih =>
    cases missing with
    | zero =>
      simp only [readRandom, Except.ok.injEq, Prod.mk.injEq] at hread
      simp [← hread.1]
    | succ missing =>
      rw [readRandom] at hread
      split at hread
      · cases hread
      rw [bind_eq_ok_iff] at hread
      obtain ⟨⟨others, left⟩, hothers, hresult⟩ := hread
      have hcount := ih hothers
      have hbound := acceptBytes_length_le alphabet ceiling (missing + 1) (random.take bufferSize)
      simp only [Except.ok.injEq, Prod.mk.injEq] at hresult
      rw [← hresult.1, List.length_append, hcount]
      omega

variable {alphabet text : String} {random : Option (List UInt8)} {size : Int}

theorem randomStringFromAlphabet_length (hrandom : randomStringFromAlphabet random size alphabet = .ok (text, rest)) :
    text.toList.length = size.toNat := by
  unfold randomStringFromAlphabet at hrandom
  cases random with
  | none => cases hrandom
  | some bytes =>
    dsimp only at hrandom
    split at hrandom
    · cases hrandom
    rw [bind_eq_ok_iff] at hrandom
    obtain ⟨⟨characters, left⟩, hread, hresult⟩ := hrandom
    simp only [Except.ok.injEq, Prod.mk.injEq] at hresult
    rw [← hresult.1, String.toList_ofList]
    exact readRandom_length hread

theorem randomStringFromAlphabet_ne_empty (hpositive : 0 < size)
    (hrandom : randomStringFromAlphabet random size alphabet = .ok (text, rest)) : text ≠ "" := by
  intro hempty
  have hlength := randomStringFromAlphabet_length hrandom
  rw [hempty] at hlength
  simp only [String.toList_empty, List.length_nil] at hlength
  omega

end singleauth.core
