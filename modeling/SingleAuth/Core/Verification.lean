import SingleAuth.Lib.Json.Value
import SingleAuth.Lib.Table

open json table

namespace singleauth.core

def unixMilli (time : Int) : Int64 := Int64.ofInt (time / 1000000)

def wholeSecond (time : Int) : Int := time / 1000000000 * 1000000000

/-- A row of the verification table: the identifier it is kept under and its
value, a JSON document. Times are nanoseconds. -/
structure VerificationRow where
  identifier : String
  value : Value
  (expiresAt createdAt : Int)

/-- The row a query by identifier, newest first and limited to one, returns. -/
def latestVerification (identifier : String) (rows : List VerificationRow) : Option VerificationRow :=
  latest VerificationRow.identifier VerificationRow.createdAt identifier rows

def createStoredVerification (clock : Int) (identifier : String) (value : Value) (expiresAt : Int)
    (rows : List VerificationRow) : List VerificationRow :=
  rows ++ [⟨identifier, value, expiresAt, clock⟩]

/-- Consume the newest row of an identifier. Row ids are unique, so taking the
row by its id and then deleting by identifier leaves exactly the rows of the
other identifiers. An expired row is gone too, but not returned. -/
def consumeStoredVerification (clock : Int) (identifier : String) (rows : List VerificationRow) :
    Option VerificationRow × List VerificationRow :=
  consumeLatest VerificationRow.identifier VerificationRow.createdAt VerificationRow.expiresAt clock identifier rows

def cleanupExpiredVerifications (clock : Int) (rows : List VerificationRow) : List VerificationRow :=
  rows.filter (fun row => ¬ row.expiresAt < clock)

/-- Read the newest row of an identifier, then clean up. The row is returned
even when the cleanup removes it. -/
def findStoredVerification (clock : Int) (identifier : String) (rows : List VerificationRow) :
    Option VerificationRow × List VerificationRow :=
  (latestVerification identifier rows, cleanupExpiredVerifications clock rows)

variable {identifier : String} {row : VerificationRow} {rows : List VerificationRow}

theorem latestVerification_some
    (hlatest : latestVerification identifier rows = some row) : row ∈ rows ∧ row.identifier = identifier :=
  latest_some hlatest

variable {clock : Int}

/-- A consumed row was in the table under its identifier and had not expired. -/
theorem consumeStoredVerification_some {left : List VerificationRow}
    (hconsume : consumeStoredVerification clock identifier rows = (some row, left)) :
    row ∈ rows ∧ row.identifier = identifier ∧ ¬ row.expiresAt < clock :=
  have ⟨⟨hmem, hidentifier⟩, hlive, _⟩ := consumeLatest_some hconsume
  ⟨hmem, hidentifier, hlive⟩

/-- A consumption leaves only rows that were there, and when it returned a row
none of that identifier. -/
theorem mem_consumeStoredVerification (hmem : row ∈ (consumeStoredVerification clock identifier rows).2) :
    row ∈ rows ∧ ((consumeStoredVerification clock identifier rows).1.isSome = true → row.identifier ≠ identifier) := by
  refine ⟨consumeLatest_subset hmem, fun htaken => ?_⟩
  obtain ⟨taken, htaken⟩ := Option.isSome_iff_exists.mp htaken
  have hleft : (consumeStoredVerification clock identifier rows).2 = _ :=
    (consumeLatest_some (Prod.ext htaken rfl)).2.2
  rw [hleft] at hmem
  simpa using (List.mem_filter.mp hmem).2

end singleauth.core
