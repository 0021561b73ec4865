import SingleAuth.Core.OAuthState.Generate

open dict json

namespace singleauth.core

/-- Generate a state and keep it in the verification table under its random
string, as the database strategy does. The string is told to the client. -/
def startOAuth (env : StateEnvironment) (body : Object) (link : Option OAuthLinkState)
    (rows : List VerificationRow) : Except Failure String × List VerificationRow :=
  match generateOAuthState env body link with
  | .error failure => (.error failure, rows)
  | .ok (data, state) =>
    (.ok state, createStoredVerification env.clock state (.obj (marshalOAuthState data).entries)
      (env.clock + oauthStateLifetime) rows)

/-- The generic map a stored document is decoded to. -/
def stateObject : Value → Option Object
  | .obj members => some (Dict.ofEntries members)
  | .null => some Dict.empty
  | _ => none

/-- Why a callback's state is refused, and where the browser is sent then. -/
structure OAuthStateError where
  (code errorURL : String)
deriving DecidableEq, Repr

/-- Read a kept state back at the callback: `cookie` is the signed state cookie
the browser presents. The row is consumed once all checks on it passed. -/
def parseOAuthState (clock : Int) (skipStateCookieCheck : Bool) (cookie : Option String) (state : String)
    (rows : List VerificationRow) : Except OAuthStateError OAuthStateData × List VerificationRow :=
  if state = "" then (.error ⟨"state_not_found", ""⟩, rows)
  else
    let (verification, rows) := findStoredVerification clock state rows
    match verification with
    | none => (.error ⟨"state_mismatch", ""⟩, rows)
    | some row =>
      match (stateObject row.value).map unmarshalOAuthState with
      | some (.ok data) =>
        if data.oauthState ≠ "" ∧ data.oauthState ≠ state then
          (.error ⟨"state_security_mismatch", data.errorURL⟩, rows)
        else if skipStateCookieCheck = false ∧ cookie ≠ some state then
          (.error ⟨"state_security_mismatch", data.errorURL⟩, rows)
        else
          let (consumed, rows) := consumeStoredVerification clock state rows
          (if consumed.isNone ∨ data.expiresAt < unixMilli clock then .error ⟨"state_mismatch", data.errorURL⟩
            else .ok data, rows)
      | _ => (.error ⟨"state_invalid", ""⟩, rows)

theorem mem_parseOAuthState {clock : Int} {skipStateCookieCheck : Bool} {cookie : Option String} {state : String}
    {rows : List VerificationRow} {row : VerificationRow}
    (hmem : row ∈ (parseOAuthState clock skipStateCookieCheck cookie state rows).2) : row ∈ rows := by
  have hclean : ∀ {kept : VerificationRow}, kept ∈ cleanupExpiredVerifications clock rows → kept ∈ rows :=
    fun hkept => (List.mem_filter.mp hkept).1
  unfold parseOAuthState at hmem
  split at hmem
  · exact hmem
  simp only [findStoredVerification] at hmem
  split at hmem
  · exact hclean hmem
  split at hmem
  · split at hmem
    · exact hclean hmem
    · split at hmem
      · exact hclean hmem
      · exact hclean (mem_consumeStoredVerification hmem).1
  · exact hclean hmem

end singleauth.core
