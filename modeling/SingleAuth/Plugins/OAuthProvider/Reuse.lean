import SingleAuth.Lib.Transition
import SingleAuth.Plugins.OAuthProvider.Tokens

open fallible table transition

namespace singleauth.oauthprovider

/-- The requests that touch token rows. An issue stands for every grant that
starts a family. -/
inductive TokenRequest where
  | issue (grant : Grant)
  | refresh (input : TokenInput)
  | revoke (clientID token : String)

def TokenRequest.effect (config : TokenConfig) (host : TokenHost) (request : TokenRequest) (store : TokenStore) :
    TokenStore :=
  match request with
  | .issue grant => (issueDetailed config host grant none store).2
  | .refresh input => (refreshToken config host input store).2
  | .revoke clientID token => (revokeRefreshToken config host clientID token store).2

def TokenRequest.presenter : TokenRequest → String
  | .issue grant => grant.client.clientId
  | .refresh input => input.clientID
  | .revoke clientID _ => clientID

/-- The stored row of the refresh token that a request presents, if the checks
before its use is looked at let it through. -/
def TokenRequest.presented (config : TokenConfig) (host : TokenHost) (store : TokenStore) :
    TokenRequest → Except TokenError RefreshTokenRow
  | .issue _ => .error .internal
  | .refresh input => presentedRefresh config host store input
  | .revoke _ token => findRefresh config store token tokenNotFound

/-- The request presents a token that has been used or revoked before. -/
def TokenRequest.Reuses (config : TokenConfig) (host : TokenHost) (store : TokenStore) (request : TokenRequest)
    (row : RefreshTokenRow) : Prop :=
  request.presented config host store = .ok row ∧ row.revoked.isSome = true

/-- No refresh row of the client and the user is left, and no access row that
came with one of them. -/
def FamilyDestroyed (before after : TokenStore) (clientID userID : String) : Prop :=
  (∀ row ∈ after.refreshTokens, inFamily clientID userID row = false) ∧
    ∀ access ∈ after.accessTokens, ∀ row ∈ before.refreshTokens, inFamily clientID userID row = true →
      access.refreshId ≠ some row.id

/-- Every access row that came with a refresh row of the family belongs to one
of the rows which a query without limit returns. -/
def WithinDefaultLimit (config : TokenConfig) (store : TokenStore) (clientID userID : String) : Prop :=
  ∀ row ∈ (store.refreshTokens.filter (inFamily clientID userID)).drop config.defaultLimit,
    ∀ access ∈ store.accessTokens, access.refreshId = some row.id →
      row.id ∈ (findMany config.defaultLimit (inFamily clientID userID) store.refreshTokens).map RefreshTokenRow.id

variable {config : TokenConfig} {store : TokenStore} {row : RefreshTokenRow}

theorem mem_invalidateRefreshFamily {clientID userID : String} {access : AccessTokenRow} :
    access ∈ (invalidateRefreshFamily config clientID userID store).accessTokens ↔
      access ∈ store.accessTokens ∧
        ∀ id ∈ (findMany config.defaultLimit (inFamily clientID userID) store.refreshTokens).map RefreshTokenRow.id,
          access.refreshId ≠ some id := by
  unfold invalidateRefreshFamily
  dsimp only
  generalize (findMany config.defaultLimit (inFamily clientID userID) store.refreshTokens).map RefreshTokenRow.id = ids
  by_cases hids : ids = []
  · simp [hids]
  rw [if_neg hids, mem_deleteMany]
  cases access.refreshId with
  | none => simp
  | some refreshID =>
    have hcontains : refreshID ∉ ids ↔ ∀ id ∈ ids, refreshID ≠ id :=
      ⟨fun h id hid heq => h (heq ▸ hid), fun h hmem => h refreshID hmem rfl⟩
    simpa using fun _ => hcontains

/-- Invalidation destroys the family exactly when no access row hides behind the
default limit. -/
theorem familyDestroyed_invalidate_iff (config : TokenConfig) (clientID userID : String) (store : TokenStore) :
    FamilyDestroyed store (invalidateRefreshFamily config clientID userID store) clientID userID ↔
      WithinDefaultLimit config store clientID userID := by
  constructor
  · rintro ⟨-, haccess⟩ row hrow access hmem hrefers
    have hfamily := List.mem_filter.mp (List.mem_of_mem_drop hrow)
    by_contra hmissing
    have hsurvives : access ∈ (invalidateRefreshFamily config clientID userID store).accessTokens := by
      refine mem_invalidateRefreshFamily.mpr ⟨hmem, fun id hid heq => hmissing ?_⟩
      rw [hrefers] at heq
      cases heq
      exact hid
    exact haccess access hsurvives row hfamily.1 hfamily.2 hrefers
  · intro hwithin
    refine ⟨fun row hrow => (mem_deleteMany.mp hrow).2, fun access hmem row hrow hfamily hrefers => ?_⟩
    obtain ⟨hstored, hkept⟩ := mem_invalidateRefreshFamily.mp hmem
    -- The row is among the first ones of its family, or behind the limit.
    have hpart : row ∈ (store.refreshTokens.filter (inFamily clientID userID)).take config.defaultLimit ++
        (store.refreshTokens.filter (inFamily clientID userID)).drop config.defaultLimit := by
      rw [List.take_append_drop]
      exact List.mem_filter.mpr ⟨hrow, hfamily⟩
    rcases List.mem_append.mp hpart with hfirst | hbehind
    · exact hkept row.id (List.mem_map_of_mem hfirst) hrefers
    · exact hkept row.id (hwithin row hbehind access hstored hrefers) hrefers

theorem findRefresh_ok {token : String} {missing : TokenError}
    (h : findRefresh config store token missing = .ok row) : row ∈ store.refreshTokens := by
  obtain ⟨_, _, _, _, _, _, h⟩ := ok_of_bind₃ h
  exact List.mem_of_find?_eq_some (expect_eq_ok_iff.mp h)

variable {host : TokenHost}

theorem presentedRefresh_ok {input : TokenInput} (h : presentedRefresh config host store input = .ok row) :
    row ∈ store.refreshTokens := by
  obtain ⟨_, _, _, _, found, hfound, h⟩ := ok_of_bind₃ h
  obtain ⟨_, _, _, _, h⟩ := ok_of_bind₂ h
  cases h
  exact findRefresh_ok hfound

/-- The row of a detected reuse is stored, and the request invalidates the
family that its presenter has with the row's user. -/
theorem TokenRequest.Reuses.effect_eq {request : TokenRequest} (h : request.Reuses config host store row) :
    row ∈ store.refreshTokens ∧
      request.effect config host store = invalidateRefreshFamily config request.presenter row.userId store := by
  obtain ⟨hpresented, hrevoked⟩ := h
  cases request with
  | issue grant => cases hpresented
  | refresh input =>
    refine ⟨presentedRefresh_ok hpresented, ?_⟩
    have hcheck : presentedRefresh config host store input = .ok row := hpresented
    simp [TokenRequest.effect, TokenRequest.presenter, refreshToken, hcheck, hrevoked]
  | revoke clientID token =>
    refine ⟨findRefresh_ok hpresented, ?_⟩
    have hcheck : findRefresh config store token tokenNotFound = .ok row := hpresented
    simp [TokenRequest.effect, TokenRequest.presenter, revokeRefreshToken, hcheck, hrevoked]

/-- Detected reuse destroys the family of the reused token exactly when the
token is presented by the client it was issued to and no access row of the
family came with a refresh row behind the default limit. -/
theorem reuse_destroys_family_iff {config : TokenConfig} {host : TokenHost} {store : TokenStore}
    {request : TokenRequest} {row : RefreshTokenRow} (hreuse : request.Reuses config host store row) :
    FamilyDestroyed store (request.effect config host store) row.clientId row.userId ↔
      request.presenter = row.clientId ∧ WithinDefaultLimit config store row.clientId row.userId := by
  obtain ⟨hstored, heffect⟩ := hreuse.effect_eq
  rw [heffect]
  by_cases hpresenter : request.presenter = row.clientId
  · rw [hpresenter, familyDestroyed_invalidate_iff]
    exact ⟨fun h => ⟨rfl, h⟩, fun h => h.2⟩
  refine ⟨fun hdestroyed => ?_, fun h => absurd h.1 hpresenter⟩
  -- Another client's request leaves the reused row itself in place.
  have hkept : row ∈ (invalidateRefreshFamily config request.presenter row.userId store).refreshTokens := by
    refine mem_deleteMany.mpr ⟨hstored, ?_⟩
    simp [inFamily, Ne.symm hpresenter]
  have hfamily := hdestroyed.1 row hkept
  simp [inFamily] at hfamily

/-! ## A family that outgrows the limit

A user with one authorization, whose public client exchanges each refresh token
for the next one. -/

def plainConfig : TokenConfig :=
  { accessTokenExpiresIn := 3600, m2mAccessTokenExpiresIn := 3600, refreshTokenExpiresIn := 1000000,
    defaultLimit := 2, storedToken := fun _ raw => some raw, decodeRefreshToken := some,
    verifyClientSecret := fun _ _ => some false }

private def appClient : ClientRow := { clientId := "app", isPublic := true }

private def emptyStore : TokenStore := { clients := [appClient], users := ["alice"] }

private def nth (n : Nat) : String := Nat.repr n

/-- A host that names the tokens and rows of a request. -/
def namedHost (now : Int) (name : String) : TokenHost :=
  { now, rawRefresh := some name, rawAccess := some name, refreshRowID := name, accessRowID := name }

private def hostAt (n : Nat) : TokenHost := namedHost n (nth n)

private def authorization : TokenRequest :=
  .issue { client := appClient, user := some "alice", sessionID := "session", scopes := ["offline_access"],
           resource := "", referenceID := "", authTime := none }

private def exchange (n : Nat) : TokenRequest := .refresh { clientID := "app", refreshToken := nth n }

/-- One authorization, then `rotations` exchanges, each of the newest token. -/
private def rotation (rotations : Nat) : List (TokenHost × TokenRequest) :=
  (hostAt 0, authorization) :: (List.range rotations).map fun n => (hostAt (n + 1), exchange n)

private def tokenStep (store : TokenStore) (input : TokenHost × TokenRequest) : TokenStore :=
  input.2.effect plainConfig input.1 store

/-- Issues and rotations, but no revocations. -/
private def issuesOrRotates (_ : TokenStore) (input : TokenHost × TokenRequest) : Prop :=
  ∀ clientID token, input.2 ≠ .revoke clientID token

private def rotated (rotations : Nat) : TokenStore := (rotation rotations).foldl tokenStep emptyStore

private theorem rotated_reached (rotations : Nat) :
    Reached tokenStep issuesOrRotates emptyStore (rotated rotations) := by
  apply Reached.start.foldl
  intro input hmem store clientID token
  rcases List.mem_cons.mp hmem with rfl | hmem
  · simp [authorization]
  · obtain ⟨n, _, rfl⟩ := List.mem_map.mp hmem
    simp [exchange]

private def firstToken : RefreshTokenRow :=
  { id := nth 0, token := nth 0, clientId := "app", userId := "alice", expiresAt := 1000000, createdAt := 0,
    revoked := some 1, scopes := ["offline_access"], sessionId := some "session" }

private theorem exchange_reuses {rotations : Nat}
    (hpresented : (exchange 0).presented plainConfig (hostAt 9) (rotated rotations) = .ok firstToken) :
    (exchange 0).Reuses plainConfig (hostAt 9) (rotated rotations) firstToken :=
  ⟨hpresented, rfl⟩

theorem reuse_destroys_family_one_rotation :
    FamilyDestroyed (rotated 1) ((exchange 0).effect plainConfig (hostAt 9) (rotated 1)) "app" "alice" := by
  have hwithin : WithinDefaultLimit plainConfig (rotated 1) "app" "alice" := by
    unfold WithinDefaultLimit
    decide
  exact (reuse_destroys_family_iff (exchange_reuses (by decide))).mpr ⟨rfl, hwithin⟩

/-- With two rotations under a limit of two, the newest access token outlives
the detection. -/
theorem reuse_leaves_access_token :
    ¬ ∀ store, Reached tokenStep issuesOrRotates emptyStore store → ∀ (host : TokenHost) (request : TokenRequest)
      (row : RefreshTokenRow), request.Reuses plainConfig host store row →
        FamilyDestroyed store (request.effect plainConfig host store) row.clientId row.userId := by
  intro hclaim
  have hdestroyed := hclaim (rotated 2) (rotated_reached 2) (hostAt 9) (exchange 0) firstToken
    (exchange_reuses (by decide))
  have hsurvives : ¬ FamilyDestroyed (rotated 2) ((exchange 0).effect plainConfig (hostAt 9) (rotated 2)) "app" "alice" := by
    unfold FamilyDestroyed
    decide
  exact hsurvives hdestroyed

end singleauth.oauthprovider
