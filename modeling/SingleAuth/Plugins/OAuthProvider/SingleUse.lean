import SingleAuth.Lib.Resource
import SingleAuth.Plugins.OAuthProvider.Endpoints

open fallible json process program table text transition
open singleauth.core

namespace singleauth.oauthprovider

/-! ## What can be used once -/

/-- A code by its identifier, or a refresh token by the id of its row. -/
inductive Key where
  | code (identifier : String)
  | refresh (id : String)
  deriving DecidableEq

def Key.available (key : Key) (store : ServerStore) : Nat :=
  match key with
  | .code identifier => store.verifications.countP (fun row => row.identifier = identifier)
  | .refresh id => store.tokens.refreshTokens.countP (fun row => row.id = id && row.revoked.isNone)

def Key.worth (key other : Key) : Nat := (decide (key = other)).toNat

variable {key : Key} {input : CodeInput} {options : AuthorizeOptions} {store : ServerStore}
  {refreshID : Option String} {row : VerificationRow}

theorem available_accessTokens (key : Key) (store : ServerStore) (accessTokens : List AccessTokenRow) :
    key.available { store with tokens := { store.tokens with accessTokens } } = key.available store := by
  cases key <;> rfl

/-- A use that is won is taken out of the table. -/
theorem available_updateFirst (key : Key) {id : String} {rows : List RefreshTokenRow} {now : Int}
    (h : updateFirst (fun row : RefreshTokenRow => row.id = id && row.revoked.isNone) ({ · with revoked := some now })
      store.tokens.refreshTokens = some rows) :
    key.available { store with tokens := { store.tokens with refreshTokens := rows } } + key.worth (.refresh id) ≤
      key.available store := by
  cases key with
  | code identifier => simp [Key.available, Key.worth]
  | refresh other =>
    obtain ⟨row, hmatching, hcount⟩ :=
      countP_updateFirst (fun row : RefreshTokenRow => row.id = other && row.revoked.isNone) h
    simp only [Bool.and_eq_true, decide_eq_true_eq] at hmatching
    obtain ⟨rfl, hunused⟩ := hmatching
    have hsame : row.id = other ↔ other = row.id := eq_comm
    simp only [Option.isNone_some, Bool.and_false, Bool.toNat_false, hunused, Bool.and_true, hsame] at hcount
    simp only [Key.available, Key.worth, Key.refresh.injEq]
    omega

/-- A new refresh row can be used once. -/
theorem available_issueRefresh (key : Key) {config : TokenConfig} {host : TokenHost} {grant : Grant}
    {refreshToken : String} {tokens : TokenStore}
    (h : issueRefresh config host grant store.tokens = .ok (refreshID, refreshToken, tokens)) :
    key.available { store with tokens } ≤ key.available store + key.worth (.refresh host.refreshRowID) := by
  unfold issueRefresh at h
  split at h
  · obtain ⟨raw, _, h⟩ := bind_eq_ok_iff.mp h
    obtain ⟨stored, _, created, hcreated, h⟩ := ok_of_bind₂ h
    cases h
    rw [createRefreshToken_some (expect_eq_ok_iff.mp hcreated)]
    cases key with
    | code identifier => simp [Key.available]
    | refresh id =>
      have hsame : host.refreshRowID = id ↔ id = host.refreshRowID := eq_comm
      simp only [Key.available, Key.worth, List.countP_append, List.countP_singleton, newRefreshRow, Option.isNone_none,
        Bool.and_true, Key.refresh.injEq, hsame]
      by_cases hid : id = host.refreshRowID <;> simp [hid]
  · cases h
    exact Nat.le_add_right _ _

/-- A code that is presented is taken out of the table. -/
theorem available_consumeCode (key : Key) {after : ServerStore}
    {identifier : String} (hidentifier : options.storedCode input.code = some identifier)
    (h : consumeCode options input store = .ok (row, after)) :
    key.available after + key.worth (.code identifier) ≤ key.available store := by
  obtain ⟨_, _, found, hfound, ⟨taken, left⟩, htaken, h⟩ := ok_of_bind₃ h
  cases h
  rw [expect_eq_ok_iff, hidentifier, Option.some.injEq] at hfound
  subst hfound
  have htaken := expect_eq_ok_iff.mp htaken
  have hmatching := (consumeFirst_perm htaken).1
  cases key with
  | refresh id => simp [Key.available, Key.worth]
  | code other =>
    have hcount := countP_consumeFirst (fun row : VerificationRow => row.identifier = other) htaken
    simp only [decide_eq_true_eq] at hmatching
    have hsame : identifier = other ↔ other = identifier := eq_comm
    simp only [hmatching, hsame] at hcount
    simp only [Key.available, Key.worth, Key.code.injEq]
    omega

/-! ## What each program pays

Each lemma says what credit a program has left when it succeeds. -/

variable {config : TokenConfig} {host : TokenHost} {grant : Grant} {original : Option RefreshTokenRow}
  {provider : Provider} {server : TokenServer} {clientID token : String} {refresh : RefreshTokenRow} {credit : Nat}

theorem Pays.deletesAccess {change : List AccessTokenRow → List AccessTokenRow} :
    Pays key.available (fun _ left => left = credit) credit
      (Calls.update (changeTokens fun tokens => { tokens with accessTokens := change tokens.accessTokens })) := by
  refine Pays.update fun store _ after h => ⟨credit, ?_, rfl⟩
  cases h
  rw [available_accessTokens]

theorem invalidateRefreshFamilyCalls_pays {userID : String} :
    Pays key.available (fun _ left => left = credit) credit (invalidateRefreshFamilyCalls config clientID userID) := by
  have hdelete : Pays key.available (fun _ left => left = credit) credit
      (Calls.update (changeTokens fun tokens =>
        { tokens with refreshTokens := deleteMany (inFamily clientID userID) tokens.refreshTokens })) := by
    refine Pays.update fun store _ after h => ⟨credit, ?_, rfl⟩
    cases h
    refine Nat.add_le_add_right ?_ credit
    cases key with
    | code identifier => exact Nat.le_refl _
    | refresh id => exact countP_deleteMany_le _ _ _
  refine Pays.read fun ids => ?_
  split
  · exact hdelete
  · refine Pays.bind Pays.deletesAccess ?_
    rintro _ _ rfl
    exact hdelete

/-- What the use of the presented refresh token is worth. -/
def Key.claimed (key : Key) (original : Option RefreshTokenRow) : Nat :=
  original.elim 0 fun refresh => key.worth (.refresh refresh.id)

theorem claimRefreshCalls_pays :
    Pays key.available (fun _ left => left = credit + key.claimed original) credit (claimRefreshCalls host original) := by
  cases original with
  | none => exact Pays.pure rfl
  | some refresh =>
    refine Pays.update fun store _ after h => ⟨_, ?_, rfl⟩
    obtain ⟨tokens, hwrite, rfl⟩ := onTokens_eq_ok_iff.mp h
    obtain ⟨claimed, hclaim, heq⟩ := map_eq_ok_iff.mp hwrite
    cases heq
    obtain ⟨rows, hrows, hclaim⟩ := bind_eq_ok_iff.mp hclaim
    cases hclaim
    have hused := available_updateFirst key (expect_eq_ok_iff.mp hrows)
    dsimp only at hused
    simp only [Key.claimed, Option.elim_some]
    omega

theorem issueRefreshCalls_pays :
    Pays key.available (fun _ left => left = credit) (credit + key.worth (.refresh host.refreshRowID))
      (issueRefreshCalls config host grant) := by
  refine Pays.update fun store _ after h => ⟨_, ?_, rfl⟩
  obtain ⟨tokens, hwrite, rfl⟩ := onTokens_eq_ok_iff.mp h
  obtain ⟨⟨refreshID, refreshToken, issued⟩, hissue, heq⟩ := map_eq_ok_iff.mp hwrite
  cases heq
  have hnew := available_issueRefresh key hissue
  omega

theorem issueAccessCalls_pays {expiresAt : Int} :
    Pays key.available (fun _ left => left = credit) credit
      (issueAccessCalls config host grant expiresAt refreshID) := by
  refine Pays.update fun store _ after h => ⟨_, ?_, rfl⟩
  obtain ⟨tokens, hissue, rfl⟩ := onTokens_eq_ok_iff.mp h
  obtain ⟨added, rfl, _⟩ := issueAccess_ok hissue
  rw [available_accessTokens]

/-- A token response uses up what its new refresh token is worth, and has the
use of the presented one. -/
theorem issueDetailedCalls_pays (original : Option RefreshTokenRow) :
    Pays key.available (fun _ left => left = credit + key.claimed original)
      (credit + key.worth (.refresh host.refreshRowID)) (issueDetailedCalls config host grant original) := by
  refine Pays.check fun _ _ => ?_
  refine Pays.bind claimRefreshCalls_pays ?_
  rintro _ _ rfl
  rw [Nat.add_right_comm]
  refine Pays.bind issueRefreshCalls_pays ?_
  rintro refresh _ rfl
  refine Pays.bind issueAccessCalls_pays ?_
  rintro accessToken _ rfl
  refine Pays.check fun idToken _ => ?_
  exact Pays.pure rfl

theorem redeemedGrantCalls_pays {now : Int} :
    Pays key.available (fun _ left => left = credit) credit (redeemedGrantCalls provider now input row) := by
  refine Pays.check fun _ _ => ?_
  refine Pays.check fun stored _ => ?_
  refine Pays.check fun _ _ => ?_
  refine Pays.check fun _ _ => ?_
  refine Pays.read fun client => ?_
  refine Pays.check fun _ _ => ?_
  refine Pays.check fun _ _ => ?_
  refine Pays.read fun _ => ?_
  refine Pays.read fun session => ?_
  refine Pays.check fun expiresAt _ => ?_
  refine Pays.check fun _ _ => ?_
  exact Pays.pure rfl

/-- What the code that a request presents is worth. -/
def Key.presented (key : Key) (options : AuthorizeOptions) (input : CodeInput) : Nat :=
  (options.storedCode input.code).elim 0 fun identifier => key.worth (.code identifier)

theorem consumeCode_pays :
    Pays key.available (fun _ left => left = credit + key.presented options input) credit
      (Calls.update (consumeCode options input)) := by
  refine Pays.update fun store row after h => ⟨_, ?_, rfl⟩
  unfold Key.presented
  cases hidentifier : options.storedCode input.code with
  | none =>
    obtain ⟨_, _, identifier, hfound, _⟩ := ok_of_bind₂ h
    rw [expect_eq_ok_iff, hidentifier] at hfound
    cases hfound
  | some identifier =>
    have hused := available_consumeCode key hidentifier h
    simp only [Option.elim_some]
    omega

theorem authorizationCodeCalls_pays :
    Pays key.available (fun _ left => left = key.presented provider.options input)
      (key.worth (.refresh host.refreshRowID)) (authorizationCodeCalls provider host input) := by
  refine Pays.bind consumeCode_pays ?_
  rintro row _ rfl
  refine Pays.bind redeemedGrantCalls_pays ?_
  rintro grant _ rfl
  rw [Nat.add_comm]
  exact issueDetailedCalls_pays none

theorem refreshGrantCalls_pays {input : TokenInput} :
    Pays key.available (fun _ left => left = credit) credit (refreshGrantCalls config input refresh) := by
  refine Pays.check fun _ _ => ?_
  refine Pays.read fun client => ?_
  refine Pays.check fun _ _ => ?_
  refine Pays.read fun _ => ?_
  exact Pays.pure rfl

theorem refreshTokenCalls_pays {input : TokenInput} :
    Pays key.available (fun exchanged left => left = key.worth (.refresh exchanged.1.id))
      (key.worth (.refresh host.refreshRowID)) (refreshTokenCalls config host input) := by
  refine Pays.read fun refresh => ?_
  split
  · refine Pays.bind invalidateRefreshFamilyCalls_pays ?_
    rintro _ _ rfl
    exact Pays.fails
  refine Pays.bind refreshGrantCalls_pays ?_
  rintro grant _ rfl
  rw [← Nat.zero_add (key.worth (.refresh host.refreshRowID))]
  refine Pays.bind (issueDetailedCalls_pays _) ?_
  rintro tokens _ rfl
  exact Pays.pure (Nat.zero_add _)

theorem revokeOpaqueAccessTokenCalls_pays :
    Pays key.available (fun _ left => left = credit) credit (revokeOpaqueAccessTokenCalls config clientID token) := by
  refine Pays.check fun lookup _ => ?_
  refine Pays.check fun stored _ => ?_
  refine Pays.read fun access => ?_
  split
  · exact Pays.pure rfl
  · exact Pays.deletesAccess

theorem revokeAccessTokenCalls_pays :
    Pays key.available (fun _ left => left = credit) credit (revokeAccessTokenCalls server clientID token) := by
  unfold revokeAccessTokenCalls
  split
  · exact revokeOpaqueAccessTokenCalls_pays
  refine Pays.check fun disposition _ => ?_
  cases disposition with
  | valid => exact Pays.pure rfl
  | inactive => exact Pays.pure rfl
  | notJWT => exact revokeOpaqueAccessTokenCalls_pays
  | unknown => exact Pays.fails

theorem revokeClaim_pays :
    Pays key.available (fun won left => won = true → key.worth (.refresh refresh.id) ≤ left) credit
      (revokeClaimCalls refresh host) := by
  refine Pays.update fun store won after h => ?_
  split at h
  · cases h
    exact ⟨0, by omega, by simp⟩
  rename_i rows hrows
  cases h
  have hused := available_updateFirst key hrows
  exact ⟨key.worth (.refresh refresh.id), by omega, fun _ => Nat.le_refl _⟩

/-- The revocation of a client's own refresh token takes its use. -/
theorem revokeRefreshTokenCalls_pays (hclientID : clientID ≠ "") :
    Pays key.available (fun refresh left => refresh.clientId = clientID → key.worth (.refresh refresh.id) ≤ left) credit
      (revokeRefreshTokenCalls config host clientID token) := by
  refine Pays.read fun refresh => ?_
  split
  · refine Pays.bind invalidateRefreshFamilyCalls_pays ?_
    rintro _ _ rfl
    exact Pays.fails
  split
  · next hforeign =>
    refine Pays.pure fun hown => ?_
    rcases hforeign with hempty | hother
    · exact absurd (hown.symm.trans hempty) hclientID
    · exact absurd hown hother
  split
  · exact Pays.fails
  refine Pays.bind revokeClaim_pays ?_
  rintro won left hwon
  cases won with
  | true =>
    refine Pays.bind Pays.deletesAccess ?_
    rintro _ _ rfl
    exact Pays.pure fun _ => hwon rfl
  | false =>
    refine Pays.bind invalidateRefreshFamilyCalls_pays ?_
    rintro _ _ rfl
    exact Pays.fails

theorem revokeCalls_pays {input : RevokeInput} :
    Pays key.available
      (fun found left => ∀ refresh, found = some refresh → refresh.clientId = input.clientID →
        key.worth (.refresh refresh.id) ≤ left)
      0 (revokeCalls server host input) := by
  refine Pays.check fun _ hcredentials => ?_
  have hclientID : input.clientID ≠ "" := require_eq_ok_iff.mp hcredentials
  refine Pays.check fun _ _ => ?_
  refine Pays.check fun _ _ => ?_
  refine Pays.bind Pays.reads_ok ?_
  rintro client _ ⟨⟨store, hvalid⟩, rfl⟩
  have hclient := (TokenConfig.validateClient_ok hvalid).2.1
  rw [← hclient] at hclientID ⊢
  split
  · refine Pays.bind (revokeRefreshTokenCalls_pays hclientID) ?_
    intro row left hrow
    refine Pays.pure ?_
    rintro refresh ⟨⟩
    exact hrow
  refine Pays.bind revokeAccessTokenCalls_pays.attempt ?_
  intro access left _
  split
  · refine Pays.pure ?_
    rintro refresh ⟨⟩
  · exact Pays.fails
  split
  · exact Pays.fails
  refine Pays.bind (revokeRefreshTokenCalls_pays hclientID).attempt ?_
  intro refresh left hrow
  split
  · next row =>
    refine Pays.pure ?_
    rintro refresh ⟨⟩
    exact hrow row rfl
  · exact Pays.fails
  · exact Pays.fails

/-! ## Counting answers -/

/-- The id under which a request writes its refresh row, if it comes to that. -/
def TokenCall.refreshRowID : TokenCall → Option String
  | .code host _ => some host.refreshRowID
  | .refresh host _ => some host.refreshRowID
  | .machine host _ _ _ => some host.refreshRowID
  | .revoke _ _ => none

def Key.funds (key : Key) (request : TokenCall) : Nat :=
  request.refreshRowID.elim 0 fun id => key.worth (.refresh id)

/-- What an answer uses of the key. A revocation counts when it is made by the
client of the token. -/
def Key.cost (options : AuthorizeOptions) (key : Key) : TokenCall → Receipt → Nat
  | .code _ input, .issued _ _ => key.presented options input
  | .refresh _ _, .issued (some row) _ => key.worth (.refresh row.id)
  | .revoke _ input, .acknowledged (some row) =>
    if row.clientId = input.clientID then key.worth (.refresh row.id) else 0
  | _, _ => 0

theorem endpoint_pays (server : TokenServer) (key : Key) (request : TokenCall) :
    Pays key.available (fun receipt left => key.cost server.options request receipt ≤ left) (key.funds request)
      (endpoint server request) := by
  cases request with
  | code host input =>
    refine Pays.bind authorizationCodeCalls_pays ?_
    rintro tokens _ rfl
    exact Pays.pure (Nat.le_refl _)
  | refresh host input =>
    refine Pays.bind refreshTokenCalls_pays ?_
    rintro exchanged _ rfl
    exact Pays.pure (Nat.le_refl _)
  | machine host client scopes resource =>
    have hfunds : key.funds (.machine host client scopes resource) = 0 + key.worth (.refresh host.refreshRowID) :=
      (Nat.zero_add _).symm
    rw [hfunds]
    refine Pays.bind (issueDetailedCalls_pays _) ?_
    intro tokens left _
    exact Pays.pure (Nat.zero_le left)
  | revoke host input =>
    refine Pays.bind revokeCalls_pays ?_
    intro found left hfound
    cases found with
    | none => exact Pays.pure (Nat.zero_le left)
    | some row =>
      refine Pays.pure ?_
      change (if row.clientId = input.clientID then key.worth (.refresh row.id) else 0) ≤ left
      split
      · next hown => exact hfound row rfl hown
      · exact Nat.zero_le left

abbrev TokenThread := Thread TokenCall ServerStore TokenError Receipt

def redeems (options : AuthorizeOptions) (identifier : String) (thread : TokenThread) : Bool :=
  match thread.request, thread.calls with
  | .code _ input, .done (.ok (.issued _ _)) => options.storedCode input.code = some identifier
  | _, _ => false

def exchanges (id : String) (thread : TokenThread) : Bool :=
  match thread.request, thread.calls with
  | .refresh _ _, .done (.ok (.issued (some row) _)) => row.id = id
  | _, _ => false

/-- The thread's revocation of the refresh token has been acknowledged. -/
def acknowledges (id : String) (thread : TokenThread) : Bool :=
  match thread.request, thread.calls with
  | .revoke _ _, .done (.ok (.acknowledged (some row))) => row.id = id
  | _, _ => false

/-- And the token was issued to the client that made the request. -/
def revokes (id : String) (thread : TokenThread) : Bool :=
  match thread.request, thread.calls with
  | .revoke _ input, .done (.ok (.acknowledged (some row))) => row.id = id && row.clientId = input.clientID
  | _, _ => false

theorem redeems_le_spent (options : AuthorizeOptions) (identifier : String) (thread : TokenThread) :
    (redeems options identifier thread).toNat + false.toNat ≤
      thread.spent (Key.cost options (.code identifier)) := by
  obtain ⟨request, calls⟩ := thread
  unfold redeems
  split
  · next host input found tokens hrequest hcalls =>
    subst hrequest hcalls
    change _ ≤ (Key.code identifier).presented options input
    unfold Key.presented
    cases options.storedCode input.code with
    | none => simp
    | some other =>
      have hsame : other = identifier ↔ identifier = other := eq_comm
      simp [Key.worth, hsame]
  · exact Nat.zero_le _

/-- An exchange and a revocation by the token's client each use the token. -/
theorem exchanges_le_spent (options : AuthorizeOptions) (id : String) (thread : TokenThread) :
    (exchanges id thread).toNat + (revokes id thread).toNat ≤ thread.spent (Key.cost options (.refresh id)) := by
  obtain ⟨request, calls⟩ := thread
  unfold exchanges revokes
  split
  · next host input row tokens hrequest hcalls =>
    subst hrequest hcalls
    change _ ≤ (Key.refresh id).worth (.refresh row.id)
    have hsame : row.id = id ↔ id = row.id := eq_comm
    simp [Key.worth, hsame]
  split
  · next host input row hrequest hcalls =>
    subst hrequest hcalls
    change _ ≤ if row.clientId = input.clientID then (Key.refresh id).worth (.refresh row.id) else 0
    have hsame : row.id = id ↔ id = row.id := eq_comm
    by_cases hown : row.clientId = input.clientID <;> simp [Key.worth, hsame, hown]
  · exact Nat.zero_le _

variable {thread : TokenThread}

theorem acknowledges_of_revokes {id : String} (h : revokes id thread = true) : acknowledges id thread = true := by
  unfold revokes at h
  unfold acknowledges
  split at h
  · next hrequest hcalls =>
    rw [Bool.and_eq_true] at h
    simpa [hrequest, hcalls] using h.1
  · cases h

theorem answer_of_acknowledges {id : String} (h : acknowledges id thread = true) :
    ∃ result, thread.answer = some result := by
  unfold acknowledges at h
  split at h
  · next hcalls => exact ⟨_, by rw [Thread.answer, hcalls]⟩
  · cases h

variable {server : TokenServer} {start : ServerStore} {system later : System ServerStore TokenThread}

/-- How often a refresh row can have been written under the id: before the start,
or by a request. -/
def written (start : ServerStore) (system : System ServerStore TokenThread) (id : String) : Nat :=
  start.tokens.refreshTokens.countP (fun row => row.id = id) +
    system.threads.countP (fun thread => thread.request.refreshRowID = some id)

section

variable (hreached : Reached (advance (endpoint server)) (fun _ _ => True) ⟨start, []⟩ system)
include hreached

/-- A code is redeemed at most as often as it is stored. -/
theorem redeems_le (identifier : String) :
    system.threads.countP (redeems server.options identifier) ≤
      start.verifications.countP (fun row => row.identifier = identifier) := by
  have hspent := spent_le hreached fun request _ => endpoint_pays server (.code identifier) request
  have hcount := countP_add_countP_le system.threads (redeems_le_spent server.options identifier)
  -- no request brings codes
  have hfunds : (system.threads.map fun thread => (Key.code identifier).funds thread.request).sum = 0 := by
    refine List.sum_eq_zero fun fund hfund => ?_
    obtain ⟨thread, _, rfl⟩ := List.mem_map.mp hfund
    unfold Key.funds
    cases thread.request.refreshRowID <;> rfl
  have havailable : (Key.code identifier).available start =
      start.verifications.countP (fun row => row.identifier = identifier) := rfl
  rw [hfunds] at hspent
  omega

/-- A refresh token is exchanged or revoked by its client at most as often as it
is written. -/
theorem exchanges_add_revokes_le (id : String) :
    system.threads.countP (exchanges id) + system.threads.countP (revokes id) ≤ written start system id := by
  have hspent := spent_le hreached fun request _ => endpoint_pays server (.refresh id) request
  have hcount := countP_add_countP_le system.threads (exchanges_le_spent server.options id)
  have hfunds : (system.threads.map fun thread => (Key.refresh id).funds thread.request).sum =
      system.threads.countP (fun thread => thread.request.refreshRowID = some id) := by
    rw [← table.sum_map_toNat]
    refine congrArg List.sum (List.map_congr_left fun thread _ => ?_)
    unfold Key.funds
    cases thread.request.refreshRowID with
    | none => rfl
    | some other =>
      have hsame : id = other ↔ other = id := eq_comm
      simp [Key.worth, hsame]
  have havailable : (Key.refresh id).available start ≤ start.tokens.refreshTokens.countP (fun row => row.id = id) := by
    refine List.countP_mono_left fun row _ hrow => ?_
    rw [Bool.and_eq_true] at hrow
    exact hrow.1
  rw [hfunds] at hspent
  unfold written
  omega

end

/-- In every interleaving, a code that is stored once and a refresh token that is
written once lead to one token response at most, and once its client has had
a refresh token revoked there is none. -/
theorem exchanged_at_most_once
    (hreached : Reached (advance (endpoint server)) (fun _ _ => True) ⟨start, []⟩ system)
    (hlater : Reached (advance (endpoint server)) (fun _ _ => True) system later) :
    (∀ identifier, start.verifications.countP (fun row => row.identifier = identifier) ≤ 1 →
        later.threads.countP (redeems server.options identifier) ≤ 1) ∧
      (∀ id, written start later id ≤ 1 → later.threads.countP (exchanges id) ≤ 1) ∧
      ∀ id, written start later id ≤ 1 → (∃ thread ∈ system.threads, revokes id thread = true) →
        ∀ thread ∈ later.threads, exchanges id thread = false := by
  have hall := hreached.trans hlater
  refine ⟨fun identifier hstored => (redeems_le hall identifier).trans hstored, fun id hwritten => ?_, ?_⟩
  · have hused := exchanges_add_revokes_le hall id
    omega
  rintro id hwritten ⟨revocation, hrevocation, hrevokes⟩ thread hthread
  obtain ⟨result, hanswer⟩ := answer_of_acknowledges (acknowledges_of_revokes hrevokes)
  have hstays := answered_persists hlater hanswer hrevocation
  have hrevoked : 0 < later.threads.countP (revokes id) := List.countP_pos_iff.mpr ⟨revocation, hstays, hrevokes⟩
  have hused := exchanges_add_revokes_le hall id
  have hnone : later.threads.countP (exchanges id) = 0 := by omega
  exact Bool.eq_false_iff.mpr (List.countP_eq_zero.mp hnone thread hthread)

/-! ## Two clients

The refresh token of one client, which another client asks to revoke. -/

private def raceServer : TokenServer where
  config := plainConfig
  options :=
    { server := sampleOptions, redirectMatches := (· == ·), verifySignedQuery := fun _ _ => none, storedCode := some,
      times := onlyTime 0, authorizationCodeExpiresIn := 10 }
  pkceChallenge := id

private def raceStore : ServerStore where
  tokens :=
    { clients := [{ clientId := "app", isPublic := true }, { clientId := "other", isPublic := true }]
      users := ["alice"]
      refreshTokens :=
        [{ id := "first", token := "first", clientId := "app", userId := "alice", expiresAt := 100, createdAt := 0,
           scopes := ["offline_access"] }] }

private def exchangeOf (name : String) : Turn TokenCall :=
  .start (.refresh (namedHost 12 name) { clientID := "app", refreshToken := "first" })

private def revocationBy (clientID : String) : Turn TokenCall :=
  .start (.revoke (namedHost 12 "none") { clientID, token := "first", tokenTypeHint := "refresh_token" })

private def raced (turns : List (Turn TokenCall)) : System ServerStore TokenThread :=
  turns.foldl (advance (endpoint raceServer)) ⟨raceStore, []⟩

private theorem raced_reached (turns : List (Turn TokenCall)) :
    Reached (advance (endpoint raceServer)) (fun _ _ => True) ⟨raceStore, []⟩ (raced turns) :=
  Reached.start.foldl (fun _ _ _ => trivial)

private theorem raced_append (turns more : List (Turn TokenCall)) :
    Reached (advance (endpoint raceServer)) (fun _ _ => True) (raced turns) (raced (turns ++ more)) := by
  unfold raced
  rw [List.foldl_append]
  exact Reached.start.foldl (fun _ _ _ => trivial)

private def steps (number count : Nat) : List (Turn TokenCall) := List.replicate count (.step number)

/-- Two exchanges that both find the token unused, the calls of the first one
before those of the second one. -/
private def race : List (Turn TokenCall) :=
  [exchangeOf "second", exchangeOf "third"] ++ steps 0 3 ++ steps 1 3 ++ steps 0 3 ++ steps 1 3

theorem exchanged_at_most_once_race :
    (raced race).threads.countP (exchanges "first") = 1 ∧ (raced race).threads.countP (exchanges "first") ≤ 1 := by
  have hwritten : written raceStore (raced race) "first" ≤ 1 := by decide
  exact ⟨by decide, (exchanged_at_most_once (raced_reached race) .start).2.1 "first" hwritten⟩

/-- The acknowledgement alone says nothing: another client gets it too, and the
token can still be exchanged. -/
theorem acknowledged_is_exchanged :
    ¬ ∀ (server : TokenServer) (start : ServerStore) (system later : System ServerStore TokenThread),
      Reached (advance (endpoint server)) (fun _ _ => True) ⟨start, []⟩ system →
        Reached (advance (endpoint server)) (fun _ _ => True) system later → ∀ id, written start later id ≤ 1 →
          (∃ thread ∈ system.threads, acknowledges id thread = true) →
            ∀ thread ∈ later.threads.drop system.threads.length, exchanges id thread = false := by
  intro hclaim
  have hacknowledged : (raced (revocationBy "other" :: steps 0 2)).threads.any (acknowledges "first") = true := by
    decide
  have hnone := hclaim raceServer raceStore _ _ (raced_reached (revocationBy "other" :: steps 0 2))
    (raced_append _ (exchangeOf "second" :: steps 1 6)) "first" (by decide) (List.any_eq_true.mp hacknowledged)
  have hexchanged : ((raced (revocationBy "other" :: steps 0 2 ++ exchangeOf "second" :: steps 1 6)).threads.drop
      (raced (revocationBy "other" :: steps 0 2)).threads.length).any (exchanges "first") = true := by
    decide
  obtain ⟨thread, hthread, hexchanges⟩ := List.any_eq_true.mp hexchanged
  rw [hnone thread hthread] at hexchanges
  cases hexchanges

end singleauth.oauthprovider
