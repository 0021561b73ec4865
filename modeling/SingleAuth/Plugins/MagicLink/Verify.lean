import SingleAuth.Plugins.MagicLink.Endpoints

open singleauth.core

namespace singleauth.magiclink

def Store.DistinctUsers (store : Store) : Prop := (store.users.map User.id).Nodup

variable {user : User} {after store : Store} {options : Options} {request : VerifyRequest}

private theorem find?_id_of_mem {users : List User} (hdistinct : (users.map User.id).Nodup)
    (hmem : user ∈ users) : users.find? (fun other => other.id = user.id) = some user := by
  induction users with
  | nil => cases hmem
  | cons first rest ih =>
    rw [List.map_cons, List.nodup_cons] at hdistinct
    rcases List.mem_cons.mp hmem with rfl | hrest
    · simp
    have hne : first.id ≠ user.id := by
      intro hsame
      exact hdistinct.1 (hsame ▸ List.mem_map_of_mem hrest)
    rw [List.find?_cons_of_neg (by simpa using hne)]
    exact ih hdistinct.2 hrest

variable {payload : Payload} {result : Except Outcome User} {outcome : Outcome}

/-- Resolving a payload touches no table but that of the users, and keeps their
ids distinct. The resolved user has the payload's address in lower case. -/
theorem resolveUser_spec (hdistinct : store.DistinctUsers)
    (hresolve : resolveUser options request payload store = (result, after)) :
    after.verifications = store.verifications ∧ after.DistinctUsers ∧
      match result with
      | .ok user => user ∈ after.users ∧ user.email = options.toLower payload.email
      | .error outcome => ∀ user session, outcome ≠ .signedIn user session := by
  unfold resolveUser at hresolve
  split at hresolve
  · rename_i found hfound
    cases hresolve
    exact ⟨rfl, hdistinct, List.mem_of_find?_eq_some hfound, by simpa using List.find?_some hfound⟩
  split at hresolve
  · cases hresolve
    exact ⟨rfl, hdistinct, nofun⟩
  split at hresolve
  · cases hresolve
    exact ⟨rfl, hdistinct, nofun⟩
  rename_i user created hcreate
  cases hresolve
  obtain ⟨hfresh, hcreate⟩ := Option.ite_none_left_eq_some.mp hcreate
  cases hcreate
  refine ⟨rfl, ?_, by simp, rfl⟩
  unfold Store.DistinctUsers at hdistinct ⊢
  rw [List.map_append, List.nodup_append]
  refine ⟨hdistinct, by simp, ?_⟩
  intro id hid other hother
  obtain ⟨known, hknown, rfl⟩ := List.mem_map.mp hid
  rw [List.mem_singleton.mp hother]
  exact fun hsame => hfresh (List.any_eq_true.mpr ⟨known, hknown, by simp [hsame]⟩)

private theorem map_id_updateUser (id : String) (users : List User) :
    (users.map (fun user => if user.id = id then { user with emailVerified := true } else user)).map User.id =
      users.map User.id := by
  rw [List.map_map]
  apply List.map_congr_left
  intro user _
  simp only [Function.comp_apply]
  split <;> rfl

section

variable (hdistinct : store.DistinctUsers)
include hdistinct

/-- Proving an address does not change it. -/
theorem proveUser_spec (hmem : user ∈ store.users)
    (hprove : proveUser user store = (result, after)) :
    after.verifications = store.verifications ∧ after.DistinctUsers ∧
      match result with
      | .ok updated => updated.email = user.email
      | .error outcome => ∀ user session, outcome ≠ .signedIn user session := by
  obtain ⟨hrows, husers⟩ : (revokeUnprovenAccess user.id store).verifications = store.verifications ∧
      (revokeUnprovenAccess user.id store).users = store.users := by
    unfold revokeUnprovenAccess
    repeat' split
    all_goals exact ⟨rfl, rfl⟩
  have hupdated : (updateUser user.id (revokeUnprovenAccess user.id store)).2.DistinctUsers := by
    simp only [Store.DistinctUsers, updateUser, map_id_updateUser, husers]
    exact hdistinct
  unfold proveUser at hprove
  split at hprove
  · cases hprove
    exact ⟨rfl, hdistinct, rfl⟩
  split at hprove
  · cases hprove
    exact ⟨rfl, hdistinct, nofun⟩
  split at hprove
  · rename_i left hupdate
    cases hprove
    rw [hupdate] at hupdated
    exact ⟨(congrArg (·.2.verifications) hupdate).symm.trans hrows, hupdated, nofun⟩
  rename_i found left hupdate
  cases hprove
  rw [hupdate] at hupdated
  refine ⟨(congrArg (·.2.verifications) hupdate).symm.trans hrows, hupdated, ?_⟩
  have hfind := congrArg Prod.fst hupdate
  simp only [updateUser, husers] at hfind
  have hverified : ({ user with emailVerified := true } : User) ∈ store.users.map
      (fun other => if other.id = user.id then { other with emailVerified := true } else other) :=
    List.mem_map.mpr ⟨user, hmem, by simp⟩
  have hlookup := find?_id_of_mem (by rw [map_id_updateUser]; exact hdistinct) hverified
  rw [hlookup] at hfind
  cases hfind
  rfl

/-- A payload signs in the user of its address, in lower case. -/
theorem signInPayload_spec (hsignIn : signInPayload options request payload store = (outcome, after)) :
    after.verifications = store.verifications ∧ after.DistinctUsers ∧
      ∀ user session, outcome = .signedIn user session → user.email = options.toLower payload.email := by
  unfold signInPayload at hsignIn
  split at hsignIn
  · next hresolve =>
    cases hsignIn
    obtain ⟨hrows, hresolved, hother⟩ := resolveUser_spec hdistinct hresolve
    exact ⟨hrows, hresolved, fun user session h => absurd h (hother user session)⟩
  rename_i found resolved hresolve
  obtain ⟨hrows, hresolved, hmem, hemail⟩ := resolveUser_spec hdistinct hresolve
  split at hsignIn
  · next hprove =>
    cases hsignIn
    obtain ⟨hsame, hproved, hother⟩ := proveUser_spec hresolved hmem hprove
    exact ⟨hsame.trans hrows, hproved, fun user session h => absurd h (hother user session)⟩
  rename_i updated left hprove
  obtain ⟨hsame, hproved, hkept⟩ := proveUser_spec hresolved hmem hprove
  split at hsignIn
  · cases hsignIn
    exact ⟨hsame.trans hrows, hproved, nofun⟩
  cases hsignIn
  refine ⟨hsame.trans hrows, hproved, fun user session h => ?_⟩
  cases h
  exact hkept.trans hemail

/-- A verification only removes rows of the table, and keeps the user ids
distinct. One that signs in consumed a row of the presented token whose
value decodes to an address, signed in the user of that address, and left no
row of the token. -/
theorem magicLinkVerify_spec (hverify : magicLinkVerify options request store = (outcome, after)) :
    (∀ row ∈ after.verifications, row ∈ store.verifications) ∧ after.DistinctUsers ∧
      ∀ user session, outcome = .signedIn user session →
        (∃ row ∈ store.verifications, row.identifier = request.token ∧
          ∃ payload, Payload.unmarshal row.value = some payload ∧ payload.email ≠ "" ∧
            user.email = options.toLower payload.email) ∧
          ∀ row ∈ after.verifications, row.identifier ≠ request.token := by
  have hleft : ∀ row ∈ (consumeStoredVerification request.clock request.token store.verifications).2,
      row ∈ store.verifications := fun row hrow => (mem_consumeStoredVerification hrow).1
  unfold magicLinkVerify at hverify
  split at hverify
  · cases hverify
    exact ⟨fun row hrow => hrow, hdistinct, nofun⟩
  split at hverify
  · cases hverify
    exact ⟨fun row hrow => hrow, hdistinct, nofun⟩
  dsimp only at hverify
  split at hverify
  · cases hverify
    exact ⟨hleft, hdistinct, nofun⟩
  rename_i row hrow
  split at hverify
  · cases hverify
    exact ⟨hleft, hdistinct, nofun⟩
  rename_i payload hpayload
  split at hverify
  · cases hverify
    exact ⟨hleft, hdistinct, nofun⟩
  rename_i hemail
  obtain ⟨hrows, husers, hsignedIn⟩ := signInPayload_spec
    (by exact hdistinct : Store.DistinctUsers { store with verifications := _ }) hverify
  rw [hrows]
  refine ⟨hleft, husers, fun user session h => ⟨?_, fun left hmem => ?_⟩⟩
  · obtain ⟨hmem, hidentifier, _⟩ := consumeStoredVerification_some (Prod.ext hrow rfl)
    exact ⟨row, hmem, hidentifier, payload, hpayload, hemail, hsignedIn user session h⟩
  · exact (mem_consumeStoredVerification hmem).2 (by rw [hrow]; rfl)

end

end singleauth.magiclink
