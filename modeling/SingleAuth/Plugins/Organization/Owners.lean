import SingleAuth.Lib.Holders
import SingleAuth.Lib.Transition
import SingleAuth.Plugins.Organization.Effects

open holders transition

namespace singleauth.organization

section

variable {config : OrganizationConfig} {organization : String}

/-! ## The lock -/

variable {later stage : Stage} {request : MemberRequest} {y : String} {entry : Option (MemberRequest × Stage)}
  {state : OrganizationState} {effective : String} {locked : Bool}

theorem updateLoaded_holdsLock
    (h : updateLoaded locked effective = some later) (hlater : later.holdsLock = true) : locked = true := by
  cases locked with
  | true => rfl
  | false =>
    simp only [updateLoaded, Bool.false_eq_true, if_false, Option.ite_none_left_eq_some] at h
    cases h.2
    cases hlater

theorem checkUpdate_holdsLock {memberID : String} {requested : List String}
    {actor target : Member} (h : checkUpdate config locked memberID requested effective actor target = some later)
    (hlater : later.holdsLock = true) : locked = true := by
  simp only [checkUpdate] at h
  split at h
  · cases h
  split at h
  · cases h
    exact hlater
  · exact updateLoaded_holdsLock h hlater

/-- A request that holds the lock after a call held it before or acquired it. -/
theorem advance_holdsLock {members : MemberTable}
    (h : (advance config members request stage).2 = some later) (hlater : later.holdsLock = true) :
    stage.holdsLock = true ∨ stage.acquires = true := by
  revert h
  fun_cases advance config members request stage <;> intro h
  -- Where the update checks its state, the same request goes on with the lock or without it.
  case case2 => exact .inl (checkUpdate_holdsLock h hlater)
  case case6 => exact .inl (checkUpdate_holdsLock h hlater)
  case case9 => exact .inl (updateLoaded_holdsLock h hlater)
  all_goals cases h <;> first | exact .inl hlater | exact .inl rfl | exact .inr rfl

def MemberRequest.takesLock : MemberRequest → Bool
  | .removeMember _ _ _ => false
  | _ => true

theorem MemberRequest.clearedFor_holdsLock
    (h : request.clearedFor config stage = some y) (hlock : request.takesLock = true) : stage.holdsLock = true := by
  revert h
  fun_cases MemberRequest.clearedFor config request stage <;> intro h
  all_goals first | rfl | contradiction

def heldLock (config : OrganizationConfig) (entry : Option (MemberRequest × Stage)) : Option Nat :=
  entry.bind fun (request, stage) =>
    if stage.holdsLock then some (config.organizationLock request.organizationID) else none

/-- The member that a request under way has been cleared for. -/
def pendingOf (config : OrganizationConfig) (organization : String) (entry : Option (MemberRequest × Stage)) :
    Option String :=
  entry.bind fun (request, stage) => request.pending config organization stage

theorem pendingOf_some (h : pendingOf config organization entry = some y) :
    ∃ request stage, entry = some (request, stage) ∧ request.pending config organization stage = some y := by
  obtain ⟨⟨request, stage⟩, rfl, h⟩ := Option.bind_eq_some_iff.mp h
  exact ⟨request, stage, rfl, h⟩

theorem heldLock_some {lock : Nat} (h : heldLock config entry = some lock) :
    ∃ request stage, entry = some (request, stage) ∧ stage.holdsLock = true ∧
      config.organizationLock request.organizationID = lock := by
  obtain ⟨⟨request, stage⟩, rfl, h⟩ := Option.bind_eq_some_iff.mp h
  exact ⟨request, stage, rfl, by simpa [heldLock] using h⟩

theorem first_heldLock : heldLock config (request.first.map fun stage => (request, stage)) = none := by
  cases request with
  | updateMemberRole => simp only [MemberRequest.first]; split <;> rfl
  | leaveOrganization => rfl
  | removeMember => rfl

theorem first_pendingOf : pendingOf config organization (request.first.map fun stage => (request, stage)) = none := by
  cases request with
  | updateMemberRole =>
    simp only [MemberRequest.first]
    split
    · rfl
    · simp [pendingOf, MemberRequest.pending, MemberRequest.clearedFor]
  | leaveOrganization | removeMember => simp [MemberRequest.first, pendingOf, MemberRequest.pending, MemberRequest.clearedFor]

/-- Two requests of one organization that are cleared at the same time do not both
take the lock. -/
theorem not_takesLock_of_pending {requests : Nat → Option (MemberRequest × Stage)} {first second : Nat}
    {otherRequest : MemberRequest} {otherStage : Stage} {x : String}
    (hexclusive : Exclusive (heldLock config ∘ requests)) (hne : second ≠ first)
    (hfirst : requests first = some (request, stage)) (hsecond : requests second = some (otherRequest, otherStage))
    (hx : request.pending config organization stage = some x)
    (hy : otherRequest.pending config organization otherStage = some y) :
    request.takesLock = false ∨ otherRequest.takesLock = false := by
  by_contra hboth
  rw [not_or, Bool.not_eq_false, Bool.not_eq_false] at hboth
  obtain ⟨horganization, hx⟩ := MemberRequest.pending_some.mp hx
  obtain ⟨hotherOrganization, hy⟩ := MemberRequest.pending_some.mp hy
  refine hne (hexclusive second first (config.organizationLock organization) ?_ ?_)
  · simp [heldLock, hsecond, MemberRequest.clearedFor_holdsLock hy hboth.2, hotherOrganization]
  · simp [heldLock, hfirst, MemberRequest.clearedFor_holdsLock hx hboth.1, horganization]

/-! ## Runs -/

/-- A write that takes the creator role from `x` meets no other request, one of
the two a removal, that is cleared to take it from another holder `y` while `x`
and `y` are the only ones. -/
def LeavesThird (config : OrganizationConfig) (organization : String) (state : OrganizationState) : Event → Prop
  | .call number => ∀ request stage x, state.requests number = some (request, stage) → stage.writes = true →
      request.pending config organization stage = some x → Holds config organization state.members x →
        ∀ other otherRequest otherStage y, other ≠ number →
          state.requests other = some (otherRequest, otherStage) →
          otherRequest.pending config organization otherStage = some y → y ≠ x →
          Holds config organization state.members y →
          request.takesLock = false ∨ otherRequest.takesLock = false →
            ∃ z, z ≠ x ∧ z ≠ y ∧ Holds config organization state.members z
  | _ => True

/-- What every run keeps. -/
structure Owned (config : OrganizationConfig) (organization : String) (state : OrganizationState) : Prop where
  agree : ∀ member ∈ state.members.rows, RolesAgree config.creatorRole member.role
  exclusive : Exclusive (heldLock config ∘ state.requests)
  guarded : Guarded (Holds config organization state.members) (pendingOf config organization ∘ state.requests)

/-- A request that is dropped, or one that arrives, is cleared for nobody and holds
no lock. -/
theorem Owned.fresh (h : Owned config organization state) (number : Nat) (hlock : heldLock config entry = none)
    (hpending : pendingOf config organization entry = none) :
    Owned config organization { state with requests := Function.update state.requests number entry } where
  agree := h.agree
  exclusive := by
    rw [Function.comp_update, hlock]
    exact h.exclusive.update number (by simp)
  guarded := by
    rw [Function.comp_update, hpending]
    refine h.guarded.drop fun p y hp => ?_
    by_cases hpn : p = number
    · rw [hpn, Function.update_self] at hp
      cases hp
    · rwa [Function.update_of_ne hpn] at hp

theorem call_exclusive (hexclusive : Exclusive (heldLock config ∘ state.requests))
    {number : Nat} (hrequest : state.requests number = some (request, stage))
    (hlock : RespectsLock config state (.call number)) :
    Exclusive (heldLock config ∘ Function.update state.requests number
      ((advance config state.members request stage).2.map fun stage => (request, stage))) := by
  rw [Function.comp_update]
  refine hexclusive.update number fun lock hlater => ?_
  obtain ⟨_, later, hlater, hholds, hlockEq⟩ := heldLock_some hlater
  obtain ⟨later, hadvance, heq⟩ := Option.map_eq_some_iff.mp hlater
  cases heq
  rcases advance_holdsLock hadvance hholds with hheld | hacquires
  · exact .inl (by simp [heldLock, hrequest, hheld, hlockEq])
  refine .inr fun other hne hother => ?_
  obtain ⟨otherRequest, otherStage, hother, hotherHolds, hotherLock⟩ := heldLock_some hother
  exact hlock request stage hrequest hacquires other otherRequest otherStage hne hother hotherHolds
    (hotherLock.trans hlockEq.symm)

theorem call_guarded (h : Owned config organization state) {number : Nat}
    (hrequest : state.requests number = some (request, stage))
    (hthird : LeavesThird config organization state (.call number)) :
    Guarded (Holds config organization (advance config state.members request stage).1)
      (pendingOf config organization ∘ Function.update state.requests number
        ((advance config state.members request stage).2.map fun stage => (request, stage))) := by
  have hothers : ∀ entry q, q ≠ number →
      (pendingOf config organization ∘ Function.update state.requests number entry) q =
        (pendingOf config organization ∘ state.requests) q := by
    intro entry q hq
    simp [Function.update_of_ne hq]
  have heffect : Effect config organization _ request stage _ _ := advance_effect h.agree request stage
  generalize (advance config state.members request stage).1 = after at heffect ⊢
  generalize (advance config state.members request stage).2 = next at heffect ⊢
  cases heffect with
  | read _ hcleared =>
    refine h.guarded.arm (hothers _) fun y hy => ?_
    simp only [Function.comp_apply, Function.update_self] at hy ⊢
    obtain ⟨_, later, hnext, hy⟩ := pendingOf_some hy
    obtain ⟨later, hlater, heq⟩ := Option.map_eq_some_iff.mp hnext
    cases heq
    rw [hrequest]
    exact hcleared later hlater y hy
  | grew hgrew =>
    refine (h.guarded.grow hgrew).drop fun p y hp => ?_
    by_cases hpn : p = number
    · simp [hpn, pendingOf] at hp
    · exact hothers _ p hpn ▸ hp
  | took x hwrites hpending hkept hold =>
    refine h.guarded.take (p := number) (x := x) ?_ ?_ (hothers _) hkept hold fun hx other y hne hother hyx hy => ?_
    · simpa [hrequest, pendingOf] using hpending
    · simp [pendingOf]
    · obtain ⟨otherRequest, otherStage, hotherRequest, hotherPending⟩ := pendingOf_some hother
      exact hthird request stage x hrequest hwrites hpending hx other otherRequest otherStage y hne hotherRequest
        hotherPending hyx hy (not_takesLock_of_pending h.exclusive hne hrequest hotherRequest hpending hotherPending)

theorem owned_step (h : Owned config organization state) {event : Event}
    (hlock : RespectsLock config state event) (hthird : LeavesThird config organization state event) :
    Owned config organization (step config state event) := by
  cases event with
  | arrive number request =>
    simp only [step]
    split
    · exact h
    · exact h.fresh number first_heldLock first_pendingOf
  | abort number => exact h.fresh number rfl rfl
  | call number =>
    simp only [step]
    split
    · exact h
    · next request stage hrequest =>
      exact ⟨advance_agree h.agree request stage, call_exclusive h.exclusive hrequest hlock,
        call_guarded h hrequest hthird⟩

/-- In every run from a state in which nothing is under way, whose stored roles are
read alike by both readings and in which the organization has a creator, it
keeps one as long as no removal overlaps another cleared request on the last two. -/
theorem reached_keeps_creator {start state : OrganizationState} (hidle : ∀ number, start.requests number = none)
    (hagree : ∀ member ∈ start.members.rows, RolesAgree config.creatorRole member.role)
    (hcreator : ∃ memberID, Holds config organization start.members memberID)
    (hreached : Reached (step config)
      (fun state event => RespectsLock config state event ∧ LeavesThird config organization state event) start state) :
    ∃ memberID, Holds config organization state.members memberID := by
  refine Guarded.held (Owned.guarded (hreached.invariant (Owned config organization) ?_ ?_))
  · exact ⟨hagree, fun p _ lock hp _ => by simp [heldLock, hidle] at hp,
      hcreator, fun p y hp _ => by simp [pendingOf, hidle] at hp⟩
  · exact fun _ _ h hallowed => owned_step h hallowed.1 hallowed.2

def Event.number : Event → Nat
  | .arrive number _ | .call number | .abort number => number

/-- A request that runs while no other is under way meets both conditions. -/
theorem reached_alone {start : OrganizationState} (number : Nat) {events : List Event}
    (hreached : Reached (step config)
      (fun state event => RespectsLock config state event ∧ LeavesThird config organization state event) start state)
    (hothers : ∀ other, other ≠ number → state.requests other = none) (hevents : ∀ event ∈ events, event.number = number) :
    Reached (step config)
      (fun state event => RespectsLock config state event ∧ LeavesThird config organization state event) start
      (events.foldl (step config) state) := by
  induction events generalizing state with
  | nil => exact hreached
  | cons event rest ih =>
    have hnumber := hevents event List.mem_cons_self
    refine ih (hreached.next ?_) ?_ fun later hlater => hevents later (List.mem_cons_of_mem _ hlater)
    · cases event with
      | call _ =>
        cases hnumber
        constructor
        · intro _ _ _ _ other _ _ hne hother
          simp [hothers other hne] at hother
        · intro _ _ _ _ _ _ _ other _ _ _ hne hother
          simp [hothers other hne] at hother
      | arrive => exact ⟨trivial, trivial⟩
      | abort => exact ⟨trivial, trivial⟩
    · intro other hne
      rw [← hnumber] at hne
      cases event <;> simp only [step] <;> (try split) <;>
        simp_all [Event.number]

end

/-! ## Two owners -/

private def ownerConfig : OrganizationConfig where
  creatorRole := "owner"
  creatorRole_ne := by decide
  defaultLimit := 100
  organizationLock := fun _ => 0

private def twoOwners : OrganizationState where
  members := {
    rows := [⟨"m1", "org", "u1", "owner"⟩, ⟨"m2", "org", "u2", "owner"⟩]
    distinct := by decide }
  requests := fun _ => none

private theorem twoOwners_agree : ∀ member ∈ twoOwners.members.rows, RolesAgree ownerConfig.creatorRole member.role := by
  intro member hmember
  have hrole : member.role = "owner" := by
    simp only [twoOwners, List.mem_cons, List.not_mem_nil, or_false] at hmember
    rcases hmember with rfl | rfl <;> rfl
  rw [hrole, RolesAgree]
  decide

private theorem twoOwners_creator : ∃ memberID, Holds ownerConfig "org" twoOwners.members memberID :=
  ⟨"m1", ⟨"m1", "org", "u1", "owner"⟩, by simp [twoOwners], rfl, rfl, by decide⟩

private def removal (number : Nat) (actorUserID target : String) : Event :=
  .arrive number (.removeMember actorUserID "org" (.memberID target))

/-- One owner removes the other, and stays. -/
theorem reached_keeps_creator_removal :
    let final := [removal 0 "u1" "m2", .call 0, .call 0, .call 0, .call 0, .call 0].foldl (step ownerConfig) twoOwners
    final.members.rows.length = 1 ∧ ∃ memberID, Holds ownerConfig "org" final.members memberID :=
  ⟨by decide,
    reached_keeps_creator (fun _ => rfl) twoOwners_agree twoOwners_creator
      (reached_alone 0 .start (fun _ _ => rfl) (by simp [removal, Event.number]))⟩

private def mutualRemoval : List Event :=
  [removal 0 "u1" "m2", removal 1 "u2" "m1", .call 0, .call 1, .call 0, .call 1, .call 0, .call 1, .call 0, .call 1,
    .call 0, .call 1]

/-- Two owners who remove each other at the same time both pass the check, and the
organization is left without an owner: removals take no lock. -/
theorem removals_lose_last_owner :
    ¬ ∀ (config : OrganizationConfig) (organization : String) (start state : OrganizationState),
      (∀ number, start.requests number = none) →
      (∀ member ∈ start.members.rows, RolesAgree config.creatorRole member.role) →
      (∃ memberID, Holds config organization start.members memberID) →
      Reached (step config) (RespectsLock config) start state →
        ∃ memberID, Holds config organization state.members memberID := by
  intro h
  have hcheck : ∀ (state : OrganizationState) (event : Event),
      (match event with
        | .call number => (state.requests number).all fun current => !current.2.acquires
        | _ => true) = true → RespectsLock ownerConfig state event := by
    intro state event hevent
    cases event with
    | call number =>
      intro request stage hrequest hacquires
      simp [hrequest, hacquires] at hevent
    | arrive => trivial
    | abort => trivial
  have hreached := Reached.start.of_admits hcheck
    (show admits (step ownerConfig) _ twoOwners mutualRemoval = true by decide)
  obtain ⟨_, member, hmember, _⟩ := h ownerConfig "org" twoOwners _ (fun _ => rfl) twoOwners_agree twoOwners_creator
    hreached
  rw [show (mutualRemoval.foldl (step ownerConfig) twoOwners).members.rows = [] by decide] at hmember
  cases hmember

end singleauth.organization
