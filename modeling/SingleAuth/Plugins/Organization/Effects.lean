import Mathlib.Data.List.Nodup
import SingleAuth.Plugins.Organization.Members

open table

namespace singleauth.organization

section

variable {config : OrganizationConfig} {organization : String}

/-! ## Who holds the creator role -/

/-- The member of that id holds the creator role in the organization. -/
def Holds (config : OrganizationConfig) (organization : String) (members : MemberTable) (memberID : String) : Prop :=
  ∃ member ∈ members.rows, member.id = memberID ∧ member.organizationId = organization ∧
    isCreator config member = true

variable {members : MemberTable} {memberID owner : String} {request : MemberRequest} {stage : Stage}

theorem MemberTable.eq_of_id {first second : Member} (hfirst : first ∈ members.rows)
    (hsecond : second ∈ members.rows) (h : first.id = second.id) : first = second :=
  List.inj_on_of_nodup_map members.distinct hfirst hsecond h

/-- A stored row without the creator role settles that its id does not hold it. -/
theorem not_holds_of_not_creator {member : Member} (hmember : member ∈ members.rows)
    (hcreator : isCreator config member = false) : ¬ Holds config organization members member.id := by
  rintro ⟨other, hother, hid, -, hother'⟩
  rw [members.eq_of_id hother hmember hid, hcreator] at hother'
  cases hother'

/-- A list of members with two creators leaves one apart from any given id. -/
theorem exists_other_holder {limit : Nat} {counted : Member → Bool}
    (hcounted : ∀ member ∈ members.rows, counted member = isCreator config member)
    (hmany : ¬ ((members.list limit organization).filter counted).length ≤ 1) (memberID : String) :
    ∃ z, z ≠ memberID ∧ Holds config organization members z := by
  have hsublist : ((members.list limit organization).filter counted).Sublist members.rows :=
    List.filter_sublist.trans ((List.take_sublist _ _).trans List.filter_sublist)
  have hholds : ∀ member ∈ (members.list limit organization).filter counted,
      Holds config organization members member.id := by
    intro member hmember
    have hrow := hsublist.subset hmember
    obtain ⟨hlisted, hcreator⟩ := List.mem_filter.mp hmember
    have horganization := (List.mem_filter.mp (findMany_subset hlisted)).2
    exact ⟨member, hrow, rfl, by simpa [inOrganization] using horganization, hcounted member hrow ▸ hcreator⟩
  have hdistinct := members.distinct.sublist (hsublist.map Member.id)
  cases hlist : (members.list limit organization).filter counted with
  | nil => simp [hlist] at hmany
  | cons first rest =>
    cases rest with
    | nil => simp [hlist] at hmany
    | cons second others =>
      rw [hlist] at hholds hdistinct
      have hne : first.id ≠ second.id := by
        simp only [List.map_cons, List.nodup_cons, List.mem_cons, not_or] at hdistinct
        exact hdistinct.1.1
      by_cases hfirst : first.id = memberID
      · exact ⟨second.id, hfirst ▸ hne.symm, hholds second (by simp)⟩
      · exact ⟨first.id, hfirst, hholds first (by simp)⟩

/-! ## Writes -/

variable {z role actorUserID effective : String} {later : Stage} {actor target : Member} {requested : List String}

theorem holds_delete {userID : String} :
    (Holds config organization (members.delete memberID owner userID) z → Holds config organization members z) ∧
      (Holds config organization members z → z ≠ memberID ∨ owner ≠ organization →
        Holds config organization (members.delete memberID owner userID) z) := by
  constructor
  · rintro ⟨member, hmember, hholds⟩
    exact ⟨member, (mem_deleteMany.mp hmember).1, hholds⟩
  rintro ⟨member, hmember, hid, horganization, hcreator⟩ hother
  refine ⟨member, mem_deleteMany.mpr ⟨hmember, ?_⟩, hid, horganization, hcreator⟩
  rcases hother with hne | hne
  · simp [isMember, hid, hne]
  · simp [isMember, isUserIn, inOrganization, horganization, Ne.symm hne]

/-- What a written role does to the holders of an organization. -/
theorem holds_setRole :
    (Holds config organization (members.setRole memberID owner role) z → Holds config organization members z ∨
        roleIncludes role config.creatorRole = true ∧ owner = organization) ∧
      (Holds config organization members z →
        z ≠ memberID ∨ owner ≠ organization ∨ roleIncludes role config.creatorRole = true →
          Holds config organization (members.setRole memberID owner role) z) := by
  unfold MemberTable.setRole
  split
  · exact ⟨.inl, fun h _ => h⟩
  rename_i rows hrows
  constructor
  · rintro ⟨member, hmember, hid, horganization, hcreator⟩
    rcases mem_updateFirst hrows hmember with hold | ⟨old, _, hmatch, rfl⟩
    · exact .inl ⟨member, hold, hid, horganization, hcreator⟩
    · refine .inr ⟨hcreator, ?_⟩
      simp only [isMemberID, inOrganization, Bool.and_eq_true, decide_eq_true_eq] at hmatch
      exact hmatch.2.symm.trans horganization
  rintro ⟨member, hmember, hid, horganization, hcreator⟩ hother
  by_cases hmatch : isMemberID memberID owner member = true
  · -- The row itself was rewritten, with a role that includes the creator role.
    have hrole : roleIncludes role config.creatorRole = true := by
      simp only [isMemberID, inOrganization, Bool.and_eq_true, decide_eq_true_eq] at hmatch
      rcases hother with hne | hne | hrole
      · exact absurd (hid.symm.trans hmatch.1) hne
      · exact absurd (hmatch.2.symm.trans horganization) hne
      · exact hrole
    have hids : z ∈ rows.map Member.id := by
      rw [map_updateFirst hrows (fun _ => rfl), ← hid]
      exact List.mem_map_of_mem hmember
    obtain ⟨after, hafter, hafterID⟩ := List.mem_map.mp hids
    rcases mem_updateFirst hrows hafter with hold | ⟨old, hold, _, rfl⟩
    · rw [members.eq_of_id hold hmember (hafterID.trans hid.symm)] at hafter
      exact ⟨member, hafter, hid, horganization, hcreator⟩
    · have hsame : old = member := members.eq_of_id hold hmember (hafterID.trans hid.symm)
      subst hsame
      exact ⟨_, hafter, hafterID, horganization, hrole⟩
  · exact ⟨member, mem_updateFirst_of_not_matching hrows hmember (by simpa using hmatch), hid, horganization,
      hcreator⟩

/-! ## Decided requests -/

/-- The roles that an update writes include the creator role. -/
def settingCreator (config : OrganizationConfig) (effective : String) : Bool :=
  (normalizeRoleStrings [effective]).contains config.creatorRole

/-- The member that a request has been cleared to take the creator role from, if
that member holds it. -/
def MemberRequest.clearedFor (config : OrganizationConfig) : MemberRequest → Stage → Option String
  | .updateMemberRole _ memberID _ _ effective, .updateTarget true actor =>
    if isCreator config actor && !settingCreator config effective then some memberID else none
  | .updateMemberRole _ memberID _ _ effective, .updateWrite =>
    if settingCreator config effective then none else some memberID
  | .leaveOrganization _ _, .leaveDelete member => some member.id
  | .removeMember _ _ _, .removeFind target => some target.id
  | .removeMember _ _ _, .removeDelete target => some target.id
  | _, _ => none

/-- The same among the requests of one organization. -/
def MemberRequest.pending (config : OrganizationConfig) (organization : String) (request : MemberRequest)
    (stage : Stage) : Option String :=
  if request.organizationID = organization then request.clearedFor config stage else none

theorem MemberRequest.pending_some {y : String} :
    request.pending config organization stage = some y ↔
      request.organizationID = organization ∧ request.clearedFor config stage = some y := by
  simp [MemberRequest.pending]

def Stage.writes : Stage → Bool
  | .updateWrite | .leaveDelete _ | .removeDelete _ => true
  | _ => false

/-- What one call does to the holders of the creator role: a read only clears the
request for a member who is not the last holder, a write adds holders or takes
the role from the member that the request was cleared for. -/
inductive Effect (config : OrganizationConfig) (organization : String) (members : MemberTable)
    (request : MemberRequest) (stage : Stage) : MemberTable → Option Stage → Prop where
  | read (next : Option Stage)
    (hcleared : ∀ later ∈ next, ∀ y, request.pending config organization later = some y →
      request.pending config organization stage = some y ∨
        (Holds config organization members y → ∃ z, z ≠ y ∧ Holds config organization members z)) :
    Effect config organization members request stage members next
  | grew {after : MemberTable} (hgrew : ∀ z, Holds config organization members z → Holds config organization after z) :
    Effect config organization members request stage after none
  | took {after : MemberTable} (x : String) (hwrites : stage.writes = true)
    (hpending : request.pending config organization stage = some x)
    (hkept : ∀ z, Holds config organization members z → z ≠ x → Holds config organization after z)
    (hold : ∀ z, Holds config organization after z → Holds config organization members z) :
    Effect config organization members request stage after none

/-- A call that has the request return, without a write. -/
theorem Effect.returned : Effect config organization members request stage members none :=
  .read none (by simp)

/-- A call that leads to one more stage. -/
theorem Effect.continued
    (hcleared : request.organizationID = organization → ∀ y, request.clearedFor config later = some y →
      request.clearedFor config stage = some y ∨
        (Holds config organization members y → ∃ z, z ≠ y ∧ Holds config organization members z)) :
    Effect config organization members request stage members (some later) := by
  refine .read (some later) fun next hnext y hy => ?_
  cases hnext
  obtain ⟨horganization, hy⟩ := MemberRequest.pending_some.mp hy
  exact (hcleared horganization y hy).imp_left fun h => MemberRequest.pending_some.mpr ⟨horganization, h⟩

/-- A call that leads to a stage where the request is not cleared for anyone. -/
theorem Effect.uncleared (hnone : request.clearedFor config later = none) :
    Effect config organization members request stage members (some later) :=
  .continued (by simp [hnone])

/-- The call that deletes the member a request was cleared for. -/
theorem Effect.deleted
    (userID : String) (hwrites : stage.writes = true) (hcleared : request.clearedFor config stage = some memberID) :
    Effect config organization members request stage (members.delete memberID request.organizationID userID)
      none := by
  by_cases horganization : request.organizationID = organization
  · exact .took memberID hwrites (MemberRequest.pending_some.mpr ⟨horganization, hcleared⟩)
      (fun z hz hne => holds_delete.2 hz (.inl hne)) (fun z => holds_delete.1)
  · exact .grew fun z hz => holds_delete.2 hz (.inr horganization)

/-- What the next call of a request does to the holders. -/
abbrev Advances (config : OrganizationConfig) (organization : String) (members : MemberTable) (request : MemberRequest)
    (stage : Stage) : Prop :=
  Effect config organization members request stage (advance config members request stage).1
    (advance config members request stage).2

theorem leaveOrganization_effect (members : MemberTable) (userID owner : String) (stage : Stage) :
    Advances config organization members (.leaveOrganization userID owner) stage := by
  unfold Advances
  cases stage with
  | leaveAcquire => exact .uncleared rfl
  | leaveFind =>
    simp only [advance]
    split
    · exact .returned
    rename_i member hfound
    split
    · exact .uncleared rfl
    rename_i hcreator
    refine .continued fun _ y hy => .inr fun hholds => ?_
    cases hy
    exact absurd hholds (not_holds_of_not_creator (List.mem_of_find?_eq_some hfound) (by simpa using hcreator))
  | leaveCount member => exact .uncleared rfl
  | leaveList member count =>
    simp only [advance]
    split
    · exact .returned
    rename_i hmany
    refine .continued fun horganization y _ => .inr fun _ => ?_
    subst horganization
    exact exists_other_holder (fun _ _ => rfl) hmany y
  | leaveDelete member => exact .deleted userID rfl rfl
  | _ => exact .returned

theorem removeMember_effect
    (hagree : ∀ member ∈ members.rows, RolesAgree config.creatorRole member.role) (actorUserID owner : String)
    (target : RemovalTarget) (stage : Stage) :
    Advances config organization members (.removeMember actorUserID owner target) stage := by
  unfold Advances
  cases stage with
  | removeActor =>
    simp only [advance]
    split
    · exact .returned
    · exact .uncleared rfl
  | removeTarget actor =>
    simp only [advance]
    split
    · exact .returned
    rename_i found hfound
    split
    · split
      · exact .uncleared rfl
      · exact .returned
    rename_i howner
    have hmember := List.mem_of_find?_eq_some hfound
    have hcreator : isCreator config found = false :=
      (hagree found hmember).symm.trans (Bool.eq_false_iff.mpr howner)
    refine .continued fun _ y hy => .inr fun hholds => ?_
    cases hy
    exact absurd hholds (not_holds_of_not_creator hmember hcreator)
  | removeList found =>
    simp only [advance]
    split
    · exact .returned
    rename_i hmany
    refine .continued fun horganization y _ => .inr fun _ => ?_
    subst horganization
    exact exists_other_holder hagree hmany y
  | removeFind found =>
    simp only [advance]
    split
    · exact .returned
    rename_i member hfound
    -- The row found again has the id that the request was cleared for.
    have hid : member.id = found.id := by
      have hmatch := List.find?_some hfound
      simp only [isMember, Bool.and_eq_true, decide_eq_true_eq] at hmatch
      exact hmatch.1
    exact .continued fun _ y hy => .inl ((congrArg some hid).symm.trans hy)
  | removeDelete member => exact .deleted member.userId rfl rfl
  | _ => exact .returned

theorem checkUpdate_locked_effect (htarget : target ∈ members.rows) (hid : target.id = memberID)
    (hcreator : isCreator config actor = true → settingCreator config effective = false → actor.id ≠ memberID →
      (MemberRequest.updateMemberRole actorUserID memberID owner requested effective).clearedFor config stage =
        some memberID) :
    Effect config organization members (.updateMemberRole actorUserID memberID owner requested effective) stage
      members (checkUpdate config true memberID requested effective actor target) := by
  have hset : (rolesToSet true requested effective).contains config.creatorRole = settingCreator config effective := rfl
  simp only [checkUpdate, hset]
  split
  · exact .returned
  rename_i hallowed
  split
  · exact .uncleared rfl
  rename_i hself
  refine .continued fun _ y hy => ?_
  simp only [MemberRequest.clearedFor, Option.ite_none_left_eq_some, Option.some.injEq] at hy
  obtain ⟨hsetting, rfl⟩ := hy
  simp only [Bool.not_eq_true] at hsetting
  by_cases hactor : isCreator config actor = true
  · refine .inl (hcreator hactor hsetting ?_)
    simpa [hactor, hsetting] using hself
  · refine .inr fun hholds => absurd hholds (hid ▸ not_holds_of_not_creator htarget ?_)
    simpa [hactor, hsetting] using hallowed

/-- Before the lock is taken an update is not cleared for anyone. -/
theorem checkUpdate_unlocked_effect :
    Effect config organization members (.updateMemberRole actorUserID memberID owner requested effective) stage
      members (checkUpdate config false memberID requested effective actor target) := by
  simp only [checkUpdate, updateLoaded]
  split
  · exact .returned
  split
  · exact .uncleared rfl
  split
  · contradiction
  · split
    · exact .returned
    · exact .uncleared rfl

theorem updateWrite_effect (members : MemberTable) (actorUserID memberID owner : String) (requested : List String)
    (effective : String) :
    Effect config organization members (.updateMemberRole actorUserID memberID owner requested effective) .updateWrite
      (members.setRole memberID owner (joinRoles (normalizeRoleStrings [effective]))) none := by
  have hrole : roleIncludes (joinRoles (normalizeRoleStrings [effective])) config.creatorRole =
      settingCreator config effective :=
    roleIncludes_joinRoles config.creatorRole_ne fun _ => normalizeRoleStrings_normal
  by_cases howner : owner = organization
  · by_cases hsetting : settingCreator config effective = true
    · exact .grew fun z hz => holds_setRole.2 hz (.inr (.inr (hrole.trans hsetting)))
    refine .took memberID rfl (MemberRequest.pending_some.mpr ⟨howner, by simp [MemberRequest.clearedFor, hsetting]⟩)
      (fun z hz hne => holds_setRole.2 hz (.inl hne)) fun z hz => ?_
    rcases holds_setRole.1 hz with hz | ⟨hincludes, _⟩
    · exact hz
    · exact absurd (hrole.symm.trans hincludes) hsetting
  · exact .grew fun z hz => holds_setRole.2 hz (.inr (.inl howner))

theorem updateMemberRole_effect (members : MemberTable) (actorUserID memberID owner : String)
    (requested : List String) (effective : String) (stage : Stage) :
    Advances config organization members (.updateMemberRole actorUserID memberID owner requested effective) stage := by
  unfold Advances
  cases stage with
  | updateActor locked =>
    simp only [advance]
    split
    · exact .returned
    rename_i actor hfound
    have hactor := List.mem_of_find?_eq_some hfound
    split
    · next hself =>
      cases locked with
      | false => exact checkUpdate_unlocked_effect
      | true => exact checkUpdate_locked_effect hactor hself fun _ _ hne => absurd hself hne
    rename_i hother
    cases locked with
    | false => exact .uncleared rfl
    | true =>
      -- Another creator acts: they stay one.
      refine .continued fun horganization y hy => .inr fun _ => ?_
      simp only [MemberRequest.clearedFor, Option.ite_none_right_eq_some, Option.some.injEq, Bool.and_eq_true] at hy
      obtain ⟨⟨hcreator, _⟩, rfl⟩ := hy
      have hmatch := List.find?_some hfound
      simp only [isUserIn, inOrganization, Bool.and_eq_true, decide_eq_true_eq] at hmatch
      exact ⟨actor.id, hother, actor, hactor, rfl, hmatch.2.trans horganization, hcreator⟩
  | updateTarget locked actor =>
    simp only [advance]
    split
    · exact .returned
    rename_i target hfound
    split
    · exact .returned
    cases locked with
    | false => exact checkUpdate_unlocked_effect
    | true =>
      refine checkUpdate_locked_effect (List.mem_of_find?_eq_some hfound)
        (by simpa using List.find?_some hfound) fun hcreator hsetting _ => ?_
      simp [MemberRequest.clearedFor, hcreator, hsetting]
  | updateCount locked => cases locked <;> exact .uncleared rfl
  | updateList locked count =>
    simp only [advance, updateLoaded]
    split
    · exact .returned
    rename_i hmany
    cases locked with
    | false =>
      simp only [Bool.false_eq_true, if_false]
      split
      · exact .returned
      · exact .uncleared rfl
    | true =>
      refine .continued fun horganization y _ => .inr fun _ => ?_
      subst horganization
      exact exists_other_holder (fun _ _ => rfl) hmany y
  | updateAcquire => exact .uncleared rfl
  | updateWrite => exact updateWrite_effect members actorUserID memberID owner requested effective
  | _ => exact .returned

section

variable (hagree : ∀ member ∈ members.rows, RolesAgree config.creatorRole member.role)
include hagree

theorem advance_effect (request : MemberRequest) (stage : Stage) :
    Advances config organization members request stage := by
  cases request with
  | updateMemberRole => exact updateMemberRole_effect ..
  | leaveOrganization => exact leaveOrganization_effect ..
  | removeMember => exact removeMember_effect hagree ..

theorem agree_setRole (hrole : RolesAgree config.creatorRole role) :
    ∀ member ∈ (members.setRole memberID owner role).rows, RolesAgree config.creatorRole member.role := by
  unfold MemberTable.setRole
  split
  · exact hagree
  rename_i rows hrows
  intro member hmember
  rcases mem_updateFirst hrows hmember with hold | ⟨old, _, _, rfl⟩
  · exact hagree member hold
  · exact hrole

/-- Whatever a call writes is read alike by both ways of reading a role. -/
theorem advance_agree (request : MemberRequest) (stage : Stage) :
    ∀ member ∈ (advance config members request stage).1.rows, RolesAgree config.creatorRole member.role := by
  have hdelete : ∀ memberID owner userID, ∀ member ∈ (members.delete memberID owner userID).rows,
      RolesAgree config.creatorRole member.role :=
    fun _ _ _ member hmember => hagree member (mem_deleteMany.mp hmember).1
  fun_cases advance config members request stage <;> try exact hagree
  · exact agree_setRole hagree (rolesAgree_joinRoles config.creatorRole_ne fun _ => normalizeRoleStrings_normal)
  · exact hdelete _ _ _
  · exact hdelete _ _ _

end

end

end singleauth.organization
