import SingleAuth.Lib.Fallible
import SingleAuth.Lib.Transition
import SingleAuth.Plugins.Organization.Members

open fallible table transition

namespace singleauth.organization

inductive InvitationStatus where
  | pending | accepted | rejected | canceled
  deriving DecidableEq

structure Invitation where
  (id organizationId role teamId : String)
  status : InvitationStatus := .pending
  expiresAt : Int
  deriving DecidableEq

structure TeamMember where
  (id teamId userId : String)
  deriving DecidableEq

/-- The tables. Of an organization and of a team there is the id. -/
structure Tables where
  organizations : List String := []
  members : List Member := []
  invitations : List Invitation := []
  teams : List String := []
  teamMembers : List TeamMember := []

/-- The options, with teams enabled. -/
structure TeamOptions where
  membershipLimit : Nat := 100
  maximumMembersPerTeam : Option Nat := none
  /-- How many rows a query without a limit finds. -/
  defaultLimit : Nat := 100
  /-- The organization that a team belongs to. -/
  organizationOf : String → String

/-- Someone accepts an invitation. `isRecipient` is what `requireInvitationRecipient` says,
`hasSession` whether the session is still stored, and the ids are those of new rows. -/
structure Acceptance where
  (invitationID userID memberID : String)
  teamMemberID : String → String := fun teamID => teamID
  isRecipient : Invitation → Bool := fun _ => true
  hasSession : Bool := true
  now : Int := 0

/-- Of the other requests, `allowed` is what the checks of the one who makes them say. -/
inductive TeamRequest where
  | addMember (member : Member)
  | createInvitation (allowed : Bool) (invitation : Invitation)
  | acceptInvitation (request : Acceptance)
  | addTeamMember (allowed : Bool) (organizationID : String) (row : TeamMember)
  | removeTeamMember (allowed : Bool) (organizationID teamID userID : String)
  /-- A member leaves or is removed. -/
  | removeMember (allowed : Bool) (memberID organizationID userID : String)
  | removeTeam (allowed : Bool) (organizationID teamID : String)
  | deleteOrganization (allowed : Bool) (organizationID : String)

def inTeam (teamID : String) (row : TeamMember) : Bool := row.teamId = teamID

def isTeamMember (teamID userID : String) (row : TeamMember) : Bool := inTeam teamID row && row.userId = userID

def invitationStoredTeamIDs (invitation : Invitation) : List String :=
  (normalizeRoleStrings [invitation.teamId]).eraseDups

/-- The invitation is pending and has not expired. -/
def Acceptance.claims (request : Acceptance) (invitation : Invitation) : Bool :=
  invitation.id = request.invitationID && invitation.status = .pending && request.now ≤ invitation.expiresAt

/-- A team that is gone is taken out of the invitations to it. -/
def removeCSVTeamID (organizationID teamID : String) (invitation : Invitation) : Invitation :=
  if invitation.organizationId = organizationID ∧ invitation.status = .pending then
    { invitation with teamId := joinRoles ((splitRoles invitation.teamId).filter (· ≠ teamID)) }
  else invitation

section

variable (options : TeamOptions) (tables : Tables)

def Tables.teamSize (teamID : String) : Nat := tables.teamMembers.countP (inTeam teamID)

def TeamOptions.findTeam (organizationID teamID : String) : Except String Unit :=
  require (teamID ∈ tables.teams ∧ options.organizationOf teamID = organizationID) "TEAM_NOT_FOUND"

/-- The memberships of teams that an acceptance leads to. There is no check of how many
members a team has. -/
def TeamOptions.joinTeams (organizationID : String) (request : Acceptance) :
    List String → List TeamMember → Except String (List TeamMember)
  | [], rows => .ok rows
  | teamID :: rest, rows => do
    options.findTeam tables organizationID teamID
    TeamOptions.joinTeams organizationID request rest
      (if rows.any (isTeamMember teamID request.userID) then rows
        else rows ++ [⟨request.teamMemberID teamID, teamID, request.userID⟩])

/-- The body of the transaction. -/
def TeamOptions.acceptInvitation (request : Acceptance) : Except String Tables := do
  let invitation ← expect (tables.invitations.find? request.claims) "INVITATION_NOT_FOUND"
  require (request.isRecipient invitation = true) "YOU_ARE_NOT_THE_RECIPIENT_OF_THE_INVITATION"
  let organizationID := invitation.organizationId
  require (organizationID ∈ tables.organizations) "ORGANIZATION_NOT_FOUND"
  require (tables.members.any (isUserIn request.userID organizationID) = false)
    "USER_IS_ALREADY_A_MEMBER_OF_THIS_ORGANIZATION"
  require (tables.members.countP (inOrganization organizationID) < options.membershipLimit)
    "ORGANIZATION_MEMBERSHIP_LIMIT_REACHED"
  let teamMembers ← options.joinTeams tables organizationID request (invitationStoredTeamIDs invitation)
    tables.teamMembers
  require (request.hasSession = true) "UNAUTHORIZED"
  return { tables with
    members := tables.members ++ [⟨request.memberID, organizationID, request.userID, invitation.role⟩]
    invitations := (updateFirst request.claims ({ · with status := .accepted }) tables.invitations).getD []
    teamMembers }

def TeamOptions.addTeamMember (row : TeamMember) : Except String Tables := do
  if tables.teamMembers.any (isTeamMember row.teamId row.userId) then return tables
  require (∀ maximum ∈ options.maximumMembersPerTeam, tables.teamSize row.teamId < maximum) "TEAM_MEMBER_LIMIT_REACHED"
  return { tables with teamMembers := tables.teamMembers ++ [row] }

/-- The teams are found by a query without a limit. -/
def TeamOptions.deleteMemberRows (memberID organizationID userID : String) : Tables :=
  let teamIDs := findMany options.defaultLimit (options.organizationOf · = organizationID) tables.teams
  { tables with
    members := deleteMany (isMember memberID organizationID userID) tables.members
    teamMembers := deleteMany (fun row => row.userId = userID && teamIDs.contains row.teamId) tables.teamMembers }

def Tables.deleteTeamCascade (organizationID teamID : String) : Tables :=
  { tables with
    teamMembers := deleteMany (inTeam teamID) tables.teamMembers
    teams := deleteMany (· = teamID) tables.teams
    invitations := tables.invitations.map (removeCSVTeamID organizationID teamID) }

def TeamOptions.deleteOrganizationCascade (organizationID : String) : Tables :=
  let teamIDs := tables.teams.filter (options.organizationOf · = organizationID)
  { organizations := deleteMany (· = organizationID) tables.organizations
    members := deleteMany (inOrganization organizationID) tables.members
    invitations := deleteMany (·.organizationId = organizationID) tables.invitations
    teams := deleteMany (options.organizationOf · = organizationID) tables.teams
    teamMembers := deleteMany (fun row => teamIDs.contains row.teamId) tables.teamMembers }

def TeamOptions.handle : TeamRequest → Except String Tables
  | .addMember member => do
    require (member.organizationId ∈ tables.organizations) "ORGANIZATION_NOT_FOUND"
    require (tables.members.any (isUserIn member.userId member.organizationId) = false)
      "USER_IS_ALREADY_A_MEMBER_OF_THIS_ORGANIZATION"
    return { tables with members := tables.members ++ [member] }
  | .createInvitation allowed invitation => do
    require (allowed = true) "YOU_ARE_NOT_ALLOWED_TO_INVITE_USERS_TO_THIS_ORGANIZATION"
    return { tables with invitations := tables.invitations ++ [invitation] }
  | .acceptInvitation request => options.acceptInvitation tables request
  | .addTeamMember allowed organizationID row => do
    require (allowed = true) "YOU_ARE_NOT_ALLOWED_TO_CREATE_A_NEW_TEAM_MEMBER"
    require (tables.members.any (isUserIn row.userId organizationID) = true) "USER_IS_NOT_A_MEMBER_OF_THE_ORGANIZATION"
    options.findTeam tables organizationID row.teamId
    options.addTeamMember tables row
  | .removeTeamMember allowed organizationID teamID userID => do
    require (allowed = true) "YOU_ARE_NOT_ALLOWED_TO_REMOVE_A_TEAM_MEMBER"
    require (tables.members.any (isUserIn userID organizationID) = true) "USER_IS_NOT_A_MEMBER_OF_THE_ORGANIZATION"
    options.findTeam tables organizationID teamID
    return { tables with teamMembers := deleteMany (isTeamMember teamID userID) tables.teamMembers }
  | .removeMember allowed memberID organizationID userID => do
    require (allowed = true) "YOU_ARE_NOT_ALLOWED_TO_DELETE_THIS_MEMBER"
    return options.deleteMemberRows tables memberID organizationID userID
  | .removeTeam allowed organizationID teamID => do
    require (allowed = true) "YOU_ARE_NOT_ALLOWED_TO_DELETE_TEAMS_IN_THIS_ORGANIZATION"
    options.findTeam tables organizationID teamID
    return tables.deleteTeamCascade organizationID teamID
  | .deleteOrganization allowed organizationID => do
    require (allowed = true) "YOU_ARE_NOT_ALLOWED_TO_DELETE_THIS_ORGANIZATION"
    return options.deleteOrganizationCascade tables organizationID

/-- A request that is refused changes nothing. -/
def TeamOptions.step (request : TeamRequest) : Tables := (options.handle tables request).toOption.getD tables

/-- Everyone in a team is in its organization. -/
def TeamOptions.Members : Prop :=
  ∀ row ∈ tables.teamMembers, row.teamId ∈ tables.teams →
    ∃ member ∈ tables.members, isUserIn row.userId (options.organizationOf row.teamId) member = true

/-- A query without a limit finds all the teams of an organization that someone may leave. -/
def TeamOptions.listsTeams : TeamRequest → Bool
  | .removeMember true _ organizationID _ =>
    tables.teams.countP (options.organizationOf · = organizationID) ≤ options.defaultLimit
  | _ => true

/-- The teams of an invitation that its recipient accepts in a session have room, or the user is in them already. -/
def TeamOptions.hasRoom : TeamRequest → Bool
  | .acceptInvitation request => (tables.invitations.find? request.claims).all fun invitation =>
    !request.isRecipient invitation || !request.hasSession || (invitationStoredTeamIDs invitation).all fun teamID =>
      tables.teamMembers.any (isTeamMember teamID request.userID) ||
        options.maximumMembersPerTeam.all (tables.teamSize teamID < ·)
  | _ => true

end

variable {options : TeamOptions} {tables after start : Tables} {request : Acceptance} {organizationID : String}
  {teamIDs : List String} {rows joined : List TeamMember} {maximum : Nat}

structure Accepts (options : TeamOptions) (tables : Tables) (request : Acceptance) (after : Tables)
    (invitation : Invitation) : Prop where
  found : tables.invitations.find? request.claims = some invitation
  allowed : request.isRecipient invitation = true ∧ request.hasSession = true
  joined : options.joinTeams tables invitation.organizationId request (invitationStoredTeamIDs invitation)
    tables.teamMembers = .ok after.teamMembers
  teams : after.teams = tables.teams
  members : after.members = tables.members ++
    [⟨request.memberID, invitation.organizationId, request.userID, invitation.role⟩]

theorem acceptInvitation_ok (h : options.acceptInvitation tables request = .ok after) :
    ∃ invitation, Accepts options tables request after invitation := by
  obtain ⟨invitation, hfound, _, hrecipient, h⟩ := ok_of_bind₂ h
  obtain ⟨_, _, _, _, _, _, h⟩ := ok_of_bind₃ h
  obtain ⟨rows, hjoined, _, hsession, h⟩ := ok_of_bind₂ h
  cases h
  exact ⟨invitation, expect_eq_ok_iff.mp hfound, ⟨require_eq_ok_iff.mp hrecipient, require_eq_ok_iff.mp hsession⟩,
    hjoined, rfl, rfl⟩

/-- No team has more members than it may have. -/
def Within (maximum : Nat) (rows : List TeamMember) : Prop := ∀ teamID, rows.countP (inTeam teamID) ≤ maximum

theorem Within.sublist (h : Within maximum rows) (hjoined : joined.Sublist rows) : Within maximum joined :=
  fun teamID => hjoined.countP_le.trans (h teamID)

theorem Within.concat {row : TeamMember} (h : Within maximum rows)
    (hless : rows.countP (inTeam row.teamId) < maximum) : Within maximum (rows ++ [row]) := by
  intro teamID
  rw [List.countP_append, List.countP_singleton]
  split
  · next heq =>
    cases of_decide_eq_true heq
    exact hless
  · exact h teamID

theorem joinTeams_mem (h : options.joinTeams tables organizationID request teamIDs rows = .ok joined) :
    ∀ row ∈ joined, row ∈ rows ∨ row.userId = request.userID ∧ options.organizationOf row.teamId = organizationID := by
  induction teamIDs generalizing rows with
  | nil =>
    cases h
    exact fun row hrow => .inl hrow
  | cons teamID rest ih =>
    obtain ⟨_, hteam, h⟩ := bind_eq_ok_iff.mp h
    intro row hrow
    refine (ih h row hrow).elim (fun hrow => ?_) .inr
    split at hrow
    · exact .inl hrow
    · refine (mem_concat.mp hrow).imp_right ?_
      rintro rfl
      exact ⟨rfl, (require_eq_ok_iff.mp hteam).2⟩

theorem Within.joinTeams (hwithin : Within maximum rows)
    (hroom : ∀ teamID ∈ teamIDs, rows.any (isTeamMember teamID request.userID) = true ∨
      rows.countP (inTeam teamID) < maximum)
    (h : options.joinTeams tables organizationID request teamIDs rows = .ok joined) : Within maximum joined := by
  induction teamIDs generalizing rows with
  | nil =>
    cases h
    exact hwithin
  | cons first rest ih =>
    obtain ⟨_, _, h⟩ := bind_eq_ok_iff.mp h
    obtain ⟨hfirst, hrest⟩ := List.forall_mem_cons.mp hroom
    split at h
    · exact ih hwithin hrest h
    · next hnew =>
      refine ih (hwithin.concat (hfirst.resolve_left hnew)) (fun other hother => ?_) h
      -- a team that has just been joined is one that the user is in
      rw [List.any_append, List.countP_append, List.countP_singleton, Bool.or_eq_true]
      by_cases heq : first = other
      · exact .inl (.inr (by simp [isTeamMember, inTeam, heq]))
      · rw [if_neg (by simpa [inTeam] using heq)]
        exact (hrest other hother).imp_left .inl

theorem TeamOptions.Members.deleteMemberRows (h : options.Members tables) {memberID organizationID userID : String}
    (hlists : tables.teams.countP (options.organizationOf · = organizationID) ≤ options.defaultLimit) :
    options.Members (options.deleteMemberRows tables memberID organizationID userID) := by
  intro row hrow hteam
  obtain ⟨hrow, hkept⟩ := mem_deleteMany.mp hrow
  obtain ⟨member, hmember, hin⟩ := h row hrow hteam
  refine ⟨member, mem_deleteMany.mpr ⟨hmember, Bool.eq_false_iff.mpr fun hgone => ?_⟩, hin⟩
  -- the member who leaves is the one in the team, which is among those that are found
  obtain ⟨_, hgone⟩ := Bool.and_eq_true_iff.mp hgone
  simp only [isUserIn, inOrganization, Bool.and_eq_true, decide_eq_true_iff] at hin hgone
  have hfound : findMany options.defaultLimit (options.organizationOf · = organizationID) tables.teams =
      tables.teams.filter (options.organizationOf · = organizationID) :=
    List.take_of_length_le (List.countP_eq_length_filter ▸ hlists)
  have hlisted : row.teamId ∈ tables.teams.filter (options.organizationOf · = organizationID) :=
    List.mem_filter.mpr ⟨hteam, decide_eq_true (hin.2.symm.trans hgone.2)⟩
  rw [hfound] at hkept
  simp [hin.1.symm.trans hgone.1, hlisted] at hkept

theorem handle_keeps {request : TeamRequest} (hafter : options.handle tables request = .ok after) :
    (options.listsTeams tables request = true → options.Members tables → options.Members after) ∧
      (options.maximumMembersPerTeam = some maximum → options.hasRoom tables request = true →
        Within maximum tables.teamMembers → Within maximum after.teamMembers) := by
  cases request with
  | addMember member =>
    obtain ⟨_, _, _, _, hafter⟩ := ok_of_bind₂ hafter
    cases hafter
    refine ⟨fun _ h row hrow hteam => ?_, fun _ _ h => h⟩
    obtain ⟨member, hmember, hin⟩ := h row hrow hteam
    exact ⟨member, List.mem_append_left _ hmember, hin⟩
  | createInvitation allowed invitation =>
    obtain ⟨_, _, hafter⟩ := bind_eq_ok_iff.mp hafter
    cases hafter
    exact ⟨fun _ h => h, fun _ _ h => h⟩
  | acceptInvitation request =>
    obtain ⟨invitation, haccepts⟩ := acceptInvitation_ok hafter
    refine ⟨fun _ h row hrow hteam => ?_, fun hmaximum hroom h => h.joinTeams (fun teamID hteam => ?_) haccepts.joined⟩
    · rw [haccepts.members]
      rcases joinTeams_mem haccepts.joined row hrow with hold | ⟨huser, hof⟩
      · obtain ⟨member, hmember, hin⟩ := h row hold (haccepts.teams ▸ hteam)
        exact ⟨member, List.mem_append_left _ hmember, hin⟩
      · exact ⟨_, List.mem_concat_self, by simp [isUserIn, inOrganization, huser, hof]⟩
    · simp only [TeamOptions.hasRoom, haccepts.found, hmaximum, Option.all_some, haccepts.allowed, Bool.not_true,
        Bool.false_or] at hroom
      have hroom := List.all_eq_true.mp hroom teamID hteam
      rwa [Bool.or_eq_true, decide_eq_true_iff] at hroom
  | addTeamMember allowed organizationID row =>
    obtain ⟨_, _, _, hmember, _, hteam, hafter⟩ := ok_of_bind₃ hafter
    unfold TeamOptions.addTeamMember at hafter
    split at hafter
    · cases hafter
      exact ⟨fun _ h => h, fun _ _ h => h⟩
    obtain ⟨_, hlimit, hafter⟩ := bind_eq_ok_iff.mp hafter
    cases hafter
    refine ⟨fun _ h other hother hteams => ?_, fun hmaximum _ h =>
      h.concat (require_eq_ok_iff.mp hlimit maximum hmaximum)⟩
    rcases mem_concat.mp hother with hold | rfl
    · exact h other hold hteams
    · rw [(require_eq_ok_iff.mp hteam).2]
      exact List.any_eq_true.mp (require_eq_ok_iff.mp hmember)
  | removeTeamMember allowed organizationID teamID userID =>
    obtain ⟨_, _, _, _, _, _, hafter⟩ := ok_of_bind₃ hafter
    cases hafter
    exact ⟨fun _ h row hrow => h row (List.mem_of_mem_filter hrow), fun _ _ h => h.sublist List.filter_sublist⟩
  | removeMember allowed memberID organizationID userID =>
    obtain ⟨_, hallowed, hafter⟩ := bind_eq_ok_iff.mp hafter
    cases hafter
    cases require_eq_ok_iff.mp hallowed
    exact ⟨fun hlists h => h.deleteMemberRows (of_decide_eq_true hlists), fun _ _ h => h.sublist List.filter_sublist⟩
  | removeTeam allowed organizationID teamID =>
    obtain ⟨_, _, _, _, hafter⟩ := ok_of_bind₂ hafter
    cases hafter
    exact ⟨fun _ h row hrow hteam => h row (List.mem_of_mem_filter hrow) (List.mem_of_mem_filter hteam),
      fun _ _ h => h.sublist List.filter_sublist⟩
  | deleteOrganization allowed organizationID =>
    obtain ⟨_, _, hafter⟩ := bind_eq_ok_iff.mp hafter
    cases hafter
    refine ⟨fun _ h row hrow hteam => ?_, fun _ _ h => h.sublist List.filter_sublist⟩
    obtain ⟨hteam, hother⟩ := mem_deleteMany.mp hteam
    obtain ⟨member, hmember, hin⟩ := h row (List.mem_of_mem_filter hrow) hteam
    refine ⟨member, mem_deleteMany.mpr ⟨hmember, ?_⟩, hin⟩
    simp only [isUserIn, inOrganization, Bool.and_eq_true, decide_eq_true_iff, decide_eq_false_iff_not] at hin hother ⊢
    rwa [hin.2]

theorem step_keeps (request : TeamRequest) :
    (options.listsTeams tables request = true → options.Members tables →
      options.Members (options.step tables request)) ∧
      (options.maximumMembersPerTeam = some maximum → options.hasRoom tables request = true →
        Within maximum tables.teamMembers → Within maximum (options.step tables request).teamMembers) := by
  unfold TeamOptions.step
  cases hafter : options.handle tables request with
  | error => exact ⟨fun _ h => h, fun _ _ h => h⟩
  | ok after => exact handle_keeps hafter

/-- Everyone in a team is in its organization, in every run in which the organization has no more teams than a query
without a limit returns whenever a member is removed. -/
theorem team_members_are_members (hstart : options.Members start)
    (hreached : Reached options.step (fun tables request => options.listsTeams tables request) start tables) :
    options.Members tables :=
  hreached.invariant options.Members hstart fun _ request h hlists => (@step_keeps _ _ 0 request).1 hlists h

/-- No team gets more members than it may have, in every run in which the teams of an invitation have fewer, or have
the user already, whenever its recipient accepts it. -/
theorem team_capacity (hmaximum : options.maximumMembersPerTeam = some maximum)
    (hstart : Within maximum start.teamMembers)
    (hreached : Reached options.step (fun tables request => options.hasRoom tables request) start tables) :
    Within maximum tables.teamMembers :=
  hreached.invariant (Within maximum ·.teamMembers) hstart fun _ request h hroom =>
    (step_keeps request).2 hmaximum hroom h

/-! ## Ann and Bob -/

def oneSeat : TeamOptions := { maximumMembersPerTeam := some 1, defaultLimit := 1, organizationOf := fun _ => "acme" }

def annInTeam : Tables where
  organizations := ["acme"]
  members := [⟨"0", "acme", "eve", "owner"⟩, ⟨"1", "acme", "ann", "member"⟩]
  teams := ["idle", "crew"]
  teamMembers := [⟨"1", "crew", "ann"⟩]

def bobJoins (teamId : String) : List TeamRequest :=
  [.createInvitation true { id := "i", organizationId := "acme", role := "member", teamId, expiresAt := 0 },
    .acceptInvitation { invitationID := "i", userID := "bob", memberID := "2" }]

theorem team_overfull : annInTeam.teamSize "crew" = 1 ∧
    ((bobJoins "crew").foldl oneSeat.step annInTeam).teamSize "crew" = 2 := by
  decide

theorem team_capacity_idle : Within 1 ((bobJoins "idle").foldl oneSeat.step annInTeam).teamMembers := by
  have hroom : admits oneSeat.step oneSeat.hasRoom annInTeam (bobJoins "idle") = true := by decide
  have hstart : Within 1 annInTeam.teamMembers := fun _ => List.countP_le_length
  exact team_capacity rfl hstart (.of_admits (fun _ _ h => h) .start hroom)

/-- Ann leaves, but the team that is listed is another one. -/
theorem left_team_member : ¬ oneSeat.Members (oneSeat.step annInTeam (.removeMember true "1" "acme" "ann")) := by
  unfold TeamOptions.Members
  decide

private def twoListed : TeamOptions := { oneSeat with defaultLimit := 2 }

private def annLeaves : List TeamRequest := bobJoins "idle" ++ [.removeMember true "1" "acme" "ann"]

theorem team_members_are_members_idle :
    (annLeaves.foldl twoListed.step annInTeam).teamMembers.map (·.userId) = ["bob"] ∧
      twoListed.Members (annLeaves.foldl twoListed.step annInTeam) := by
  have hlists : admits twoListed.step twoListed.listsTeams annInTeam annLeaves = true := by decide
  have hstart : twoListed.Members annInTeam := by
    unfold TeamOptions.Members
    decide
  exact ⟨by decide, team_members_are_members hstart (.of_admits (fun _ _ h => h) .start hlists)⟩

end singleauth.organization
