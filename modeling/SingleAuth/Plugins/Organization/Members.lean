import SingleAuth.Lib.Table
import SingleAuth.Plugins.Organization.Roles

open table text

namespace singleauth.organization

structure Member where
  (id organizationId userId role : String)
  deriving DecidableEq

/-- The member table. No two rows share an id. -/
structure MemberTable where
  rows : List Member
  distinct : (rows.map Member.id).Nodup

def inOrganization (organizationID : String) (member : Member) : Bool := member.organizationId = organizationID

def isUserIn (userID organizationID : String) (member : Member) : Bool :=
  member.userId = userID && inOrganization organizationID member

variable (members : MemberTable) (memberID : String)

def MemberTable.findOne (matching : Member → Bool) : Option Member :=
  members.rows.find? matching

/-- The rows of an organization, at most `limit` of them. -/
def MemberTable.list (limit : Nat) (organizationID : String) : List Member :=
  findMany limit (inOrganization organizationID) members.rows

def MemberTable.count (organizationID : String) : Nat :=
  (members.rows.filter (inOrganization organizationID)).length

def isMember (organizationID userID : String) (member : Member) : Bool :=
  member.id = memberID && isUserIn userID organizationID member

def MemberTable.delete (organizationID userID : String) : MemberTable where
  rows := deleteMany (isMember memberID organizationID userID) members.rows
  distinct := members.distinct.sublist (List.filter_sublist.map _)

def isMemberID (organizationID : String) (member : Member) : Bool :=
  member.id = memberID && inOrganization organizationID member

/-- The first row of that id and organization gets the role. -/
def MemberTable.setRole (organizationID role : String) : MemberTable :=
  match h : updateFirst (isMemberID memberID organizationID) ({ · with role }) members.rows with
  | none => members
  | some rows =>
    have hids : rows.map Member.id = members.rows.map Member.id := map_updateFirst h (fun _ => rfl)
    { rows, distinct := hids ▸ members.distinct }

/-- The configuration; an empty creator role has been replaced by the default. -/
structure OrganizationConfig where
  creatorRole : String
  creatorRole_ne : creatorRole ≠ ""
  defaultLimit : Nat
  /-- The mutex of an organization, one of a fixed number. -/
  organizationLock : String → Nat

/-! ## Requests -/

inductive RemovalTarget where
  | memberID (id : String)
  /-- The user that an email address was resolved to. -/
  | user (userID : String)

/-- A request with its body. `effective` is the role that the hook before an
update leaves in place of the requested ones. -/
inductive MemberRequest where
  | updateMemberRole (actorUserID memberID organizationID : String) (requested : List String) (effective : String)
  | leaveOrganization (userID organizationID : String)
  | removeMember (actorUserID organizationID : String) (target : RemovalTarget)

def MemberRequest.organizationID : MemberRequest → String
  | .updateMemberRole _ _ organizationID _ _ => organizationID
  | .leaveOrganization _ organizationID => organizationID
  | .removeMember _ organizationID _ => organizationID

/-- Where a request stands: the storage call on members, or the lock, that it
does next, with what it has read. An update loads its state twice, the
second time under the lock. -/
inductive Stage where
  | updateActor (locked : Bool)
  | updateTarget (locked : Bool) (actor : Member)
  | updateCount (locked : Bool)
  | updateList (locked : Bool) (count : Nat)
  | updateAcquire
  | updateWrite
  | leaveAcquire
  | leaveFind
  | leaveCount (member : Member)
  | leaveList (member : Member) (count : Nat)
  | leaveDelete (member : Member)
  | removeActor
  | removeTarget (actor : Member)
  | removeList (target : Member)
  | removeFind (target : Member)
  | removeDelete (target : Member)

/-- An update without roles is refused at once. -/
def MemberRequest.first : MemberRequest → Option Stage
  | .updateMemberRole _ _ _ requested _ =>
    if normalizeRoleStrings requested = [] then none else some (.updateActor false)
  | .leaveOrganization .. => some .leaveAcquire
  | .removeMember .. => some .removeActor

def Stage.holdsLock : Stage → Bool
  | .updateActor locked | .updateTarget locked _ | .updateCount locked | .updateList locked _ => locked
  | .updateWrite | .leaveFind | .leaveCount _ | .leaveList _ _ | .leaveDelete _ => true
  | _ => false

def Stage.acquires : Stage → Bool
  | .updateAcquire | .leaveAcquire => true
  | _ => false

section

variable (config : OrganizationConfig)

def isCreator (member : Member) : Bool := roleIncludes member.role config.creatorRole

/-- The reading of the creator role on the removal path. -/
def isOwner (member : Member) : Bool := hasAllowedRole member.role [config.creatorRole]

/-- The roles that an update is checked for: the requested ones at first, those
that will be written under the lock. -/
def rolesToSet (locked : Bool) (requested : List String) (effective : String) : List String :=
  normalizeRoleStrings (if locked then [effective] else requested)

/-- After the state has been loaded: on to the lock, or to the write. -/
def updateLoaded (locked : Bool) (effective : String) : Option Stage :=
  if locked then some .updateWrite
  else if normalizeRoleStrings [effective] = [] then none
  else some .updateAcquire

def checkUpdate (locked : Bool) (memberID : String) (requested : List String) (effective : String)
    (actor target : Member) : Option Stage :=
  let settingCreator := (rolesToSet locked requested effective).contains config.creatorRole
  if (isCreator config target || settingCreator) && !isCreator config actor then none
  else if isCreator config actor && actor.id = memberID && !settingCreator then some (.updateCount locked)
  else updateLoaded locked effective

/-- One storage call on members, with the decisions up to the next one. `none`
when the request has returned. A stage of another request has no calls. -/
def advance (members : MemberTable) : MemberRequest → Stage → MemberTable × Option Stage
  | .updateMemberRole actorUserID memberID organizationID requested effective, stage =>
    match stage with
    | .updateActor locked =>
      match members.findOne (isUserIn actorUserID organizationID) with
      | none => (members, none)
      | some actor =>
        if actor.id = memberID then (members, checkUpdate config locked memberID requested effective actor actor)
        else (members, some (.updateTarget locked actor))
    | .updateTarget locked actor =>
      match members.findOne (fun member => member.id = memberID) with
      | none => (members, none)
      | some target =>
        if target.organizationId ≠ organizationID then (members, none)
        else (members, checkUpdate config locked memberID requested effective actor target)
    | .updateCount locked => (members, some (.updateList locked (members.count organizationID)))
    | .updateList locked count =>
      if ((members.list count organizationID).filter (isCreator config)).length ≤ 1 then (members, none)
      else (members, updateLoaded locked effective)
    | .updateAcquire => (members, some (.updateActor true))
    | .updateWrite =>
      (members.setRole memberID organizationID (joinRoles (normalizeRoleStrings [effective])), none)
    | _ => (members, none)
  | .leaveOrganization userID organizationID, stage =>
    match stage with
    | .leaveAcquire => (members, some .leaveFind)
    | .leaveFind =>
      match members.findOne (isUserIn userID organizationID) with
      | none => (members, none)
      | some member =>
        (members, some (if isCreator config member then .leaveCount member else .leaveDelete member))
    | .leaveCount member => (members, some (.leaveList member (members.count organizationID)))
    | .leaveList member count =>
      if ((members.list count organizationID).filter (isCreator config)).length ≤ 1 then (members, none)
      else (members, some (.leaveDelete member))
    | .leaveDelete member => (members.delete member.id organizationID userID, none)
    | _ => (members, none)
  | .removeMember actorUserID organizationID target, stage =>
    match stage with
    | .removeActor =>
      match members.findOne (isUserIn actorUserID organizationID) with
      | none => (members, none)
      | some actor => (members, some (.removeTarget actor))
    | .removeTarget actor =>
      let matching := match target with
        | .memberID id => fun member : Member => inOrganization organizationID member && decide (member.id = id)
        | .user userID => isUserIn userID organizationID
      match members.findOne matching with
      | none => (members, none)
      | some found =>
        if isOwner config found then
          if isOwner config actor then (members, some (.removeList found)) else (members, none)
        else (members, some (.removeFind found))
    | .removeList found =>
      let listed := members.list config.defaultLimit organizationID
      if (listed.filter (isOwner config)).length ≤ 1 then (members, none) else (members, some (.removeFind found))
    | .removeFind found =>
      match members.findOne (isMember found.id organizationID found.userId) with
      | none => (members, none)
      | some member => (members, some (.removeDelete member))
    | .removeDelete member => (members.delete member.id organizationID member.userId, none)
    | _ => (members, none)

end

/-! ## Interleaving -/

/-- The table and the requests under way, by number. -/
structure OrganizationState where
  members : MemberTable
  requests : Nat → Option (MemberRequest × Stage)

/-- One event: a request arrives, makes its next call, or gives up because a
check, a hook or a call on other tables failed. -/
inductive Event where
  | arrive (number : Nat) (request : MemberRequest)
  | call (number : Nat)
  | abort (number : Nat)

def step (config : OrganizationConfig) (state : OrganizationState) : Event → OrganizationState
  | .arrive number request =>
    match state.requests number with
    | some _ => state
    | none =>
      { state with
        requests := Function.update state.requests number (request.first.map fun stage => (request, stage)) }
  | .call number =>
    match state.requests number with
    | none => state
    | some (request, stage) =>
      let (members, next) := advance config state.members request stage
      { members, requests := Function.update state.requests number (next.map fun stage => (request, stage)) }
  | .abort number => { state with requests := Function.update state.requests number none }

/-- A lock is taken only while no other request of an organization with the same
lock holds it. -/
def RespectsLock (config : OrganizationConfig) (state : OrganizationState) : Event → Prop
  | .call number => ∀ request stage, state.requests number = some (request, stage) → stage.acquires = true →
      ∀ other otherRequest otherStage, other ≠ number → state.requests other = some (otherRequest, otherStage) →
        otherStage.holdsLock = true →
          config.organizationLock otherRequest.organizationID ≠ config.organizationLock request.organizationID
  | _ => True

end singleauth.organization
