import SingleAuth.Lib.Text

open text

namespace singleauth.organization

/-- The roles of a role string, as it is written. -/
def splitRoles (role : String) : List String := (role.toList.splitOn ',').map String.ofList

def roleIncludes (role candidate : String) : Bool := (splitRoles role).contains candidate

/-- Unlike `roleIncludes`, this ignores white space around the roles. -/
def hasAllowedRole (rawRole : String) (allowedRoles : List String) : Bool :=
  (splitRoles rawRole).any fun memberRole =>
    trimSpace memberRole ≠ "" && allowedRoles.contains (trimSpace memberRole)

def normalizeRoleStrings (roles : List String) : List String :=
  ((roles.flatMap splitRoles).map trimSpace).filter (· ≠ "")

def joinRoles (roles : List String) : String := String.ofList ([','].intercalate (roles.map String.toList))

/-! ## Normalized roles -/

/-- A role without comma and without white space around it. -/
def NormalRole (role : String) : Prop := ',' ∉ role.toList ∧ trimSpace role = role ∧ role ≠ ""

variable {roles : List String}

theorem normalizeRoleStrings_normal {role : String} (h : role ∈ normalizeRoleStrings roles) : NormalRole role := by
  rw [normalizeRoleStrings, List.mem_filter, List.mem_map] at h
  obtain ⟨⟨raw, hraw, rfl⟩, hne⟩ := h
  obtain ⟨group, _, hgroup⟩ := List.mem_flatMap.mp hraw
  obtain ⟨piece, hpiece, rfl⟩ := List.mem_map.mp hgroup
  refine ⟨fun hcomma => not_mem_of_mem_splitOn hpiece ?_, trimSpace_trimSpace _, by simpa using hne⟩
  simpa using mem_trimSpace hcomma

theorem splitRoles_joinRoles (hne : roles ≠ []) (hnormal : ∀ role ∈ roles, NormalRole role) :
    splitRoles (joinRoles roles) = roles := by
  have hcommas : ∀ piece ∈ roles.map String.toList, ',' ∉ piece := by
    intro piece hpiece
    obtain ⟨role, hrole, rfl⟩ := List.mem_map.mp hpiece
    exact (hnormal role hrole).1
  rw [splitRoles, joinRoles, String.toList_ofList, List.splitOn_intercalate ',' hcommas (by simpa using hne)]
  simp

/-- Both ways of reading a role string find the same. -/
def RolesAgree (creatorRole role : String) : Prop := hasAllowedRole role [creatorRole] = roleIncludes role creatorRole

variable {creatorRole : String}

section

variable (hcreator : creatorRole ≠ "") (hnormal : ∀ role ∈ roles, NormalRole role)
include hcreator hnormal

/-- A written role string includes the roles it was made of. -/
theorem roleIncludes_joinRoles : roleIncludes (joinRoles roles) creatorRole = roles.contains creatorRole := by
  by_cases hne : roles = []
  · subst hne
    simpa [roleIncludes, splitRoles, joinRoles] using hcreator
  · rw [roleIncludes, splitRoles_joinRoles hne hnormal]

/-- The role strings that the code writes are read alike. -/
theorem rolesAgree_joinRoles : RolesAgree creatorRole (joinRoles roles) := by
  unfold RolesAgree
  rw [roleIncludes_joinRoles hcreator hnormal]
  by_cases hne : roles = []
  · subst hne
    simp [hasAllowedRole, splitRoles, joinRoles, trimSpace]
  rw [hasAllowedRole, splitRoles_joinRoles hne hnormal]
  clear hne
  induction roles with
  | nil => rfl
  | cons role rest ih =>
    obtain ⟨_, htrim, hnonempty⟩ := hnormal role List.mem_cons_self
    rw [List.any_cons, ih (fun r hr => hnormal r (List.mem_cons_of_mem _ hr))]
    simp [htrim, hnonempty, eq_comm]

end

end singleauth.organization
