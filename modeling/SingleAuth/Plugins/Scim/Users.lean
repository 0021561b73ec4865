import SingleAuth.Lib.Fallible
import SingleAuth.Lib.Table

open fallible table

namespace singleauth.scim

structure Account where
  (userId providerId accountId : String)

structure Member where
  (organizationId userId : String)

structure User where
  (id email : String)

structure Provider where
  (providerID organizationID : String)

/-- The tables of an adapter that returns at most `defaultLimit` rows. -/
structure Directory where
  accounts : List Account
  members : List Member
  users : List User
  defaultLimit : Nat
  distinct : (users.map User.id).Nodup

structure ListResponse where
  (totalResults startIndex itemsPerPage : Nat)
  resources : List (User × Option Account)

/-- The status, the detail and the type. -/
def userNotFound : Nat × String × String := (404, "User not found", "")

namespace Directory

variable (directory : Directory) (provider : Provider)

def findScopedUser (userID : String) : Except (Nat × String × String) (User × Account) := do
  let account ← expect (directory.accounts.find? fun account =>
    account.userId = userID && account.providerId = provider.providerID) userNotFound
  require (provider.organizationID ≠ "" → directory.members.any fun member =>
    member.organizationId = provider.organizationID && member.userId = userID) userNotFound
  let user ← expect (directory.users.find? fun user => user.id = userID) userNotFound
  .ok (user, account)

def accountRows : List Account :=
  findMany directory.defaultLimit (fun account => account.providerId = provider.providerID) directory.accounts

def accountUserIDs : List String :=
  (((directory.accountRows provider).map Account.userId).filter (· ≠ "")).eraseDups

/-- The ids the users are asked for. -/
def userIDs : List String :=
  if provider.organizationID = "" then directory.accountUserIDs provider
  else
    let members := findMany directory.defaultLimit (fun member =>
      member.organizationId = provider.organizationID && member.userId ∈ directory.accountUserIDs provider)
      directory.members
    (members.map Member.userId).filter (· ≠ "")

def matchesList (emailFilter : String) (user : User) : Bool :=
  user.id ∈ directory.userIDs provider && (emailFilter = "" || user.email = emailFilter)

def listUsers (emailFilter : String) : ListResponse :=
  let users := findMany directory.defaultLimit (directory.matchesList provider emailFilter) directory.users
  let resources := users.map fun user =>
    (user, (directory.accountRows provider).find? fun account => account.userId = user.id)
  ⟨resources.length, 1, resources.length, resources⟩

def listedIDs : List String := (directory.listUsers provider "").resources.map (·.1.id)

def Scoped (userID : String) : Prop := ∃ found, directory.findScopedUser provider userID = .ok found

/-- The list without a filter has one resource for each user that can be looked up, and their number. -/
structure Agrees : Prop where
  nodup : (directory.listedIDs provider).Nodup
  mem_iff : ∀ userID, userID ∈ directory.listedIDs provider ↔ directory.Scoped provider userID
  total : (directory.listUsers provider "").totalResults = (directory.listedIDs provider).length

/-- An account of the user is among the first of the provider, as many as the adapter returns. -/
def AccountRead (userID : String) : Prop :=
  userID ≠ "" ∧ ∃ account ∈ (directory.accounts.filter fun account => account.providerId = provider.providerID).take
    directory.defaultLimit, account.userId = userID

instance : DecidablePred (directory.AccountRead provider) := fun _ => by
  unfold AccountRead
  infer_instance

/-- So is a member of the organization, if there is one, among its first members with such accounts. -/
def UserRead (userID : String) : Prop :=
  directory.AccountRead provider userID ∧ (provider.organizationID ≠ "" → ∃ member ∈ (directory.members.filter
    fun member => member.organizationId = provider.organizationID ∧ directory.AccountRead provider member.userId).take
      directory.defaultLimit, member.userId = userID)

instance : DecidablePred (directory.UserRead provider) := fun _ => by
  unfold UserRead
  infer_instance

variable {directory provider} {userID : String}

theorem mem_userIDs_iff : userID ∈ directory.userIDs provider ↔ directory.UserRead provider userID := by
  have haccount : ∀ {userID}, userID ∈ directory.accountUserIDs provider ↔ directory.AccountRead provider userID := by
    intro userID
    simp only [accountUserIDs, accountRows, findMany, AccountRead, List.mem_eraseDups, List.mem_filter, List.mem_map]
    grind
  unfold userIDs UserRead
  split
  · next hnone => simp [haccount, hnone]
  · next horganization =>
    simp only [findMany, haccount, List.mem_filter, List.mem_map, Bool.decide_and]
    constructor
    · rintro ⟨⟨member, hmember, rfl⟩, _⟩
      have hread := (List.mem_filter.mp (List.mem_of_mem_take hmember)).2
      exact ⟨of_decide_eq_true (Bool.and_eq_true_iff.mp hread).2, fun _ => ⟨member, hmember, rfl⟩⟩
    · rintro ⟨hread, hmember⟩
      exact ⟨hmember horganization, by simpa using hread.1⟩

/-- A user with a row whose account and membership are read can be looked up. -/
theorem UserRead.scoped (h : directory.UserRead provider userID) (huser : ∃ user ∈ directory.users, user.id = userID) :
    directory.Scoped provider userID := by
  obtain ⟨⟨_, account, haccount, rfl⟩, hmember⟩ := h
  obtain ⟨haccount, hprovider⟩ := List.mem_filter.mp (List.mem_of_mem_take haccount)
  have hsome : (directory.accounts.find? fun other => other.userId = account.userId &&
      other.providerId = provider.providerID).isSome := List.find?_isSome.mpr ⟨account, haccount, by simpa using hprovider⟩
  have hbelongs : provider.organizationID ≠ "" → directory.members.any fun member =>
      member.organizationId = provider.organizationID && member.userId = account.userId := by
    intro horganization
    obtain ⟨member, hmember, hsame⟩ := hmember horganization
    obtain ⟨hmember, hown⟩ := List.mem_filter.mp (List.mem_of_mem_take hmember)
    exact List.any_eq_true.mpr ⟨member, hmember, by simp [(of_decide_eq_true hown).1, hsame]⟩
  obtain ⟨found, hfound⟩ := Option.isSome_iff_exists.mp hsome
  have huser : (directory.users.find? fun user => user.id = account.userId).isSome := by simpa using huser
  obtain ⟨user, huser⟩ := Option.isSome_iff_exists.mp huser
  refine ⟨(user, found), ?_⟩
  rw [findScopedUser, hfound, huser, require, if_pos hbelongs]
  rfl

/-- The list agrees exactly if the first accounts of the provider and the first members of its organization, as many
as the adapter returns of each, give every user that can be looked up, and the users that they give fit into one
answer of the adapter as well. -/
theorem list_agrees_iff (directory : Directory) (provider : Provider) :
    directory.Agrees provider ↔
      (∀ userID, directory.Scoped provider userID → directory.UserRead provider userID) ∧
        (directory.users.filter fun user => directory.UserRead provider user.id).length ≤ directory.defaultLimit := by
  set read := directory.users.filter fun user => directory.UserRead provider user.id with hread
  have hmem : ∀ {userID}, userID ∈ read.map User.id ↔
      directory.UserRead provider userID ∧ ∃ user ∈ directory.users, user.id = userID := by
    intro userID
    simp only [hread, List.mem_map, List.mem_filter, decide_eq_true_eq]
    grind
  have hnodup : (read.map User.id).Nodup := directory.distinct.sublist (List.filter_sublist.map _)
  have hlisted : directory.listedIDs provider = (read.map User.id).take directory.defaultLimit := by
    have hmatches : directory.matchesList provider "" = fun user => decide (directory.UserRead provider user.id) := by
      funext user
      simp [matchesList, mem_userIDs_iff]
    simp [listedIDs, listUsers, findMany, hmatches, hread, List.map_take, Function.comp_def]
  constructor
  · intro hagrees
    refine ⟨fun userID hfound => ?_, ?_⟩
    · have hfound := (hagrees.mem_iff userID).mpr hfound
      rw [hlisted] at hfound
      exact (hmem.mp (List.mem_of_mem_take hfound)).1
    · -- all that are read can be looked up, so all of them are listed
      have hlength := hnodup.length_le_of_subset fun userID hfound =>
        (hagrees.mem_iff userID).mpr ((hmem.mp hfound).1.scoped (hmem.mp hfound).2)
      rw [hlisted, List.length_take, List.length_map] at hlength
      omega
  · rintro ⟨hasked, hfits⟩
    have hall : directory.listedIDs provider = read.map User.id := by
      rw [hlisted, List.take_of_length_le (by rwa [List.length_map])]
    refine ⟨hall ▸ hnodup, fun userID => ?_, by simp [listedIDs, listUsers]⟩
    rw [hall, hmem]
    refine ⟨fun h => h.1.scoped h.2, fun hfound => ⟨hasked userID hfound, ?_⟩⟩
    obtain ⟨_, _, _, _, user, huser, _⟩ := ok_of_bind₃ hfound.choose_spec
    have huser := expect_eq_ok_iff.mp huser
    exact ⟨user, List.mem_of_find?_eq_some huser, by simpa using List.find?_some huser⟩

end Directory

/-- Two users of a provider, for an adapter that returns one row. -/
def pair : Directory where
  accounts := [⟨"a", "p", "a"⟩, ⟨"b", "p", "b"⟩]
  members := []
  users := [⟨"a", "a@x"⟩, ⟨"b", "b@x"⟩]
  defaultLimit := 1
  distinct := by decide

theorem second_user_unlisted :
    pair.listedIDs ⟨"p", ""⟩ = ["a"] ∧ pair.Scoped ⟨"p", ""⟩ "b" ∧ ¬ pair.Agrees ⟨"p", ""⟩ := by
  have hlisted : pair.listedIDs ⟨"p", ""⟩ = ["a"] := by decide
  have hscoped : pair.Scoped ⟨"p", ""⟩ "b" := ⟨_, rfl⟩
  refine ⟨hlisted, hscoped, fun hagrees => ?_⟩
  have hmem := (hagrees.mem_iff "b").mpr hscoped
  rw [hlisted] at hmem
  exact absurd hmem (by decide)

end singleauth.scim
