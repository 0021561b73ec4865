import SingleAuth.Core.Random
import SingleAuth.Storage.Memory.Find
import SingleAuth.Storage.Memory.Written

open dict fallible text
open singleauth.core singleauth.storage singleauth.memory

namespace singleauth.admin

/-! ## Permissions -/

/-- The actions that a role may take on each resource. -/
abbrev Statements : Type := Dict (List String)

def authorize (role : Statements) (resource : String) (actions : List String) : Bool :=
  match role.get? resource with
  | none => false
  | some allowed => actions ≠ [] && actions.all fun action => allowed.contains action

def defaultRoles : Dict Statements :=
  Dict.ofEntries
    [("admin", Dict.ofEntries
        [("user", ["create", "list", "set-role", "ban", "impersonate", "delete", "set-password", "set-email", "get",
          "update"]), ("session", ["list", "revoke", "delete"])]),
      ("user", Dict.ofEntries [("user", []), ("session", [])])]

structure Options where
  adminUserIDs : List String := []
  roles : Option (Dict Statements) := none
  defaultRole : String := "user"

/-- Administrators by id may do everything; the roles of all others are asked one
after the other. -/
def hasPermission (userID role : String) (options : Options) (resource : String) (actions : List String) : Bool :=
  if userID ≠ "" ∧ options.adminUserIDs.contains userID then true
  else
    let roles := options.roles.getD defaultRoles
    let role := if role = "" then options.defaultRole else role
    let role := if role = "" then "user" else role
    (split ',' role).any fun name => (roles.get? name).any fun candidate => authorize candidate resource actions

/-- The user of the session that a request is made in. -/
structure Actor where
  (id role : String)

def Actor.may (actor : Actor) (options : Options) (action : String) : Bool :=
  hasPermission actor.id actor.role options "user" [action]

/-! ## Requests -/

def adminError (status : Nat) (code message : String) : Failure := .api status code message

def validationError (message : String) : Failure := .api 400 "VALIDATION_ERROR" message

def internalError : Failure := .api 500 "INTERNAL_SERVER_ERROR" "Internal Server Error"

def userNotFound : Failure := .api 404 "USER_NOT_FOUND" "User not found"

def notAllowedToChangeRole : Failure :=
  adminError 403 "YOU_ARE_NOT_ALLOWED_TO_CHANGE_USERS_ROLE" "You are not allowed to change users role"

def notAllowedToBan : Failure := adminError 403 "YOU_ARE_NOT_ALLOWED_TO_BAN_USERS" "You are not allowed to ban users"

def notAllowedToSetEmail : Failure :=
  adminError 403 "YOU_ARE_NOT_ALLOWED_TO_SET_USERS_EMAIL" "You are not allowed to update users email"

def preserveRuntimeError {α : Type} (result : Except StorageError α) : Except Failure α :=
  result.mapError fun _ => internalError

def requiredCoercedString (library : Library) (body : Record) (field : String) : Except Failure String :=
  match body.get? field with
  | none => .error (validationError (field ++ " is required"))
  | some .null => .ok "null"
  | some (.string content) => .ok content
  | some (.bool value) => .ok (Value.format library (.bool value))
  | some (.int kind value) => .ok (Value.format library (.int kind value))
  | some (.float32 value) => .ok (Value.format library (.float32 value))
  | some (.float64 value) => .ok (Value.format library (.float64 value))
  | some _ => .error (validationError (field ++ " must be coercible to a string"))

def requiredObject (body : Record) (field : String) : Except Failure Record :=
  match body.get? field with
  | none => .error (validationError (field ++ " is required"))
  | some (.object members) => .ok (Dict.ofEntries members)
  | some _ => .error (validationError (field ++ " must be an object"))

def invalidRoleType : Failure := adminError 400 "INVALID_ROLE_TYPE" "Invalid role type"

def stringItem : Value → Except Failure String
  | .string content => .ok content
  | _ => .error invalidRoleType

def roleValue : Value → Except Failure (List String)
  | .string role => .ok [role]
  | .slice _ items => items.mapM stringItem
  | _ => .error invalidRoleType

def validateRoles (options : Options) (roles : List String) : Except Failure Unit :=
  match options.roles with
  | none => .ok ()
  | some known => require (∀ role ∈ roles, (known.get? role).isSome)
      (adminError 400 "YOU_ARE_NOT_ALLOWED_TO_SET_NON_EXISTENT_VALUE"
        "You are not allowed to set a non-existent role value")

def joinRoles (roles : List String) : String := ",".intercalate roles

def hasAnyKey (object : Record) (names : List String) : Bool := names.any fun name => (object.get? name).isSome

def recordBool (record : Record) (key : String) : Bool :=
  match record.get? key with
  | some (.bool value) => value
  | _ => false

/-- An id may be an integer too. The text of one that is a float is left out. -/
def recordString (record : Record) (key : String) : String :=
  match record.get? key with
  | some (.string content) => content
  | some (.int kind value) =>
    if key ∈ ["id", "userId"] ∧ kind ∈ [.int, .int64] then toString value else ""
  | _ => ""

section

variable {ω : Type}

/-- The plugin on a memory adapter. The schema has the core's models for users and
sessions. -/
structure Plugin (ω : Type) where
  options : Options
  config : Config ω
  /-- The address that a text is parsed to. -/
  parseAddress : String → Option String
  /-- The order in which the entries of a map are visited. -/
  visit : Record → Assignments
  visit_perm : ∀ record, (visit record).Perm record.entries
  user_declared : (config.schema.models.get? "user").isSome
  session_declared : (config.schema.models.get? "session").isSome

/-- What each call of one request to the adapter meets. -/
structure AdapterCalls (ω : Type) where
  (findEmail find update revoke : Call ω)

variable (plugin : Plugin ω)

def Plugin.validEmail (value : String) : Bool :=
  value ≠ "" && !text.contains value ".." && value.toList.count '@' = 1 && plugin.parseAddress value = some value &&
    !hasPrefix value "."

variable (call : Call ω) (tables : Tables)

def Plugin.findOne (model : String) (clauses : List Where) :
    Except StorageError (Option Record) :=
  (findMany plugin.config 0 call tables { model, clauses, limit := some 1 }).map List.head?

def Plugin.findUser (id : String) : Except StorageError (Option Record) :=
  plugin.findOne call tables "user" [{ field := "id", value := .string id }]

def Plugin.findUserByEmail (email : String) :
    Except StorageError (Option Record) :=
  plugin.findOne call tables "user" [{ field := "email", value := .string email }]

/-! ## The endpoint -/

def invalidEmail : Failure := .api 400 "INVALID_EMAIL" "Invalid email"

/-- The role of an update, if it has one. -/
def Plugin.checkRole (actor : Actor) (update : Record) : Except Failure Record :=
  match update.get? "role" with
  | none => .ok update
  | some role => do
    require (actor.may plugin.options "set-role") notAllowedToChangeRole
    let roles ← roleValue role
    validateRoles plugin.options roles
    .ok (update.set "role" (.string (joinRoles roles)))

def Plugin.checkBan (actor : Actor) (userID : String) (update : Record) : Except Failure Unit :=
  if hasAnyKey update ["banned", "banReason", "banExpires"] then do
    require (actor.may plugin.options "ban") notAllowedToBan
    require (¬ (recordBool update "banned" ∧ userID = actor.id))
      (adminError 400 "YOU_CANNOT_BAN_YOURSELF" "You cannot ban yourself")
  else .ok ()

/-- The email of an update in lower case. No other user may have it. -/
def Plugin.checkEmail (userID : String) (update : Record) : Except Failure Record :=
  match update.get? "email" with
  | none => .ok update
  | some (.string given) => do
    let email := plugin.config.library.toLower given
    require (plugin.validEmail email) invalidEmail
    let existing ← preserveRuntimeError (plugin.findUserByEmail call tables email)
    require (existing.all fun user => recordString user "id" = userID)
      (adminError 400 "USER_ALREADY_EXISTS_USE_ANOTHER_EMAIL" "User already exists. Use another email.")
    .ok (update.set "email" (.string email))
  | some _ => .error invalidEmail

def Plugin.checkContact (actor : Actor) (userID : String) (update : Record) :
    Except Failure Record :=
  if hasAnyKey update ["email", "emailVerified"] then do
    require (actor.may plugin.options "set-email") notAllowedToSetEmail
    plugin.checkEmail call tables userID update
  else .ok update

/-- The checks on the data of an update, by the literal names of its fields. -/
def Plugin.checkUpdate (actor : Actor) (userID : String) (data : Record) :
    Except Failure Record := do
  require (data.entries ≠ []) (adminError 400 "NO_DATA_TO_UPDATE" "No data to update")
  require ((data.get? "password").isNone) (adminError 400 "PASSWORD_CANNOT_BE_UPDATED_VIA_UPDATE_USER"
    "Password cannot be updated through update-user. Use the set-user-password endpoint instead")
  let update ← plugin.checkRole actor data
  plugin.checkBan actor userID update
  plugin.checkContact call tables actor userID update

/-- The user and the update of a request that passes all checks. -/
def Plugin.prepare (calls : AdapterCalls ω) (tables : Tables) (actor : Option Actor) (body : Record) :
    Except Failure (String × Record) := do
  let actor ← expect actor (.api 401 "UNAUTHORIZED" "Unauthorized")
  require (actor.may plugin.options "update")
    (adminError 403 "YOU_ARE_NOT_ALLOWED_TO_UPDATE_USERS" "You are not allowed to update users")
  let userID ← requiredCoercedString plugin.config.library body "userId"
  let data ← requiredObject body "data"
  let update ← plugin.checkUpdate calls.findEmail tables actor userID data
  let existing ← preserveRuntimeError (plugin.findUser calls.find tables userID)
  require existing.isSome userNotFound
  require (userID ≠ "") internalError
  .ok (userID, update)

def Plugin.updateRow (userID : String) (update : Record) :
    Tables × Except StorageError Outcome :=
  memory.update plugin.config call tables "user" [{ field := "id", value := .string userID }] (plugin.visit update)

def Plugin.revokeSessions (userID : String) : Tables × Except StorageError Outcome :=
  memory.deleteMany plugin.config call tables "session" [{ field := "userId", value := .string userID }]

def Plugin.updateUser (calls : AdapterCalls ω) (tables : Tables) (actor : Option Actor) (body : Record) :
    Tables × Except Failure Record :=
  match plugin.prepare calls tables actor body with
  | .error failure => (tables, .error failure)
  | .ok (userID, update) =>
    match plugin.updateRow calls.update tables userID update with
    | (tables, .error _) => (tables, .error internalError)
    | (tables, .ok (.record (some updated))) =>
      if recordBool update "banned" then
        match plugin.revokeSessions calls.revoke tables userID with
        | (tables, .error _) => (tables, .error internalError)
        | (tables, .ok _) => (tables, .ok updated)
      else (tables, .ok updated)
    | (tables, .ok _) => (tables, .error userNotFound)

end

/-! ## Field permissions -/

/-- The fields of a user that need a permission of their own, with the action. -/
def protectedFields : List (String × String) :=
  [("role", "set-role"), ("banned", "ban"), ("banReason", "ban"), ("banExpires", "ban"), ("email", "set-email"),
    ("emailVerified", "set-email")]

/-- A row has an id, as the adapter compares ids. -/
def hasID (library : Library) (userID : String) (row : Record) : Bool :=
  equalValues library ((row.get? "id").getD .null) (.string userID) false

section

variable {ω : Type}

/-- What may become of a row when an actor updates a user: other rows stay, the id
stays, and protected columns change with permission only. -/
structure RowGuarded (plugin : Plugin ω) (model : ResolvedModel ω) (actor : Actor) (userID : String)
    (row changed : Record) : Prop where
  others_kept : hasID plugin.config.library userID row = false → changed = row
  id_kept : changed.get? "id" = row.get? "id"
  permitted : ∀ {canonical action attributes}, (canonical, action) ∈ protectedFields →
    model.schema.fields.get? canonical = some attributes →
    changed.get? (attributes.physical canonical) ≠ row.get? (attributes.physical canonical) →
    actor.may plugin.options action

/-- The rows of the user table before and after are guarded one by one. -/
def Guarded (plugin : Plugin ω) (actor : Actor) (userID : String) (tables after : Tables) : Prop :=
  ∀ {model rows changed}, resolveModel plugin.config "user" = .ok model → tables.get? model.physical = some rows →
    after.get? model.physical = some changed → List.Forall₂ (RowGuarded plugin model actor userID) rows changed

/-- An update brings nothing past the checks of a row: under whatever name, and from
whatever function of the schema, it writes into the id and into the columns
that the actor has no permission for only what is there already. -/
structure Unbypassed (plugin : Plugin ω) (model : ResolvedModel ω) (world : ω) (actor : Actor) (update row : Record) :
    Prop where
  id_same : ∀ {value}, Written plugin.config model world (plugin.visit update) "id" value →
    row.get? "id" = some value
  field_same : ∀ {canonical action attributes value}, (canonical, action) ∈ protectedFields →
    model.schema.fields.get? canonical = some attributes → actor.may plugin.options action = false →
    Written plugin.config model world (plugin.visit update) (attributes.physical canonical) value →
    row.get? (attributes.physical canonical) = some value

theorem or_eq_right_iff {α : Type} {written stored : Option α} :
    written.or stored = stored ↔ ∀ value, written = some value → stored = some value := by
  cases written with
  | none => simp
  | some value => simp [eq_comm]

variable (plugin : Plugin ω) {update : Record} {userID : String} {tables : Tables}
  {model user : ResolvedModel ω} {library : Library} {after : Tables}

/-- The row that an update leaves is guarded exactly if the update brings nothing
past the checks. -/
theorem rowGuarded_assign_iff {plugin : Plugin ω} {world : ω} {actor : Actor} {encoded row : Record}
    (hmodel : resolveModel plugin.config "user" = .ok model)
    (hencoded : encodeUpdate plugin.config model world (plugin.visit update) = .ok encoded)
    (hrow : hasID plugin.config.library userID row = true) :
    RowGuarded plugin model actor userID row (assign encoded row) ↔
      Unbypassed plugin model world actor update row := by
  have hwritten := encodeUpdate_get?_iff hmodel hencoded
  have hkept : ∀ column, (assign encoded row).get? column = row.get? column ↔
      ∀ value, Written plugin.config model world (plugin.visit update) column value →
        row.get? column = some value := by
    intro column
    rw [get?_assign, or_eq_right_iff]
    simp only [hwritten]
  constructor
  · intro hguarded
    refine ⟨fun hvalue => (hkept "id").mp hguarded.id_kept _ hvalue, ?_⟩
    intro canonical action attributes value hprotected hfield hdenied hvalue
    by_contra hchanged
    have hpermitted := hguarded.permitted hprotected hfield fun hsame => hchanged ((hkept _).mp hsame value hvalue)
    rw [hdenied] at hpermitted
    cases hpermitted
  intro hunbypassed
  refine ⟨fun hother => ?_, (hkept "id").mpr fun _ => hunbypassed.id_same, ?_⟩
  · rw [hrow] at hother
    cases hother
  intro canonical action attributes hprotected hfield hchanged
  by_contra hdenied
  have hdenied : actor.may plugin.options action = false := by simpa using hdenied
  exact hchanged ((hkept _).mpr fun _ => hunbypassed.field_same hprotected hfield hdenied)

theorem RowGuarded.refl (model : ResolvedModel ω) (actor : Actor) (userID : String)
    (row : Record) : RowGuarded plugin model actor userID row row :=
  ⟨fun _ => rfl, rfl, fun _ _ hchanged => absurd rfl hchanged⟩

/-! ## The update of one user -/

theorem resolveModel_declared {config : Config ω} {name : String} {table : ModelSchema ω}
    (h : config.schema.models.get? name = some table) :
    resolveModel config name =
      .ok { canonical := name, physical := config.schema.tableName name table,
            schema := normalizeModel name table } := by
  unfold resolveModel Schema.resolveModel
  rw [h]
  rfl

theorem session_ne_user {session : ResolvedModel ω} (huser : resolveModel plugin.config "user" = .ok user)
    (hsession : resolveModel plugin.config "session" = .ok session) : session.physical ≠ user.physical := by
  obtain ⟨userTable, hdeclared⟩ := Option.isSome_iff_exists.mp plugin.user_declared
  obtain ⟨sessionTable, hsessions⟩ := Option.isSome_iff_exists.mp plugin.session_declared
  cases (resolveModel_declared hdeclared).symm.trans huser
  cases (resolveModel_declared hsessions).symm.trans hsession
  intro hsame
  have hentry := tableName_injective plugin.config (Dict.get?_eq_some_iff.mp hsessions)
    (Dict.get?_eq_some_iff.mp hdeclared) hsame
  exact absurd (congrArg Prod.fst hentry) (show "session" ≠ "user" by decide)

theorem revokeSessions_user
    (huser : resolveModel plugin.config "user" = .ok user) (call : Call ω) (tables : Tables) (userID : String) :
    (plugin.revokeSessions call tables userID).1.get? user.physical = tables.get? user.physical := by
  unfold Plugin.revokeSessions memory.deleteMany
  split
  · rfl
  · next model clauses hprepared =>
    unfold onTable
    split
    · rfl
    · exact Dict.get?_set_of_ne _ _ (session_ne_user plugin huser (prepareQuery_ok hprepared)).symm

def idClause (userID : String) : Clause :=
  { field := "id", value := .string userID, operator := .eq, connector := .and, mode := .sensitive }

theorem encodeWhere_id (hmodel : resolveModel plugin.config "user" = .ok model) (world : ω) (userID : String) :
    encodeWhere plugin.config model world [{ field := "id", value := .string userID }] = .ok [idClause userID] := by
  obtain ⟨table, hdeclared⟩ := Option.isSome_iff_exists.mp plugin.user_declared
  cases (resolveModel_declared hdeclared).symm.trans hmodel
  have hfield : ∀ physical schema, resolveField plugin.config { canonical := "user", physical, schema } "id" =
      .ok { canonical := "id", physical := "id", attributes := { type := .string, fieldName := "id" } } := by
    intro physical schema
    unfold memory.resolveField Schema.resolveField Schema.resolveModel
    rw [hdeclared]
    rfl
  have hnormalize : Where.normalize plugin.config.library { field := "id", value := .string userID } =
      .ok (idClause userID) := rfl
  unfold encodeWhere encodeClause
  simp only [List.mapM_cons, List.mapM_nil, hnormalize, bind, Except.bind]
  rw [show (idClause userID).field = "id" from rfl, hfield]
  rfl

theorem matchRow_id (library : Library) (userID : String) (row : Record) :
    matchRow library row [idClause userID] = .ok (hasID library userID row) := by
  have hevaluate : evaluate library row (idClause userID) = .ok (hasID library userID row) := rfl
  simp only [matchRow, hevaluate, List.foldlM_cons, List.foldlM_nil, bind, Except.bind, pure, Except.pure]
  simp [idClause]

theorem filterRows_id {rows : List Record} :
    filterRows library [idClause userID] rows = .ok (rows.map fun row => (row, hasID library userID row)) := by
  induction rows with
  | nil => rfl
  | cons row rest ih =>
    unfold filterRows at ih ⊢
    simp only [matchRow_id] at ih ⊢
    simp only [List.mapM_cons, ih, List.map_cons]
    rfl

/-- A successful update writes the encoded data into the rows that have the id. -/
def Plugin.Assigned (world : ω) (userID : String) (update : Record) (tables after : Tables) : Prop :=
  ∃ model encoded rows, resolveModel plugin.config "user" = .ok model ∧
    encodeUpdate plugin.config model world (plugin.visit update) = .ok encoded ∧
    tables.get? model.physical = some rows ∧
    after.get? model.physical = some (rows.map fun row =>
      if hasID plugin.config.library userID row then assign encoded row else row)

theorem updateRow_ok {call : Call ω} {outcome : Outcome}
    (h : plugin.updateRow call tables userID update = (after, .ok outcome)) :
    plugin.Assigned call.world userID update tables after := by
  unfold Plugin.updateRow memory.update at h
  split at h
  · cases h
  all_goals
    rename_i hprepared
    obtain ⟨_, _, model, hmodel, hprepared⟩ := ok_of_bind₂ hprepared
    rw [encodeWhere_id plugin hmodel] at hprepared
    obtain ⟨_, hclauses, hprepared⟩ := bind_eq_ok_iff.mp hprepared
    cases hclauses
    -- the query is never empty
    rw [if_neg (by simp)] at hprepared
    obtain ⟨encoded, hencoded, hprepared⟩ := bind_eq_ok_iff.mp hprepared
    cases hprepared
  unfold onTable at h
  split at h
  · cases h
  rename_i rows hrows
  obtain ⟨hafter, hresult⟩ := Prod.mk.inj h
  refine ⟨_, _, rows, hmodel, hencoded, hrows, ?_⟩
  rw [← hafter, Dict.get?_set_self]
  unfold updateRows at hresult ⊢
  rw [filterRows_id] at hresult ⊢
  dsimp only at hresult ⊢
  split at hresult
  · cases hresult
  · simp [assignSelected]

/-- An update that succeeds leaves the rows with the id as it encodes them, whether
or not sessions end afterwards. -/
theorem updateUser_ok {calls : AdapterCalls ω} {actor : Option Actor}
    {body record : Record} (hprepare : plugin.prepare calls tables actor body = .ok (userID, update))
    (h : plugin.updateUser calls tables actor body = (after, .ok record)) :
    plugin.Assigned calls.update.world userID update tables after := by
  unfold Plugin.updateUser at h
  simp only [hprepare] at h
  split at h
  · cases h
  · next updatedTables updated hupdated =>
    obtain ⟨model, encoded, rows, hmodel, hencoded, hrows, hafter⟩ := updateRow_ok plugin hupdated
    refine ⟨model, encoded, rows, hmodel, hencoded, hrows, ?_⟩
    split at h
    · split at h
      · cases h
      rename_i revokedTables _ hrevoked
      cases h
      have hkept := revokeSessions_user plugin hmodel calls.revoke updatedTables userID
      rw [hrevoked] at hkept
      exact hkept.trans hafter
    · cases h
      exact hafter
  · cases h

end

/-! ## A role under the name of its column -/

private def renamedUsers : ModelSchema Unit where
  modelName := "user"
  fields := .ofEntries [("name", { type := .string }), ("role", { type := .string, fieldName := "user_role" })]

private def renamedSessions : ModelSchema Unit where
  modelName := "session"
  fields := .ofEntries [("userId", { type := .string })]

private def renamedConfig : Config Unit where
  library := textLibrary
  schema := { models := .ofEntries [("session", renamedSessions), ("user", renamedUsers)], usePlural := false }
  valid := by rfl
  capabilities := { json := true, dates := true, booleans := true, arrays := true }
  idGenerator := fun _ _ => .ok (.string "1")

/-- The support staff may update users, and nothing else. -/
def supportPlugin : Plugin Unit where
  options := { roles := some (.ofEntries [("support", .ofEntries [("user", ["update"])])]) }
  config := renamedConfig
  parseAddress := fun _ => none
  visit := Dict.entries
  visit_perm := fun _ => List.Perm.refl _
  user_declared := rfl
  session_declared := rfl

def supportActor : Actor := { id := "s", role := "support" }

private def customer : Record :=
  .ofEntries [("id", .string "c"), ("name", .string "Ann"), ("user_role", .string "user")]

def customerTables : Tables := .ofEntries [("session", []), ("user", [customer])]

/-- A request that gives one field of the customer a text. -/
def customerUpdate (name content : String) : Record :=
  .ofEntries [("data", .object [(name, .string content)]), ("userId", .string "c")]

def plainCalls : AdapterCalls Unit := ⟨⟨(), none, none⟩, ⟨(), none, none⟩, ⟨(), none, none⟩, ⟨(), none, none⟩⟩

def customerAnswer (name content : String) : Tables × Except Failure Record :=
  supportPlugin.updateUser plainCalls customerTables (some supportActor) (customerUpdate name content)

private theorem customerAnswer_ok (name content : String) (h : (customerAnswer name content).2.toOption.isSome) :
    ∃ record, supportPlugin.updateUser plainCalls customerTables (some supportActor) (customerUpdate name content) =
      ((customerAnswer name content).1, .ok record) := by
  obtain ⟨record, hrecord⟩ := Option.isSome_iff_exists.mp h
  exact ⟨record, Prod.ext rfl (toOption_eq_some_iff.mp hrecord)⟩

end singleauth.admin
