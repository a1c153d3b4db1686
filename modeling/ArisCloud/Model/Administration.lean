import ArisCloud.Library.KeyedRows
import ArisCloud.Model.AccessPolicies

/-! # Accounts and their administration

Tenants, stores, users and the tokens that logging in hands out. A request presents such a token;
the account it names is read again for every request and has to be active, and so does its tenant.
What the caller may do follows from the role and the tenant in the token. Passwords are hashed and
checked by the password context, which is a parameter, as are the character classes of the text
type.
-/

namespace ArisCloud.Administration

open Checked (ensure fetch)
open AccessControl (AccessDb AccessControlService Cache PolicyRequest policyCall)
open AccessControl.AccessControlService (templatePermissions)

/-! ## Tables -/

/-- The text of an identifier, which has no white space around it and is not empty. -/
structure Guid where
  text : String
  trimmed : strip text = text
  nonempty : text ≠ ""
deriving DecidableEq

theorem Guid.text_injective : Function.Injective Guid.text := by
  rintro ⟨text, _, _⟩ ⟨other, _, _⟩ same
  cases same
  rfl

structure Tenant where
  id : Guid
  name : String
  status : String
deriving DecidableEq

structure Store where
  id : Guid
  tenantId : Guid
  name : String
deriving DecidableEq

structure User where
  id : Guid
  tenantId : Guid
  storeId : Option Guid
  username : String
  email : String
  hashedPassword : String
  role : String
  status : String
  mustChangePassword : Bool
  isActive : Bool
deriving DecidableEq

/-- A row of an operational table, with the tenant, the stores and the users that it names. -/
structure OperationalRow where
  table : String
  tenantId : Guid
  storeIds : List Guid := []
  userIds : List Guid := []
deriving DecidableEq

/-- What a token says of the account it was handed out to. -/
structure TokenData where
  sub : Guid
  tenantId : Option Guid
  storeId : Option Guid
  role : String
  status : String
  isActive : Bool
  mustChangePassword : Bool
  email : String
  username : String
deriving DecidableEq

/-- The tables, the identifiers drawn for their rows so far, and the tokens handed out. -/
structure AdminDb where
  tenants : List Tenant := []
  stores : List Store := []
  users : List User := []
  access : AccessDb
  operations : List OperationalRow := []
  drawn : List Guid := []
  issued : List TokenData := []

/-- The password context, which hashes with a salt, and the character classes of texts. -/
structure Platform where
  hash : String → String → String
  verify : String → String → Bool
  isAlpha : Char → Bool
  isDigit : Char → Bool

inductive AdminErrorCode
  | invalidToken
  | invalidCredentials
  | userInactive
  | permissionDenied
  | currentPasswordInvalid
  | passwordTooShort
  | passwordMustDiffer
  | passwordComplexity
  | tenantScopeRequired
  | crossTenantAccessDenied
  | storeScopeRequired
  | storeScopeMismatch
  | tenantStoreMismatch
  | storeNotFound
  | tenantNotFound
  | tenantIdRequiredForSuperadmin
  | validationError
  | resourceNotFound
  | conflict
  | idempotencyRequestInProgress
  | integrityError
  | policy (code : ErrorCode)
deriving DecidableEq, Repr

structure AdminError where
  code : AdminErrorCode
  message : String := ""
deriving DecidableEq, Repr

def AdminError.validation (message : String) : AdminError := ⟨.validationError, message⟩

/-! ## Roles and states -/

def isSuperadmin (role : String) : Bool := role.toUpper ∈ ["SUPERADMIN", "PLATFORM_ADMIN"]

def normalizeRole (role : String) : String := (strip role).toUpper

def normalizeStatus (value : String) : String := (strip value).toUpper

def isStatusActive (value : String) : Bool := normalizeStatus value = "ACTIVE"

/-- Text without the white space around it; text of white space only counts as missing. -/
def normalizeOptionalStr (value : Option String) : Option String := (value.map strip).filter
    (· ≠ "")

structure ActiveStateEvaluation where
  allowed : Bool
  reason : Option String := none
deriving DecidableEq, Repr

def evaluateAuthEligibility (user : User) (tenant : Option Tenant) : ActiveStateEvaluation :=
  if user.isActive = false then ⟨false, some "user_is_active_false"⟩
  else if isStatusActive user.status = false then ⟨false, some "user_status_not_active"⟩
  else if tenant.all (fun tenant => !isStatusActive tenant.status) then
    ⟨false, some "tenant_inactive"⟩
  else ⟨true, none⟩

def ensureUserCanAuthenticate (db : AdminDb) (user : User) : Except AdminError Unit :=
  ensure ((evaluateAuthEligibility user (db.tenants.find? (·.id = user.tenantId))).allowed = true)
    ⟨.userInactive, ""⟩

/-! ## Tokens -/

def createUserAccessToken (user : User) : TokenData where
  sub := user.id
  tenantId := some user.tenantId
  storeId := user.storeId
  role := user.role
  status := user.status
  isActive := user.isActive
  mustChangePassword := user.mustChangePassword
  email := user.email
  username := user.username

/-- The account that a token names. -/
def getCurrentUser (db : AdminDb) (tokenData : TokenData) : Except AdminError User :=
  fetch (db.users.find? (·.id = tokenData.sub)) ⟨.invalidToken, ""⟩

def requireActiveUser (db : AdminDb) (tokenData : TokenData) : Except AdminError User := do
  let user ← getCurrentUser db tokenData
  ensureUserCanAuthenticate db user
  return user

/-- The scope of a token as the permission service reads it. -/
def TokenData.scope (tokenData : TokenData) : AccessControl.TokenData where
  tenantId := tokenData.tenantId.map (·.text)
  storeId := tokenData.storeId.map (·.text)
  role := tokenData.role

def TokenData.context (tokenData : TokenData) : AccessControl.RequestContext where
  userId := some tokenData.sub.text
  tenantId := tokenData.tenantId.map (·.text)
  storeId := tokenData.storeId.map (·.text)
  role := some tokenData.role

def accessControlService (db : AdminDb) : AccessControlService := { db := db.access }

/-- The caller has the permission; what the check has cached serves the rest of the request. -/
def requirePermission (db : AdminDb) (tokenData : TokenData) (permissionKey : String) :
    Except AdminError Cache := do
  let (decision, cache) :=
    ((accessControlService db).evaluatePermission permissionKey tokenData.context
      (some tokenData.scope)).run {}
  ensure (decision.allowed = true) ⟨.permissionDenied, ""⟩
  return cache

def requireSuperadmin (tokenData : TokenData) : Except AdminError Unit :=
  ensure (isSuperadmin tokenData.role = true) ⟨.permissionDenied, ""⟩

def requireAdmin (tokenData : TokenData) : Except AdminError Unit :=
  ensure (tokenData.role.toUpper = "ADMIN" ∨ isSuperadmin tokenData.role = true)
    ⟨.permissionDenied, ""⟩

def tenantIdOrError (tokenData : TokenData) : Except AdminError Guid :=
  fetch tokenData.tenantId ⟨.tenantScopeRequired, ""⟩

/-- The tenant that a request works on: platform administrators name it, others may repeat
theirs. -/
def effectiveTenantId (tokenData : TokenData) (requestedTenantId : Option String) :
    Except AdminError String :=
  if isSuperadmin tokenData.role then
    fetch requestedTenantId
      ⟨.tenantScopeRequired, "tenant_id is required for superadmin on this endpoint"⟩
  else do
    let tokenTenantId ← tenantIdOrError tokenData
    ensure (requestedTenantId.all (· = tokenTenantId.text)) ⟨.crossTenantAccessDenied, ""⟩
    return tokenTenantId.text

/-! ## Repositories -/

def getTenantById (db : AdminDb) (tenantId : String) : Option Tenant :=
  db.tenants.find? (·.id.text = tenantId)

def getTenantByName (db : AdminDb) (name : String) : Option Tenant :=
  db.tenants.find? (·.name = name)

def getStoreById (db : AdminDb) (storeId : String) : Option Store :=
  db.stores.find? (·.id.text = storeId)

def getStoreByIdInTenant (db : AdminDb) (storeId tenantId : String) : Option Store :=
  db.stores.find? fun store => store.id.text = storeId ∧ store.tenantId.text = tenantId

def getUserById (db : AdminDb) (userId : String) : Option User :=
  db.users.find? (·.id.text = userId)

def getUserByIdInTenant (db : AdminDb) (userId tenantId : String) : Option User :=
  db.users.find? fun user => user.id.text = userId ∧ user.tenantId.text = tenantId

def listByUsernameOrEmail (db : AdminDb) (identifier : String) : List User :=
  db.users.filter fun user => user.username = identifier ∨ user.email = identifier

/-- An identifier that no row had before. -/
def draw (db : AdminDb) (id : Guid) : Except AdminError AdminDb := do
  ensure (id ∉ db.drawn) ⟨.integrityError, ""⟩
  return { db with drawn := id :: db.drawn }

/-- Commit the tenants; names are unique. -/
def commitTenants (db : AdminDb) (tenants : List Tenant) : Except AdminError AdminDb := do
  ensure ((tenants.map (·.name)).Nodup) ⟨.integrityError, ""⟩
  return { db with tenants }

/-- Commit the stores; a tenant has one store of a name. -/
def commitStores (db : AdminDb) (stores : List Store) : Except AdminError AdminDb := do
  ensure ((stores.map fun store => (store.tenantId, store.name)).Nodup) ⟨.integrityError, ""⟩
  return { db with stores }

/-- Commit the users; a tenant has one user of a name and one of an email. -/
def commitUsers (db : AdminDb) (users : List User) : Except AdminError AdminDb := do
  ensure ((users.map fun user => (user.tenantId, user.username)).Nodup) ⟨.integrityError, ""⟩
  ensure ((users.map fun user => (user.tenantId, user.email)).Nodup) ⟨.integrityError, ""⟩
  return { db with users }

/-- The rows with the row of one user changed. -/
def changeUser (user : User) (change : User → User) (users : List User) : List User :=
  KeyedRows.update (·.id) [user.id] change users

/-! ## Logging in and changing the own password -/

/-- The first candidate that the password fits and that may authenticate. -/
def login (platform : Platform) (db : AdminDb) (identifier password : String) : Except AdminError
    (User × TokenData) := do
  let candidates := listByUsernameOrEmail db identifier
  ensure (candidates ≠ []) ⟨.invalidCredentials, ""⟩
  let matching := candidates.filter fun user => platform.verify password user.hashedPassword
  match matching.find? fun user => (ensureUserCanAuthenticate db user).toBool with
  | some user => return (user, createUserAccessToken user)
  | none => throw (if matching = [] then ⟨.invalidCredentials, ""⟩ else ⟨.userInactive, ""⟩)

/-- Letters and digits both occur. -/
def isComplex (platform : Platform) (password : String) : Bool :=
  password.toList.any platform.isAlpha && password.toList.any platform.isDigit

def validateNewPassword (platform : Platform) (user : User) (newPassword : String) :
    Except AdminError Unit := do
  ensure (platform.verify newPassword user.hashedPassword = false) ⟨.passwordMustDiffer, ""⟩
  ensure (strip newPassword ≠ "" ∧ 12 ≤ newPassword.length) ⟨.passwordTooShort, ""⟩
  ensure (isComplex platform newPassword = true) ⟨.passwordComplexity, ""⟩

def changePassword (platform : Platform) (db : AdminDb) (user : User)
    (currentPassword newPassword salt : String) :
    Except AdminError AdminDb := do
  ensure (platform.verify currentPassword user.hashedPassword = true) ⟨.currentPasswordInvalid, ""⟩
  validateNewPassword platform user newPassword
  commitUsers db (changeUser user (fun row =>
    { row with hashedPassword := platform.hash salt newPassword, mustChangePassword := false })
      db.users)

/-! ## Tenants -/

inductive AdminUserStatus
  | active
  | suspended
  | canceled
deriving DecidableEq, Repr

def AdminUserStatus.text : AdminUserStatus → String
  | .active => "ACTIVE"
  | .suspended => "SUSPENDED"
  | .canceled => "CANCELED"

def createTenant (db : AdminDb) (tokenData : TokenData) (name : String) (id : Guid) :
    Except AdminError AdminDb := do
  requireSuperadmin tokenData
  ensure (getTenantByName db name = none) (.validation "Tenant name already exists")
  let db ← draw db id
  commitTenants db (db.tenants ++ [{ id, name, status := "ACTIVE" }])

def updateTenant (db : AdminDb) (tokenData : TokenData) (tenantId name : String) :
    Except AdminError AdminDb := do
  requireSuperadmin tokenData
  let tenant ← fetch (getTenantById db tenantId) ⟨.tenantNotFound, ""⟩
  ensure ((getTenantByName db name).all (·.id.text = tenantId))
    (.validation "Tenant name already exists")
  commitTenants db (KeyedRows.update (·.id) [tenant.id] (fun row => { row with name }) db.tenants)

def tenantActions (db : AdminDb) (tokenData : TokenData) (tenantId : String)
    (status : Option AdminUserStatus) :
    Except AdminError AdminDb := do
  requireSuperadmin tokenData
  let tenant ← fetch (getTenantById db tenantId) ⟨.tenantNotFound, ""⟩
  let status ← fetch status (.validation "status is required for set_status")
  commitTenants db
    (KeyedRows.update (·.id) [tenant.id] (fun row => { row with status := status.text }) db.tenants)

/-- The operational tables that a count reads. -/
def countTables (db : AdminDb) (tables : List String) (concerned : OperationalRow → Bool) :
    List (String × ℕ) :=
  tables.map fun table => (table, db.operations.countP fun row => decide (row.table = table) &&
    concerned row)

def tenantDependencyCounts (db : AdminDb) (tenantId : String) : List (String × ℕ) :=
  [("stores", db.stores.countP (·.tenantId.text = tenantId)),
    ("users", db.users.countP (·.tenantId.text = tenantId))] ++
    countTables db ["stock_items", "transfers", "transfer_lines", "transfer_movements", "sales",
    "sale_lines", "returns",
      "payments", "cash_sessions", "cash_movements", "cash_day_closes", "exports"]
      (·.tenantId.text = tenantId) ++
    [("tenant_role_policies", db.access.tenantRolePolicies.countP
        (·.scope.tenantId = some tenantId)),
      ("store_role_policies", db.access.storeRolePolicies.countP (·.scope.tenantId = tenantId)),
      ("user_permission_overrides", db.access.userPermissionOverrides.countP
      (·.scope.tenantId = tenantId))]

def storeDependencyCounts (db : AdminDb) (storeId : String) : List (String × ℕ) :=
  [("users", db.users.countP (·.storeId.any (·.text = storeId)))] ++
    countTables db ["transfers", "sales", "returns", "cash_sessions", "cash_movements",
    "cash_day_closes", "exports"]
      (·.storeIds.any (·.text = storeId)) ++
    [("store_role_policies", db.access.storeRolePolicies.countP (·.scope.storeId = storeId))]

/-- The templates after a tenant is deleted: its own lose their tenant. -/
def releaseTemplates (templates : AccessControl.RoleTemplateTable) (tenantId : String) :
    AccessControl.RoleTemplateTable where
  rows := templates.rows.map fun template =>
    if template.tenantId = some tenantId then { template with tenantId := none } else template
  distinctIds := by
    have same : (templates.rows.map fun template =>
        if template.tenantId = some tenantId then { template with tenantId := none }
          else template).map (·.id) =
        templates.rows.map (·.id) := by
      rw [List.map_map]
      refine List.map_congr_left fun template _ => ?_
      dsimp only [Function.comp]
      split <;> rfl
    rw [same]
    exact templates.distinctIds
  distinctNames := by
    refine List.Nodup.sublist (List.Sublist.map _ ?_) templates.distinctNames
    generalize templates.rows = rows
    induction rows with
    | nil => exact .refl _
    | cons template rest ih =>
      rw [List.map_cons]
      by_cases released : template.tenantId = some tenantId
      · simpa [released] using ih.cons template
      · cases owner : template.tenantId with
        | none => simpa [owner] using ih
        | some tenant =>
          rw [owner, Option.some_inj] at released
          simpa [owner, released] using ih.cons_cons template

def deleteTenant (db : AdminDb) (tokenData : TokenData) (tenantId : String) :
    Except AdminError AdminDb := do
  requireSuperadmin tokenData
  let tenant ← fetch (getTenantById db tenantId) ⟨.resourceNotFound, "Tenant not found"⟩
  ensure (∀ dependency ∈ tenantDependencyCounts db tenantId, dependency.2 = 0)
    ⟨.conflict, "Cannot delete tenant with active dependencies"⟩
  return { db with
    tenants := db.tenants.filter fun row => row.id ≠ tenant.id
    access := { db.access with roleTemplates := releaseTemplates db.access.roleTemplates tenant.id.text } }

/-! ## Stores -/

structure StoreCreateRequest where
  name : String
  tenantId : Option String := none
deriving DecidableEq, Repr

/-- The tenant of a new store: a platform administrator names one that exists, others create in
theirs. -/
def storeTenant (db : AdminDb) (tokenData : TokenData) (currentUser : User)
    (payload : StoreCreateRequest) (queryTenantId : Option String) : Except AdminError Guid := do
  let tokenTenantId ← tenantIdOrError tokenData
  let queryTid := normalizeOptionalStr queryTenantId
  ensure (isTruthy payload.tenantId → queryTid = none ∨ payload.tenantId = queryTid)
    (.validation "tenant_id mismatch between body and query_tenant_id")
  let requestTenantId := (if isTruthy payload.tenantId then payload.tenantId else queryTid)
  if isSuperadmin currentUser.role then
    let requestTenantId ← fetch requestTenantId ⟨.tenantIdRequiredForSuperadmin,
      "tenant_id is required in request body"⟩
    let tenant ← fetch (getTenantById db requestTenantId) (.validation "tenant_id is invalid")
    return tenant.id
  else
    ensure (requestTenantId.all (· = tokenTenantId.text)) ⟨.crossTenantAccessDenied, ""⟩
    return tokenTenantId

def createStore (db : AdminDb) (tokenData : TokenData) (currentUser : User)
    (payload : StoreCreateRequest) (queryTenantId : Option String) (id : Guid) :
    Except AdminError AdminDb := do
  let _ ← requirePermission db tokenData "STORE_MANAGE"
  let resolvedTenantId ← storeTenant db tokenData currentUser payload queryTenantId
  let db ← draw db id
  commitStores db (db.stores ++ [{ id, tenantId := resolvedTenantId, name := payload.name }])

def updateStore (db : AdminDb) (tokenData : TokenData) (storeId name : String) :
    Except AdminError AdminDb := do
  let _ ← requirePermission db tokenData "STORE_MANAGE"
  let tenantId ← tenantIdOrError tokenData
  let store ← fetch (getStoreByIdInTenant db storeId tenantId.text) ⟨.crossTenantAccessDenied, ""⟩
  commitStores db (KeyedRows.update (·.id) [store.id] (fun row => { row with name }) db.stores)

def deleteStore (db : AdminDb) (tokenData : TokenData) (storeId : String) :
    Except AdminError AdminDb := do
  requireSuperadmin tokenData
  let store ← fetch (getStoreById db storeId) ⟨.resourceNotFound, "Store not found"⟩
  ensure (∀ dependency ∈ storeDependencyCounts db storeId, dependency.2 = 0)
    ⟨.conflict, "Cannot delete store with active dependencies"⟩
  return { db with stores := db.stores.filter fun row => row.id ≠ store.id }

/-! ## Users -/

inductive AdminRole
  | user
  | manager
  | admin
deriving DecidableEq, Repr

def AdminRole.text : AdminRole → String
  | .user => "USER"
  | .manager => "MANAGER"
  | .admin => "ADMIN"

structure UserCreateRequest where
  username : String
  email : String
  password : String
  role : AdminRole := .user
  tenantId : Option String := none
  storeId : String
deriving DecidableEq, Repr

structure UserUpdateRequest where
  username : Option String := none
  email : Option String := none
  storeId : Option String := none
deriving DecidableEq, Repr

inductive AdminUserAction
  | setStatus
  | setRole
  | resetPassword
deriving DecidableEq, Repr

structure UserActionRequest where
  action : AdminUserAction
  status : Option AdminUserStatus := none
  role : Option AdminRole := none
  temporaryPassword : Option String := none
  transactionId : String
deriving DecidableEq, Repr

def validatePassword (platform : Platform) (password : String) : Except AdminError Unit := do
  ensure (8 ≤ password.length) ⟨.passwordTooShort, ""⟩
  ensure (isComplex platform password = true) ⟨.passwordComplexity, ""⟩

/-- The keys that the listing of the caller allows, as a set: those of the catalog that its layers
decide to allow. -/
def allowedPermissions (db : AdminDb) (tokenData : TokenData) (cache : Cache) : Finset String :=
  let service := accessControlService db
  let (_, trace) :=
    ((service.buildEffectivePermissionsWithTrace tokenData.context (some tokenData.scope)).run
      cache).1
  (service.getCatalogPermissions.run cache).1.filter fun key =>
    (AccessControlService.buildDecision (service.getDeniedPermissions tokenData.context)
      trace.templateAllow trace.tenant trace.store trace.user key).allowed = true

/-- The role to assign: no platform role, administrators only by the platform, and otherwise no
permission that the caller is not listed with. -/
def ensureRoleAssignmentAllowed (db : AdminDb) (tokenData : TokenData) (cache : Cache)
    (desiredRole : String) :
    Except AdminError String := do
  let normalized := normalizeRole desiredRole
  ensure (isSuperadmin normalized = false) ⟨.permissionDenied, ""⟩
  ensure (normalized = "ADMIN" → isSuperadmin tokenData.role = true) ⟨.permissionDenied, ""⟩
  let rolePermissions := templatePermissions db.access normalized (tokenData.tenantId.map (·.text))
  ensure (isSuperadmin tokenData.role = true ∨
    rolePermissions ⊆ allowedPermissions db tokenData cache)
    ⟨.permissionDenied, "Role ceiling exceeded"⟩
  return normalized

/-- Callers of a tenant create users in its stores only. -/
def ensureTenantStore (tokenData : TokenData) (store : Store) : Except AdminError Unit :=
  if isSuperadmin tokenData.role then return ()
  else do
    let tokenTenantId ← tenantIdOrError tokenData
    ensure (tokenTenantId = store.tenantId) ⟨.tenantStoreMismatch, ""⟩

def createUser (platform : Platform) (db : AdminDb) (tokenData : TokenData)
    (payload : UserCreateRequest) (salt : String) (id : Guid) : Except AdminError AdminDb := do
  let cache ← requirePermission db tokenData "USER_MANAGE"
  let store ← fetch (getStoreById db payload.storeId) ⟨.storeNotFound, ""⟩
  ensure ((normalizeOptionalStr payload.tenantId).all (· = store.tenantId.text))
    (.validation "tenant_id does not match store tenant")
  ensureTenantStore tokenData store
  validatePassword platform payload.password
  let role ← ensureRoleAssignmentAllowed db tokenData cache payload.role.text
  let db ← draw db id
  commitUsers db (db.users ++
    [{ id, tenantId := store.tenantId, storeId := some store.id, username := payload.username,
       email := payload.email, hashedPassword := platform.hash salt payload.password, role,
       status := "ACTIVE", mustChangePassword := true, isActive := true }])

/-- The store that a user is moved to, if any: one of the tenant. -/
def updatedStore (db : AdminDb) (tenantId : String) (storeId : Option String) : Except AdminError
    (Option Guid) :=
  match storeId with
  | none => return none
  | some storeId => do
    ensure (storeId ≠ "") ⟨.integrityError, ""⟩
    let store ← fetch (getStoreByIdInTenant db storeId tenantId) ⟨.tenantStoreMismatch, ""⟩
    return some store.id

def UserUpdateRequest.apply (payload : UserUpdateRequest) (storeId : Option Guid) (user : User) :
    User :=
  { user with
    username := payload.username.getD user.username
    email := payload.email.getD user.email
    storeId := storeId.or user.storeId }

def updateUser (db : AdminDb) (tokenData : TokenData) (userId : String)
    (payload : UserUpdateRequest) (tenantId : Option String) : Except AdminError AdminDb := do
  let _ ← requirePermission db tokenData "USER_MANAGE"
  let requestedTenantId := normalizeOptionalStr tenantId
  let effective ← effectiveTenantId tokenData requestedTenantId
  let user ← fetch (getUserByIdInTenant db userId effective) ⟨.crossTenantAccessDenied, ""⟩
  ensure (payload.username ≠ none ∨ payload.email ≠ none ∨ payload.storeId ≠ none)
    (.validation "At least one field must be provided")
  let storeId ← updatedStore db effective payload.storeId
  -- The record of the request is kept under the tenant of the query, without which it cannot be
  -- created.
  let _ ← fetch requestedTenantId ⟨.idempotencyRequestInProgress, ""⟩
  commitUsers db (changeUser user (payload.apply storeId) db.users)

def deleteUser (db : AdminDb) (tokenData : TokenData) (userId : String) :
    Except AdminError AdminDb := do
  requireSuperadmin tokenData
  let user ← fetch (getUserById db userId) ⟨.resourceNotFound, "User not found"⟩
  ensure (∀ row ∈ db.operations, row.table = "transfers" → ∀ actor ∈ row.userIds,
    actor.text ≠ userId) ⟨.conflict, "Resource conflict"⟩
  return { db with
    users := db.users.filter fun row => row.id ≠ user.id
    access := { db.access with
      userPermissionOverrides := db.access.userPermissionOverrides.filter fun entry =>
        entry.scope.userId ≠ userId } }

def isStoreBoundActor (tokenData : TokenData) : Bool :=
  decide (tokenData.role.toUpper ∈ ["MANAGER", "USER"]) && tokenData.storeId.isSome

def enforceUserStoreScope (tokenData : TokenData) (user : User) : Except AdminError Unit :=
  ensure (isSuperadmin tokenData.role = true ∨ tokenData.storeId = none ∨
    user.storeId = tokenData.storeId) ⟨.storeScopeMismatch, ""⟩

/-- The user that an action is for: platform administrators reach everyone, others the users of
their tenant, and those who are bound to a store only the users of that store. -/
def actionTarget (db : AdminDb) (tokenData : TokenData) (userId : String) :
    Except AdminError User :=
  if isSuperadmin tokenData.role then fetch (getUserById db userId) ⟨.crossTenantAccessDenied, ""⟩
  else do
    let tenantId ← tenantIdOrError tokenData
    let user ← fetch (getUserByIdInTenant db userId tenantId.text) ⟨.crossTenantAccessDenied, ""⟩
    if isStoreBoundActor tokenData then enforceUserStoreScope tokenData user
    return user

/-- What an action makes of the row of its user. The temporary password that the server generates is
one that the check of passwords accepts. -/
def userChange (platform : Platform) (db : AdminDb) (tokenData : TokenData) (cache : Cache)
    (payload : UserActionRequest) (generated salt : String) : Except AdminError (User → User) :=
  match payload.action with
  | .setStatus => do
    let status ← fetch payload.status (.validation "status is required for set_status")
    return fun row => { row with status := status.text, isActive := decide (status = .active) }
  | .setRole => do
    let role ← fetch payload.role (.validation "role is required for set_role")
    let role ← ensureRoleAssignmentAllowed db tokenData cache role.text
    return fun row => { row with role }
  | .resetPassword => do
    let temporaryPassword := (orElse payload.temporaryPassword (some generated)).getD ""
    validatePassword platform temporaryPassword
    return fun row => { row with hashedPassword := platform.hash salt temporaryPassword,
                                 mustChangePassword := true }

def userActions (platform : Platform) (db : AdminDb) (tokenData : TokenData) (userId : String)
    (payload : UserActionRequest) (generated salt : String) : Except AdminError AdminDb := do
  let cache ← requirePermission db tokenData "USER_MANAGE"
  let user ← actionTarget db tokenData userId
  ensure (payload.transactionId ≠ "") (.validation "transaction_id is required")
  let change ← userChange platform db tokenData cache payload generated salt
  commitUsers db (changeUser user change db.users)

/-! ## Templates and policies -/

structure ReplacePolicyRequest where
  allow : List String := []
  deny : List String := []
  transactionId : Option String := none
deriving DecidableEq, Repr

structure PatchOverridesRequest where
  allow : Option (List String) := none
  deny : Option (List String) := none
  transactionId : Option String := none
deriving DecidableEq, Repr

def requireTransactionId (transactionId : Option String) : Except AdminError Unit :=
  ensure (isTruthy transactionId) (.validation "transaction_id is required")

/-- Write templates and policies. -/
def writePolicy (db : AdminDb) (call : PolicyRequest) : Except AdminError AdminDb :=
  match policyCall db.access call with
  | .ok (_, access) => return { db with access }
  | .error error => throw ⟨.policy error.code, error.message⟩

def enforceTenantScope (tokenData : TokenData) (tenantId : String) : Except AdminError Unit := do
  let tokenTenantId ← fetch tokenData.tenantId ⟨.tenantScopeRequired, ""⟩
  ensure (tenantId ≠ "") ⟨.tenantScopeRequired, ""⟩
  ensure (tokenTenantId.text = tenantId ∨ isSuperadmin tokenData.role = true)
    ⟨.crossTenantAccessDenied, ""⟩

/-- The store of a policy; only superadmins are not bound to the store of their token. -/
def enforceStoreScope (db : AdminDb) (tokenData : TokenData) (storeId : String) :
    Except AdminError Store := do
  ensure (storeId ≠ "") ⟨.storeScopeRequired, ""⟩
  let tokenTenantId ← fetch tokenData.tenantId ⟨.tenantScopeRequired, ""⟩
  let store ← fetch (getStoreById db storeId) ⟨.storeScopeMismatch, ""⟩
  if store.tenantId ≠ tokenTenantId then
    ensure (isSuperadmin tokenData.role = true) ⟨.storeScopeMismatch, ""⟩
  else
    ensure (tokenData.role.toUpper = "SUPERADMIN" ∨ tokenData.storeId.all (·.text = storeId))
      ⟨.storeScopeMismatch, ""⟩
  return store

def adminReplaceRoleTemplate (db : AdminDb) (tokenData : TokenData) (roleName : String)
    (permissions : List String) (transactionId : Option String) : Except AdminError AdminDb := do
  requireSuperadmin tokenData
  requireTransactionId transactionId
  writePolicy db (.replaceRoleTemplatePermissions none roleName.toUpper permissions)

def adminReplaceTenantRolePolicy (db : AdminDb) (tokenData : TokenData) (roleName : String)
    (payload : ReplacePolicyRequest) : Except AdminError AdminDb := do
  requireAdmin tokenData
  let tenantId ← tenantIdOrError tokenData
  requireTransactionId payload.transactionId
  writePolicy db
    (.replaceTenantRolePolicy ⟨some tenantId.text, roleName.toUpper⟩ payload.allow payload.deny
    (!isSuperadmin tokenData.role))

def adminReplaceStoreRolePolicy (db : AdminDb) (tokenData : TokenData) (storeId roleName : String)
    (payload : ReplacePolicyRequest) : Except AdminError AdminDb := do
  requireAdmin tokenData
  let tenantId ← tenantIdOrError tokenData
  let store ← enforceStoreScope db tokenData storeId
  ensure (store.tenantId = tenantId) ⟨.storeScopeMismatch, ""⟩
  requireTransactionId payload.transactionId
  writePolicy db
    (.replaceStoreRolePolicy ⟨tenantId.text, storeId, roleName.toUpper⟩ payload.allow payload.deny
    (!isSuperadmin tokenData.role))

def adminPatchUserOverrides (db : AdminDb) (tokenData : TokenData) (userId : String)
    (payload : PatchOverridesRequest) (tenantId : Option String) : Except AdminError AdminDb := do
  requireAdmin tokenData
  let requestedTenantId := normalizeOptionalStr tenantId
  let effective ← effectiveTenantId tokenData requestedTenantId
  let user ← fetch (getUserByIdInTenant db userId effective) ⟨.crossTenantAccessDenied, ""⟩
  enforceUserStoreScope tokenData user
  requireTransactionId payload.transactionId
  let _ ← fetch requestedTenantId ⟨.idempotencyRequestInProgress, ""⟩
  let before := AccessControl.getUserOverrides db.access ⟨effective, userId⟩
  writePolicy db
    (.replaceUserOverrides ⟨effective, userId⟩
    (payload.allow.getD (AccessControl.sortedKeys before.allow))
    (payload.deny.getD (AccessControl.sortedKeys before.deny)) (!isSuperadmin tokenData.role))

def replaceTenantRolePolicy (db : AdminDb) (tokenData : TokenData) (tenantId roleName : String)
    (payload : ReplacePolicyRequest) : Except AdminError AdminDb := do
  requireAdmin tokenData
  enforceTenantScope tokenData tenantId
  requireTransactionId payload.transactionId
  writePolicy db
    (.replaceTenantRolePolicy ⟨some tenantId, roleName.toUpper⟩ payload.allow payload.deny
    (!isSuperadmin tokenData.role))

def replaceStoreRolePolicy (db : AdminDb) (tokenData : TokenData)
    (tenantId storeId roleName : String) (payload : ReplacePolicyRequest) :
    Except AdminError AdminDb := do
  requireAdmin tokenData
  enforceTenantScope tokenData tenantId
  let store ← enforceStoreScope db tokenData storeId
  ensure (store.tenantId.text = tenantId) ⟨.storeScopeMismatch, ""⟩
  requireTransactionId payload.transactionId
  writePolicy db
    (.replaceStoreRolePolicy ⟨tenantId, storeId, roleName.toUpper⟩ payload.allow payload.deny
    (!isSuperadmin tokenData.role))

def replaceUserPermissionOverrides (db : AdminDb) (tokenData : TokenData) (tenantId userId : String)
    (payload : ReplacePolicyRequest) : Except AdminError AdminDb := do
  requireAdmin tokenData
  enforceTenantScope tokenData tenantId
  let user ← fetch (getUserById db userId) ⟨.crossTenantAccessDenied, ""⟩
  ensure (user.tenantId.text = tenantId) ⟨.crossTenantAccessDenied, ""⟩
  enforceUserStoreScope tokenData user
  requireTransactionId payload.transactionId
  writePolicy db (.replaceUserOverrides ⟨tenantId, userId⟩ payload.allow payload.deny
    (!isSuperadmin tokenData.role))

def replacePlatformRolePolicy (db : AdminDb) (tokenData : TokenData) (roleName : String)
    (payload : ReplacePolicyRequest) : Except AdminError AdminDb := do
  requireSuperadmin tokenData
  requireTransactionId payload.transactionId
  writePolicy db
    (.replaceTenantRolePolicy ⟨none, roleName.toUpper⟩ payload.allow payload.deny false)

/-! ## Requests -/

/-- The requests of a caller with a token that write the tables. -/
inductive AdminCall
  | changePassword (currentPassword newPassword salt : String)
  | createTenant (name : String) (id : Guid)
  | updateTenant (tenantId name : String)
  | tenantActions (tenantId : String) (status : Option AdminUserStatus)
  | deleteTenant (tenantId : String)
  | createStore (payload : StoreCreateRequest) (queryTenantId : Option String) (id : Guid)
  | updateStore (storeId name : String)
  | deleteStore (storeId : String)
  | createUser (payload : UserCreateRequest) (salt : String) (id : Guid)
  | updateUser (userId : String) (payload : UserUpdateRequest) (tenantId : Option String)
  | deleteUser (userId : String)
  | userActions (userId : String) (payload : UserActionRequest) (generated salt : String)
  | adminReplaceRoleTemplate (roleName : String) (permissions : List String)
      (transactionId : Option String)
  | adminReplaceTenantRolePolicy (roleName : String) (payload : ReplacePolicyRequest)
  | adminReplaceStoreRolePolicy (storeId roleName : String) (payload : ReplacePolicyRequest)
  | adminPatchUserOverrides (userId : String) (payload : PatchOverridesRequest)
      (tenantId : Option String)
  | replaceTenantRolePolicy (tenantId roleName : String) (payload : ReplacePolicyRequest)
  | replaceStoreRolePolicy (tenantId storeId roleName : String) (payload : ReplacePolicyRequest)
  | replaceUserPermissionOverrides (tenantId userId : String) (payload : ReplacePolicyRequest)
  | replacePlatformRolePolicy (roleName : String) (payload : ReplacePolicyRequest)
deriving DecidableEq

/-- A request logs in or presents a token. -/
inductive AdminRequest
  | login (identifier password : String)
  | call (tokenData : TokenData) (call : AdminCall)
deriving DecidableEq

def adminCall (platform : Platform) (db : AdminDb) (tokenData : TokenData) (currentUser : User) :
    AdminCall → Except AdminError AdminDb
  | .changePassword currentPassword newPassword salt =>
    changePassword platform db currentUser currentPassword newPassword salt
  | .createTenant name id => createTenant db tokenData name id
  | .updateTenant tenantId name => updateTenant db tokenData tenantId name
  | .tenantActions tenantId status => tenantActions db tokenData tenantId status
  | .deleteTenant tenantId => deleteTenant db tokenData tenantId
  | .createStore payload queryTenantId id =>
    createStore db tokenData currentUser payload queryTenantId id
  | .updateStore storeId name => updateStore db tokenData storeId name
  | .deleteStore storeId => deleteStore db tokenData storeId
  | .createUser payload salt id => createUser platform db tokenData payload salt id
  | .updateUser userId payload tenantId => updateUser db tokenData userId payload tenantId
  | .deleteUser userId => deleteUser db tokenData userId
  | .userActions userId payload generated salt =>
    userActions platform db tokenData userId payload generated salt
  | .adminReplaceRoleTemplate roleName permissions transactionId =>
    adminReplaceRoleTemplate db tokenData roleName permissions transactionId
  | .adminReplaceTenantRolePolicy roleName payload =>
    adminReplaceTenantRolePolicy db tokenData roleName payload
  | .adminReplaceStoreRolePolicy storeId roleName payload =>
    adminReplaceStoreRolePolicy db tokenData storeId roleName payload
  | .adminPatchUserOverrides userId payload tenantId =>
    adminPatchUserOverrides db tokenData userId payload tenantId
  | .replaceTenantRolePolicy tenantId roleName payload =>
    replaceTenantRolePolicy db tokenData tenantId roleName payload
  | .replaceStoreRolePolicy tenantId storeId roleName payload =>
    replaceStoreRolePolicy db tokenData tenantId storeId roleName payload
  | .replaceUserPermissionOverrides tenantId userId payload =>
    replaceUserPermissionOverrides db tokenData tenantId userId payload
  | .replacePlatformRolePolicy roleName payload =>
    replacePlatformRolePolicy db tokenData roleName payload

/-- A token is one that was handed out, and its account is active now. -/
def adminStep (platform : Platform) (db : AdminDb) : AdminRequest → Except AdminError AdminDb
  | .login identifier password => do
    let (_, token) ← login platform db identifier password
    return { db with issued := db.issued ++ [token] }
  | .call tokenData call => do
    ensure (tokenData ∈ db.issued) ⟨.invalidToken, ""⟩
    let currentUser ← requireActiveUser db tokenData
    adminCall platform db tokenData currentUser call

end ArisCloud.Administration
