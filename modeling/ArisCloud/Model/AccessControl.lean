import Mathlib.Data.Finset.Sort
import Mathlib.Data.List.Sort
import Mathlib.Data.String.Basic
import ArisCloud.Library.Overlays
import ArisCloud.Model.Scope

/-! # Permissions

A permission is granted by the template of the caller's role and by the policies of the tenant, the
store and the user, which may also deny it. One service evaluates and lists permissions with the
cache of its request, another one replaces templates and policies. Identifiers are texts here, as in
tokens and request contexts, where an empty one counts as missing.
-/

namespace ArisCloud.AccessControl

open Checked (ensure fetch)
open Overlays (Overlay entriesOf replaceEntries)

/-! ## Tables -/

structure PermissionCatalog where
  id : ℕ
  code : String
deriving DecidableEq, Repr

structure RoleTemplate where
  id : ℕ
  tenantId : Option String
  name : String
deriving DecidableEq, Repr

structure RoleTemplatePermission where
  roleTemplateId : ℕ
  permissionId : ℕ
deriving DecidableEq, Repr

/-- The role of a tenant, or of the platform, that a policy is for. -/
structure TenantRole where
  tenantId : Option String
  roleName : String
deriving DecidableEq, Repr

structure StoreRole where
  tenantId : String
  storeId : String
  roleName : String
deriving DecidableEq, Repr

structure TenantUser where
  tenantId : String
  userId : String
deriving DecidableEq, Repr

/-- A row of a policy: it allows or denies a permission to whom the policy is for. -/
structure PolicyEntry (τ : Type) where
  scope : τ
  permissionCode : String
  effect : String
deriving DecidableEq, Repr

abbrev TenantRolePolicy := PolicyEntry TenantRole

abbrev StoreRolePolicy := PolicyEntry StoreRole

abbrev UserPermissionOverride := PolicyEntry TenantUser

/-- The catalog, in which ids and codes are unique. -/
structure CatalogTable where
  rows : List PermissionCatalog := []
  distinctIds : (rows.map (·.id)).Nodup
  distinctCodes : (rows.map (·.code)).Nodup
deriving DecidableEq

/-- The role templates: a tenant has one template of a name, the platform may have several. -/
structure RoleTemplateTable where
  rows : List RoleTemplate := []
  distinctIds : (rows.map (·.id)).Nodup
  distinctNames :
    ((rows.filter (·.tenantId.isSome)).map fun template => (template.tenantId, template.name)).Nodup
deriving DecidableEq

structure AccessDb where
  permissionCatalog : CatalogTable
  roleTemplates : RoleTemplateTable
  roleTemplatePermissions : List RoleTemplatePermission := []
  tenantRolePolicies : List TenantRolePolicy := []
  storeRolePolicies : List StoreRolePolicy := []
  userPermissionOverrides : List UserPermissionOverride := []
deriving DecidableEq

/-! ## Repositories -/

/-- Permission keys in order. -/
def sortedKeys (keys : Finset String) : List String := keys.sort (· ≤ ·)

def catalogCodes (db : AccessDb) : Finset String :=
  (db.permissionCatalog.rows.map (·.code)).toFinset

def getRoleTemplate (db : AccessDb) (roleName : String) (tenantId : Option String) :
    Option RoleTemplate :=
  db.roleTemplates.rows.find? fun template => template.name = roleName ∧
    template.tenantId = tenantId

/-- The codes of the permissions that a template is joined with. -/
def listPermissionsForRoleTemplate (db : AccessDb) (roleTemplateId : ℕ) : List String :=
  (db.roleTemplatePermissions.filter (·.roleTemplateId = roleTemplateId)).flatMap fun link =>
    (db.permissionCatalog.rows.filter (·.id = link.permissionId)).map (·.code)

def listPermissionsForRole (db : AccessDb) (roleName : String) (tenantId : Option String) :
    List String :=
  (db.roleTemplates.rows.filter fun template => template.name = roleName ∧
    template.tenantId = tenantId).flatMap fun template =>
    listPermissionsForRoleTemplate db template.id

def listTenantRolePolicies (db : AccessDb) (scope : TenantRole) : List TenantRolePolicy :=
  entriesOf (·.scope) scope db.tenantRolePolicies

def listStoreRolePolicies (db : AccessDb) (scope : StoreRole) : List StoreRolePolicy :=
  entriesOf (·.scope) scope db.storeRolePolicies

def listUserOverrides (db : AccessDb) (scope : TenantUser) : List UserPermissionOverride :=
  entriesOf (·.scope) scope db.userPermissionOverrides

/-- The codes as a set, in their order. -/
def sortedSet (codes : List String) : List String := codes.dedup.insertionSort (· ≤ ·)

/-- The rows that join a template with the permissions of the codes. -/
def templateLinks (db : AccessDb) (roleTemplateId : ℕ) (permissionCodes : List String) :
    List RoleTemplatePermission :=
  (sortedSet permissionCodes).filterMap fun code =>
    (db.permissionCatalog.rows.find? (·.code = code)).map fun permission =>
      { roleTemplateId, permissionId := permission.id }

def replaceTemplatePermissions (db : AccessDb) (roleTemplateId : ℕ)
    (permissionCodes : List String) : AccessDb :=
  { db with
    roleTemplatePermissions :=
      replaceEntries (·.roleTemplateId) roleTemplateId db.roleTemplatePermissions
        (templateLinks db roleTemplateId permissionCodes) }

/-! ## Evaluating and listing permissions -/

def EFFECT_ALLOW : String := "allow"

def EFFECT_DENY : String := "deny"

/-- What the entries of a policy allow and deny; every effect other than a denial allows. -/
def partitionEntries {τ : Type} (entries : List (PolicyEntry τ)) : Overlay String :=
  entries.foldl (fun layer entry =>
    if entry.effect.toLower = EFFECT_DENY then
      { layer with deny := insert entry.permissionCode layer.deny }
    else { layer with allow := insert entry.permissionCode layer.allow }) {}

structure RequestContext where
  userId : Option String
  tenantId : Option String
  storeId : Option String
  role : Option String
deriving DecidableEq, Repr

structure TokenData where
  tenantId : Option String
  storeId : Option String
  role : String
deriving DecidableEq, Repr

structure PermissionDecision where
  key : String
  allowed : Bool
  source : String
deriving DecidableEq, Repr

/-- What a request has read so far, by kind and by the text of the key. -/
structure Cache where
  catalogPermissions : Option (Finset String) := none
  rolePermissions : List (String × Finset String) := []
  tenantPolicies : List (String × Overlay String) := []
  storePolicies : List (String × Overlay String) := []
  userOverrides : List (String × Overlay String) := []
deriving DecidableEq

/-- An absent value in the text of a key. -/
def keyText (value : Option String) : String := value.getD "None"

structure AccessControlService where
  db : AccessDb
  denyResolvers : List (RequestContext → List String) := []

namespace AccessControlService

variable (service : AccessControlService)

/-- The cached value, or the answer of the query, which is cached. -/
def cached {α : Type} (lookup : Cache → Option α) (store : α → Cache → Cache) (query : α) :
    StateM Cache α := do
  match lookup (← get) with
  | some value => return value
  | none =>
    modify (store query)
    return query

def getCatalogPermissions : StateM Cache (Finset String) :=
  cached (·.catalogPermissions) (fun codes cache => { cache with catalogPermissions := some codes })
    (catalogCodes service.db)

/-- The permissions of a role's template; a tenant without any falls back to the template of the
platform. -/
def templatePermissions (db : AccessDb) (roleName : String) (tenantId : Option String) :
    Finset String :=
  let permissions := (listPermissionsForRole db roleName tenantId).toFinset
  if permissions = ∅ ∧ tenantId ≠ none then (listPermissionsForRole db roleName none).toFinset
    else permissions

def getAllowedPermissions (roleName : String) (tenantId : Option String) :
    StateM Cache (Finset String) :=
  let key := s!"{keyText tenantId}:{roleName}"
  cached (fun cache => cache.rolePermissions.lookup key)
    (fun codes cache => { cache with rolePermissions := (key, codes) :: cache.rolePermissions })
    (templatePermissions service.db roleName tenantId)

def getTenantRolePolicy (tenantId : Option String) (roleName : Option String) :
    StateM Cache (Overlay String) :=
  match roleName with
  | none => return {}
  | some roleName =>
    let key := s!"{keyText tenantId}:{roleName}"
    cached (fun cache => cache.tenantPolicies.lookup key)
      (fun layer cache => { cache with tenantPolicies := (key, layer) :: cache.tenantPolicies })
      (partitionEntries (listTenantRolePolicies service.db { tenantId, roleName }))

def getUserOverrides (tenantId : Option String) (userId : Option String) :
    StateM Cache (Overlay String) :=
  match tenantId.filter (· ≠ ""), userId.filter (· ≠ "") with
  | some tenantId, some userId =>
    let key := s!"{tenantId}:{userId}"
    cached (fun cache => cache.userOverrides.lookup key)
      (fun layer cache => { cache with userOverrides := (key, layer) :: cache.userOverrides })
      (partitionEntries (listUserOverrides service.db { tenantId, userId }))
  | _, _ => return {}

def getStoreRolePolicy (tenantId storeId roleName : Option String) :
    StateM Cache (Overlay String) :=
  match tenantId.filter (· ≠ ""), storeId.filter (· ≠ ""), roleName with
  | some tenantId, some storeId, some roleName =>
    let key := s!"{tenantId}:{storeId}:{roleName}"
    cached (fun cache => cache.storePolicies.lookup key)
      (fun layer cache => { cache with storePolicies := (key, layer) :: cache.storePolicies })
      (partitionEntries (listStoreRolePolicies service.db { tenantId, storeId, roleName }))
  | _, _, _ => return {}

def getDeniedPermissions (context : RequestContext) : List String :=
  service.denyResolvers.flatMap fun resolver => resolver context

/-- The role in capitals, the tenant and the store: those of the context, or else those of the
token. -/
def resolveRoleScope (context : RequestContext) (tokenData : Option TokenData) :
    Option String × Option String × Option String :=
  let role := ((orElse context.role (tokenData.map (·.role))).getD "").toUpper
  (if role = "" then none else some role, orElse context.tenantId (tokenData.bind (·.tenantId)),
    orElse context.storeId (tokenData.bind (·.storeId)))

def evaluatePermission (permissionKey : String) (context : RequestContext)
    (tokenData : Option TokenData) :
    StateM Cache PermissionDecision := do
  let normalizedKey := strip permissionKey
  let catalog ← service.getCatalogPermissions
  if normalizedKey ∉ catalog then return ⟨normalizedKey, false, "unknown_permission"⟩
  let (roleName, tenantId, storeId) := resolveRoleScope context tokenData
  match roleName with
  | none => return ⟨normalizedKey, false, "default_deny"⟩
  | some roleName =>
    let baseAllowed ← service.getAllowedPermissions roleName tenantId
    let tenant ← service.getTenantRolePolicy tenantId (some roleName)
    let store ← service.getStoreRolePolicy tenantId storeId (some roleName)
    let user ← service.getUserOverrides tenantId context.userId
    let denyPermissions := service.getDeniedPermissions context
    if normalizedKey ∈ denyPermissions then return ⟨normalizedKey, false, "explicit_deny"⟩
    if normalizedKey ∈ user.deny then return ⟨normalizedKey, false, "user_override_deny"⟩
    if normalizedKey ∈ store.deny then return ⟨normalizedKey, false, "store_policy_deny"⟩
    if normalizedKey ∈ tenant.deny then return ⟨normalizedKey, false, "tenant_policy_deny"⟩
    if normalizedKey ∈ user.allow then return ⟨normalizedKey, true, "user_override_allow"⟩
    if normalizedKey ∈ store.allow then return ⟨normalizedKey, true, "store_policy_allow"⟩
    if normalizedKey ∈ tenant.allow then return ⟨normalizedKey, true, "tenant_policy_allow"⟩
    if normalizedKey ∈ baseAllowed then return ⟨normalizedKey, true, "role_template"⟩
    return ⟨normalizedKey, false, "default_deny"⟩

/-- The decision on a key of the catalog: template, tenant policy, store policy, user override, with
denials first. -/
def buildDecision (denyPermissions : List String) (baseAllowed : Finset String)
    (tenant store user : Overlay String) (key : String) : PermissionDecision :=
  if key ∈ denyPermissions then ⟨key, false, "explicit_deny"⟩
  else if key ∈ user.deny then ⟨key, false, "user_override_deny"⟩
  else if key ∈ store.deny then ⟨key, false, "store_policy_deny"⟩
  else if key ∈ tenant.deny then ⟨key, false, "tenant_policy_deny"⟩
  else if key ∈ user.allow then ⟨key, true, "user_override_allow"⟩
  else if key ∈ store.allow then ⟨key, true, "store_policy_allow"⟩
  else if key ∈ tenant.allow then ⟨key, true, "tenant_policy_allow"⟩
  else if key ∈ baseAllowed then ⟨key, true, "role_template"⟩
  else ⟨key, false, "default_deny"⟩

/-- The layers that a listing read. -/
structure PermissionTrace where
  templateAllow : Finset String
  tenant : Overlay String
  store : Overlay String
  user : Overlay String

def buildEffectivePermissionsWithTrace (context : RequestContext) (tokenData : Option TokenData) :
    StateM Cache (List PermissionDecision × PermissionTrace) := do
  let (roleName, tenantId, storeId) := resolveRoleScope context tokenData
  let catalog := (← service.getCatalogPermissions).sort (· ≤ ·)
  let denyPermissions := service.getDeniedPermissions context
  let baseAllowed ← (match roleName with
    | some roleName => service.getAllowedPermissions roleName tenantId
    | none => pure ∅)
  let tenant ← (if roleName.isSome then service.getTenantRolePolicy tenantId roleName else pure {})
  let store ← (if roleName.isSome then service.getStoreRolePolicy tenantId storeId roleName
    else pure {})
  let user ← service.getUserOverrides tenantId context.userId
  return (catalog.map (buildDecision denyPermissions baseAllowed tenant store user),
    { templateAllow := baseAllowed, tenant, store, user })

def buildEffectivePermissions (context : RequestContext) (tokenData : Option TokenData) :
    StateM Cache (List PermissionDecision) := do
  let (decisions, _) ← service.buildEffectivePermissionsWithTrace context tokenData
  return decisions

end AccessControlService

end ArisCloud.AccessControl
