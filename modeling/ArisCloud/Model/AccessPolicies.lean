import ArisCloud.Model.AccessControl

/-! # Replacing templates and policies

Each call replaces one template or one policy as a whole and reports what it held before and holds
after. Policies of roles are for managers and users only, and an administrator allows no more than
the ceiling of the tenant.
-/

namespace ArisCloud.AccessControl

open Checked (ensure fetch)
open Overlays (Overlay replaceEntries)
open AccessControlService (templatePermissions)

def ALLOWED_ROLE_POLICIES : List String := ["MANAGER", "USER"]

structure PolicySnapshot where
  allow : List String
  deny : List String
deriving DecidableEq, Repr

structure RoleTemplateSnapshot where
  permissions : List String
deriving DecidableEq, Repr

def validateCodes (db : AccessDb) (codes : List String) : Except AppError Unit :=
  ensure (∀ code ∈ codes, code ∈ catalogCodes db) (.validation "Unknown permission code")

def validateAllowDeny (allow deny : List String) : Except AppError Unit :=
  ensure (∀ code ∈ allow, code ∉ deny) (.validation "Permission in both allow and deny")

def validateRolePolicyRole (roleName : String) : Except AppError Unit :=
  ensure (roleName.toUpper ∈ ALLOWED_ROLE_POLICIES)
    (.validation "Role policies limited to MANAGER and USER")

/-- What an administrator of the tenant may allow: the permissions of the administrators'
template. -/
def tenantAdminCeiling (db : AccessDb) (tenantId : Option String) : Finset String :=
  let permissions := (listPermissionsForRole db "ADMIN" tenantId).toFinset
  if permissions = ∅ ∧ tenantId ≠ none then (listPermissionsForRole db "ADMIN" none).toFinset
    else permissions

def enforceAdminCeiling (db : AccessDb) (tenantId : Option String) (allow : List String)
    (enforceCeiling : Bool) :
    Except AppError Unit :=
  if enforceCeiling then
    ensure (allow.toFinset ⊆ tenantAdminCeiling db tenantId)
      ⟨.permissionDenied, "ADMIN ceiling exceeded"⟩
  else return ()

/-- The checks of an overlay that every kind of policy shares. -/
def validatePolicy (db : AccessDb) (tenantId : Option String) (allow deny : List String)
    (enforceCeiling : Bool) :
    Except AppError Unit := do
  validateAllowDeny allow deny
  validateCodes db (allow ++ deny)
  enforceAdminCeiling db tenantId allow enforceCeiling

/-- The rows of a policy. -/
def buildEntries {τ : Type} (scope : τ) (allow deny : List String) : List (PolicyEntry τ) :=
  (sortedSet allow).map (fun permissionCode => { scope, permissionCode, effect := EFFECT_ALLOW }) ++
    (sortedSet deny).map fun permissionCode => { scope, permissionCode, effect := EFFECT_DENY }

/-! ## Reading -/

def getRoleTemplateSnapshot (db : AccessDb) (tenantId : Option String) (roleName : String) :
    Except AppError RoleTemplateSnapshot := do
  let roleTemplate ← fetch (getRoleTemplate db roleName tenantId)
    (.validation "Role template not found")
  return { permissions := sortedSet (listPermissionsForRoleTemplate db roleTemplate.id) }

def getTenantRolePolicy (db : AccessDb) (scope : TenantRole) : Overlay String :=
  partitionEntries (listTenantRolePolicies db scope)

def getStoreRolePolicy (db : AccessDb) (scope : StoreRole) : Overlay String :=
  partitionEntries (listStoreRolePolicies db scope)

def getUserOverrides (db : AccessDb) (scope : TenantUser) : Overlay String :=
  partitionEntries (listUserOverrides db scope)

/-! ## Replacing -/

def replaceRoleTemplatePermissions (db : AccessDb) (tenantId : Option String) (roleName : String)
    (permissions : List String) :
    Except AppError (RoleTemplateSnapshot × RoleTemplateSnapshot × AccessDb) := do
  validateCodes db permissions
  let roleTemplate ← fetch (getRoleTemplate db roleName tenantId)
    (.validation "Role template not found")
  let before ← getRoleTemplateSnapshot db tenantId roleName
  return (before, { permissions := sortedSet permissions },
    replaceTemplatePermissions db roleTemplate.id permissions)

/-- The lists of a policy after its replacement. -/
def PolicySnapshot.of (allow deny : List String) : PolicySnapshot :=
  { allow := sortedSet allow, deny := sortedSet deny }

def replaceTenantRolePolicy (db : AccessDb) (scope : TenantRole) (allow deny : List String)
    (enforceCeiling : Bool) :
    Except AppError (Overlay String × PolicySnapshot × AccessDb) := do
  validateRolePolicyRole scope.roleName
  validatePolicy db scope.tenantId allow deny enforceCeiling
  return (getTenantRolePolicy db scope, .of allow deny,
    { db with
      tenantRolePolicies :=
        replaceEntries (·.scope) scope db.tenantRolePolicies (buildEntries scope allow deny) })

def replaceStoreRolePolicy (db : AccessDb) (scope : StoreRole) (allow deny : List String)
    (enforceCeiling : Bool) :
    Except AppError (Overlay String × PolicySnapshot × AccessDb) := do
  validateRolePolicyRole scope.roleName
  validatePolicy db (some scope.tenantId) allow deny enforceCeiling
  return (getStoreRolePolicy db scope, .of allow deny,
    { db with
      storeRolePolicies :=
        replaceEntries (·.scope) scope db.storeRolePolicies (buildEntries scope allow deny) })

def replaceUserOverrides (db : AccessDb) (scope : TenantUser) (allow deny : List String)
    (enforceCeiling : Bool) :
    Except AppError (Overlay String × PolicySnapshot × AccessDb) := do
  validatePolicy db (some scope.tenantId) allow deny enforceCeiling
  return (getUserOverrides db scope, .of allow deny,
    { db with userPermissionOverrides := replaceEntries (·.scope) scope db.userPermissionOverrides
                (buildEntries scope allow deny) })

/-! ## Calls -/

/-- The calls that write templates and policies. -/
inductive PolicyRequest
  | replaceRoleTemplatePermissions (tenantId : Option String) (roleName : String)
      (permissions : List String)
  | replaceTenantRolePolicy (scope : TenantRole) (allow deny : List String) (enforceCeiling : Bool)
  | replaceStoreRolePolicy (scope : StoreRole) (allow deny : List String) (enforceCeiling : Bool)
  | replaceUserOverrides (scope : TenantUser) (allow deny : List String) (enforceCeiling : Bool)
deriving DecidableEq, Repr

/-- What a call reports to have written. -/
inductive Report
  | template (tenantId : Option String) (roleName : String) (after : RoleTemplateSnapshot)
  | tenantRole (scope : TenantRole) (after : PolicySnapshot)
  | storeRole (scope : StoreRole) (after : PolicySnapshot)
  | user (scope : TenantUser) (after : PolicySnapshot)
deriving DecidableEq, Repr

def policyCall (db : AccessDb) : PolicyRequest → Except AppError (Report × AccessDb)
  | .replaceRoleTemplatePermissions tenantId roleName permissions => do
    let (_, after, next) ← replaceRoleTemplatePermissions db tenantId roleName permissions
    return (.template tenantId roleName after, next)
  | .replaceTenantRolePolicy scope allow deny enforceCeiling => do
    let (_, after, next) ← replaceTenantRolePolicy db scope allow deny enforceCeiling
    return (.tenantRole scope after, next)
  | .replaceStoreRolePolicy scope allow deny enforceCeiling => do
    let (_, after, next) ← replaceStoreRolePolicy db scope allow deny enforceCeiling
    return (.storeRole scope after, next)
  | .replaceUserOverrides scope allow deny enforceCeiling => do
    let (_, after, next) ← replaceUserOverrides db scope allow deny enforceCeiling
    return (.user scope after, next)

end ArisCloud.AccessControl
