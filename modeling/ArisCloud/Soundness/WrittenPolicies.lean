import ArisCloud.Library.Reachability
import ArisCloud.Proofs.PolicyWrites

/-! # The written policies and the effective ones

Every call that writes a template or a policy reports the lists it wrote. A history records the last
report of each, with the ceiling of the tenant at the time, and the tables read back as the history
says. The effective permissions of a user follow from it, up to the fallback for a template without
permissions.
-/

namespace ArisCloud.AccessControl

open Overlays AccessControlService Requests

/-! ## Users -/

/-- A user of a tenant, as the identity in the database names him. -/
structure Subject where
  tenantId : String
  userId : String
  storeId : Option String
  role : String
  hasTenant : tenantId ≠ ""
  hasId : userId ≠ ""
  hasStore : storeId ≠ some ""
  hasRole : role.toUpper ≠ ""

namespace Subject

variable (user : Subject)

def context : RequestContext :=
  { userId := some user.userId, tenantId := some user.tenantId, storeId := user.storeId,
    role := some user.role }

/-- The name of the user's role in templates and policies. -/
def roleName : String := user.role.toUpper

def tenantRole : TenantRole := { tenantId := some user.tenantId, roleName := user.roleName }

def storeRole (storeId : String) : StoreRole :=
  { tenantId := user.tenantId, storeId, roleName := user.roleName }

def tenantUser : TenantUser := { tenantId := user.tenantId, userId := user.userId }

end Subject

/-- The permissions that are listed as allowed for the user, with nothing cached. -/
def effectivePermissions (db : AccessDb) (user : Subject) : Finset String :=
  (((AccessControlService.listing ⟨db, []⟩ {} user.context none).1.filter (·.allowed)).map
    (·.key)).toFinset

/-- What the tables hold for the user, one layer on the other. -/
def policyLayers (db : AccessDb) (user : Subject) : List (Overlay String) :=
  [getTenantRolePolicy db user.tenantRole,
    (user.storeId.map fun storeId => getStoreRolePolicy db (user.storeRole storeId)).getD {},
    getUserOverrides db user.tenantUser]

/-- Policies name permissions of the catalog. -/
structure Catalogued (db : AccessDb) : Prop where
  tenantRole : ∀ entry ∈ db.tenantRolePolicies, entry.permissionCode ∈ catalogCodes db
  storeRole : ∀ entry ∈ db.storeRolePolicies, entry.permissionCode ∈ catalogCodes db
  user : ∀ entry ∈ db.userPermissionOverrides, entry.permissionCode ∈ catalogCodes db

private theorem templatePermissions_catalogued {db : AccessDb} {roleName : String}
    {tenantId : Option String} {code : String}
    (member : code ∈ templatePermissions db roleName tenantId) : code ∈ catalogCodes db := by
  rw [templatePermissions] at member
  split at member <;> exact catalogued_of_role (List.mem_toFinset.mp member)

private theorem policyLayers_catalogued {db : AccessDb} (catalogued : Catalogued db)
    {user : Subject} {code : String} (member : code ∈ granted (policyLayers db user)) :
    code ∈ catalogCodes db := by
  obtain ⟨layer, isLayer, allowed⟩ := mem_granted.mp member
  simp only [policyLayers, List.mem_cons, List.not_mem_nil, or_false] at isLayer
  rcases isLayer with rfl | rfl | rfl
  · obtain ⟨entry, listed, rfl, _⟩ := mem_partitionEntries.1.mp allowed
    exact catalogued.tenantRole entry (List.mem_filter.mp listed).1
  · cases home : user.storeId with
    | none =>
      rw [home] at allowed
      exact absurd allowed (Finset.notMem_empty code)
    | some storeId =>
      rw [home] at allowed
      obtain ⟨entry, listed, rfl, _⟩ := mem_partitionEntries.1.mp allowed
      exact catalogued.storeRole entry (List.mem_filter.mp listed).1
  · obtain ⟨entry, listed, rfl, _⟩ := mem_partitionEntries.1.mp allowed
    exact catalogued.user entry (List.mem_filter.mp listed).1

section Fresh

variable (db : AccessDb) (user : Subject)

/-- Nothing is looked up in the place of a value that is not the empty text. -/
theorem orElse_none {text : Option String} (nonempty : text ≠ some "") :
    orElse text none = text := by
  cases text with
  | none => rfl
  | some text =>
    rw [orElse, if_pos]
    exact decide_eq_true fun empty => nonempty (congrArg some empty)

private theorem resolveRoleScope_subject :
    resolveRoleScope user.context none = (some user.roleName, some user.tenantId,
      user.storeId) := by
  have named : (some user.role) ≠ some "" := by
    rintro empty
    refine user.hasRole ?_
    rw [Option.some.inj empty]
    decide +kernel
  have located : (some user.tenantId) ≠ some "" := fun empty =>
    user.hasTenant (Option.some.inj empty)
  simp only [resolveRoleScope, Subject.context, Option.map_none, Option.bind_none,
    orElse_none named, orElse_none located, orElse_none user.hasStore, Option.getD_some]
  rw [if_neg user.hasRole]
  rfl

private theorem baseLayer_fresh : AccessControlService.baseLayer ⟨db, []⟩ {} user.context none =
    templatePermissions db user.roleName (some user.tenantId) := by
  rw [baseLayer, resolveRoleScope_subject]
  rfl

private theorem tenantLayer_fresh : AccessControlService.tenantLayer ⟨db, []⟩ {} user.context none =
    getTenantRolePolicy db user.tenantRole := by
  rw [tenantLayer, resolveRoleScope_subject]
  rfl

private theorem storeLayer_fresh : AccessControlService.storeLayer ⟨db, []⟩ {} user.context none =
    (user.storeId.map fun storeId => getStoreRolePolicy db (user.storeRole storeId)).getD {} := by
  rw [storeLayer, resolveRoleScope_subject]
  have located : (some user.tenantId).filter (· ≠ "") = some user.tenantId := by
    simp [user.hasTenant]
  have home := user.hasStore
  simp only [AccessControlService.getStoreRolePolicy, located]
  cases place : user.storeId with
  | none => rfl
  | some storeId =>
    rw [place] at home
    have placed : (some storeId).filter (· ≠ "") = some storeId := by
      simp only [Option.filter_eq_some_iff]
      simpa using home
    rw [placed]
    rfl

private theorem userLayer_fresh : AccessControlService.userLayer ⟨db, []⟩ {} user.context none =
    getUserOverrides db user.tenantUser := by
  rw [userLayer, resolveRoleScope_subject]
  have located : (some user.tenantId).filter (· ≠ "") = some user.tenantId := by
    simp [user.hasTenant]
  have identified : (some user.userId).filter (· ≠ "") = some user.userId := by simp [user.hasId]
  simp only [AccessControlService.getUserOverrides, Subject.context, located, identified]
  rfl

end Fresh

private theorem mem_effectivePermissions {db : AccessDb} {user : Subject} {code : String} :
    code ∈ effectivePermissions db user ↔ ListsAllowed ⟨db, []⟩ {} user.context none code := by
  simp only [effectivePermissions, ListsAllowed, List.mem_toFinset, List.mem_map, List.mem_filter]
  constructor
  · rintro ⟨decision, ⟨listed, allowed⟩, same⟩
    exact ⟨decision, listed, same, allowed⟩
  · rintro ⟨decision, listed, same, allowed⟩
    exact ⟨decision, ⟨listed, allowed⟩, same⟩

/-- A user's effective permissions are those of the role's template with the policies laid over
it. -/
theorem effectivePermissions_eq {db : AccessDb} (catalogued : Catalogued db) (user : Subject) :
    effectivePermissions db user =
      effective (templatePermissions db user.roleName (some user.tenantId))
      (policyLayers db user) := by
  ext code
  rw [mem_effectivePermissions, listsAllowed_iff, decision_allowed, baseLayer_fresh,
    tenantLayer_fresh, storeLayer_fresh, userLayer_fresh]
  constructor
  · exact fun ⟨_, _, member⟩ => member
  · intro member
    refine ⟨?_, List.not_mem_nil, member⟩
    change code ∈ catalogCodes db
    rcases (mem_effective.mp member).1 with inTemplate | isGranted
    · exact templatePermissions_catalogued inTemplate
    · exact policyLayers_catalogued catalogued isGranted

/-! ## Histories -/

/-- The lists of a policy as they were last written, and the ceiling of the tenant at that time. -/
structure WrittenPolicy where
  layer : Overlay String
  ceiling : Finset String

/-- What was last written for the roles of the tenants, of their stores, and for their users. -/
structure Written where
  template : String → String → Finset String
  tenantRole : TenantRole → WrittenPolicy
  storeRole : StoreRole → WrittenPolicy
  user : TenantUser → WrittenPolicy

namespace Written

/-- At the start of a history, what the tables hold counts as written. -/
def ofTables (db : AccessDb) : Written where
  template tenantId roleName := (listPermissionsForRole db roleName (some tenantId)).toFinset
  tenantRole scope := ⟨getTenantRolePolicy db scope, tenantAdminCeiling db scope.tenantId⟩
  storeRole scope := ⟨getStoreRolePolicy db scope, tenantAdminCeiling db (some scope.tenantId)⟩
  user scope := ⟨getUserOverrides db scope, tenantAdminCeiling db (some scope.tenantId)⟩

/-- A policy as a call on these tables reports it. -/
def report (db : AccessDb) (tenantId : Option String) (after : PolicySnapshot) : WrittenPolicy :=
  ⟨{ allow := after.allow.toFinset, deny := after.deny.toFinset }, tenantAdminCeiling db tenantId⟩

def record (written : Written) (db : AccessDb) : Report → Written
  | .template ownerId ownerRole after =>
    { written with template := fun tenantId roleName =>
        if ownerId = some tenantId ∧ ownerRole = roleName then after.permissions.toFinset
        else written.template tenantId roleName }
  | .tenantRole scope after =>
    { written with
      tenantRole := Function.update written.tenantRole scope (report db scope.tenantId after) }
  | .storeRole scope after =>
    { written with
      storeRole :=
        Function.update written.storeRole scope (report db (some scope.tenantId) after) }
  | .user scope after =>
    { written with
      user := Function.update written.user scope (report db (some scope.tenantId) after) }

variable (written : Written) (user : Subject)

/-- What was last written for the user, of each kind of policy. -/
def policies : List WrittenPolicy :=
  written.tenantRole user.tenantRole ::
    ((user.storeId.map fun storeId => written.storeRole (user.storeRole storeId)).toList ++
    [written.user user.tenantUser])

/-- The permissions of the template, with those that the policies allow and without those that they
deny. -/
def permissions : Finset String :=
  effective (written.template user.tenantId user.roleName) ((written.policies user).map (·.layer))

end Written

structure PolicyState where
  db : AccessDb
  written : Written

/-- Nothing is written but what the tables hold. -/
def PolicyState.starting (db : AccessDb) : PolicyState := ⟨db, .ofTables db⟩

/-- A call, with the record of what it reports. -/
def writtenStep (state : PolicyState) (request : PolicyRequest) : Except AppError PolicyState := do
  let (report, db) ← policyCall state.db request
  return ⟨db, state.written.record state.db report⟩

private theorem writtenStep_ok {state next : PolicyState} {request : PolicyRequest}
    (success : writtenStep state request = .ok next) :
    ∃ report, Wrote state.db request report next.db ∧
    next.written = state.written.record state.db report := by
  simp only [writtenStep, Checked.bind_eq_ok, Checked.pure_eq_ok] at success
  obtain ⟨⟨report, db⟩, called, rfl⟩ := success
  exact ⟨report, policyCall_ok called, rfl⟩

/-- The tables hold what was last written. -/
structure Recorded (state : PolicyState) : Prop where
  template : ∀ tenantId roleName,
    (listPermissionsForRole state.db roleName (some tenantId)).toFinset =
    state.written.template tenantId roleName
  tenantRole : ∀ scope, getTenantRolePolicy state.db scope = (state.written.tenantRole scope).layer
  storeRole : ∀ scope, getStoreRolePolicy state.db scope = (state.written.storeRole scope).layer
  user : ∀ scope, getUserOverrides state.db scope = (state.written.user scope).layer
  catalogued : Catalogued state.db

/-- A replaced policy is recorded as it reads back. -/
theorem recorded_of_replaced {τ : Type} [DecidableEq τ] {db : AccessDb}
    {entries : List (PolicyEntry τ)} {scope : τ} {tenantId : Option String}
    {allow deny : List String} {written : τ → WrittenPolicy}
    (before : ∀ other, partitionEntries (entriesOf (·.scope) other entries) = (written other).layer)
    (other : τ) :
    partitionEntries
    (entriesOf (·.scope) other
      (replaceEntries (·.scope) scope entries (buildEntries scope allow deny))) =
      (Function.update written scope (Written.report db tenantId (.of allow deny))
        other).layer := by
  rw [partitionEntries_replaceEntries, Function.update_apply]
  split
  · simp only [Written.report, PolicySnapshot.of, toFinset_sortedSet]
  · exact before other

private theorem catalogued_of_replaced {τ : Type} [DecidableEq τ] {codes : Finset String}
    {entries : List (PolicyEntry τ)} {scope : τ} {allow deny : List String}
    (before : ∀ entry ∈ entries, entry.permissionCode ∈ codes)
    (known : ∀ code ∈ allow ++ deny, code ∈ codes) :
    ∀ entry ∈ replaceEntries (·.scope) scope entries (buildEntries scope allow deny),
    entry.permissionCode ∈ codes := by
  intro entry member
  rcases mem_replaceEntries.mp member with ⟨kept, _⟩ | new
  · exact before entry kept
  · apply known
    rw [List.mem_append]
    simp only [buildEntries, sortedSet, List.mem_append, List.mem_map, List.mem_insertionSort,
      List.mem_dedup] at new
    rcases new with ⟨code, listed, rfl⟩ | ⟨code, listed, rfl⟩
    · exact .inl listed
    · exact .inr listed

/-- A call keeps the record right. -/
theorem recorded_writtenStep {state next : PolicyState} {request : PolicyRequest}
    (recorded : Recorded state) (success : writtenStep state request = .ok next) :
    Recorded next := by
  obtain ⟨db, written⟩ := next
  obtain ⟨report, wrote, rfl⟩ := writtenStep_ok success
  cases wrote with
  | template ownerId ownerRole permissions template known found =>
    refine ⟨fun tenantId roleName => ?_, recorded.tenantRole, recorded.storeRole, recorded.user,
      ⟨recorded.catalogued.tenantRole, recorded.catalogued.storeRole, recorded.catalogued.user⟩⟩
    ext code
    rw [List.mem_toFinset]
    change code ∈ listPermissionsForRole
      (replaceTemplatePermissions state.db template.id permissions) roleName
      (some tenantId) ↔ _
    rw [mem_role_of_replaceTemplatePermissions found known]
    simp only [Written.record, toFinset_sortedSet, ← recorded.template]
    split <;> rw [List.mem_toFinset]
  | tenantRole scope allow deny enforceCeiling valid =>
    refine ⟨recorded.template, recorded_of_replaced recorded.tenantRole, recorded.storeRole,
      recorded.user, ?_⟩
    exact ⟨catalogued_of_replaced recorded.catalogued.tenantRole valid.known,
      recorded.catalogued.storeRole, recorded.catalogued.user⟩
  | storeRole scope allow deny enforceCeiling valid =>
    refine ⟨recorded.template, recorded.tenantRole, recorded_of_replaced recorded.storeRole,
      recorded.user, ?_⟩
    exact ⟨recorded.catalogued.tenantRole,
      catalogued_of_replaced recorded.catalogued.storeRole valid.known,
      recorded.catalogued.user⟩
  | user scope allow deny enforceCeiling valid =>
    refine ⟨recorded.template, recorded.tenantRole, recorded.storeRole,
      recorded_of_replaced recorded.user, ?_⟩
    exact ⟨recorded.catalogued.tenantRole, recorded.catalogued.storeRole,
      catalogued_of_replaced recorded.catalogued.user valid.known⟩

private theorem recorded_of_reachable {start : AccessDb} {state : PolicyState}
    {allowed : PolicyState → PolicyRequest → Prop} (catalogued : Catalogued start)
    (reached : Reachable writtenStep allowed (.starting start) state) : Recorded state := by
  refine reached.invariant ⟨fun _ _ => rfl, fun _ => rfl, fun _ => rfl, fun _ => rfl, catalogued⟩ ?_
  exact fun _ _ _ recorded _ committed => recorded_writtenStep recorded committed

/-! ## The policies in force -/

/-- The layers that the tables hold for a user are those of the record. -/
theorem effective_policyLayers {state : PolicyState} (recorded : Recorded state) (user : Subject)
    (base : Finset String) :
    effective base (policyLayers state.db user) = effective base
    ((state.written.policies user).map (·.layer)) := by
  ext code
  simp only [policyLayers, Written.policies, mem_effective, recorded.tenantRole, recorded.storeRole,
    recorded.user]
  cases user.storeId with
  | none => simp
  | some storeId =>
    simp only [Option.map_some, Option.getD_some, Option.toList_some, List.cons_append,
      List.nil_append, List.map_cons, List.map_nil]

/-- The effective permissions of a user are those that were written for him, exactly when his role's
template in the tenant has permissions, or the policies decide on all permissions of the platform's
template. -/
theorem written_policies_enforced_iff (start : AccessDb) (state : PolicyState)
    (catalogued : Catalogued start)
    (reached : Reachable writtenStep (fun _ _ => True) (.starting start) state) (user : Subject) :
    effectivePermissions state.db user = state.written.permissions user ↔
      state.written.template user.tenantId user.roleName ≠ ∅ ∨
        ∀ code ∈ (listPermissionsForRole state.db user.roleName none).toFinset,
          code ∈ granted ((state.written.policies user).map (·.layer)) ∨
            code ∈ denied ((state.written.policies user).map (·.layer)) := by
  have recorded := recorded_of_reachable catalogued reached
  rw [effectivePermissions_eq recorded.catalogued, effective_policyLayers recorded,
    Written.permissions, templatePermissions, recorded.template]
  by_cases empty : state.written.template user.tenantId user.roleName = ∅
  · rw [if_pos ⟨empty, Option.some_ne_none _⟩, empty, effective_eq_empty_iff]
    simp
  · rw [if_neg fun both => empty both.1]
    simp [empty]

namespace Sample

/-- The permissions to view and to manage stores. -/
def storePermissions : List PermissionCatalog := [⟨1, "STORE_VIEW"⟩, ⟨2, "STORE_MANAGE"⟩]

/-- A platform on which managers view stores and administrators also manage them; a tenant has a
template of its own. -/
def staffed : AccessDb :=
  { permissionCatalog := ⟨storePermissions, by decide +kernel, by decide +kernel⟩
    roleTemplates :=
    ⟨[⟨1, none, "MANAGER"⟩, ⟨2, none, "ADMIN"⟩,
        ⟨3, some "t1", "MANAGER"⟩], by decide +kernel, by decide +kernel⟩
    roleTemplatePermissions := [⟨1, 1⟩, ⟨2, 1⟩, ⟨2, 2⟩, ⟨3, 1⟩] }

private theorem staffed_catalogued : Catalogued staffed := ⟨by decide, by decide, by decide⟩

/-- A manager of the tenant. -/
def manager : Subject :=
  { tenantId := "t1", userId := "u1", storeId := some "s1", role := "manager",
    hasTenant := by decide, hasId := by decide
    hasStore := by decide, hasRole := by decide +kernel }

def delegate (request : PolicyRequest) : Option PolicyState :=
  runAllowed writtenStep (fun _ _ => True) (.starting staffed) [request]

/-- The template of the tenant's managers is replaced by another one, and by none. -/
theorem delegated :
    (delegate (.replaceRoleTemplatePermissions (some "t1") "MANAGER" ["STORE_MANAGE"])).isSome =
    true := by
  decide +kernel

theorem emptied : (delegate (.replaceRoleTemplatePermissions (some "t1") "MANAGER" [])).isSome =
    true := by decide +kernel

def managing : PolicyState :=
  (delegate (.replaceRoleTemplatePermissions (some "t1") "MANAGER" ["STORE_MANAGE"])).get delegated

def withoutPermissions : PolicyState :=
  (delegate (.replaceRoleTemplatePermissions (some "t1") "MANAGER" [])).get emptied

end Sample

/-- The manager has the permission of the new template. -/
theorem new_template_enforced :
    effectivePermissions Sample.managing.db Sample.manager = {"STORE_MANAGE"} := by
  have written : Sample.managing.written.permissions Sample.manager = {"STORE_MANAGE"} := by
    decide +kernel
  rw [← written]
  refine (written_policies_enforced_iff Sample.staffed Sample.managing Sample.staffed_catalogued
    (reachable_of_runAllowed (Option.some_get _).symm) Sample.manager).mpr (.inl ?_)
  decide +kernel

/-- The manager keeps the platform's permissions when the template of the tenant is emptied. -/
theorem emptied_template_not_enforced : ¬ ∀ (start : AccessDb) (state : PolicyState),
    Catalogued start →
    Reachable writtenStep (fun _ _ => True) (.starting start) state → ∀ user : Subject,
    (getRoleTemplate state.db user.roleName (some user.tenantId)).isSome = true →
    effectivePermissions state.db user = state.written.permissions user := by
  intro enforced
  have reached : Reachable writtenStep (fun _ _ => True)
      (.starting Sample.staffed) Sample.withoutPermissions :=
    reachable_of_runAllowed (Option.some_get _).symm
  have same := enforced Sample.staffed Sample.withoutPermissions Sample.staffed_catalogued reached
    Sample.manager (by decide +kernel)
  rw [effectivePermissions_eq (recorded_of_reachable Sample.staffed_catalogued reached).catalogued]
    at same
  have different :
      effective (templatePermissions Sample.withoutPermissions.db Sample.manager.roleName
      (some Sample.manager.tenantId)) (policyLayers Sample.withoutPermissions.db Sample.manager) ≠
      Sample.withoutPermissions.written.permissions Sample.manager := by decide +kernel
  exact different same

/-! ## The ceiling of the administrators -/

/-- A ceiling is enforced on the policies that a request writes. -/
def PolicyRequest.enforced : PolicyRequest → Bool
  | .replaceRoleTemplatePermissions .. => true
  | .replaceTenantRolePolicy _ _ _ enforceCeiling => enforceCeiling
  | .replaceStoreRolePolicy _ _ _ enforceCeiling => enforceCeiling
  | .replaceUserOverrides _ _ _ enforceCeiling => enforceCeiling

/-- No policy allows more than the ceiling of its tenant at the time it was written. -/
structure WithinCeilings (written : Written) : Prop where
  tenantRole : ∀ scope, (written.tenantRole scope).layer.allow ⊆ (written.tenantRole scope).ceiling
  storeRole : ∀ scope, (written.storeRole scope).layer.allow ⊆ (written.storeRole scope).ceiling
  user : ∀ scope, (written.user scope).layer.allow ⊆ (written.user scope).ceiling

private theorem within_of_updated {τ : Type} [DecidableEq τ] {db : AccessDb}
    {written : τ → WrittenPolicy} {scope : τ} {tenantId : Option String} {allow deny : List String}
    {enforceCeiling : Bool}
    (before : ∀ other, (written other).layer.allow ⊆ (written other).ceiling)
    (valid : ValidPolicy db tenantId allow deny enforceCeiling) (enforced : enforceCeiling = true)
    (other : τ) :
    (Function.update written scope (Written.report db tenantId (.of allow deny)) other).layer.allow
    ⊆
      (Function.update written scope (Written.report db tenantId (.of allow deny))
        other).ceiling := by
  rw [Function.update_apply]
  split
  · simp only [Written.report, PolicySnapshot.of, toFinset_sortedSet]
    exact valid.ceiling enforced
  · exact before other

private theorem within_writtenStep {state next : PolicyState} {request : PolicyRequest}
    (within : WithinCeilings state.written) (enforced : request.enforced = true)
    (success : writtenStep state request = .ok next) :
    WithinCeilings next.written := by
  obtain ⟨db, written⟩ := next
  obtain ⟨report, wrote, rfl⟩ := writtenStep_ok success
  cases wrote with
  | template => exact ⟨within.tenantRole, within.storeRole, within.user⟩
  | tenantRole scope allow deny enforceCeiling valid =>
    exact ⟨within_of_updated within.tenantRole valid enforced, within.storeRole, within.user⟩
  | storeRole scope allow deny enforceCeiling valid =>
    exact ⟨within.tenantRole, within_of_updated within.storeRole valid enforced, within.user⟩
  | user scope allow deny enforceCeiling valid =>
    exact ⟨within.tenantRole, within.storeRole, within_of_updated within.user valid enforced⟩

/-- The request takes nothing out of the ceiling of the tenant. -/
def KeepsCeiling (tenantId : String) (state : PolicyState) (request : PolicyRequest) : Prop :=
  ∀ next, writtenStep state request = .ok next →
    tenantAdminCeiling state.db (some tenantId) ⊆ tenantAdminCeiling next.db (some tenantId)

/-- The ceilings that the tenant had are contained in the one that it has. -/
structure CeilingsKept (tenantId : String) (state : PolicyState) : Prop where
  tenantRole : ∀ scope, scope.tenantId = some tenantId →
    (state.written.tenantRole scope).ceiling ⊆ tenantAdminCeiling state.db (some tenantId)
  storeRole : ∀ scope, scope.tenantId = tenantId →
    (state.written.storeRole scope).ceiling ⊆ tenantAdminCeiling state.db (some tenantId)
  user : ∀ scope, scope.tenantId = tenantId →
    (state.written.user scope).ceiling ⊆ tenantAdminCeiling state.db (some tenantId)

private theorem kept_of_updated {τ : Type} [DecidableEq τ] {db : AccessDb}
    {written : τ → WrittenPolicy} {scope : τ} {owner : Option String} {after : PolicySnapshot}
    {tenantId : Option String} {ceiling : Finset String} (tenantOf : τ → Option String)
    (owned : tenantOf scope = owner)
    (before : ∀ other, tenantOf other = tenantId → (written other).ceiling ⊆ ceiling)
    (grows : tenantAdminCeiling db tenantId ⊆ ceiling) (other : τ)
    (ofTenant : tenantOf other = tenantId) :
    (Function.update written scope (Written.report db owner after) other).ceiling ⊆ ceiling := by
  rw [Function.update_apply]
  split
  · next same =>
    subst same
    rw [← owned, ofTenant]
    exact grows
  · exact before other ofTenant

private theorem kept_writtenStep {tenantId : String} {state next : PolicyState}
    {request : PolicyRequest} (kept : CeilingsKept tenantId state)
    (keeps : KeepsCeiling tenantId state request) (success : writtenStep state request = .ok next) :
    CeilingsKept tenantId next := by
  have grows := keeps next success
  obtain ⟨db, written⟩ := next
  obtain ⟨report, wrote, rfl⟩ := writtenStep_ok success
  have tenantRole := fun scope ofTenant => (kept.tenantRole scope ofTenant).trans grows
  have storeRole := fun scope ofTenant => (kept.storeRole scope ofTenant).trans grows
  have user := fun scope ofTenant => (kept.user scope ofTenant).trans grows
  cases wrote with
  | template => exact ⟨tenantRole, storeRole, user⟩
  | tenantRole scope =>
    exact ⟨kept_of_updated (fun scope : TenantRole => scope.tenantId) rfl tenantRole grows,
      storeRole, user⟩
  | storeRole scope =>
    refine ⟨tenantRole, fun other ofTenant => ?_, user⟩
    exact kept_of_updated (fun scope : StoreRole => some scope.tenantId) rfl
      (fun other same => storeRole other (Option.some.inj same)) grows other
      (congrArg some ofTenant)
  | user scope =>
    refine ⟨tenantRole, storeRole, fun other ofTenant => ?_⟩
    exact kept_of_updated (fun scope : TenantUser => some scope.tenantId) rfl
      (fun other same => user other (Option.some.inj same)) grows other (congrArg some ofTenant)

theorem CeilingsKept.policies {tenantId : String} {state : PolicyState}
    (kept : CeilingsKept tenantId state) {user : Subject} (ofTenant : user.tenantId = tenantId)
    {policy : WrittenPolicy} (inForce : policy ∈ state.written.policies user) :
    policy.ceiling ⊆ tenantAdminCeiling state.db (some tenantId) := by
  simp only [Written.policies, List.mem_cons, List.mem_append, Option.mem_toList,
    Option.map_eq_some_iff, List.not_mem_nil, or_false] at inForce
  rcases inForce with rfl | ⟨storeId, _, rfl⟩ | rfl
  · exact kept.tenantRole _ (congrArg some ofTenant)
  · exact kept.storeRole _ ofTenant
  · exact kept.user _ ofTenant

theorem WithinCeilings.policies {written : Written} (within : WithinCeilings written)
    {user : Subject} {policy : WrittenPolicy} (inForce : policy ∈ written.policies user) :
    policy.layer.allow ⊆ policy.ceiling := by
  simp only [Written.policies, List.mem_cons, List.mem_append, Option.mem_toList,
    Option.map_eq_some_iff, List.not_mem_nil, or_false] at inForce
  rcases inForce with rfl | ⟨storeId, _, rfl⟩ | rfl
  · exact within.tenantRole _
  · exact within.storeRole _
  · exact within.user _

/-- Every effective permission is in the template of the user's role, or a policy in force allows it
and the administrators' ceiling had it when that policy was written. -/
def PermissionsJustified (state : PolicyState) (user : Subject) : Prop :=
  ∀ code ∈ effectivePermissions state.db user,
    code ∈ templatePermissions state.db user.roleName (some user.tenantId) ∨
      ∃ policy ∈ state.written.policies user, code ∈ policy.layer.allow ∧ code ∈ policy.ceiling

/-- The permissions of every user are justified, and as long as nothing is taken out of the
administrators' ceiling of the tenant, they are in the template of his role or in that ceiling. -/
theorem permissions_within_ceilings (start : AccessDb) (state : PolicyState)
    (catalogued : Catalogued start) (within : WithinCeilings (.ofTables start))
    (reached : Reachable writtenStep (fun _ request => request.enforced = true)
      (.starting start) state) (user : Subject) :
    PermissionsJustified state user ∧
    (Reachable writtenStep (fun state request => request.enforced = true ∧
      KeepsCeiling user.tenantId state request)
        (.starting start) state →
      effectivePermissions state.db user ⊆ templatePermissions state.db user.roleName
        (some user.tenantId) ∪
        tenantAdminCeiling state.db (some user.tenantId)) := by
  have recorded := recorded_of_reachable catalogued reached
  have keepsWithin : ∀ source request next, WithinCeilings source.written →
      request.enforced = true → writtenStep source request = .ok next →
      WithinCeilings next.written :=
    fun _ _ _ within enforced committed => within_writtenStep within enforced committed
  have bounded : WithinCeilings state.written := reached.invariant within keepsWithin
  have justified : PermissionsJustified state user := by
    intro code member
    rw [effectivePermissions_eq recorded.catalogued, effective_policyLayers recorded,
      mem_effective] at member
    rcases member.1 with inTemplate | isGranted
    · exact .inl inTemplate
    · obtain ⟨layer, isLayer, allowed⟩ := mem_granted.mp isGranted
      obtain ⟨policy, inForce, rfl⟩ := List.mem_map.mp isLayer
      exact .inr ⟨policy, inForce, allowed, bounded.policies inForce allowed⟩
  refine ⟨justified, fun keeping code member => ?_⟩
  have kept : CeilingsKept user.tenantId state := by
    refine keeping.invariant ⟨?_, ?_, ?_⟩ fun _ _ _ kept permitted committed =>
      kept_writtenStep kept permitted.2 committed
    · intro scope ofTenant
      exact subset_of_eq (congrArg (tenantAdminCeiling start) ofTenant)
    · intro scope ofTenant
      exact subset_of_eq
        (congrArg (fun tenantId => tenantAdminCeiling start (some tenantId)) ofTenant)
    · intro scope ofTenant
      exact subset_of_eq
        (congrArg (fun tenantId => tenantAdminCeiling start (some tenantId)) ofTenant)
  rcases justified code member with inTemplate | ⟨policy, inForce, _, inCeiling⟩
  · exact Finset.mem_union_left _ inTemplate
  · exact Finset.mem_union_right _ (kept.policies rfl inForce inCeiling)

namespace Sample

def enforcedRun (requests : List PolicyRequest) : Option PolicyState :=
  runAllowed writtenStep (fun _ request => request.enforced = true) (.starting staffed) requests

/-- An administrator lets the managers of the tenant manage stores. -/
def promotion : PolicyRequest := .replaceTenantRolePolicy ⟨some "t1", "MANAGER"⟩ ["STORE_MANAGE"]
    [] true

theorem promotion_commits : (enforcedRun [promotion]).isSome = true := by decide +kernel

def promoted : PolicyState := (enforcedRun [promotion]).get promotion_commits

/-- Then the administrators themselves lose that permission. -/
def demotion : List PolicyRequest :=
  [promotion, .replaceRoleTemplatePermissions none "ADMIN" ["STORE_VIEW"]]

private theorem demotion_commits : (enforcedRun demotion).isSome = true := by decide +kernel

def demoted : PolicyState := (enforcedRun demotion).get demotion_commits

private theorem staffed_within : WithinCeilings (.ofTables staffed) := by
  refine ⟨fun _ _ member => ?_, fun _ _ member => ?_, fun _ _ member => ?_⟩ <;>
    exact absurd member (Finset.notMem_empty _)

end Sample

/-- The managers of the tenant have no more than their template and what administrators could
allow. -/
theorem promoted_within_ceilings : PermissionsJustified Sample.promoted Sample.manager :=
  (permissions_within_ceilings Sample.staffed Sample.promoted Sample.staffed_catalogued
    Sample.staffed_within (reachable_of_runAllowed (Option.some_get _).symm) Sample.manager).1

/-- What was allowed under the ceiling stays allowed when the ceiling is lowered. -/
theorem lowered_ceiling_exceeded : ¬ ∀ (start : AccessDb) (state : PolicyState), Catalogued start →
    WithinCeilings (.ofTables start) →
    Reachable writtenStep (fun _ request => request.enforced = true) (.starting start) state →
    ∀ user : Subject,
    user.roleName ∈ ALLOWED_ROLE_POLICIES → effectivePermissions state.db user ⊆
      templatePermissions state.db user.roleName (some user.tenantId) ∪ tenantAdminCeiling state.db
      (some user.tenantId) := by
  intro bounded
  have reached : Reachable writtenStep (fun _ request => request.enforced = true)
      (.starting Sample.staffed) Sample.demoted :=
    reachable_of_runAllowed (Option.some_get _).symm
  have within :=
    bounded Sample.staffed Sample.demoted Sample.staffed_catalogued Sample.staffed_within reached
      Sample.manager
    (by decide +kernel)
  rw [effectivePermissions_eq (recorded_of_reachable Sample.staffed_catalogued reached).catalogued]
    at within
  have exceeds :
      ¬ effective (templatePermissions Sample.demoted.db Sample.manager.roleName
      (some Sample.manager.tenantId)) (policyLayers Sample.demoted.db Sample.manager) ⊆
      templatePermissions Sample.demoted.db Sample.manager.roleName (some Sample.manager.tenantId) ∪
        tenantAdminCeiling Sample.demoted.db (some Sample.manager.tenantId) := by decide +kernel
  exact exceeds within

end ArisCloud.AccessControl
