import Mathlib.Data.List.Induction
import ArisCloud.Proofs.PermissionListing

/-! # What a written policy reads back as

A policy that is replaced holds the codes it was given, and the template of a tenant's role holds
the permissions it was given. Other policies and templates hold what they held.
-/

namespace ArisCloud.AccessControl

open Overlays

theorem toFinset_sortedSet (codes : List String) : (sortedSet codes).toFinset = codes.toFinset := by
  ext code
  rw [List.mem_toFinset, List.mem_toFinset, sortedSet, List.mem_insertionSort, List.mem_dedup]

/-! ## Policies -/

section Policies

variable {τ : Type} {entries : List (PolicyEntry τ)} {code : String}

/-- An entry counts on the side of its effect. -/
theorem mem_partitionEntries :
    (code ∈ (partitionEntries entries).allow ↔
        ∃ entry ∈ entries, entry.permissionCode = code ∧ entry.effect.toLower ≠ EFFECT_DENY) ∧
      (code ∈ (partitionEntries entries).deny ↔
        ∃ entry ∈ entries, entry.permissionCode = code ∧ entry.effect.toLower = EFFECT_DENY) := by
  induction entries using List.reverseRecOn with
  | nil => simp [partitionEntries]
  | append_singleton earlier last ih =>
    have unfolded : partitionEntries (earlier ++ [last]) =
        if last.effect.toLower = EFFECT_DENY then
          { partitionEntries earlier with
            deny := insert last.permissionCode (partitionEntries earlier).deny }
        else
          { partitionEntries earlier with
            allow := insert last.permissionCode (partitionEntries earlier).allow } := by
      rw [partitionEntries, List.foldl_append]
      rfl
    rw [unfolded]
    by_cases denies : last.effect.toLower = EFFECT_DENY
    · rw [if_pos denies]
      simp only [Finset.mem_insert, ih.1, ih.2, List.mem_append, List.mem_singleton]
      constructor
      · constructor
        · rintro ⟨entry, member, rest⟩
          exact ⟨entry, .inl member, rest⟩
        · rintro ⟨entry, member | rfl, rest⟩
          · exact ⟨entry, member, rest⟩
          · exact absurd denies rest.2
      · constructor
        · rintro (rfl | ⟨entry, member, rest⟩)
          · exact ⟨last, .inr rfl, rfl, denies⟩
          · exact ⟨entry, .inl member, rest⟩
        · rintro ⟨entry, member | rfl, rest⟩
          · exact .inr ⟨entry, member, rest⟩
          · exact .inl rest.1.symm
    · rw [if_neg denies]
      simp only [Finset.mem_insert, ih.1, ih.2, List.mem_append, List.mem_singleton]
      constructor
      · constructor
        · rintro (rfl | ⟨entry, member, rest⟩)
          · exact ⟨last, .inr rfl, rfl, denies⟩
          · exact ⟨entry, .inl member, rest⟩
        · rintro ⟨entry, member | rfl, rest⟩
          · exact .inr ⟨entry, member, rest⟩
          · exact .inl rest.1.symm
      · constructor
        · rintro ⟨entry, member, rest⟩
          exact ⟨entry, .inl member, rest⟩
        · rintro ⟨entry, member | rfl, rest⟩
          · exact ⟨entry, member, rest⟩
          · exact absurd rest.2 denies

/-- The rows that are built for a policy read back as its lists. -/
theorem partitionEntries_buildEntries (scope : τ) (allow deny : List String) :
    partitionEntries (buildEntries scope allow deny) =
    { allow := allow.toFinset, deny := deny.toFinset } := by
  have allows : EFFECT_ALLOW.toLower ≠ EFFECT_DENY := by decide +kernel
  have denies : EFFECT_DENY.toLower = EFFECT_DENY := by decide +kernel
  have members : ∀ entry : PolicyEntry τ, entry ∈ buildEntries scope allow deny ↔
      (∃ code ∈ allow, ⟨scope, code, EFFECT_ALLOW⟩ = entry) ∨ ∃ code ∈ deny,
      ⟨scope, code, EFFECT_DENY⟩ = entry := by
    intro entry
    simp [buildEntries, sortedSet]
  have allowed : (partitionEntries (buildEntries scope allow deny)).allow = allow.toFinset := by
    ext code
    rw [mem_partitionEntries.1, List.mem_toFinset]
    constructor
    · rintro ⟨entry, member, rfl, effect⟩
      rcases (members entry).mp member with ⟨code, listed, rfl⟩ | ⟨code, _, rfl⟩
      · exact listed
      · exact absurd denies effect
    · exact fun listed => ⟨_, (members _).mpr (.inl ⟨code, listed, rfl⟩), rfl, allows⟩
  have denied : (partitionEntries (buildEntries scope allow deny)).deny = deny.toFinset := by
    ext code
    rw [mem_partitionEntries.2, List.mem_toFinset]
    constructor
    · rintro ⟨entry, member, rfl, effect⟩
      rcases (members entry).mp member with ⟨code, _, rfl⟩ | ⟨code, listed, rfl⟩
      · exact absurd effect allows
      · exact listed
    · exact fun listed => ⟨_, (members _).mpr (.inr ⟨code, listed, rfl⟩), rfl, denies⟩
  rw [← allowed, ← denied]

/-- A replaced policy reads as its new lists, and every other one as before. -/
theorem partitionEntries_replaceEntries [DecidableEq τ] (scope other : τ)
    (allow deny : List String) :
    partitionEntries
    (entriesOf (·.scope) other
      (replaceEntries (·.scope) scope entries (buildEntries scope allow deny))) =
      if other = scope then { allow := allow.toFinset, deny := deny.toFinset }
      else partitionEntries (entriesOf (·.scope) other entries) := by
  have named : ∀ entry ∈ buildEntries scope allow deny, entry.scope = scope := by
    intro entry member
    rcases List.mem_append.mp member with listed | listed <;>
      (obtain ⟨code, _, rfl⟩ := List.mem_map.mp listed; rfl)
  rw [entriesOf_replaceEntries named]
  split
  · exact partitionEntries_buildEntries scope allow deny
  · rfl

end Policies

/-! ## Templates -/

section Templates

variable {db : AccessDb} {code roleName : String} {tenantId : Option String}

private theorem mem_listPermissionsForRoleTemplate {roleTemplateId : ℕ} :
    code ∈ listPermissionsForRoleTemplate db roleTemplateId ↔ ∃ link ∈ db.roleTemplatePermissions,
      link.roleTemplateId = roleTemplateId ∧ ∃ permission ∈ db.permissionCatalog.rows,
        permission.id = link.permissionId ∧ permission.code = code := by
  simp [listPermissionsForRoleTemplate, and_assoc]

private theorem mem_listPermissionsForRole : code ∈ listPermissionsForRole db roleName tenantId ↔
    ∃ template ∈ db.roleTemplates.rows, template.name = roleName ∧ template.tenantId = tenantId ∧
      code ∈ listPermissionsForRoleTemplate db template.id := by
  simp [listPermissionsForRole, and_assoc]

private theorem mem_catalogCodes :
    code ∈ catalogCodes db ↔ ∃ permission ∈ db.permissionCatalog.rows, permission.code = code := by
  simp [catalogCodes]

theorem catalogued_of_role (listed : code ∈ listPermissionsForRole db roleName tenantId) :
    code ∈ catalogCodes db := by
  obtain ⟨_, _, _, _, joined⟩ := mem_listPermissionsForRole.mp listed
  obtain ⟨_, _, _, permission, member, _, same⟩ := mem_listPermissionsForRoleTemplate.mp joined
  exact mem_catalogCodes.mpr ⟨permission, member, same⟩

/-- A replaced template is joined with the permissions of its codes, and every other one as
before. -/
theorem mem_replaceTemplatePermissions {codes : List String} {roleTemplateId other : ℕ}
    (known : ∀ code ∈ codes, code ∈ catalogCodes db) :
    code ∈ listPermissionsForRoleTemplate
    (replaceTemplatePermissions db roleTemplateId codes) other ↔
      if other = roleTemplateId then code ∈ codes
      else code ∈ listPermissionsForRoleTemplate db other := by
  have ids : ∀ link ∈ templateLinks db roleTemplateId codes,
      link.roleTemplateId = roleTemplateId := by
    intro link member
    obtain ⟨_, _, found⟩ := List.mem_filterMap.mp member
    obtain ⟨_, _, rfl⟩ := Option.map_eq_some_iff.mp found
    rfl
  have links : entriesOf (·.roleTemplateId) other (replaceEntries (·.roleTemplateId) roleTemplateId
      db.roleTemplatePermissions (templateLinks db roleTemplateId codes)) = _ :=
      entriesOf_replaceEntries ids other
  rw [listPermissionsForRoleTemplate]
  change code ∈
    (entriesOf (·.roleTemplateId) other
    (replaceTemplatePermissions db roleTemplateId codes).roleTemplatePermissions).flatMap
    (fun link => (db.permissionCatalog.rows.filter (·.id = link.permissionId)).map (·.code)) ↔ _
  rw [replaceTemplatePermissions, links]
  split
  · simp only [List.mem_flatMap, templateLinks, List.mem_filterMap, sortedSet,
      List.mem_insertionSort, List.mem_dedup]
    constructor
    · rintro ⟨link, ⟨listed, member, found⟩, joined⟩
      obtain ⟨permission, isFirst, rfl⟩ := Option.map_eq_some_iff.mp found
      obtain ⟨another, selected, rfl⟩ := List.mem_map.mp joined
      obtain ⟨isRow, sameId⟩ := List.mem_filter.mp selected
      -- The ids of the catalog are unique, so the join leads back to the row that was looked up.
      have same : another = permission :=
        List.inj_on_of_nodup_map db.permissionCatalog.distinctIds isRow
        (List.mem_of_find?_eq_some isFirst) (of_decide_eq_true sameId)
      have code : permission.code = listed := by simpa using List.find?_some isFirst
      rw [same, code]
      exact member
    · intro member
      obtain ⟨row, isRow, rfl⟩ := mem_catalogCodes.mp (known _ member)
      obtain ⟨permission, isFirst⟩ : ∃ permission, db.permissionCatalog.rows.find?
          (·.code = row.code) = some permission :=
        Option.isSome_iff_exists.mp (List.find?_isSome.mpr ⟨row, isRow, decide_eq_true rfl⟩)
      refine ⟨_, ⟨row.code, member, by rw [isFirst]; rfl⟩, ?_⟩
      have code : permission.code = row.code := by simpa using List.find?_some isFirst
      rw [← code]
      exact List.mem_map_of_mem
        (List.mem_filter.mpr ⟨List.mem_of_find?_eq_some isFirst, decide_eq_true rfl⟩)
  · rfl

/-- A tenant has one template for a role. -/
theorem eq_of_tenantTemplate {tenant : String} {template other : RoleTemplate}
    (member : template ∈ db.roleTemplates.rows) (another : other ∈ db.roleTemplates.rows)
    (ofTenant : template.tenantId = some tenant) (sameTenant : other.tenantId = some tenant)
    (sameName : other.name = template.name) : other = template := by
  refine List.inj_on_of_nodup_map db.roleTemplates.distinctNames ?_ ?_ ?_
  · exact List.mem_filter.mpr ⟨another, by rw [sameTenant]; rfl⟩
  · exact List.mem_filter.mpr ⟨member, by rw [ofTenant]; rfl⟩
  · rw [sameTenant, sameName, ofTenant]

/-- After a template is replaced, the role that it is the template of has its codes, and the roles
of other tenants, and the other roles of its tenant, have what they had. -/
theorem mem_role_of_replaceTemplatePermissions {codes : List String} {tenant : String}
    {template : RoleTemplate} {ownerId : Option String} {ownerRole : String}
    (found : getRoleTemplate db ownerRole ownerId = some template)
    (known : ∀ code ∈ codes, code ∈ catalogCodes db) :
    code ∈ listPermissionsForRole (replaceTemplatePermissions db template.id codes) roleName
    (some tenant) ↔
      if ownerId = some tenant ∧ ownerRole = roleName then code ∈ codes
      else code ∈ listPermissionsForRole db roleName (some tenant) := by
  have isTemplate := List.mem_of_find?_eq_some found
  obtain ⟨named, owned⟩ : template.name = ownerRole ∧ template.tenantId = ownerId := by
    simpa using List.find?_some found
  rw [mem_listPermissionsForRole]
  split
  · next same =>
    obtain ⟨rfl, rfl⟩ := same
    constructor
    · rintro ⟨other, isOther, name, ofTenant, listed⟩
      obtain rfl := eq_of_tenantTemplate isTemplate isOther owned ofTenant (name.trans named.symm)
      rwa [mem_replaceTemplatePermissions known, if_pos rfl] at listed
    · exact fun listed =>
        ⟨template, isTemplate, named, owned, (mem_replaceTemplatePermissions known).mpr
        ((if_pos rfl).mpr listed)⟩
  · next different =>
    rw [mem_listPermissionsForRole]
    refine exists_congr fun other => and_congr_right fun isOther => and_congr_right fun name =>
      and_congr_right fun ofTenant => ?_
    rw [mem_replaceTemplatePermissions known, if_neg]
    intro sameId
    obtain rfl := List.inj_on_of_nodup_map db.roleTemplates.distinctIds isOther isTemplate sameId
    exact different ⟨owned.symm.trans ofTenant, named.symm.trans name⟩

end Templates

/-! ## Calls -/

/-- What the checks of a policy leave to be written. -/
structure ValidPolicy (db : AccessDb) (tenantId : Option String) (allow deny : List String)
    (enforceCeiling : Bool) : Prop where
  known : ∀ code ∈ allow ++ deny, code ∈ catalogCodes db
  ceiling : enforceCeiling = true → allow.toFinset ⊆ tenantAdminCeiling db tenantId

/-- The report and the tables of a call that succeeds. -/
inductive Wrote (db : AccessDb) : PolicyRequest → Report → AccessDb → Prop
  | template (tenantId : Option String) (roleName : String) (permissions : List String)
      (template : RoleTemplate) (known : ∀ code ∈ permissions, code ∈ catalogCodes db)
      (found : getRoleTemplate db roleName tenantId = some template) :
      Wrote db (.replaceRoleTemplatePermissions tenantId roleName permissions)
        (.template tenantId roleName { permissions := sortedSet permissions })
        (replaceTemplatePermissions db template.id permissions)
  | tenantRole (scope : TenantRole) (allow deny : List String) (enforceCeiling : Bool)
      (valid : ValidPolicy db scope.tenantId allow deny enforceCeiling) :
      Wrote db (.replaceTenantRolePolicy scope allow deny enforceCeiling)
      (.tenantRole scope (.of allow deny))
        { db with
          tenantRolePolicies :=
            replaceEntries (·.scope) scope db.tenantRolePolicies (buildEntries scope allow deny) }
  | storeRole (scope : StoreRole) (allow deny : List String) (enforceCeiling : Bool)
      (valid : ValidPolicy db (some scope.tenantId) allow deny enforceCeiling) :
      Wrote db (.replaceStoreRolePolicy scope allow deny enforceCeiling)
      (.storeRole scope (.of allow deny))
        { db with
          storeRolePolicies :=
            replaceEntries (·.scope) scope db.storeRolePolicies (buildEntries scope allow deny) }
  | user (scope : TenantUser) (allow deny : List String) (enforceCeiling : Bool)
      (valid : ValidPolicy db (some scope.tenantId) allow deny enforceCeiling) :
      Wrote db (.replaceUserOverrides scope allow deny enforceCeiling)
      (.user scope (.of allow deny))
        { db with userPermissionOverrides := replaceEntries (·.scope) scope db.userPermissionOverrides
                    (buildEntries scope allow deny) }

private theorem validatePolicy_ok {db : AccessDb} {tenantId : Option String}
    {allow deny : List String} {enforceCeiling : Bool}
    (success : validatePolicy db tenantId allow deny enforceCeiling = .ok ()) :
    ValidPolicy db tenantId allow deny enforceCeiling := by
  simp only [validatePolicy, validateAllowDeny, validateCodes, Checked.bind_eq_ok,
    Checked.ensure_eq_ok, exists_const] at success
  obtain ⟨_, known, bounded⟩ := success
  refine ⟨known, fun enforced => ?_⟩
  simpa only [enforceAdminCeiling, enforced, if_true, Checked.ensure_eq_ok] using bounded

theorem policyCall_ok {db next : AccessDb} {request : PolicyRequest} {report : Report}
    (success : policyCall db request = .ok (report, next)) : Wrote db request report next := by
  cases request with
  | replaceRoleTemplatePermissions tenantId roleName permissions =>
    simp only [policyCall, replaceRoleTemplatePermissions, validateCodes, Checked.bind_eq_ok,
      Checked.ensure_eq_ok, Checked.fetch_eq_ok, exists_const, Checked.pure_eq_ok,
      Prod.mk.injEq] at success
    obtain ⟨_, ⟨known, template, found, _, _, rfl⟩, rfl, rfl⟩ := success
    exact .template tenantId roleName permissions template known found
  | replaceTenantRolePolicy scope allow deny enforceCeiling =>
    simp only [policyCall, replaceTenantRolePolicy, validateRolePolicyRole, Checked.bind_eq_ok,
      Checked.ensure_eq_ok, exists_const, Checked.pure_eq_ok, Prod.mk.injEq] at success
    obtain ⟨_, ⟨_, _, valid, rfl⟩, rfl, rfl⟩ := success
    exact .tenantRole scope allow deny enforceCeiling (validatePolicy_ok valid)
  | replaceStoreRolePolicy scope allow deny enforceCeiling =>
    simp only [policyCall, replaceStoreRolePolicy, validateRolePolicyRole, Checked.bind_eq_ok,
      Checked.ensure_eq_ok, exists_const, Checked.pure_eq_ok, Prod.mk.injEq] at success
    obtain ⟨_, ⟨_, _, valid, rfl⟩, rfl, rfl⟩ := success
    exact .storeRole scope allow deny enforceCeiling (validatePolicy_ok valid)
  | replaceUserOverrides scope allow deny enforceCeiling =>
    simp only [policyCall, replaceUserOverrides, Checked.bind_eq_ok, Checked.pure_eq_ok,
      Prod.mk.injEq] at success
    obtain ⟨_, ⟨_, valid, rfl⟩, rfl, rfl⟩ := success
    exact .user scope allow deny enforceCeiling (validatePolicy_ok valid)

end ArisCloud.AccessControl
