import ArisCloud.Model.AccessPolicies

/-! # What a permission check and a listing compute

Both read the catalog, the template and the three policies through the cache. Reading one of them
leaves what is cached of the others alone, so both see the layers that the cache of their request
answers at their start.
-/

namespace ArisCloud.AccessControl

open Overlays

/-- A program runs in the state that the one before it leaves. -/
theorem run_bind {σ α β : Type} (first : StateM σ α) (next : α → StateM σ β) (state : σ) :
    (first >>= next).run state = (next (first.run state).1).run (first.run state).2 := rfl

namespace AccessControlService

section Cache

variable {α β : Type} {lookup : Cache → Option α} {store : α → Cache → Cache} {query : α}
    {cache other : Cache}

theorem cached_run : (cached lookup store query).run cache =
    match lookup cache with
    | some value => (value, cache)
    | none => (query, store query cache) := by
  cases found : lookup cache <;> simp [cached, found, StateT.run_bind] <;> rfl

private theorem cached_value (same : lookup cache = lookup other) :
    ((cached lookup store query).run cache).1 = ((cached lookup store query).run other).1 := by
  rw [cached_run, cached_run, same]
  cases lookup other <;> rfl

/-- Caching an answer keeps what it is not stored in. -/
theorem cached_keeps (field : Cache → β)
    (keeps : ∀ value start, field (store value start) = field start) :
    field ((cached lookup store query).run cache).2 = field cache := by
  rw [cached_run]
  cases lookup cache with
  | some value => rfl
  | none => exact keeps query cache

end Cache

variable (service : AccessControlService)

private theorem getCatalogPermissions_keeps (cache : Cache) :
    (service.getCatalogPermissions.run cache).2.rolePermissions = cache.rolePermissions ∧
      (service.getCatalogPermissions.run cache).2.tenantPolicies = cache.tenantPolicies ∧
      (service.getCatalogPermissions.run cache).2.storePolicies = cache.storePolicies ∧
      (service.getCatalogPermissions.run cache).2.userOverrides = cache.userOverrides :=
  ⟨cached_keeps (·.rolePermissions) fun _ _ => rfl, cached_keeps (·.tenantPolicies) fun _ _ => rfl,
    cached_keeps (·.storePolicies) fun _ _ => rfl, cached_keeps (·.userOverrides) fun _ _ => rfl⟩

private theorem getAllowedPermissions_keeps (roleName : String) (tenantId : Option String)
    (cache : Cache) :
    ((service.getAllowedPermissions roleName tenantId).run cache).2.tenantPolicies =
    cache.tenantPolicies ∧
      ((service.getAllowedPermissions roleName tenantId).run cache).2.storePolicies =
      cache.storePolicies ∧
      ((service.getAllowedPermissions roleName tenantId).run cache).2.userOverrides =
      cache.userOverrides :=
  ⟨cached_keeps (·.tenantPolicies) fun _ _ => rfl, cached_keeps (·.storePolicies) fun _ _ => rfl,
    cached_keeps (·.userOverrides) fun _ _ => rfl⟩

private theorem getTenantRolePolicy_keeps (tenantId roleName : Option String) (cache : Cache) :
    ((service.getTenantRolePolicy tenantId roleName).run cache).2.storePolicies =
    cache.storePolicies ∧
      ((service.getTenantRolePolicy tenantId roleName).run cache).2.userOverrides =
      cache.userOverrides := by
  cases roleName with
  | none => exact ⟨rfl, rfl⟩
  | some roleName =>
    exact ⟨cached_keeps (·.storePolicies) fun _ _ => rfl, cached_keeps (·.userOverrides) fun _ _ =>
      rfl⟩

theorem getStoreRolePolicy_none (tenantId storeId : Option String) :
    service.getStoreRolePolicy tenantId storeId none = pure {} := by
  unfold getStoreRolePolicy
  split
  · contradiction
  · rfl

private theorem getStoreRolePolicy_keeps (tenantId storeId roleName : Option String)
    (cache : Cache) :
    ((service.getStoreRolePolicy tenantId storeId roleName).run cache).2.userOverrides =
    cache.userOverrides := by
  unfold getStoreRolePolicy
  split
  · exact cached_keeps (·.userOverrides) fun _ _ => rfl
  · rfl

private theorem getAllowedPermissions_value (roleName : String) (tenantId : Option String)
    {cache other : Cache} (same : cache.rolePermissions = other.rolePermissions) :
    ((service.getAllowedPermissions roleName tenantId).run cache).1 =
      ((service.getAllowedPermissions roleName tenantId).run other).1 := by
  apply cached_value
  rw [same]

private theorem getTenantRolePolicy_value (tenantId roleName : Option String) {cache other : Cache}
    (same : cache.tenantPolicies = other.tenantPolicies) :
    ((service.getTenantRolePolicy tenantId roleName).run cache).1 =
      ((service.getTenantRolePolicy tenantId roleName).run other).1 := by
  cases roleName with
  | none => rfl
  | some roleName =>
    apply cached_value
    rw [same]

private theorem getStoreRolePolicy_value (tenantId storeId roleName : Option String)
    {cache other : Cache} (same : cache.storePolicies = other.storePolicies) :
    ((service.getStoreRolePolicy tenantId storeId roleName).run cache).1 =
      ((service.getStoreRolePolicy tenantId storeId roleName).run other).1 := by
  unfold getStoreRolePolicy
  split
  · apply cached_value
    rw [same]
  · rfl

private theorem getUserOverrides_value (tenantId userId : Option String) {cache other : Cache}
    (same : cache.userOverrides = other.userOverrides) :
    ((service.getUserOverrides tenantId userId).run cache).1 =
    ((service.getUserOverrides tenantId userId).run other).1 := by
  unfold getUserOverrides
  split
  · apply cached_value
    rw [same]
  · rfl

/-! ## Decisions -/

section Decisions

variable {denyPermissions : List String} {baseAllowed : Finset String}
    {tenant store user : Overlay String} {key : String}

@[simp] theorem buildDecision_key :
    (buildDecision denyPermissions baseAllowed tenant store user key).key = key := by
  unfold buildDecision
  split_ifs <;> rfl

/-- A key is allowed when it is effective in the layers and no resolver denies it. -/
theorem buildDecision_allowed :
    (buildDecision denyPermissions baseAllowed tenant store user key).allowed = true ↔
    key ∉ denyPermissions ∧ key ∈ effective baseAllowed [tenant, store, user] := by
  simp only [mem_effective, granted_cons, granted_nil, denied_cons, denied_nil, Finset.mem_union,
    Finset.notMem_empty, or_false]
  unfold buildDecision
  split_ifs <;> simp_all

end Decisions

/-! ## The layers -/

section Layers

variable (cache : Cache) (context : RequestContext) (tokenData : Option TokenData)

/-- The permission codes that a request knows. -/
def catalog : Finset String := (service.getCatalogPermissions.run cache).1

/-- The permissions of the caller's role. -/
def baseLayer : Finset String :=
  match resolveRoleScope context tokenData with
  | (none, _, _) => ∅
  | (some roleName, tenantId, _) => ((service.getAllowedPermissions roleName tenantId).run cache).1

def tenantLayer : Overlay String :=
  let (roleName, tenantId, _) := resolveRoleScope context tokenData
  ((service.getTenantRolePolicy tenantId roleName).run cache).1

def storeLayer : Overlay String :=
  let (roleName, tenantId, storeId) := resolveRoleScope context tokenData
  ((service.getStoreRolePolicy tenantId storeId roleName).run cache).1

def userLayer : Overlay String :=
  let (_, tenantId, _) := resolveRoleScope context tokenData
  ((service.getUserOverrides tenantId context.userId).run cache).1

/-- The decision on a key by the layers that apply to the caller. -/
def decision (key : String) : PermissionDecision :=
  buildDecision (service.getDeniedPermissions context) (service.baseLayer cache context tokenData)
    (service.tenantLayer cache context tokenData) (service.storeLayer cache context tokenData)
    (service.userLayer cache context tokenData) key

/-- What a check answers. -/
def check (permissionKey : String) : PermissionDecision :=
  ((service.evaluatePermission permissionKey context tokenData).run cache).1

/-- What a listing answers, with the layers that it read. -/
def listing : List PermissionDecision × PermissionTrace :=
  ((service.buildEffectivePermissionsWithTrace context tokenData).run cache).1

/-- Reading the layers one after the other reads each as it is cached at the start. -/
theorem layers_after_catalog (roleName : String) (tenantId storeId userId : Option String)
    (cache : Cache) :
    let first := (service.getCatalogPermissions.run cache).2
    let second := ((service.getAllowedPermissions roleName tenantId).run first).2
    let third := ((service.getTenantRolePolicy tenantId (some roleName)).run second).2
    let fourth := ((service.getStoreRolePolicy tenantId storeId (some roleName)).run third).2
    ((service.getAllowedPermissions roleName tenantId).run first).1 =
        ((service.getAllowedPermissions roleName tenantId).run cache).1 ∧
      ((service.getTenantRolePolicy tenantId (some roleName)).run second).1 =
        ((service.getTenantRolePolicy tenantId (some roleName)).run cache).1 ∧
      ((service.getStoreRolePolicy tenantId storeId (some roleName)).run third).1 =
        ((service.getStoreRolePolicy tenantId storeId (some roleName)).run cache).1 ∧
      ((service.getUserOverrides tenantId userId).run fourth).1 =
        ((service.getUserOverrides tenantId userId).run cache).1 := by
  intro first second third fourth
  have afterCatalog := service.getCatalogPermissions_keeps cache
  have afterBase := service.getAllowedPermissions_keeps roleName tenantId first
  have afterTenant := service.getTenantRolePolicy_keeps tenantId (some roleName) second
  have afterStore := service.getStoreRolePolicy_keeps tenantId storeId (some roleName) third
  refine ⟨?_, ?_, ?_, ?_⟩
  · exact service.getAllowedPermissions_value roleName tenantId afterCatalog.1
  · exact service.getTenantRolePolicy_value tenantId (some roleName)
      (afterBase.1.trans afterCatalog.2.1)
  · exact service.getStoreRolePolicy_value tenantId storeId (some roleName)
      (afterTenant.1.trans (afterBase.2.1.trans afterCatalog.2.2.1))
  · exact service.getUserOverrides_value tenantId userId
      (afterStore.trans (afterTenant.2.trans (afterBase.2.2.trans afterCatalog.2.2.2)))

theorem listing_eq : service.listing cache context tokenData =
    (((service.catalog cache).sort (· ≤ ·)).map (service.decision cache context tokenData),
      { templateAllow := service.baseLayer cache context tokenData
        tenant := service.tenantLayer cache context tokenData
        store := service.storeLayer cache context tokenData
        user := service.userLayer cache context tokenData }) := by
  have afterCatalog := service.getCatalogPermissions_keeps cache
  have byLayers : service.decision cache context tokenData = buildDecision
      (service.getDeniedPermissions context) (service.baseLayer cache context tokenData)
      (service.tenantLayer cache context tokenData)
      (service.storeLayer cache context tokenData) (service.userLayer cache context tokenData) :=
      rfl
  simp only [byLayers, listing, buildEffectivePermissionsWithTrace, baseLayer, tenantLayer,
    storeLayer, userLayer, catalog]
  obtain ⟨roleName, tenantId, storeId⟩ := resolveRoleScope context tokenData
  dsimp only
  cases roleName with
  | none =>
    rw [← service.getUserOverrides_value tenantId context.userId afterCatalog.2.2.2,
      getStoreRolePolicy_none]
    rfl
  | some roleName =>
    obtain ⟨base, tenant, store, user⟩ :=
      service.layers_after_catalog roleName tenantId storeId context.userId cache
    dsimp only
    rw [← base, ← tenant, ← store, ← user]
    rfl

/-- A check with the decision of a listing in place of its own. -/
theorem evaluatePermission_eq (permissionKey : String) :
    service.evaluatePermission permissionKey context tokenData = (do
      let catalog ← service.getCatalogPermissions
      if strip permissionKey ∉ catalog then pure ⟨strip permissionKey, false, "unknown_permission"⟩
          else
      match resolveRoleScope context tokenData with
      | (none, _, _) => pure ⟨strip permissionKey, false, "default_deny"⟩
      | (some roleName, tenantId, storeId) => do
        let baseAllowed ← service.getAllowedPermissions roleName tenantId
        let tenant ← service.getTenantRolePolicy tenantId (some roleName)
        let store ← service.getStoreRolePolicy tenantId storeId (some roleName)
        let user ← service.getUserOverrides tenantId context.userId
        pure (buildDecision (service.getDeniedPermissions context) baseAllowed tenant store user
            (strip permissionKey))) := by
  rw [evaluatePermission]
  refine bind_congr fun catalog => ?_
  split
  · rfl
  · obtain ⟨roleName, tenantId, storeId⟩ := resolveRoleScope context tokenData
    cases roleName with
    | none => rfl
    | some roleName =>
      refine bind_congr fun baseAllowed => bind_congr fun tenant => bind_congr fun store =>
        bind_congr fun user => ?_
      simp only [buildDecision]
      split_ifs <;> rfl

/-- A check takes the same decision as a listing, but knows no permissions without a role. -/
theorem check_eq (permissionKey : String) : service.check cache context tokenData permissionKey =
    if strip permissionKey ∉ service.catalog cache then ⟨strip permissionKey, false,
      "unknown_permission"⟩
    else if (resolveRoleScope context tokenData).1 = none then ⟨strip permissionKey, false,
      "default_deny"⟩
    else service.decision cache context tokenData (strip permissionKey) := by
  rw [check, evaluatePermission_eq]
  simp only [decision, baseLayer, tenantLayer, storeLayer, userLayer, catalog, run_bind]
  generalize strip permissionKey = key
  obtain ⟨roleName, tenantId, storeId⟩ := resolveRoleScope context tokenData
  dsimp only
  by_cases unknown : key ∉ (service.getCatalogPermissions.run cache).1
  · rw [if_pos unknown]
    exact (if_pos unknown).symm
  · rw [if_neg unknown]
    refine Eq.trans ?_ (if_neg unknown).symm
    cases roleName with
    | none => rfl
    | some roleName =>
      obtain ⟨base, tenant, store, user⟩ :=
        service.layers_after_catalog roleName tenantId storeId context.userId cache
      dsimp only
      rw [if_neg (Option.some_ne_none roleName), ← base, ← tenant, ← store, ← user]
      rfl

/-- The listing has the key as an allowed one. -/
def ListsAllowed (key : String) : Prop :=
  ∃ decision ∈ (service.listing cache context tokenData).1, decision.key = key ∧
    decision.allowed = true

end Layers

section Allowed

variable {service : AccessControlService} {cache : Cache} {context : RequestContext}
    {tokenData : Option TokenData} {key : String}

theorem decision_allowed : (service.decision cache context tokenData key).allowed = true ↔
    key ∉ service.getDeniedPermissions context ∧ key ∈ effective
    (service.baseLayer cache context tokenData)
      [service.tenantLayer cache context tokenData, service.storeLayer cache context tokenData,
        service.userLayer cache context tokenData] := buildDecision_allowed

theorem listsAllowed_iff : ListsAllowed service cache context tokenData key ↔
    key ∈ service.catalog cache ∧ (service.decision cache context tokenData key).allowed =
    true := by
  rw [ListsAllowed, listing_eq]
  constructor
  · rintro ⟨_, listed, rfl, allowed⟩
    obtain ⟨key, catalogued, rfl⟩ := List.mem_map.mp listed
    have same : (service.decision cache context tokenData key).key = key := buildDecision_key
    rw [same]
    exact ⟨(Finset.mem_sort _).mp catalogued, allowed⟩
  · rintro ⟨catalogued, allowed⟩
    exact ⟨_, List.mem_map_of_mem ((Finset.mem_sort _).mpr catalogued), buildDecision_key, allowed⟩

end Allowed

end AccessControlService

end ArisCloud.AccessControl
