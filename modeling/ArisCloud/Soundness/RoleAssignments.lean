import ArisCloud.Soundness.Accounts

/-! # Which roles and permissions accounts come to hold

Roles of the platform are never assigned, and administrators only by the platform: after any run
they are held by the accounts that held them. Callers below an administrator hand on at most what
they are listed with, so no run of theirs takes any account beyond the permissions that accounts and
policies gave at its start.
-/

namespace ArisCloud.Administration

open Checked Requests
open AccessControl (AccessDb AccessControlService Cache)
open Overlays (Overlay effective)
open AccessControl.AccessControlService (templatePermissions resolveRoleScope)

variable {platform : Platform} {db next start last : AdminDb} {tokenData : TokenData}
    {currentUser : User} {call : AdminCall}
  {request : AdminRequest} {history : List (AdminDb × AdminRequest)}

/-! ## Privileged roles -/

/-- The account had its role before. -/
def Held (start : AdminDb) (user : User) : Prop :=
  ∃ before ∈ start.users, before.id = user.id ∧ before.role = user.role

theorem Held.refl {user : User} (member : user ∈ start.users) : Held start user :=
  ⟨user, member, rfl, rfl⟩

/-- A request that presents a token of the platform. -/
def ByPlatform : AdminRequest → Prop
  | .call tokenData _ => isSuperadmin tokenData.role = true
  | .login .. => False

private theorem toUpper_text (role : AdminRole) : role.text.toUpper = role.text := by
  cases role <;> decide +kernel

/-- A row has the role of the account before, or an assigned one. -/
theorem Effect.role_cases (coherent : Coherent db) (caller : Caller db tokenData currentUser)
    (effect : Effect platform db tokenData currentUser call next) {row : User}
    (member : row ∈ next.users) :
    (∃ before ∈ db.users, before.id = row.id ∧ before.tenantId = row.tenantId ∧
      before.role = row.role) ∨
      ∃ role : AdminRole, row.role = role.text ∧ Reaches tokenData row.tenantId ∧
        ∃ cache, requirePermission db tokenData "USER_MANAGE" = .ok cache ∧
        RoleAllowed db tokenData cache role.text := by
  rcases effect.user_cases coherent caller member with kept | ⟨_, _, before, was, written⟩
  · exact .inl ⟨row, kept, rfl, rfl, rfl⟩
  · cases written with
    | created permitted _ reaches allowed => exact .inr ⟨_, rfl, reaches, _, permitted, allowed⟩
    | roleSet permitted _ allowed reaches => exact .inr ⟨_, rfl, reaches, _, permitted, allowed⟩
    | passwordChanged => exact .inl ⟨currentUser, was currentUser rfl, rfl, rfl, rfl⟩
    | @updated _ _ _ before | @statusSet _ _ _ before | @passwordReset _ _ _ _ before =>
      exact .inl ⟨before, was before rfl, rfl, rfl, rfl⟩

/-- What every run keeps: who is of the platform was so at the start, with the tokens that this
gives. -/
structure PlatformInherited (start db : AdminDb) : Prop where
  coherent : Coherent db
  users : ∀ user ∈ db.users, isSuperadmin user.role = true → Held start user
  tokens : ∀ token ∈ db.issued, isSuperadmin token.role = true →
    token ∈ start.issued ∨ ∃ before ∈ start.users, before.id = token.sub ∧
    isSuperadmin before.role = true

theorem PlatformInherited.step (inherited : PlatformInherited start db)
    (committed : adminStep platform db request = .ok next) :
    PlatformInherited start next := by
  have coherentNext := coherent_step inherited.coherent committed
  cases adminStep_stepped committed with
  | @loggedIn _ _ user member =>
    refine ⟨coherentNext, inherited.users, fun token issued platformRole => ?_⟩
    rcases List.mem_append.mp issued with earlier | new
    · exact inherited.tokens token earlier platformRole
    · obtain rfl := List.mem_singleton.mp new
      obtain ⟨before, wasUser, sameId, sameRole⟩ := inherited.users user member platformRole
      exact .inr ⟨before, wasUser, sameId, sameRole ▸ platformRole⟩
  | called caller effect =>
    refine ⟨coherentNext, fun row member platformRole => ?_, fun token issued =>
      inherited.tokens token (effect.drawn_issued.2 ▸ issued)⟩
    rcases effect.role_cases inherited.coherent caller member with
      ⟨user, isUser, sameId, _, sameRole⟩ | ⟨role, assigned, _, _, _, allowed⟩
    · obtain ⟨before, wasUser, beforeId, beforeRole⟩ := inherited.users user isUser
        (sameRole ▸ platformRole)
      exact ⟨before, wasUser, beforeId.trans sameId, beforeRole.trans sameRole⟩
    · rw [assigned, allowed.tenantRole] at platformRole
      contradiction

/-- What a run without platform tokens keeps: who administers a tenant did so at the start. -/
structure AdminsInherited (start db : AdminDb) : Prop where
  coherent : Coherent db
  users : ∀ user ∈ db.users, user.role.toUpper = "ADMIN" → Held start user

theorem AdminsInherited.step (inherited : AdminsInherited start db)
    (ordinary : ¬ ByPlatform request) (committed : adminStep platform db request = .ok next) :
    AdminsInherited start next := by
  have coherentNext := coherent_step inherited.coherent committed
  cases adminStep_stepped committed with
  | loggedIn => exact ⟨coherentNext, inherited.users⟩
  | called caller effect =>
    refine ⟨coherentNext, fun row member admin => ?_⟩
    rcases effect.role_cases inherited.coherent caller member with
      ⟨user, isUser, sameId, _, sameRole⟩ | ⟨role, assigned, _, _, _, allowed⟩
    · obtain ⟨before, wasUser, beforeId, beforeRole⟩ := inherited.users user isUser
        (sameRole ▸ admin)
      exact ⟨before, wasUser, beforeId.trans sameId, beforeRole.trans sameRole⟩
    · rw [assigned, toUpper_text] at admin
      exact absurd (allowed.byPlatform admin) ordinary

/-- After any run the roles of the platform are held by accounts that held them at the start, its
tokens were there at the start or belong to such accounts, and when the requests of the run present
no platform token, administrators are accounts that were administrators at the start. -/
theorem privileged_roles_inherited (coherent : Coherent start)
    (run : Run (adminStep platform) start history last) :
    (∀ user ∈ last.users, isSuperadmin user.role = true → Held start user) ∧
      (∀ token ∈ last.issued, isSuperadmin token.role = true →
        token ∈ start.issued ∨ ∃ before ∈ start.users, before.id = token.sub ∧
        isSuperadmin before.role = true) ∧
      ((∀ entry ∈ history, ¬ ByPlatform entry.2) →
        ∀ user ∈ last.users, user.role.toUpper = "ADMIN" → Held start user) := by
  have initially : PlatformInherited start start :=
    ⟨coherent, fun user member _ => .refl member, fun token issued _ => .inl issued⟩
  have inherited : PlatformInherited start last :=
    run.invariant initially fun _ _ _ before committed => before.step committed
  refine ⟨inherited.users, inherited.tokens, fun ordinary => ?_⟩
  have reached : Reachable (adminStep platform) (fun _ request => ¬ ByPlatform request) start
    last := run.reachable ordinary
  have here : AdminsInherited start start := ⟨coherent, fun user member _ => .refl member⟩
  have there : AdminsInherited start last :=
    reached.invariant here fun _ _ _ before permitted committed =>
    before.step permitted committed
  exact there.users

namespace Sample

/-- The platform's administrator makes the manager an administrator of the tenant. -/
def promotion : List AdminRequest :=
  [logIn root,
    asUser root (.userActions "boss" { action := .setRole, role := some .admin,
                                       transactionId := "t1" } "" "")]

theorem promotion_commits : (recordRun (adminStep salted) staffed promotion).isSome = true := by
  decide +kernel

def promoted : List (AdminDb × AdminRequest) × AdminDb :=
  (recordRun (adminStep salted) staffed promotion).get promotion_commits

end Sample

/-- Hiring a helper makes no administrator of anybody. -/
theorem privileged_roles_inherited_hired :
    ¬ ∃ user ∈ Sample.hired.2.users, user.role.toUpper = "ADMIN" := by
  rintro ⟨user, member, admin⟩
  have held : Held Sample.staffed user := by
    refine (privileged_roles_inherited Sample.staffed_coherent
      (run_of_recordRun (Option.some_get Sample.hiring_commits).symm)).2.2 ?_ user member admin
    have requests := requests_of_recordRun (Option.some_get Sample.hiring_commits).symm
    intro entry member
    have listed : entry.2 ∈ Sample.hired.1.map (·.2) := List.mem_map_of_mem member
    rw [Sample.hired, requests] at listed
    rcases List.mem_cons.mp listed with same | listed
    · rw [same]
      exact not_false
    · rw [List.mem_singleton.mp listed]
      exact (by decide +kernel : ¬ isSuperadmin (createUserAccessToken Sample.boss).role = true)
  obtain ⟨before, wasUser, _, sameRole⟩ := held
  have nobody : ∀ user ∈ Sample.staffed.users, user.role.toUpper ≠ "ADMIN" := by decide +kernel
  rw [← sameRole] at admin
  exact nobody before wasUser admin

example : (Sample.promoted.2.users.map (·.role)) = ["SUPERADMIN", "ADMIN", "USER"] := by
  decide +kernel

/-! ## Permissions -/

/-- A role below the administrators of a tenant. -/
def IsBelowAdmin (role : String) : Prop := role.toUpper ≠ "ADMIN" ∧ isSuperadmin role = false

/-- A request that presents a token of such a role, or none. -/
def ByBelowAdmin : AdminRequest → Prop
  | .call tokenData _ => IsBelowAdmin tokenData.role
  | .login .. => True

/-- Accounts and tokens below the administrators, and what policies allow in a tenant, stay within
its bound. -/
structure Confined (bound : Option String → Set String) (db : AdminDb) : Prop where
  users : ∀ user ∈ db.users, IsBelowAdmin user.role →
    ∀ key ∈ templatePermissions db.access user.role.toUpper (some user.tenantId.text),
    key ∈ bound (some user.tenantId.text)
  tokens : ∀ token ∈ db.issued, IsBelowAdmin token.role →
    ∀ key ∈ templatePermissions db.access token.role.toUpper
    (token.tenantId.map (·.text)), key ∈ bound (token.tenantId.map (·.text))
  tenantPolicies : ∀ entry ∈ db.access.tenantRolePolicies,
    entry.effect.toLower ≠ AccessControl.EFFECT_DENY →
    entry.permissionCode ∈ bound entry.scope.tenantId
  storePolicies : ∀ entry ∈ db.access.storeRolePolicies,
    entry.effect.toLower ≠ AccessControl.EFFECT_DENY →
    entry.permissionCode ∈ bound (some entry.scope.tenantId)
  overrides : ∀ entry ∈ db.access.userPermissionOverrides,
    entry.effect.toLower ≠ AccessControl.EFFECT_DENY →
    entry.permissionCode ∈ bound (some entry.scope.tenantId)

/-- The layer allows no key outside of a set. -/
def AllowsWithin (keys : Set String) (layer : Overlay String) : Prop := ∀ key ∈ layer.allow,
    key ∈ keys

/-- What is cached allows no key outside of a set. -/
structure CacheWithin (keys : Set String) (cache : Cache) : Prop where
  roles : ∀ entry ∈ cache.rolePermissions, ∀ key ∈ entry.2, key ∈ keys
  tenants : ∀ entry ∈ cache.tenantPolicies, AllowsWithin keys entry.2
  stores : ∀ entry ∈ cache.storePolicies, AllowsWithin keys entry.2
  users : ∀ entry ∈ cache.userOverrides, AllowsWithin keys entry.2

theorem CacheWithin.empty (keys : Set String) : CacheWithin keys {} :=
  ⟨List.forall_mem_nil _, List.forall_mem_nil _, List.forall_mem_nil _, List.forall_mem_nil _⟩

section Cached

variable {keys : Set String} {cache : Cache}

/-- A looked-up value of an association list is one of its values. -/
theorem forall_lookup {α : Type} (holds : α → Prop) {entries : List (String × α)}
    (all : ∀ entry ∈ entries, holds entry.2) {text : String} {value : α}
    (found : entries.lookup text = some value) : holds value := by
  induction entries with
  | nil => contradiction
  | cons entry rest ih =>
    obtain ⟨key, first⟩ := entry
    rw [List.forall_mem_cons] at all
    rw [List.lookup_cons] at found
    split at found
    · obtain rfl := Option.some.inj found
      exact all.1
    · exact ih all.2 found

/-- A cached read answers what is cached or queried, and leaves the cache with what it answers. -/
theorem cached_within {α : Type} {lookup : Cache → Option α} {store : α → Cache → Cache} {query : α}
    (good : α → Prop) (within : CacheWithin keys cache)
    (looked : ∀ value, lookup cache = some value → good value) (queried : good query)
    (stored : CacheWithin keys (store query cache)) :
    good ((AccessControlService.cached lookup store query).run cache).1 ∧
      CacheWithin keys ((AccessControlService.cached lookup store query).run cache).2 := by
  rw [AccessControlService.cached_run]
  cases found : lookup cache with
  | some value => exact ⟨looked value found, within⟩
  | none => exact ⟨queried, stored⟩

end Cached

/-- The scope of a token as the permission service resolves it. -/
theorem resolveRoleScope_token (tokenData : TokenData) : resolveRoleScope tokenData.context
    (some tokenData.scope) =
    (if tokenData.role.toUpper = "" then none else some tokenData.role.toUpper,
      tokenData.tenantId.map (·.text),
      tokenData.storeId.map (·.text)) := by
  have own : ∀ text : Option String, orElse text text = text := by
    intro text
    unfold orElse
    split <;> rfl
  simp only [resolveRoleScope, TokenData.context, TokenData.scope, Option.map_some,
    Option.bind_some, Option.getD_some, own]

section Layers

variable {bound : Option String → Set String} {cache : Cache}

/-- What an overlay of entries allows is the code of one of them that does not deny. -/
theorem partition_within {τ : Type} {entries : List (AccessControl.PolicyEntry τ)}
    {keys : Set String} (all : ∀ entry ∈ entries, entry.effect.toLower ≠ AccessControl.EFFECT_DENY →
      entry.permissionCode ∈ keys) :
    AllowsWithin keys (AccessControl.partitionEntries entries) := by
  intro key allowed
  obtain ⟨entry, member, rfl, grants⟩ := AccessControl.mem_partitionEntries.1.mp allowed
  exact all entry member grants

variable {tenantId storeId : Option String} {roleName : String}

private theorem getAllowedPermissions_within (within : CacheWithin (bound tenantId) cache)
    (template : ∀ key ∈ templatePermissions db.access roleName tenantId, key ∈ bound tenantId) :
    (∀ key ∈ (((accessControlService db).getAllowedPermissions roleName tenantId).run cache).1,
      key ∈ bound tenantId) ∧
      CacheWithin (bound tenantId)
      (((accessControlService db).getAllowedPermissions roleName tenantId).run cache).2 :=
  cached_within (fun codes : Finset String => ∀ key ∈ codes, key ∈ bound tenantId) within
    (fun _ found => forall_lookup (fun codes : Finset String => ∀ key ∈ codes, key ∈ bound tenantId)
    within.roles found) template
    { within with roles := List.forall_mem_cons.mpr ⟨template, within.roles⟩ }

variable (confined : Confined bound db)
include confined

private theorem getTenantRolePolicy_within (within : CacheWithin (bound tenantId) cache)
    (role : Option String) :
    AllowsWithin (bound tenantId)
    (((accessControlService db).getTenantRolePolicy tenantId role).run cache).1 ∧
      CacheWithin (bound tenantId)
      (((accessControlService db).getTenantRolePolicy tenantId role).run cache).2 := by
  cases role with
  | none => exact ⟨fun key none => absurd none (Finset.notMem_empty key), within⟩
  | some roleName =>
    have queried : AllowsWithin (bound tenantId) (AccessControl.partitionEntries
        (AccessControl.listTenantRolePolicies db.access ⟨tenantId, roleName⟩)) := by
      refine partition_within fun entry member grants => ?_
      obtain ⟨listed, selected⟩ := List.mem_filter.mp member
      have ofScope : entry.scope = _ := of_decide_eq_true selected
      have isBound := confined.tenantPolicies entry listed grants
      rwa [ofScope] at isBound
    exact cached_within (AllowsWithin (bound tenantId)) within
      (fun _ found => forall_lookup _ within.tenants found) queried
      { within with tenants := List.forall_mem_cons.mpr ⟨queried, within.tenants⟩ }

private theorem getStoreRolePolicy_within (storeId : Option String)
    (within : CacheWithin (bound tenantId) cache) (role : Option String) :
    AllowsWithin (bound tenantId)
    (((accessControlService db).getStoreRolePolicy tenantId storeId role).run cache).1 ∧
      CacheWithin (bound tenantId)
      (((accessControlService db).getStoreRolePolicy tenantId storeId role).run cache).2 := by
  unfold AccessControlService.getStoreRolePolicy
  split
  · next tenant store roleName sameTenant _ =>
    have named : tenantId = some tenant := by
      obtain ⟨same, _⟩ := Option.filter_eq_some_iff.mp sameTenant
      exact same
    subst named
    have queried : AllowsWithin (bound (some tenant)) (AccessControl.partitionEntries
        (AccessControl.listStoreRolePolicies db.access ⟨tenant, store, roleName⟩)) := by
      refine partition_within fun entry member grants => ?_
      obtain ⟨listed, selected⟩ := List.mem_filter.mp member
      have ofScope : entry.scope = _ := of_decide_eq_true selected
      have isBound := confined.storePolicies entry listed grants
      rwa [ofScope] at isBound
    exact cached_within (AllowsWithin (bound (some tenant))) within
      (fun _ found => forall_lookup _ within.stores found) queried
      { within with stores := List.forall_mem_cons.mpr ⟨queried, within.stores⟩ }
  · exact ⟨fun key none => absurd none (Finset.notMem_empty key), within⟩

private theorem getUserOverrides_within (within : CacheWithin (bound tenantId) cache)
    (user : Option String) :
    AllowsWithin (bound tenantId)
    (((accessControlService db).getUserOverrides tenantId user).run cache).1 ∧
      CacheWithin (bound tenantId)
      (((accessControlService db).getUserOverrides tenantId user).run cache).2 := by
  unfold AccessControlService.getUserOverrides
  split
  · next tenant userId sameTenant _ =>
    have named : tenantId = some tenant := by
      obtain ⟨same, _⟩ := Option.filter_eq_some_iff.mp sameTenant
      exact same
    subst named
    have queried : AllowsWithin (bound (some tenant)) (AccessControl.partitionEntries
        (AccessControl.listUserOverrides db.access ⟨tenant, userId⟩)) := by
      refine partition_within fun entry member grants => ?_
      obtain ⟨listed, selected⟩ := List.mem_filter.mp member
      have ofScope : entry.scope = _ := of_decide_eq_true selected
      have isBound := confined.overrides entry listed grants
      rwa [ofScope] at isBound
    exact cached_within (AllowsWithin (bound (some tenant))) within
      (fun _ found => forall_lookup _ within.users found) queried
      { within with users := List.forall_mem_cons.mpr ⟨queried, within.users⟩ }
  · exact ⟨fun key none => absurd none (Finset.notMem_empty key), within⟩

/-- The permissions of a token's role stay within the bound. -/
def TemplateWithin (bound : Option String → Set String) (db : AdminDb) (tokenData : TokenData) :
    Prop :=
  ∀ key ∈ templatePermissions db.access tokenData.role.toUpper (tokenData.tenantId.map (·.text)),
    key ∈ bound (tokenData.tenantId.map (·.text))

/-- A decision for a token reads layers within the bound, so it allows keys within the bound
only. -/
theorem decision_within (within : CacheWithin (bound (tokenData.tenantId.map (·.text))) cache)
    (template : TemplateWithin bound db tokenData) {key : String}
    (allowed : ((accessControlService db).decision cache tokenData.context
      (some tokenData.scope) key).allowed = true) :
    key ∈ bound (tokenData.tenantId.map (·.text)) := by
  have resolved := resolveRoleScope_token tokenData
  have base : ∀ key ∈ (accessControlService db).baseLayer cache tokenData.context (some tokenData.scope),
      key ∈ bound (tokenData.tenantId.map (·.text)) := by
    rw [AccessControlService.baseLayer, resolved]
    split
    · exact fun key none => absurd none (Finset.notMem_empty key)
    · next roleName tenantId _ same =>
      simp only [Prod.mk.injEq] at same
      obtain ⟨role, rfl, _⟩ := same
      split at role
      · contradiction
      · obtain rfl := Option.some.inj role
        exact (getAllowedPermissions_within within template).1
  have tenant := (getTenantRolePolicy_within confined within
    (resolveRoleScope tokenData.context (some tokenData.scope)).1).1
  have store := (getStoreRolePolicy_within confined (tokenData.storeId.map (·.text)) within
    (resolveRoleScope tokenData.context (some tokenData.scope)).1).1
  have user := (getUserOverrides_within confined within tokenData.context.userId).1
  obtain ⟨inBase | isGranted, _⟩ :=
    Overlays.mem_effective.mp (AccessControlService.decision_allowed.mp allowed).2
  · exact base key inBase
  · simp only [Overlays.granted_cons, Overlays.granted_nil, Finset.mem_union, Finset.notMem_empty,
      or_false, AccessControlService.tenantLayer, AccessControlService.storeLayer,
      AccessControlService.userLayer, resolved] at isGranted
    rw [resolved] at tenant store
    rcases isGranted with byTenant | byStore | byUser
    · exact tenant key byTenant
    · exact store key byStore
    · exact user key byUser

omit confined in
private theorem requirePermission_eq_ok {permissionKey : String}
    (permitted : requirePermission db tokenData permissionKey = .ok cache) :
    cache = (((accessControlService db).evaluatePermission permissionKey tokenData.context
      (some tokenData.scope)).run {}).2 := by
  rw [requirePermission] at permitted
  generalize ((accessControlService db).evaluatePermission permissionKey tokenData.context
    (some tokenData.scope)).run {} = result at permitted ⊢
  obtain ⟨decision, cached⟩ := result
  obtain ⟨_, _, same⟩ := bind_eq_ok.mp permitted
  exact (pure_eq_ok.mp same).symm

/-- What a check caches stays within the bound. -/
theorem requirePermission_within (template : TemplateWithin bound db tokenData)
    {permissionKey : String}
    (permitted : requirePermission db tokenData permissionKey = .ok cache) :
    CacheWithin (bound (tokenData.tenantId.map (·.text))) cache := by
  rw [requirePermission_eq_ok permitted, AccessControlService.evaluatePermission_eq,
    AccessControl.run_bind]
  have catalogued : CacheWithin (bound (tokenData.tenantId.map (·.text)))
      ((accessControlService db).getCatalogPermissions.run {}).2 :=
    ⟨List.forall_mem_nil _, List.forall_mem_nil _, List.forall_mem_nil _, List.forall_mem_nil _⟩
  rw [resolveRoleScope_token]
  split
  · exact catalogued
  · split
    · exact catalogued
    · next roleName tenantId storeId same =>
      simp only [Prod.mk.injEq] at same
      obtain ⟨role, rfl, rfl⟩ := same
      split at role
      · contradiction
      · obtain rfl := Option.some.inj role
        have afterBase := (getAllowedPermissions_within catalogued template).2
        have afterTenant :=
          (getTenantRolePolicy_within confined afterBase (some tokenData.role.toUpper)).2
        have afterStore :=
          (getStoreRolePolicy_within confined (tokenData.storeId.map (·.text)) afterTenant
          (some tokenData.role.toUpper)).2
        exact (getUserOverrides_within confined afterStore tokenData.context.userId).2

/-- The caller is listed with keys within the bound only. -/
theorem allowedPermissions_within (template : TemplateWithin bound db tokenData)
    {permissionKey : String} (permitted : requirePermission db tokenData permissionKey = .ok cache)
    {key : String} (listed : key ∈ allowedPermissions db tokenData cache) :
    key ∈ bound (tokenData.tenantId.map (·.text)) := by
  have within := requirePermission_within confined template permitted
  obtain ⟨_, isDecision, rfl, allowed⟩ := mem_allowedPermissions.mp listed
  have isListed : AccessControlService.ListsAllowed
      (accessControlService db) cache tokenData.context (some tokenData.scope) _ :=
    ⟨_, isDecision, rfl, allowed⟩
  exact decision_within confined within template
    (AccessControlService.listsAllowed_iff.mp isListed).2

end Layers

/-- A caller below the administrators writes no template and no policy. -/
theorem Effect.access_eq (effect : Effect platform db tokenData currentUser call next)
    (below : IsBelowAdmin tokenData.role) :
    next.access = db.access := by
  obtain ⟨notAdmin, notPlatform⟩ := below
  cases effect with
  | tenantDeleted platformRole | userDeleted platformRole =>
    rw [notPlatform] at platformRole
    contradiction
  | policyWritten _ allowed =>
    cases allowed with
    | platform _ platformRole =>
      rw [notPlatform] at platformRole
      contradiction
    | tenantRole _ _ _ _ _ admin | storeRole _ _ _ _ _ _ admin | user _ _ _ _ _ admin =>
      exact absurd admin notAdmin
  | passwordChanged | tenantCreated | tenantRenamed | tenantStatusSet | storeCreated | storeRenamed
  | storeDeleted | userCreated
  | userUpdated | userActed => rfl

/-- What runs of callers below the administrators keep. -/
structure Bounded (bound : Option String → Set String) (db : AdminDb) : Prop where
  coherent : Coherent db
  confined : Confined bound db

theorem Bounded.step {bound : Option String → Set String} (bounded : Bounded bound db)
    (below : ByBelowAdmin request) (committed : adminStep platform db request = .ok next) :
    Bounded bound next := by
  have coherentNext := coherent_step bounded.coherent committed
  obtain ⟨coherent, confined⟩ := bounded
  cases adminStep_stepped committed with
  | @loggedIn _ _ user member =>
    refine ⟨coherentNext, { confined with tokens := fun token issued belowAdmin => ?_ }⟩
    rcases List.mem_append.mp issued with earlier | new
    · exact confined.tokens token earlier belowAdmin
    · obtain rfl := List.mem_singleton.mp new
      exact confined.users user member belowAdmin
  | @called tokenData currentUser call _ caller effect =>
    have sameAccess := effect.access_eq below
    have sameTokens := effect.drawn_issued.2
    have template : TemplateWithin bound db tokenData :=
      confined.tokens tokenData caller.issued below
    refine ⟨coherentNext, ?_, ?_, ?_, ?_, ?_⟩
    · intro row member belowAdmin
      rw [sameAccess]
      rcases effect.role_cases coherent caller member with
        ⟨user, isUser, _, sameTenant, sameRole⟩ | ⟨role, assigned, reaches, cache, permitted,
          allowed⟩
      · rw [← sameTenant, ← sameRole]
        exact confined.users user isUser (sameRole ▸ belowAdmin)
      · -- The caller is of the tenant and listed with every permission of the assigned role.
        have own := caller.own_of_reaches coherent reaches below.2
        have named : tokenData.tenantId.map (·.text) = some row.tenantId.text := by
          rw [caller.tenant coherent, own]
          rfl
        intro key inTemplate
        rw [assigned, toUpper_text, ← named] at inTemplate
        have ceiling := allowed.ceiling.resolve_left (by rw [below.2]; exact Bool.false_ne_true)
        rw [← named]
        exact allowedPermissions_within confined template permitted (ceiling inTemplate)
    · intro token issued belowAdmin
      rw [sameAccess]
      exact confined.tokens token (sameTokens ▸ issued) belowAdmin
    · rw [sameAccess]
      exact confined.tenantPolicies
    · rw [sameAccess]
      exact confined.storePolicies
    · rw [sameAccess]
      exact confined.overrides

/-- As long as only callers below the administrators act, whatever they create, assign or reset: a
token below the administrators is never permitted anything that neither the accounts of its tenant
below the administrators nor the policies of its tenant gave at the start. -/
theorem permissions_confined {bound : Option String → Set String} (coherent : Coherent start)
    (confined : Confined bound start) (run : Run (adminStep platform) start history last)
    (below : ∀ entry ∈ history, ByBelowAdmin entry.2) :
    ∀ token ∈ last.issued, IsBelowAdmin token.role → ∀ key,
      ((accessControlService last).check {} token.context (some token.scope) key).allowed = true →
        strip key ∈ bound (token.tenantId.map (·.text)) := by
  have here : Bounded bound start := ⟨coherent, confined⟩
  have reached : Reachable (adminStep platform) (fun _ request => ByBelowAdmin request) start
    last := run.reachable below
  have there : Bounded bound last := reached.invariant here fun _ _ _ before permitted committed =>
    before.step permitted committed
  intro token issued belowAdmin key allowed
  rw [AccessControlService.check_eq] at allowed
  split_ifs at allowed
  exact decision_within there.confined (.empty _)
    (there.confined.tokens token issued belowAdmin) allowed

namespace Sample

/-- Everybody below the administrators of the tenant may manage users and view stores. -/
def ofManagers : Option String → Set String := fun _ => {"USER_MANAGE", "STORE_VIEW"}

private theorem staffed_confined : Confined ofManagers staffed where
  users := by
    intro user member below key inTemplate
    have listed : user = root ∨ user = boss ∨ user = clerk := by simpa [staffed] using member
    rcases listed with rfl | rfl | rfl
    · exact absurd below.2 (by decide +kernel)
    · have keys : templatePermissions staffed.access boss.role.toUpper (some boss.tenantId.text) =
          {"USER_MANAGE", "STORE_VIEW"} := by decide +kernel
      rw [keys] at inTemplate
      simpa [ofManagers] using inTemplate
    · have keys : templatePermissions staffed.access clerk.role.toUpper (some clerk.tenantId.text) =
          {"STORE_VIEW"} := by
        decide +kernel
      rw [keys] at inTemplate
      exact .inr (Finset.mem_singleton.mp inTemplate)
  tokens := List.forall_mem_nil _
  tenantPolicies := List.forall_mem_nil _
  storePolicies := List.forall_mem_nil _
  overrides := List.forall_mem_nil _

def asManager : UserCreateRequest where
  username := "helper"
  email := "helper@example"
  password := "Temporary1"
  role := .manager
  storeId := "downtown"

/-- The helper is hired as a manager and logs in. -/
def promotedHelper : List AdminRequest :=
  [logIn boss, asUser boss (.createUser asManager "grain" helperId), .login "helper" "Temporary1"]

private theorem promotedHelper_commits :
    (recordRun (adminStep salted) staffed promotedHelper).isSome = true := by decide +kernel

def managedHelper : List (AdminDb × AdminRequest) × AdminDb :=
  (recordRun (adminStep salted) staffed promotedHelper).get promotedHelper_commits

end Sample

/-- The new manager cannot manage stores. -/
theorem permissions_confined_helper : ¬ ∃ token ∈ Sample.managedHelper.2.issued,
    IsBelowAdmin token.role ∧
    ((accessControlService Sample.managedHelper.2).check {} token.context
      (some token.scope) "STORE_MANAGE").allowed = true := by
  rintro ⟨token, issued, belowAdmin, allowed⟩
  have within : strip "STORE_MANAGE" ∈ Sample.ofManagers (token.tenantId.map (·.text)) := by
    refine permissions_confined Sample.staffed_coherent Sample.staffed_confined
      (run_of_recordRun (Option.some_get Sample.promotedHelper_commits).symm) ?_ token issued
      belowAdmin _ allowed
    have requests := requests_of_recordRun (Option.some_get Sample.promotedHelper_commits).symm
    have allBelow : ∀ request ∈ Sample.promotedHelper, ByBelowAdmin request := by
      simp only [Sample.promotedHelper, List.forall_mem_cons]
      exact ⟨trivial, ⟨by decide +kernel, by decide +kernel⟩, trivial, List.forall_mem_nil _⟩
    intro entry member
    have listed : entry.2 ∈ Sample.managedHelper.1.map (·.2) := List.mem_map_of_mem member
    rw [Sample.managedHelper, requests] at listed
    exact allBelow entry.2 listed
  have apart : strip "STORE_MANAGE" ≠ "USER_MANAGE" ∧ strip "STORE_MANAGE" ≠ "STORE_VIEW" := by
    decide +kernel
  rcases within with same | same
  · exact apart.1 same
  · exact apart.2 same

end ArisCloud.Administration
