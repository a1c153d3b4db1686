import ArisCloud.Library.Reachability
import ArisCloud.Model.Administration
import ArisCloud.Proofs.PolicyWrites

/-! # What an administration request does

Each request of a caller writes one of a few things: a tenant, a store, a user, or a template or
policy. `Effect` names the write together with what the request has checked of the caller, so that
what holds over runs is proved per write and not per request.
-/

namespace ArisCloud.Administration

open Checked
open AccessControl (AccessDb PolicyRequest policyCall Report)
open AccessControl.AccessControlService (templatePermissions)

variable {platform : Platform} {db next : AdminDb} {tokenData : TokenData} {currentUser : User}

/-! ## Rows that are looked up -/

section Lookups

variable {user : User} {store : Store} {tenant : Tenant} {text tenantId : String}

/-- A row that is found by a condition is a row that meets it. -/
theorem mem_of_find?_decide {α : Type} {rows : List α} {holds : α → Prop} [DecidablePred holds]
    {row : α} (found : rows.find? (fun row => decide (holds row)) = some row) : row ∈ rows ∧
    holds row := by
  refine ⟨List.mem_of_find?_eq_some found, ?_⟩
  simpa using List.find?_some found

private theorem getUserById_eq_some (found : getUserById db text = some user) : user ∈ db.users ∧
    user.id.text = text := by
  rw [getUserById] at found
  exact mem_of_find?_decide found

private theorem getUserByIdInTenant_eq_some
    (found : getUserByIdInTenant db text tenantId = some user) :
    user ∈ db.users ∧ user.id.text = text ∧ user.tenantId.text = tenantId := by
  rw [getUserByIdInTenant] at found
  exact mem_of_find?_decide found

private theorem getStoreById_eq_some (found : getStoreById db text = some store) :
    store ∈ db.stores ∧ store.id.text = text := by
  rw [getStoreById] at found
  exact mem_of_find?_decide found

private theorem getStoreByIdInTenant_eq_some
    (found : getStoreByIdInTenant db text tenantId = some store) :
    store ∈ db.stores ∧ store.id.text = text ∧ store.tenantId.text = tenantId := by
  rw [getStoreByIdInTenant] at found
  exact mem_of_find?_decide found

private theorem getTenantById_eq_some (found : getTenantById db text = some tenant) :
    tenant ∈ db.tenants ∧ tenant.id.text = text := by
  rw [getTenantById] at found
  exact mem_of_find?_decide found

end Lookups

/-! ## Commits -/

private theorem commitTenants_eq_ok {tenants : List Tenant}
    (committed : commitTenants db tenants = .ok next) :
    next = { db with tenants } := by
  simp only [commitTenants, bind_eq_ok, ensure_eq_ok, pure_eq_ok] at committed
  obtain ⟨_, _, rfl⟩ := committed
  rfl

private theorem commitStores_eq_ok {stores : List Store}
    (committed : commitStores db stores = .ok next) :
    next = { db with stores } := by
  simp only [commitStores, bind_eq_ok, ensure_eq_ok, pure_eq_ok] at committed
  obtain ⟨_, _, rfl⟩ := committed
  rfl

private theorem commitUsers_eq_ok {users : List User}
    (committed : commitUsers db users = .ok next) :
    next = { db with users } ∧ (users.map fun user => (user.tenantId, user.username)).Nodup := by
  simp only [commitUsers, bind_eq_ok, ensure_eq_ok, pure_eq_ok] at committed
  obtain ⟨_, names, _, _, rfl⟩ := committed
  exact ⟨rfl, names⟩

private theorem draw_eq_ok {id : Guid} (drawn : draw db id = .ok next) :
    id ∉ db.drawn ∧ next = { db with drawn := id :: db.drawn } := by
  simp only [draw, bind_eq_ok, ensure_eq_ok, pure_eq_ok] at drawn
  obtain ⟨_, fresh, rfl⟩ := drawn
  exact ⟨fresh, rfl⟩

/-! ## What the caller reaches -/

/-- The caller works on rows of the tenant: on those of every tenant, or on those of the tenant in
the token. -/
def Reaches (tokenData : TokenData) (tenantId : Guid) : Prop :=
  isSuperadmin tokenData.role = true ∨ tokenData.tenantId = some tenantId

private theorem reaches_of_effectiveTenantId {requested : Option String} {tenantId : Guid}
    (effective : effectiveTenantId tokenData requested = .ok tenantId.text) :
    Reaches tokenData tenantId := by
  rw [effectiveTenantId] at effective
  split at effective
  · next platformRole => exact .inl platformRole
  · simp only [tenantIdOrError, bind_eq_ok, fetch_eq_ok, ensure_eq_ok, pure_eq_ok] at effective
    obtain ⟨tokenTenantId, named, _, _, same⟩ := effective
    exact .inr (named.trans (congrArg some (Guid.text_injective same)))

private theorem reaches_of_ensureTenantStore {store : Store} {u : Unit}
    (ensured : ensureTenantStore tokenData store = .ok u) :
    Reaches tokenData store.tenantId := by
  rw [ensureTenantStore] at ensured
  split at ensured
  · next platformRole => exact .inl platformRole
  · simp only [tenantIdOrError, bind_eq_ok, fetch_eq_ok, ensure_eq_ok] at ensured
    obtain ⟨tokenTenantId, named, rfl⟩ := ensured
    exact .inr named

/-- They are the keys of the decisions that the listing allows. -/
theorem mem_allowedPermissions {cache : AccessControl.Cache} {key : String} :
    key ∈ allowedPermissions db tokenData cache ↔ ∃ decision ∈
      (((accessControlService db).buildEffectivePermissions tokenData.context
        (some tokenData.scope)).run cache).1,
      decision.key = key ∧ decision.allowed = true := by
  have listed :
      (((accessControlService db).buildEffectivePermissions tokenData.context
        (some tokenData.scope)).run cache).1 =
      ((accessControlService db).listing cache tokenData.context (some tokenData.scope)).1 := rfl
  have layers : allowedPermissions db tokenData cache =
      ((accessControlService db).catalog cache).filter fun key =>
      (AccessControl.AccessControlService.buildDecision
        ((accessControlService db).getDeniedPermissions tokenData.context)
        ((accessControlService db).listing cache tokenData.context
        (some tokenData.scope)).2.templateAllow
        ((accessControlService db).listing cache tokenData.context (some tokenData.scope)).2.tenant
        ((accessControlService db).listing cache tokenData.context (some tokenData.scope)).2.store
        ((accessControlService db).listing cache tokenData.context (some tokenData.scope)).2.user
        key).allowed = true := rfl
  rw [listed, layers, Finset.mem_filter, AccessControl.AccessControlService.listing_eq]
  exact AccessControl.AccessControlService.listsAllowed_iff.symm.trans
    (by rw [AccessControl.AccessControlService.ListsAllowed,
      AccessControl.AccessControlService.listing_eq])

/-- A role that the caller may assign. -/
structure RoleAllowed (db : AdminDb) (tokenData : TokenData) (cache : AccessControl.Cache)
    (role : String) : Prop where
  tenantRole : isSuperadmin role = false
  byPlatform : role = "ADMIN" → isSuperadmin tokenData.role = true
  ceiling : isSuperadmin tokenData.role = true ∨
    templatePermissions db.access role (tokenData.tenantId.map (·.text)) ⊆ allowedPermissions db
    tokenData cache

theorem ensureRoleAssignmentAllowed_eq_ok {cache : AccessControl.Cache} {desiredRole role : String}
    (allowed : ensureRoleAssignmentAllowed db tokenData cache desiredRole = .ok role) :
    role = normalizeRole desiredRole ∧ RoleAllowed db tokenData cache role := by
  simp only [ensureRoleAssignmentAllowed, bind_eq_ok, ensure_eq_ok, pure_eq_ok] at allowed
  obtain ⟨_, tenantRole, _, byPlatform, _, ceiling, rfl⟩ := allowed
  exact ⟨rfl, tenantRole, byPlatform, ceiling⟩

theorem normalizeRole_text (role : AdminRole) : normalizeRole role.text = role.text := by
  cases role <;> decide +kernel

/-- The caller writes a template or a policy: on the platform's behalf, or as an administrator
within the ceiling and for the own tenant. -/
inductive PolicyAllowed (tokenData : TokenData) : PolicyRequest → Prop
  | platform (policy : PolicyRequest) : isSuperadmin tokenData.role = true →
      PolicyAllowed tokenData policy
  | tenantRole (tenantId : Guid) (roleName : String) (allow deny : List String)
      (enforceCeiling : Bool) :
      tokenData.role.toUpper = "ADMIN" → tokenData.tenantId = some tenantId →
      enforceCeiling = !isSuperadmin tokenData.role →
      PolicyAllowed tokenData
      (.replaceTenantRolePolicy ⟨some tenantId.text, roleName⟩ allow deny enforceCeiling)
  | storeRole (tenantId : Guid) (storeId roleName : String) (allow deny : List String)
      (enforceCeiling : Bool) :
      tokenData.role.toUpper = "ADMIN" → tokenData.tenantId = some tenantId →
      enforceCeiling = !isSuperadmin tokenData.role →
      PolicyAllowed tokenData
      (.replaceStoreRolePolicy ⟨tenantId.text, storeId, roleName⟩ allow deny enforceCeiling)
  | user (tenantId : Guid) (userId : String) (allow deny : List String) (enforceCeiling : Bool) :
      tokenData.role.toUpper = "ADMIN" → tokenData.tenantId = some tenantId →
      enforceCeiling = !isSuperadmin tokenData.role →
      PolicyAllowed tokenData
      (.replaceUserOverrides ⟨tenantId.text, userId⟩ allow deny enforceCeiling)

/-- The calls that write templates and policies. -/
def AdminCall.isPolicy : AdminCall → Bool
  | .adminReplaceRoleTemplate .. | .adminReplaceTenantRolePolicy ..
  | .adminReplaceStoreRolePolicy ..
  | .adminPatchUserOverrides .. | .replaceTenantRolePolicy .. | .replaceStoreRolePolicy ..
  | .replaceUserPermissionOverrides ..
  | .replacePlatformRolePolicy .. => true
  | _ => false

/-! ## Writes -/

/-- What a call that commits has checked and what it has written. -/
inductive Effect (platform : Platform) (db : AdminDb) (tokenData : TokenData) (currentUser : User) :
    AdminCall → AdminDb → Prop
  | passwordChanged {currentPassword newPassword salt : String} :
      platform.verify currentPassword currentUser.hashedPassword = true →
      Effect platform db tokenData currentUser (.changePassword currentPassword newPassword salt)
        { db with users := changeUser currentUser (fun row =>
            { row with hashedPassword := platform.hash salt newPassword,
                       mustChangePassword := false }) db.users }
  | tenantCreated {name : String} {id : Guid} : isSuperadmin tokenData.role = true → id ∉ db.drawn →
      Effect platform db tokenData currentUser (.createTenant name id)
        { db with tenants := db.tenants ++ [{ id, name, status := "ACTIVE" }],
                  drawn := id :: db.drawn }
  | tenantRenamed {tenantId name : String} {tenant : Tenant} : isSuperadmin tokenData.role = true →
      tenant ∈ db.tenants → Effect platform db tokenData currentUser (.updateTenant tenantId name)
        { db with tenants := KeyedRows.update (·.id) [tenant.id] (fun row => { row with name }) db.tenants }
  | tenantStatusSet {tenantId : String} {status : AdminUserStatus} {tenant : Tenant} :
      isSuperadmin tokenData.role = true → tenant ∈ db.tenants → tenant.id.text = tenantId →
      Effect platform db tokenData currentUser (.tenantActions tenantId (some status))
        { db with
          tenants :=
            KeyedRows.update (·.id) [tenant.id] (fun row => { row with status := status.text })
              db.tenants }
  | tenantDeleted {tenantId : String} {tenant : Tenant} : isSuperadmin tokenData.role = true →
      tenant ∈ db.tenants → (∀ store ∈ db.stores, store.tenantId ≠ tenant.id) →
      (∀ user ∈ db.users, user.tenantId ≠ tenant.id) →
      Effect platform db tokenData currentUser (.deleteTenant tenantId)
        { db with
          tenants := db.tenants.filter fun row => row.id ≠ tenant.id
          access := { db.access with
            roleTemplates := releaseTemplates db.access.roleTemplates tenant.id.text } }
  | storeCreated {payload : StoreCreateRequest} {queryTenantId : Option String}
      {id tenantId : Guid} :
      ((isSuperadmin currentUser.role = true ∧ ∃ tenant ∈ db.tenants, tenant.id = tenantId) ∨
        tokenData.tenantId = some tenantId) → id ∉ db.drawn →
      Effect platform db tokenData currentUser (.createStore payload queryTenantId id)
        { db with stores := db.stores ++ [{ id, tenantId, name := payload.name }],
                  drawn := id :: db.drawn }
  | storeRenamed {storeId name : String} {store : Store} : store ∈ db.stores →
      tokenData.tenantId = some store.tenantId → Effect platform db tokenData currentUser
      (.updateStore storeId name)
        { db with stores := KeyedRows.update (·.id) [store.id] (fun row => { row with name }) db.stores }
  | storeDeleted {storeId : String} {store : Store} : isSuperadmin tokenData.role = true →
      store ∈ db.stores → (∀ user ∈ db.users, user.storeId ≠ some store.id) →
      Effect platform db tokenData currentUser (.deleteStore storeId)
        { db with stores := db.stores.filter fun row => row.id ≠ store.id }
  | userCreated {payload : UserCreateRequest} {salt : String} {id : Guid} {store : Store}
      {cache : AccessControl.Cache} :
      requirePermission db tokenData "USER_MANAGE" = .ok cache → store ∈ db.stores →
      Reaches tokenData store.tenantId → RoleAllowed db tokenData cache payload.role.text →
      id ∉ db.drawn → Effect platform db tokenData currentUser (.createUser payload salt id)
        { db with
          users := db.users ++ [{ id, tenantId := store.tenantId, storeId := some store.id,
                                  username := payload.username,
                                  email := payload.email,
                                  hashedPassword := platform.hash salt payload.password,
                                  role := payload.role.text, status := "ACTIVE",
                                  mustChangePassword := true,
                                  isActive := true }]
          drawn := id :: db.drawn }
  | userUpdated {userId : String} {payload : UserUpdateRequest} {tenantId : Option String}
      {user : User} {storeId : Option Guid} {cache : AccessControl.Cache} :
      requirePermission db tokenData "USER_MANAGE" = .ok cache → user ∈ db.users →
      Reaches tokenData user.tenantId →
      (∀ id, storeId = some id → ∃ store ∈ db.stores, store.id = id ∧
      store.tenantId = user.tenantId) → Effect platform db tokenData currentUser
      (.updateUser userId payload tenantId)
        { db with users := changeUser user (payload.apply storeId) db.users }
  | userDeleted {userId : String} {user : User} : isSuperadmin tokenData.role = true →
      user ∈ db.users → user.id.text = userId →
      Effect platform db tokenData currentUser (.deleteUser userId)
        { db with
          users := db.users.filter fun row => row.id ≠ user.id
          access := { db.access with
            userPermissionOverrides :=
              db.access.userPermissionOverrides.filter fun entry => entry.scope.userId ≠ userId } }
  | userActed {userId : String} {payload : UserActionRequest} {generated salt : String}
      {user : User} {cache : AccessControl.Cache} {change : User → User} :
      requirePermission db tokenData "USER_MANAGE" = .ok cache → user ∈ db.users →
      user.id.text = userId → Reaches tokenData user.tenantId →
      userChange platform db tokenData cache payload generated salt = .ok change →
      Effect platform db tokenData currentUser (.userActions userId payload generated salt)
        { db with users := changeUser user change db.users }
  | policyWritten {call : AdminCall} {policy : PolicyRequest} {report : Report}
      {access : AccessDb} :
      call.isPolicy = true → PolicyAllowed tokenData policy → policyCall db.access policy = .ok
      (report, access) → Effect platform db tokenData currentUser call { db with access }

/-! ## Each call -/

private theorem changePassword_effect {currentPassword newPassword salt : String}
    (committed : changePassword platform db currentUser currentPassword newPassword salt =
      .ok next) :
    Effect platform db tokenData currentUser
    (.changePassword currentPassword newPassword salt) next := by
  simp only [changePassword, bind_eq_ok, ensure_eq_ok] at committed
  obtain ⟨_, fits, _, _, written⟩ := committed
  obtain ⟨rfl, _⟩ := commitUsers_eq_ok written
  exact .passwordChanged fits

private theorem createTenant_effect {name : String} {id : Guid}
    (committed : createTenant db tokenData name id = .ok next) :
    Effect platform db tokenData currentUser (.createTenant name id) next := by
  simp only [createTenant, requireSuperadmin, bind_eq_ok, ensure_eq_ok] at committed
  obtain ⟨_, role, _, _, withId, drawn, written⟩ := committed
  obtain ⟨fresh, rfl⟩ := draw_eq_ok drawn
  rw [commitTenants_eq_ok written]
  exact .tenantCreated role fresh

private theorem updateTenant_effect {tenantId name : String}
    (committed : updateTenant db tokenData tenantId name = .ok next) :
    Effect platform db tokenData currentUser (.updateTenant tenantId name) next := by
  simp only [updateTenant, requireSuperadmin, bind_eq_ok, ensure_eq_ok, fetch_eq_ok] at committed
  obtain ⟨_, role, tenant, found, _, _, written⟩ := committed
  rw [commitTenants_eq_ok written]
  exact .tenantRenamed role (getTenantById_eq_some found).1

private theorem tenantActions_effect {tenantId : String} {status : Option AdminUserStatus}
    (committed : tenantActions db tokenData tenantId status = .ok next) :
    Effect platform db tokenData currentUser (.tenantActions tenantId status) next := by
  simp only [tenantActions, requireSuperadmin, bind_eq_ok, ensure_eq_ok, fetch_eq_ok] at committed
  obtain ⟨_, role, tenant, found, status, rfl, written⟩ := committed
  rw [commitTenants_eq_ok written]
  exact .tenantStatusSet role (getTenantById_eq_some found).1 (getTenantById_eq_some found).2

private theorem deleteTenant_effect {tenantId : String}
    (committed : deleteTenant db tokenData tenantId = .ok next) :
    Effect platform db tokenData currentUser (.deleteTenant tenantId) next := by
  simp only [deleteTenant, requireSuperadmin, bind_eq_ok, ensure_eq_ok, fetch_eq_ok,
    pure_eq_ok] at committed
  obtain ⟨_, role, tenant, found, _, unused, rfl⟩ := committed
  obtain ⟨member, rfl⟩ := getTenantById_eq_some found
  have stores : db.stores.countP (·.tenantId.text = tenant.id.text) = 0 :=
    unused ("stores", db.stores.countP (·.tenantId.text = tenant.id.text))
      (by simp [tenantDependencyCounts])
  have users : db.users.countP (·.tenantId.text = tenant.id.text) = 0 :=
    unused ("users", db.users.countP (·.tenantId.text = tenant.id.text))
      (by simp [tenantDependencyCounts])
  rw [List.countP_eq_zero] at stores users
  refine .tenantDeleted role member (fun store isStore same => ?_) fun user isUser same => ?_
  · exact stores store isStore (decide_eq_true (congrArg Guid.text same))
  · exact users user isUser (decide_eq_true (congrArg Guid.text same))

private theorem storeTenant_eq_ok {payload : StoreCreateRequest} {queryTenantId : Option String}
    {tenantId : Guid}
    (resolved : storeTenant db tokenData currentUser payload queryTenantId = .ok tenantId) :
    (isSuperadmin currentUser.role = true ∧ ∃ tenant ∈ db.tenants, tenant.id = tenantId) ∨
      tokenData.tenantId = some tenantId := by
  simp only [storeTenant, tenantIdOrError, bind_eq_ok, ensure_eq_ok, fetch_eq_ok] at resolved
  obtain ⟨tokenTenantId, named, _, _, resolved⟩ := resolved
  split at resolved
  · next platformRole =>
    simp only [bind_eq_ok, fetch_eq_ok, pure_eq_ok] at resolved
    obtain ⟨_, _, tenant, found, rfl⟩ := resolved
    exact .inl ⟨platformRole, tenant, (getTenantById_eq_some found).1, rfl⟩
  · simp only [bind_eq_ok, ensure_eq_ok, pure_eq_ok] at resolved
    obtain ⟨_, _, rfl⟩ := resolved
    exact .inr named

private theorem createStore_effect {payload : StoreCreateRequest} {queryTenantId : Option String}
    {id : Guid} (committed : createStore db tokenData currentUser payload queryTenantId id =
      .ok next) :
    Effect platform db tokenData currentUser (.createStore payload queryTenantId id) next := by
  simp only [createStore, bind_eq_ok] at committed
  obtain ⟨_, _, tenantId, resolved, withId, drawn, written⟩ := committed
  obtain ⟨fresh, rfl⟩ := draw_eq_ok drawn
  rw [commitStores_eq_ok written]
  exact .storeCreated (storeTenant_eq_ok resolved) fresh

private theorem updateStore_effect {storeId name : String}
    (committed : updateStore db tokenData storeId name = .ok next) :
    Effect platform db tokenData currentUser (.updateStore storeId name) next := by
  simp only [updateStore, tenantIdOrError, bind_eq_ok, fetch_eq_ok] at committed
  obtain ⟨_, _, tenantId, named, store, found, written⟩ := committed
  obtain ⟨member, _, same⟩ := getStoreByIdInTenant_eq_some found
  rw [commitStores_eq_ok written]
  exact .storeRenamed member (named.trans (congrArg some (Guid.text_injective same).symm))

private theorem deleteStore_effect {storeId : String}
    (committed : deleteStore db tokenData storeId = .ok next) :
    Effect platform db tokenData currentUser (.deleteStore storeId) next := by
  simp only [deleteStore, requireSuperadmin, bind_eq_ok, ensure_eq_ok, fetch_eq_ok,
    pure_eq_ok] at committed
  obtain ⟨_, role, store, found, _, unused, rfl⟩ := committed
  obtain ⟨member, rfl⟩ := getStoreById_eq_some found
  have users : db.users.countP (·.storeId.any (·.text = store.id.text)) = 0 :=
    unused ("users", db.users.countP (·.storeId.any (·.text = store.id.text)))
      (by simp [storeDependencyCounts])
  rw [List.countP_eq_zero] at users
  refine .storeDeleted role member fun user isUser same => users user isUser ?_
  rw [same]
  exact decide_eq_true rfl

private theorem createUser_effect {payload : UserCreateRequest} {salt : String} {id : Guid}
    (committed : createUser platform db tokenData payload salt id = .ok next) :
    Effect platform db tokenData currentUser (.createUser payload salt id) next := by
  simp only [createUser, bind_eq_ok, ensure_eq_ok, fetch_eq_ok] at committed
  obtain ⟨cache, permitted, store, found, _, _, _, ensured, _, _, role, assigned, withId, drawn,
    written⟩ := committed
  obtain ⟨rfl, allowed⟩ := ensureRoleAssignmentAllowed_eq_ok assigned
  obtain ⟨fresh, rfl⟩ := draw_eq_ok drawn
  rw [(commitUsers_eq_ok written).1, normalizeRole_text]
  rw [normalizeRole_text] at allowed
  exact .userCreated permitted (getStoreById_eq_some found).1
    (reaches_of_ensureTenantStore ensured) allowed fresh

private theorem updatedStore_eq_ok {tenantId : String} {requested : Option String}
    {storeId : Option Guid} (moved : updatedStore db tenantId requested = .ok storeId) :
    ∀ id, storeId = some id → ∃ store ∈ db.stores, store.id = id ∧
    store.tenantId.text = tenantId := by
  rintro id rfl
  cases requested with
  | none =>
    simp only [updatedStore, pure_eq_ok] at moved
    contradiction
  | some requested =>
    simp only [updatedStore, bind_eq_ok, ensure_eq_ok, fetch_eq_ok, pure_eq_ok,
      Option.some_inj] at moved
    obtain ⟨_, _, store, found, rfl⟩ := moved
    obtain ⟨member, _, same⟩ := getStoreByIdInTenant_eq_some found
    exact ⟨store, member, rfl, same⟩

private theorem updateUser_effect {userId : String} {payload : UserUpdateRequest}
    {tenantId : Option String}
    (committed : updateUser db tokenData userId payload tenantId = .ok next) :
    Effect platform db tokenData currentUser (.updateUser userId payload tenantId) next := by
  simp only [updateUser, bind_eq_ok, ensure_eq_ok, fetch_eq_ok] at committed
  obtain ⟨cache, permitted, effective, resolved, user, found, _, _, storeId, moved, _, _,
    written⟩ := committed
  obtain ⟨member, _, rfl⟩ := getUserByIdInTenant_eq_some found
  rw [(commitUsers_eq_ok written).1]
  refine .userUpdated permitted member (reaches_of_effectiveTenantId resolved) fun id same => ?_
  obtain ⟨store, isStore, isId, ofTenant⟩ := updatedStore_eq_ok moved id same
  exact ⟨store, isStore, isId, Guid.text_injective ofTenant⟩

private theorem deleteUser_effect {userId : String}
    (committed : deleteUser db tokenData userId = .ok next) :
    Effect platform db tokenData currentUser (.deleteUser userId) next := by
  simp only [deleteUser, requireSuperadmin, bind_eq_ok, ensure_eq_ok, fetch_eq_ok,
    pure_eq_ok] at committed
  obtain ⟨_, role, user, found, _, _, rfl⟩ := committed
  exact .userDeleted role (getUserById_eq_some found).1 (getUserById_eq_some found).2

private theorem actionTarget_eq_ok {userId : String} {user : User}
    (found : actionTarget db tokenData userId = .ok user) :
    user ∈ db.users ∧ user.id.text = userId ∧ Reaches tokenData user.tenantId := by
  rw [actionTarget] at found
  split at found
  · next platformRole =>
    rw [fetch_eq_ok] at found
    exact ⟨(getUserById_eq_some found).1, (getUserById_eq_some found).2, .inl platformRole⟩
  · simp only [tenantIdOrError, bind_eq_ok, fetch_eq_ok] at found
    obtain ⟨tenantId, named, target, isTarget, found⟩ := found
    have sameUser : target = user := by
      split at found
      · simp only [bind_eq_ok, pure_eq_ok] at found
        obtain ⟨_, _, rfl⟩ := found
        rfl
      · exact pure_eq_ok.mp found
    subst sameUser
    obtain ⟨member, same, ofTenant⟩ := getUserByIdInTenant_eq_some isTarget
    exact ⟨member, same, .inr (named.trans (congrArg some (Guid.text_injective ofTenant).symm))⟩

private theorem userActions_effect {userId : String} {payload : UserActionRequest}
    {generated salt : String}
    (committed : userActions platform db tokenData userId payload generated salt = .ok next) :
    Effect platform db tokenData currentUser (.userActions userId payload generated salt) next := by
  simp only [userActions, bind_eq_ok, ensure_eq_ok] at committed
  obtain ⟨cache, permitted, user, target, _, _, change, changed, written⟩ := committed
  obtain ⟨member, same, reaches⟩ := actionTarget_eq_ok target
  rw [(commitUsers_eq_ok written).1]
  exact .userActed permitted member same reaches changed

private theorem writePolicy_effect {call : AdminCall} {policy : PolicyRequest}
    (isPolicy : call.isPolicy = true) (allowed : PolicyAllowed tokenData policy)
    (committed : writePolicy db policy = .ok next) :
    Effect platform db tokenData currentUser call next := by
  rw [writePolicy] at committed
  split at committed
  · next report access written =>
    cases committed
    exact .policyWritten isPolicy allowed written
  · contradiction

section Policies

variable {allow deny : List String} {roleName storeId userId : String} {tenantId : Guid}

private theorem PolicyAllowed.ofTenantRole
    (admin : tokenData.role.toUpper = "ADMIN" ∨ isSuperadmin tokenData.role = true)
    (own : tokenData.tenantId = some tenantId ∨ isSuperadmin tokenData.role = true) :
    PolicyAllowed tokenData (.replaceTenantRolePolicy ⟨some tenantId.text, roleName⟩ allow deny
      (!isSuperadmin tokenData.role)) := by
  by_cases platformRole : isSuperadmin tokenData.role = true
  · exact .platform _ platformRole
  · exact .tenantRole tenantId _ _ _ _ (admin.resolve_right platformRole)
      (own.resolve_right platformRole) rfl

private theorem PolicyAllowed.ofStoreRole
    (admin : tokenData.role.toUpper = "ADMIN" ∨ isSuperadmin tokenData.role = true)
    (own : tokenData.tenantId = some tenantId ∨ isSuperadmin tokenData.role = true) :
    PolicyAllowed tokenData (.replaceStoreRolePolicy ⟨tenantId.text, storeId, roleName⟩ allow deny
      (!isSuperadmin tokenData.role)) := by
  by_cases platformRole : isSuperadmin tokenData.role = true
  · exact .platform _ platformRole
  · exact .storeRole tenantId _ _ _ _ _ (admin.resolve_right platformRole)
      (own.resolve_right platformRole) rfl

private theorem PolicyAllowed.ofUser
    (admin : tokenData.role.toUpper = "ADMIN" ∨ isSuperadmin tokenData.role = true)
    (own : tokenData.tenantId = some tenantId ∨ isSuperadmin tokenData.role = true) :
    PolicyAllowed tokenData
    (.replaceUserOverrides ⟨tenantId.text, userId⟩ allow deny (!isSuperadmin tokenData.role)) := by
  by_cases platformRole : isSuperadmin tokenData.role = true
  · exact .platform _ platformRole
  · exact .user tenantId _ _ _ _ (admin.resolve_right platformRole)
      (own.resolve_right platformRole) rfl

end Policies

/-- The tenant in a checked path is the one in the token, unless the caller is of the platform. -/
theorem enforceTenantScope_eq_ok {tenantId : String} {u : Unit}
    (resolved : enforceTenantScope tokenData tenantId = .ok u) :
    (∃ own : Guid, own.text = tenantId ∧ tokenData.tenantId = some own) ∨
    isSuperadmin tokenData.role = true := by
  simp only [enforceTenantScope, bind_eq_ok, fetch_eq_ok, ensure_eq_ok] at resolved
  obtain ⟨own, named, _, _, same | platformRole⟩ := resolved
  · exact .inl ⟨own, same, named⟩
  · exact .inr platformRole

/-- Every call that commits has the effect of its write. -/
theorem adminCall_effect {call : AdminCall}
    (committed : adminCall platform db tokenData currentUser call = .ok next) :
    Effect platform db tokenData currentUser call next := by
  cases call with
  | changePassword currentPassword newPassword salt => exact changePassword_effect committed
  | createTenant name id => exact createTenant_effect committed
  | updateTenant tenantId name => exact updateTenant_effect committed
  | tenantActions tenantId status => exact tenantActions_effect committed
  | deleteTenant tenantId => exact deleteTenant_effect committed
  | createStore payload queryTenantId id => exact createStore_effect committed
  | updateStore storeId name => exact updateStore_effect committed
  | deleteStore storeId => exact deleteStore_effect committed
  | createUser payload salt id => exact createUser_effect committed
  | updateUser userId payload tenantId => exact updateUser_effect committed
  | deleteUser userId => exact deleteUser_effect committed
  | userActions userId payload generated salt => exact userActions_effect committed
  | adminReplaceRoleTemplate roleName permissions transactionId =>
    simp only [adminCall, adminReplaceRoleTemplate, requireSuperadmin, bind_eq_ok,
      ensure_eq_ok] at committed
    obtain ⟨_, role, _, _, written⟩ := committed
    exact writePolicy_effect rfl (.platform _ role) written
  | adminReplaceTenantRolePolicy roleName payload =>
    simp only [adminCall, adminReplaceTenantRolePolicy, requireAdmin, tenantIdOrError, bind_eq_ok,
      ensure_eq_ok, fetch_eq_ok] at committed
    obtain ⟨_, admin, tenantId, named, _, _, written⟩ := committed
    exact writePolicy_effect rfl (.ofTenantRole admin (.inl named)) written
  | adminReplaceStoreRolePolicy storeId roleName payload =>
    simp only [adminCall, adminReplaceStoreRolePolicy, requireAdmin, tenantIdOrError, bind_eq_ok,
      ensure_eq_ok, fetch_eq_ok] at committed
    obtain ⟨_, admin, tenantId, named, _, _, _, _, _, _, written⟩ := committed
    exact writePolicy_effect rfl (.ofStoreRole admin (.inl named)) written
  | adminPatchUserOverrides userId payload tenantId =>
    simp only [adminCall, adminPatchUserOverrides, requireAdmin, bind_eq_ok, ensure_eq_ok,
      fetch_eq_ok] at committed
    obtain ⟨_, admin, effective, resolved, user, found, _, _, _, _, _, _, written⟩ := committed
    obtain ⟨_, _, rfl⟩ := getUserByIdInTenant_eq_some found
    exact writePolicy_effect rfl (.ofUser admin (reaches_of_effectiveTenantId resolved).symm)
      written
  | replaceTenantRolePolicy tenantId roleName payload =>
    simp only [adminCall, replaceTenantRolePolicy, requireAdmin, bind_eq_ok,
      ensure_eq_ok] at committed
    obtain ⟨_, admin, _, resolved, _, _, written⟩ := committed
    rcases enforceTenantScope_eq_ok resolved with ⟨own, rfl, named⟩ | role
    · exact writePolicy_effect rfl (.ofTenantRole admin (.inl named)) written
    · exact writePolicy_effect rfl (.platform _ role) written
  | replaceStoreRolePolicy tenantId storeId roleName payload =>
    simp only [adminCall, replaceStoreRolePolicy, requireAdmin, bind_eq_ok,
      ensure_eq_ok] at committed
    obtain ⟨_, admin, _, resolved, _, _, _, _, _, _, written⟩ := committed
    rcases enforceTenantScope_eq_ok resolved with ⟨own, rfl, named⟩ | role
    · exact writePolicy_effect rfl (.ofStoreRole admin (.inl named)) written
    · exact writePolicy_effect rfl (.platform _ role) written
  | replaceUserPermissionOverrides tenantId userId payload =>
    simp only [adminCall, replaceUserPermissionOverrides, requireAdmin, bind_eq_ok, ensure_eq_ok,
      fetch_eq_ok] at committed
    obtain ⟨_, admin, _, resolved, _, _, _, _, _, _, _, _, written⟩ := committed
    rcases enforceTenantScope_eq_ok resolved with ⟨own, rfl, named⟩ | role
    · exact writePolicy_effect rfl (.ofUser admin (.inl named)) written
    · exact writePolicy_effect rfl (.platform _ role) written
  | replacePlatformRolePolicy roleName payload =>
    simp only [adminCall, replacePlatformRolePolicy, requireSuperadmin, bind_eq_ok,
      ensure_eq_ok] at committed
    obtain ⟨_, role, _, _, written⟩ := committed
    exact writePolicy_effect rfl (.platform _ role) written

/-! ## Steps -/

/-- The account of a caller at the time of a request. -/
structure Caller (db : AdminDb) (tokenData : TokenData) (currentUser : User) : Prop where
  issued : tokenData ∈ db.issued
  member : currentUser ∈ db.users
  same : currentUser.id = tokenData.sub
  active : (evaluateAuthEligibility currentUser
    (db.tenants.find? (·.id = currentUser.tenantId))).allowed = true

/-- A committed request has logged a user in or is a call of an active caller. -/
inductive Stepped (platform : Platform) (db : AdminDb) : AdminRequest → AdminDb → Prop
  | loggedIn {identifier password : String} {user : User} : user ∈ db.users →
      (evaluateAuthEligibility user (db.tenants.find? (·.id = user.tenantId))).allowed = true →
      platform.verify password user.hashedPassword = true →
      Stepped platform db (.login identifier password)
      { db with issued := db.issued ++ [createUserAccessToken user] }
  | called {tokenData : TokenData} {currentUser : User} {call : AdminCall} {next : AdminDb} :
      Caller db tokenData currentUser → Effect platform db tokenData currentUser call next →
      Stepped platform db (.call tokenData call) next

private theorem ensure_toBool {condition : Prop} [Decidable condition] {failure : AdminError} :
    (ensure condition failure).toBool = true ↔ condition := by
  unfold ensure
  split
  · next holds => exact ⟨fun _ => holds, fun _ => rfl⟩
  · next fails => exact ⟨fun never => (nomatch never), fun holds => absurd holds fails⟩

private theorem login_eq_ok {identifier password : String} {user : User} {token : TokenData}
    (loggedIn : login platform db identifier password = .ok (user, token)) :
    user ∈ db.users ∧
    (evaluateAuthEligibility user (db.tenants.find? (·.id = user.tenantId))).allowed = true ∧
      platform.verify password user.hashedPassword = true ∧ token = createUserAccessToken user := by
  simp only [login, bind_eq_ok, ensure_eq_ok] at loggedIn
  obtain ⟨_, _, loggedIn⟩ := loggedIn
  split at loggedIn
  · next candidate found =>
    cases loggedIn
    have member := List.mem_of_find?_eq_some found
    have active := List.find?_some found
    rw [ensureUserCanAuthenticate, ensure_toBool] at active
    obtain ⟨isCandidate, fits⟩ := List.mem_filter.mp member
    exact ⟨(List.mem_filter.mp isCandidate).1, active, fits, rfl⟩
  · contradiction

private theorem requireActiveUser_eq_ok
    (required : requireActiveUser db tokenData = .ok currentUser) :
    currentUser ∈ db.users ∧ currentUser.id = tokenData.sub ∧
      (evaluateAuthEligibility currentUser (db.tenants.find? (·.id = currentUser.tenantId))).allowed
      = true := by
  simp only [requireActiveUser, getCurrentUser, ensureUserCanAuthenticate, bind_eq_ok, fetch_eq_ok,
    ensure_eq_ok, pure_eq_ok] at required
  obtain ⟨user, found, _, active, rfl⟩ := required
  obtain ⟨member, same⟩ := mem_of_find?_decide found
  exact ⟨member, same, active⟩

theorem adminStep_stepped {request : AdminRequest}
    (committed : adminStep platform db request = .ok next) :
    Stepped platform db request next := by
  cases request with
  | login identifier password =>
    simp only [adminStep, bind_eq_ok] at committed
    obtain ⟨⟨user, token⟩, loggedIn, committed⟩ := committed
    cases committed
    obtain ⟨member, active, fits, rfl⟩ := login_eq_ok loggedIn
    exact .loggedIn member active fits
  | call tokenData call =>
    simp only [adminStep, bind_eq_ok, ensure_eq_ok] at committed
    obtain ⟨_, issued, currentUser, required, committed⟩ := committed
    obtain ⟨member, same, active⟩ := requireActiveUser_eq_ok required
    exact .called ⟨issued, member, same, active⟩ (adminCall_effect committed)

end ArisCloud.Administration
