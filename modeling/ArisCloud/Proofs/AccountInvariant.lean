import ArisCloud.Proofs.AdministrationSteps

/-! # What administration keeps

Every user belongs to a tenant that exists and works in one of its stores, the two flags of being
active agree, and a token names the tenant of its account. Identifiers are never drawn twice, so a
token cannot come to name another account. `Written` lists what can happen to a single row of the
users.
-/

namespace ArisCloud.Administration

open Checked

/-- The store of a user is one of the tenant. -/
def StoreOf (db : AdminDb) (tenantId : Guid) (storeId : Option Guid) : Prop :=
  ∀ id, storeId = some id → ∃ store ∈ db.stores, store.id = id ∧ store.tenantId = tenantId

structure Coherent (db : AdminDb) : Prop where
  tenantIds : (db.tenants.map (·.id)).Nodup
  storeIds : (db.stores.map (·.id)).Nodup
  userIds : (db.users.map (·.id)).Nodup
  tenantsDrawn : ∀ tenant ∈ db.tenants, tenant.id ∈ db.drawn
  storesDrawn : ∀ store ∈ db.stores, store.id ∈ db.drawn
  usersDrawn : ∀ user ∈ db.users, user.id ∈ db.drawn
  storeTenant : ∀ store ∈ db.stores, ∃ tenant ∈ db.tenants, tenant.id = store.tenantId
  userTenant : ∀ user ∈ db.users, ∃ tenant ∈ db.tenants, tenant.id = user.tenantId
  userStore : ∀ user ∈ db.users, StoreOf db user.tenantId user.storeId
  active : ∀ user ∈ db.users, user.isActive = isStatusActive user.status
  tokenDrawn : ∀ token ∈ db.issued, token.sub ∈ db.drawn
  tokenTenant : ∀ token ∈ db.issued, ∀ user ∈ db.users, user.id = token.sub →
    token.tenantId = some user.tenantId

variable {platform : Platform} {db next : AdminDb} {tokenData : TokenData} {currentUser : User}
    {call : AdminCall}

theorem Coherent.eq_of_id (coherent : Coherent db) {user other : User} (member : user ∈ db.users)
    (another : other ∈ db.users) (same : other.id = user.id) : other = user :=
  List.inj_on_of_nodup_map coherent.userIds another member same

/-- The tenant in the token of a caller is the tenant of the account. -/
theorem Caller.tenant (caller : Caller db tokenData currentUser) (coherent : Coherent db) :
    tokenData.tenantId = some currentUser.tenantId :=
  coherent.tokenTenant tokenData caller.issued currentUser caller.member caller.same

/-- A caller who is not of the platform reaches the own tenant only. -/
theorem Caller.own_of_reaches (caller : Caller db tokenData currentUser) (coherent : Coherent db)
    {tenantId : Guid} (reaches : Reaches tokenData tenantId)
    (ordinary : isSuperadmin tokenData.role = false) :
    tenantId = currentUser.tenantId := by
  rcases reaches with platformRole | named
  · rw [ordinary] at platformRole
    contradiction
  · rw [caller.tenant coherent, Option.some_inj] at named
    exact named.symm

/-! ## Rows of users -/

/-- A row of the users that a call has written, after the row that it was, if there was one. -/
inductive Written (platform : Platform) (db : AdminDb) (tokenData : TokenData)
    (currentUser : User) :
    AdminCall → Option User → User → Prop
  | created {payload : UserCreateRequest} {salt : String} {id : Guid} {store : Store}
      {cache : AccessControl.Cache} :
      requirePermission db tokenData "USER_MANAGE" = .ok cache → store ∈ db.stores →
      Reaches tokenData store.tenantId → RoleAllowed db tokenData cache payload.role.text →
      id ∉ db.drawn → Written platform db tokenData currentUser (.createUser payload salt id) none
        { id, tenantId := store.tenantId, storeId := some store.id, username := payload.username,
          email := payload.email, hashedPassword := platform.hash salt payload.password, role :=
          payload.role.text, status := "ACTIVE", mustChangePassword := true, isActive := true }
  | passwordChanged {currentPassword newPassword salt : String} :
      Written platform db tokenData currentUser (.changePassword currentPassword newPassword salt)
      (some currentUser)
        { currentUser with hashedPassword := platform.hash salt newPassword,
                           mustChangePassword := false }
  | updated {userId : String} {payload : UserUpdateRequest} {tenantId : Option String}
      {before : User} {storeId : Option Guid} : Reaches tokenData before.tenantId →
      StoreOf db before.tenantId storeId → Written platform db tokenData currentUser
      (.updateUser userId payload tenantId) (some before)
        (payload.apply storeId before)
  | statusSet {payload : UserActionRequest} {generated salt : String} {before : User}
      {status : AdminUserStatus} :
      payload.action = .setStatus → payload.status = some status →
      Reaches tokenData before.tenantId → Written platform db tokenData currentUser
      (.userActions before.id.text payload generated salt) (some before)
        { before with status := status.text, isActive := decide (status = .active) }
  | roleSet {payload : UserActionRequest} {generated salt : String} {before : User}
      {cache : AccessControl.Cache} {role : AdminRole} :
      requirePermission db tokenData "USER_MANAGE" = .ok cache → payload.action = .setRole →
      RoleAllowed db tokenData cache role.text → Reaches tokenData before.tenantId →
      Written platform db tokenData currentUser (.userActions before.id.text payload generated salt)
      (some before)
        { before with role := role.text }
  | passwordReset {payload : UserActionRequest} {generated salt password : String} {before : User} :
      payload.action = .resetPassword → Reaches tokenData before.tenantId →
      Written platform db tokenData currentUser (.userActions before.id.text payload generated salt)
      (some before)
        { before with hashedPassword := platform.hash salt password, mustChangePassword := true }

/-- The changed row of one user among the others. -/
theorem mem_changeUser (coherent : Coherent db) {user row : User} {change : User → User}
    (member : user ∈ db.users) (isAfter : row ∈ changeUser user change db.users) :
    row = change user ∨ row ∈ db.users ∧ row.id ≠ user.id :=
  KeyedRows.mem_update_singleton coherent.userIds member isAfter

theorem userChange_written {cache : AccessControl.Cache} {payload : UserActionRequest}
    {generated salt : String} {user : User} {change : User → User}
    (permitted : requirePermission db tokenData "USER_MANAGE" = .ok cache)
    (reaches : Reaches tokenData user.tenantId)
    (changed : userChange platform db tokenData cache payload generated salt = .ok change) :
    Written platform db tokenData currentUser (.userActions user.id.text payload generated salt)
    (some user) (change user) := by
  rw [userChange] at changed
  split at changed
  · next action =>
    simp only [bind_eq_ok, fetch_eq_ok, pure_eq_ok] at changed
    obtain ⟨status, named, rfl⟩ := changed
    exact .statusSet action named reaches
  · next action =>
    simp only [bind_eq_ok, fetch_eq_ok, pure_eq_ok] at changed
    obtain ⟨role, _, assigned, allowed, rfl⟩ := changed
    obtain ⟨rfl, allowed⟩ := ensureRoleAssignmentAllowed_eq_ok allowed
    rw [normalizeRole_text] at allowed ⊢
    exact .roleSet permitted action allowed reaches
  · next action =>
    simp only [bind_eq_ok, pure_eq_ok] at changed
    obtain ⟨_, _, rfl⟩ := changed
    exact .passwordReset action reaches

private theorem userChange_id {cache : AccessControl.Cache} {payload : UserActionRequest}
    {generated salt : String} {change : User → User}
    (changed : userChange platform db tokenData cache payload generated salt = .ok change)
    (row : User) :
    (change row).id = row.id := by
  rw [userChange] at changed
  split at changed
  · simp only [bind_eq_ok, pure_eq_ok] at changed
    obtain ⟨_, _, rfl⟩ := changed
    rfl
  · simp only [bind_eq_ok, pure_eq_ok] at changed
    obtain ⟨_, _, _, _, rfl⟩ := changed
    rfl
  · simp only [bind_eq_ok, pure_eq_ok] at changed
    obtain ⟨_, _, rfl⟩ := changed
    rfl

/-- Every row of the users after a call is a row before it, or one that the call has written; such a
call writes no tenant and no store. -/
theorem Effect.user_cases (coherent : Coherent db) (caller : Caller db tokenData currentUser)
    (effect : Effect platform db tokenData currentUser call next) {row : User}
    (member : row ∈ next.users) :
    row ∈ db.users ∨ (next.tenants = db.tenants ∧ next.stores = db.stores ∧
      ∃ before : Option User, (∀ user, before = some user → user ∈ db.users) ∧
        Written platform db tokenData currentUser call before row) := by
  cases effect with
  | passwordChanged =>
    rcases mem_changeUser coherent caller.member member with rfl | ⟨kept, _⟩
    · exact .inr ⟨rfl, rfl, some currentUser, by rintro _ ⟨⟩; exact caller.member, .passwordChanged⟩
    · exact .inl kept
  | userCreated permitted isStore reaches allowed fresh =>
    rcases List.mem_append.mp member with kept | created
    · exact .inl kept
    · obtain rfl := List.mem_singleton.mp created
      exact .inr ⟨rfl, rfl, none, by rintro _ ⟨⟩, .created permitted isStore reaches allowed fresh⟩
  | @userUpdated _ _ _ user _ _ _ isUser reaches moved =>
    rcases mem_changeUser coherent isUser member with rfl | ⟨kept, _⟩
    · exact .inr ⟨rfl, rfl, some user, by rintro _ ⟨⟩; exact isUser, .updated reaches moved⟩
    · exact .inl kept
  | @userActed _ _ _ _ user _ change permitted isUser same reaches changed =>
    subst same
    rcases mem_changeUser coherent isUser member with rfl | ⟨kept, _⟩
    · exact .inr ⟨rfl, rfl, some user, by rintro _ ⟨⟩; exact isUser,
        userChange_written permitted reaches changed⟩
    · exact .inl kept
  | userDeleted => exact .inl (List.mem_of_mem_filter member)
  | tenantCreated | tenantRenamed | tenantStatusSet | tenantDeleted | storeCreated | storeRenamed
  | storeDeleted
  | policyWritten => exact .inl member

/-- A written row is that of a new user or keeps its identifier and tenant. -/
theorem Written.key {before : Option User} {row : User}
    (written : Written platform db tokenData currentUser call before row) :
    (before = none ∧ row.id ∉ db.drawn) ∨ ∃ user, before = some user ∧ row.id = user.id ∧
    row.tenantId = user.tenantId := by
  cases written with
  | created _ _ _ _ fresh => exact .inl ⟨rfl, fresh⟩
  | passwordChanged | updated | statusSet | roleSet | passwordReset => exact .inr ⟨_, rfl, rfl, rfl⟩

/-- The tenant of a written row exists. -/
theorem Written.tenant (coherent : Coherent db) {before : Option User} {row : User}
    (written : Written platform db tokenData currentUser call before row)
    (was : ∀ user, before = some user → user ∈ db.users) :
    ∃ tenant ∈ db.tenants, tenant.id = row.tenantId := by
  cases written with
  | @created _ _ _ store _ _ isStore => exact coherent.storeTenant store isStore
  | passwordChanged => exact coherent.userTenant currentUser (was currentUser rfl)
  | @updated _ _ _ before | @statusSet _ _ _ before | @roleSet _ _ _ before
  | @passwordReset _ _ _ _ before =>
    exact coherent.userTenant before (was before rfl)

theorem isStatusActive_text (status : AdminUserStatus) : isStatusActive status.text = decide
    (status = .active) := by
  cases status <;> decide +kernel

/-- The flags of a written row agree when those of its row before did. -/
theorem Written.active {before : Option User} {row : User}
    (written : Written platform db tokenData currentUser call before row)
    (was : ∀ user, before = some user → user.isActive = isStatusActive user.status) :
    row.isActive = isStatusActive row.status := by
  cases written with
  | created => exact (isStatusActive_text .active).symm
  | @statusSet _ _ _ _ status => exact (isStatusActive_text status).symm
  | passwordChanged => exact was currentUser rfl
  | @updated _ _ _ before | @roleSet _ _ _ before | @passwordReset _ _ _ _ before =>
    exact was before rfl

theorem Written.store {before : Option User} {row : User}
    (written : Written platform db tokenData currentUser call before row)
    (was : ∀ user, before = some user → StoreOf db user.tenantId user.storeId) :
    StoreOf db row.tenantId row.storeId := by
  cases written with
  | @created _ _ _ store _ _ isStore =>
    rintro _ ⟨⟩
    exact ⟨store, isStore, rfl, rfl⟩
  | @updated _ _ _ before storeId _ moved =>
    intro id same
    change storeId.or before.storeId = some id at same
    cases storeId with
    | none => exact was before rfl id same
    | some moveTo => exact moved id same
  | passwordChanged => exact was currentUser rfl
  | @statusSet _ _ _ before | @roleSet _ _ _ before | @passwordReset _ _ _ _ before =>
    exact was before rfl

/-! ## Other tables -/

/-- Stores that users may work in stay, with their tenants. -/
theorem Effect.stores_kept (effect : Effect platform db tokenData currentUser call next)
    {store : Store} (member : store ∈ db.stores)
    (used : ∃ user ∈ db.users, user.storeId = some store.id) :
    ∃ after ∈ next.stores, after.id = store.id ∧ after.tenantId = store.tenantId := by
  cases effect with
  | storeCreated => exact ⟨store, List.mem_append_left _ member, rfl, rfl⟩
  | @storeRenamed _ _ renamed =>
    refine ⟨_, KeyedRows.mem_update.mpr ⟨store, member, rfl⟩, ?_, ?_⟩
    · split <;> rfl
    · split <;> rfl
  | @storeDeleted _ deleted _ _ unused =>
    obtain ⟨user, isUser, works⟩ := used
    refine ⟨store, List.mem_filter.mpr ⟨member, decide_eq_true fun same => ?_⟩, rfl, rfl⟩
    exact unused user isUser (works.trans (congrArg some same))
  | passwordChanged | tenantCreated | tenantRenamed | tenantStatusSet | tenantDeleted | userCreated
  | userUpdated | userDeleted
  | userActed | policyWritten => exact ⟨store, member, rfl, rfl⟩

/-- Tenants that have stores or users stay. -/
theorem Effect.tenants_kept (effect : Effect platform db tokenData currentUser call next)
    {tenant : Tenant} (member : tenant ∈ db.tenants)
    (used : (∃ store ∈ db.stores, store.tenantId = tenant.id) ∨ ∃ user ∈ db.users,
      user.tenantId = tenant.id) :
    ∃ after ∈ next.tenants, after.id = tenant.id := by
  cases effect with
  | tenantCreated => exact ⟨tenant, List.mem_append_left _ member, rfl⟩
  | tenantRenamed | tenantStatusSet =>
    refine ⟨_, KeyedRows.mem_update.mpr ⟨tenant, member, rfl⟩, ?_⟩
    split <;> rfl
  | @tenantDeleted _ deleted _ _ noStore noUser =>
    refine ⟨tenant, List.mem_filter.mpr ⟨member, decide_eq_true fun same => ?_⟩, rfl⟩
    rcases used with ⟨store, isStore, inTenant⟩ | ⟨user, isUser, inTenant⟩
    · exact noStore store isStore (inTenant.trans same)
    · exact noUser user isUser (inTenant.trans same)
  | passwordChanged | storeCreated | storeRenamed | storeDeleted | userCreated | userUpdated
  | userDeleted | userActed
  | policyWritten => exact ⟨tenant, member, rfl⟩

/-- A store after a call was one before it, under the same tenant, or is a new one of a tenant that
exists. -/
theorem Effect.store_cases (coherent : Coherent db) (caller : Caller db tokenData currentUser)
    (effect : Effect platform db tokenData currentUser call next) {store : Store}
    (member : store ∈ next.stores) :
    (∃ before ∈ db.stores, before.id = store.id ∧ before.tenantId = store.tenantId) ∨
      store.id ∉ db.drawn ∧ store.id ∈ next.drawn ∧
      (∃ tenant ∈ next.tenants, tenant.id = store.tenantId) := by
  cases effect with
  | @storeCreated _ _ _ tenantId resolved fresh =>
    rcases List.mem_append.mp member with kept | created
    · exact .inl ⟨store, kept, rfl, rfl⟩
    · obtain rfl := List.mem_singleton.mp created
      refine .inr ⟨fresh, List.mem_cons_self .., ?_⟩
      rcases resolved with ⟨_, existing⟩ | named
      · exact existing
      · rw [caller.tenant coherent, Option.some_inj] at named
        exact named ▸ coherent.userTenant currentUser caller.member
  | storeRenamed =>
    obtain ⟨before, isBefore, rfl⟩ := KeyedRows.mem_update.mp member
    refine .inl ⟨before, isBefore, ?_, ?_⟩
    · split <;> rfl
    · split <;> rfl
  | storeDeleted => exact .inl ⟨store, List.mem_of_mem_filter member, rfl, rfl⟩
  | passwordChanged | tenantCreated | tenantRenamed | tenantStatusSet | tenantDeleted | userCreated
  | userUpdated | userDeleted
  | userActed | policyWritten => exact .inl ⟨store, member, rfl, rfl⟩

private theorem Effect.tenant_cases (effect : Effect platform db tokenData currentUser call next)
    {tenant : Tenant} (member : tenant ∈ next.tenants) :
    (∃ before ∈ db.tenants, before.id = tenant.id) ∨ tenant.id ∈ next.drawn := by
  cases effect with
  | tenantCreated =>
    rcases List.mem_append.mp member with kept | created
    · exact .inl ⟨tenant, kept, rfl⟩
    · obtain rfl := List.mem_singleton.mp created
      exact .inr (List.mem_cons_self ..)
  | tenantRenamed | tenantStatusSet =>
    obtain ⟨before, isBefore, rfl⟩ := KeyedRows.mem_update.mp member
    refine .inl ⟨before, isBefore, ?_⟩
    split <;> rfl
  | tenantDeleted => exact .inl ⟨tenant, List.mem_of_mem_filter member, rfl⟩
  | passwordChanged | storeCreated | storeRenamed | storeDeleted | userCreated | userUpdated
  | userDeleted | userActed
  | policyWritten => exact .inl ⟨tenant, member, rfl⟩

/-- No identifier is forgotten, and calls hand out no tokens. -/
theorem Effect.drawn_issued (effect : Effect platform db tokenData currentUser call next) :
    db.drawn ⊆ next.drawn ∧ next.issued = db.issued := by
  cases effect with
  | tenantCreated | storeCreated | userCreated => exact ⟨List.subset_cons_self .., rfl⟩
  | passwordChanged | tenantRenamed | tenantStatusSet | tenantDeleted | storeRenamed | storeDeleted
  | userUpdated | userDeleted
  | userActed | policyWritten => exact ⟨List.Subset.refl _, rfl⟩

/-- A row with a key that is not used yet keeps keys distinct. -/
theorem nodup_append_fresh {α κ : Type} {key : α → κ} {rows : List α} {row : α} {used : List κ}
    (distinct : (rows.map key).Nodup) (covered : ∀ other ∈ rows, key other ∈ used)
    (fresh : key row ∉ used) :
    ((rows ++ [row]).map key).Nodup := by
  rw [List.map_append, List.map_singleton, ← List.concat_eq_append]
  refine distinct.concat fun taken => ?_
  obtain ⟨other, member, same⟩ := List.mem_map.mp taken
  rw [← same] at fresh
  exact fresh (covered other member)

/-- The identifiers of each table stay distinct. -/
theorem Effect.distinct (coherent : Coherent db)
    (effect : Effect platform db tokenData currentUser call next) :
    (next.tenants.map (·.id)).Nodup ∧ (next.stores.map (·.id)).Nodup ∧
    (next.users.map (·.id)).Nodup := by
  obtain ⟨tenants, stores, users⟩ := And.intro coherent.tenantIds
    (And.intro coherent.storeIds coherent.userIds)
  cases effect with
  | tenantCreated _ fresh =>
    exact ⟨nodup_append_fresh tenants coherent.tenantsDrawn fresh, stores, users⟩
  | storeCreated _ fresh =>
    exact ⟨tenants, nodup_append_fresh stores coherent.storesDrawn fresh, users⟩
  | userCreated _ _ _ _ fresh =>
    exact ⟨tenants, stores, nodup_append_fresh users coherent.usersDrawn fresh⟩
  | tenantRenamed | tenantStatusSet =>
    refine ⟨?_, stores, users⟩
    rw [KeyedRows.map_key_update (by exact fun _ => rfl)]
    exact tenants
  | storeRenamed =>
    refine ⟨tenants, ?_, users⟩
    rw [KeyedRows.map_key_update (by exact fun _ => rfl)]
    exact stores
  | tenantDeleted => exact ⟨tenants.sublist (List.filter_sublist.map _), stores, users⟩
  | storeDeleted => exact ⟨tenants, stores.sublist (List.filter_sublist.map _), users⟩
  | userDeleted => exact ⟨tenants, stores, users.sublist (List.filter_sublist.map _)⟩
  | passwordChanged | userUpdated =>
    refine ⟨tenants, stores, ?_⟩
    rw [changeUser, KeyedRows.map_key_update (by exact fun _ => rfl)]
    exact users
  | userActed _ _ _ _ changed =>
    refine ⟨tenants, stores, ?_⟩
    rw [changeUser, KeyedRows.map_key_update (userChange_id changed)]
    exact users
  | policyWritten => exact ⟨tenants, stores, users⟩

/-! ## Steps -/

/-- The user row that a row after a call comes from is in the same tenant, or the row is new. -/
theorem Effect.user_origin (coherent : Coherent db) (caller : Caller db tokenData currentUser)
    (effect : Effect platform db tokenData currentUser call next) {row : User}
    (member : row ∈ next.users) :
    (∃ before ∈ db.users, before.id = row.id ∧ before.tenantId = row.tenantId) ∨
    row.id ∉ db.drawn := by
  rcases effect.user_cases coherent caller member with kept | ⟨_, _, before, was, written⟩
  · exact .inl ⟨row, kept, rfl, rfl⟩
  · rcases written.key with ⟨_, fresh⟩ | ⟨user, isBefore, sameId, sameTenant⟩
    · exact .inr fresh
    · exact .inl ⟨user, was user isBefore, sameId.symm, sameTenant.symm⟩

private theorem Effect.user_drawn (coherent : Coherent db)
    (effect : Effect platform db tokenData currentUser call next) {row : User}
    (member : row ∈ next.users) : row.id ∈ next.drawn := by
  obtain ⟨grows, _⟩ := effect.drawn_issued
  have kept : row.id ∈ db.users.map (·.id) → row.id ∈ next.drawn := by
    intro listed
    obtain ⟨user, isUser, same⟩ := List.mem_map.mp listed
    exact grows (same ▸ coherent.usersDrawn user isUser)
  cases effect with
  | userCreated =>
    rcases List.mem_append.mp member with old | created
    · exact kept (List.mem_map_of_mem old)
    · obtain rfl := List.mem_singleton.mp created
      exact List.mem_cons_self ..
  | passwordChanged | userUpdated =>
    obtain ⟨before, isBefore, rfl⟩ := KeyedRows.mem_update.mp member
    apply kept
    split <;> exact List.mem_map.mpr ⟨before, isBefore, rfl⟩
  | userActed _ _ _ _ changed =>
    obtain ⟨before, isBefore, rfl⟩ := KeyedRows.mem_update.mp member
    apply kept
    split
    · rw [userChange_id changed]
      exact List.mem_map_of_mem isBefore
    · exact List.mem_map_of_mem isBefore
  | userDeleted => exact kept (List.mem_map_of_mem (List.mem_of_mem_filter member))
  | tenantCreated | tenantRenamed | tenantStatusSet | tenantDeleted | storeCreated | storeRenamed
  | storeDeleted
  | policyWritten => exact kept (List.mem_map_of_mem member)

/-- Calls keep the tables coherent. -/
theorem Effect.coherent (coherent : Coherent db) (caller : Caller db tokenData currentUser)
    (effect : Effect platform db tokenData currentUser call next) : Coherent next := by
  obtain ⟨tenantIds, storeIds, userIds⟩ := effect.distinct coherent
  obtain ⟨grows, sameTokens⟩ := effect.drawn_issued
  have tenantKept : ∀ {id : Guid}, (∃ tenant ∈ db.tenants, tenant.id = id) →
      ((∃ store ∈ db.stores, store.tenantId = id) ∨ ∃ user ∈ db.users, user.tenantId = id) →
      ∃ tenant ∈ next.tenants, tenant.id = id := by
    rintro _ ⟨tenant, member, rfl⟩ used
    exact effect.tenants_kept member used
  have storeKept : ∀ {user : User}, user ∈ db.users → StoreOf db user.tenantId user.storeId →
      StoreOf next user.tenantId user.storeId := by
    intro user isUser was id works
    obtain ⟨store, isStore, rfl, inTenant⟩ := was id works
    obtain ⟨after, isAfter, sameId, sameTenant⟩ := effect.stores_kept isStore ⟨user, isUser, works⟩
    exact ⟨after, isAfter, sameId, sameTenant.trans inTenant⟩
  refine ⟨tenantIds, storeIds, userIds, ?_, ?_, fun row member => effect.user_drawn coherent member,
    ?_, ?_, ?_, ?_, ?_, ?_⟩
  · intro tenant member
    rcases effect.tenant_cases member with ⟨before, isBefore, same⟩ | fresh
    · exact grows (same ▸ coherent.tenantsDrawn before isBefore)
    · exact fresh
  · intro store member
    rcases effect.store_cases coherent caller member with ⟨before, isBefore, same, _⟩ | ⟨_,
      drawn, _⟩
    · exact grows (same ▸ coherent.storesDrawn before isBefore)
    · exact drawn
  · intro store member
    rcases effect.store_cases coherent caller member with ⟨before, isBefore, _, same⟩ | ⟨_, _,
      existing⟩
    · rw [← same]
      exact tenantKept (coherent.storeTenant before isBefore) (.inl ⟨before, isBefore, rfl⟩)
    · exact existing
  · intro row member
    rcases effect.user_cases coherent caller member with kept | ⟨sameTenants, _, before, was,
      written⟩
    · exact tenantKept (coherent.userTenant row kept) (.inr ⟨row, kept, rfl⟩)
    · rw [sameTenants]
      exact written.tenant coherent was
  · intro row member
    rcases effect.user_cases coherent caller member with kept | ⟨_, sameStores, before, was,
      written⟩
    · exact storeKept kept (coherent.userStore row kept)
    · rw [StoreOf, sameStores]
      exact written.store fun user isBefore => coherent.userStore user (was user isBefore)
  · intro row member
    rcases effect.user_cases coherent caller member with kept | ⟨_, _, before, was, written⟩
    · exact coherent.active row kept
    · exact written.active fun user isBefore => coherent.active user (was user isBefore)
  · intro token issued
    rw [sameTokens] at issued
    exact grows (coherent.tokenDrawn token issued)
  · intro token issued row member same
    rw [sameTokens] at issued
    rcases effect.user_origin coherent caller member with ⟨before, isBefore, sameId,
      sameTenant⟩ | fresh
    · rw [← sameTenant]
      exact coherent.tokenTenant token issued before isBefore (sameId.trans same)
    · exact absurd (same ▸ coherent.tokenDrawn token issued) fresh

/-- Every committed request keeps the tables coherent. -/
theorem coherent_step {request : AdminRequest} (coherent : Coherent db)
    (committed : adminStep platform db request = .ok next) :
    Coherent next := by
  cases adminStep_stepped committed with
  | @loggedIn _ _ user member =>
    refine { coherent with tokenDrawn := ?_, tokenTenant := ?_ }
    · intro token issued
      rcases List.mem_append.mp issued with earlier | new
      · exact coherent.tokenDrawn token earlier
      · obtain rfl := List.mem_singleton.mp new
        exact coherent.usersDrawn user member
    · intro token issued row isRow same
      rcases List.mem_append.mp issued with earlier | new
      · exact coherent.tokenTenant token earlier row isRow same
      · obtain rfl := List.mem_singleton.mp new
        rw [coherent.eq_of_id member isRow same]
        rfl
  | called caller effect => exact effect.coherent coherent caller

end ArisCloud.Administration
