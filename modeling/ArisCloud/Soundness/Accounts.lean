import ArisCloud.Proofs.AccountInvariant

/-! # Accounts over runs

Administration keeps its tables coherent in every order of requests. An account that may not
authenticate stays locked out, with every token it was handed, until somebody else reactivates it or
its tenant. The password of an account is set by its owner, or reset by a caller who reaches it.
-/

namespace ArisCloud.Administration

open Checked Requests

variable {platform : Platform} {db next start last : AdminDb} {tokenData : TokenData}
    {currentUser : User} {call : AdminCall}
  {request : AdminRequest} {history : List (AdminDb × AdminRequest)}

namespace Sample

/-- Passwords behind a salt, and the ASCII classes of characters. -/
def salted : Platform where
  hash salt password := salt ++ "$" ++ password
  verify password hashed := decide ((hashed.toList.dropWhile (· ≠ '$')).drop 1 = password.toList)
  isAlpha := Char.isAlpha
  isDigit := Char.isDigit

def acme : Guid := ⟨"acme", by decide +kernel, by decide⟩

def rival : Guid := ⟨"rival", by decide +kernel, by decide⟩

def downtown : Guid := ⟨"downtown", by decide +kernel, by decide⟩

def harbour : Guid := ⟨"harbour", by decide +kernel, by decide⟩

def rootId : Guid := ⟨"root", by decide +kernel, by decide⟩

def bossId : Guid := ⟨"boss", by decide +kernel, by decide⟩

def clerkId : Guid := ⟨"clerk", by decide +kernel, by decide⟩

def helperId : Guid := ⟨"helper", by decide +kernel, by decide⟩

/-- Administrators and managers manage users and view stores; users view stores. -/
def access : AccessControl.AccessDb where
  permissionCatalog :=
    ⟨[⟨1, "USER_MANAGE"⟩, ⟨2, "STORE_VIEW"⟩,
        ⟨3, "STORE_MANAGE"⟩], by decide +kernel, by decide +kernel⟩
  roleTemplates :=
    ⟨[⟨1, none, "ADMIN"⟩, ⟨2, none, "MANAGER"⟩, ⟨3, none, "USER"⟩,
        ⟨4, none, "SUPERADMIN"⟩], by decide +kernel,
    by decide +kernel⟩
  roleTemplatePermissions :=
    [⟨1, 1⟩, ⟨1, 2⟩, ⟨1, 3⟩, ⟨2, 1⟩, ⟨2, 2⟩, ⟨3, 2⟩, ⟨4, 1⟩, ⟨4, 2⟩, ⟨4, 3⟩]

def account (id tenantId storeId : Guid) (role : String) : User where
  id := id
  tenantId := tenantId
  storeId := some storeId
  username := id.text
  email := id.text ++ "@example"
  hashedPassword := salted.hash "salt" (id.text ++ "-password1")
  role := role
  status := "ACTIVE"
  mustChangePassword := false
  isActive := true

def root : User := account rootId rival harbour "SUPERADMIN"

def boss : User := account bossId acme downtown "MANAGER"

def clerk : User := account clerkId acme downtown "USER"

/-- Two tenants with a store each; the platform administrator belongs to one of them, a manager and
a user to the other. -/
def staffed : AdminDb where
  tenants := [⟨acme, "Acme", "ACTIVE"⟩, ⟨rival, "Rival", "ACTIVE"⟩]
  stores := [⟨downtown, acme, "Downtown"⟩, ⟨harbour, rival, "Harbour"⟩]
  users := [root, boss, clerk]
  access := access
  drawn := [acme, rival, downtown, harbour, rootId, bossId, clerkId]

theorem staffed_coherent : Coherent staffed where
  tenantIds := by decide +kernel
  storeIds := by decide +kernel
  userIds := by decide +kernel
  tenantsDrawn := by decide +kernel
  storesDrawn := by decide +kernel
  usersDrawn := by decide +kernel
  storeTenant := by decide +kernel
  userTenant := by decide +kernel
  userStore := by
    intro user member id works
    have listed : user = root ∨ user = boss ∨ user = clerk := by simpa [staffed] using member
    rcases listed with rfl | rfl | rfl
    · obtain rfl : harbour = id := Option.some.inj works
      exact ⟨⟨harbour, rival, "Harbour"⟩, by decide +kernel, rfl, rfl⟩
    · obtain rfl : downtown = id := Option.some.inj works
      exact ⟨⟨downtown, acme, "Downtown"⟩, by decide +kernel, rfl, rfl⟩
    · obtain rfl : downtown = id := Option.some.inj works
      exact ⟨⟨downtown, acme, "Downtown"⟩, by decide +kernel, rfl, rfl⟩
  active := by decide +kernel
  tokenDrawn := List.forall_mem_nil _
  tokenTenant := List.forall_mem_nil _

def logIn (user : User) : AdminRequest := .login user.username (user.id.text ++ "-password1")

def asUser (user : User) (call : AdminCall) : AdminRequest :=
  .call (createUserAccessToken user) call

/-- The manager hires a helper for the store. -/
def hire : AdminCall :=
  .createUser { username := "helper", email := "helper@example", password := "Temporary1",
                storeId := "downtown" } "grain" helperId

def hiring : List AdminRequest := [logIn boss, asUser boss hire]

theorem hiring_commits : (recordRun (adminStep salted) staffed hiring).isSome = true := by
  decide +kernel

def hired : List (AdminDb × AdminRequest) × AdminDb :=
  (recordRun (adminStep salted) staffed hiring).get hiring_commits

end Sample

/-- Administration keeps its tables coherent: after any run every user works in a store of a tenant
that exists, the flags of being active agree, and every token names the tenant of its account. -/
theorem accounts_coherent (coherent : Coherent start)
    (run : Run (adminStep platform) start history last) : Coherent last :=
  run.invariant coherent fun _ _ _ before committed => coherent_step before committed

theorem accounts_coherent_hired : Coherent Sample.hired.2 :=
  accounts_coherent Sample.staffed_coherent (run_of_recordRun (Option.some_get _).symm)

/-! ## Locked accounts -/

/-- The account may not authenticate: it does not exist, or it or its tenant is not active. -/
def Locked (db : AdminDb) (id : Guid) : Prop :=
  ∀ user ∈ db.users, user.id = id →
    (evaluateAuthEligibility user (db.tenants.find? (·.id = user.tenantId))).allowed = false

/-- A request that makes the account or its tenant active. -/
def Reactivates (db : AdminDb) (id : Guid) : AdminRequest → Prop
  | .call _ (.userActions userId payload _ _) =>
    payload.action = .setStatus ∧ payload.status = some .active ∧ userId = id.text
  | .call _ (.tenantActions tenantId status) =>
    status = some .active ∧ ∃ user ∈ db.users, user.id = id ∧ user.tenantId.text = tenantId
  | _ => False

/-- A request that makes an existing account or its tenant inactive. -/
def Suspends (db : AdminDb) (id : Guid) : AdminRequest → Prop
  | .call _ (.userActions userId payload _ _) =>
    payload.action = .setStatus ∧ payload.status ≠ some .active ∧ userId = id.text ∧
      ∃ user ∈ db.users, user.id = id
  | .call _ (.tenantActions tenantId status) =>
    status ≠ some .active ∧ ∃ user ∈ db.users, user.id = id ∧ user.tenantId.text = tenantId
  | _ => False

/-- A request that presents a token of the account. -/
def PresentedBy (id : Guid) : AdminRequest → Prop
  | .call tokenData _ => tokenData.sub = id
  | .login .. => False

private theorem evaluateAuthEligibility_allowed {user : User} {tenant : Option Tenant} :
    (evaluateAuthEligibility user tenant).allowed = true ↔
      user.isActive = true ∧ isStatusActive user.status = true ∧ ∃ found, tenant = some found ∧
      isStatusActive found.status = true := by
  unfold evaluateAuthEligibility
  cases tenant with
  | none => split_ifs <;> simp_all
  | some found => split_ifs <;> simp_all

/-- In coherent tables an account may authenticate when its status and that of its tenant are
active. -/
theorem allowed_iff (coherent : Coherent db) {user : User} (member : user ∈ db.users) :
    (evaluateAuthEligibility user (db.tenants.find? (·.id = user.tenantId))).allowed = true ↔
      isStatusActive user.status = true ∧
        ∃ tenant ∈ db.tenants, tenant.id = user.tenantId ∧ isStatusActive tenant.status = true := by
  rw [evaluateAuthEligibility_allowed, coherent.active user member]
  constructor
  · rintro ⟨_, active, tenant, found, tenantActive⟩
    obtain ⟨isTenant, same⟩ := mem_of_find?_decide found
    exact ⟨active, tenant, isTenant, same, tenantActive⟩
  · rintro ⟨active, tenant, isTenant, same, tenantActive⟩
    exact ⟨active, active, tenant,
      KeyedRows.find?_eq_some_of_key coherent.tenantIds isTenant (decide_eq_true same)
      fun other _ matching =>
        (of_decide_eq_true matching).trans same.symm, tenantActive⟩

private theorem Locked.iff (coherent : Coherent db) {id : Guid} : Locked db id ↔ ∀ user ∈ db.users,
    user.id = id →
    ¬ (isStatusActive user.status = true ∧
      ∃ tenant ∈ db.tenants, tenant.id = user.tenantId ∧ isStatusActive tenant.status = true) := by
  refine forall₃_congr fun user member _ => ?_
  rw [← allowed_iff coherent member, Bool.not_eq_true]

/-- A tenant that is active after a call was so before, is new, or has been reactivated. -/
theorem Effect.tenant_active (effect : Effect platform db tokenData currentUser call next)
    {tenant : Tenant} (member : tenant ∈ next.tenants)
    (active : isStatusActive tenant.status = true) :
    (∃ before ∈ db.tenants, before.id = tenant.id ∧ isStatusActive before.status = true) ∨
    tenant.id ∉ db.drawn ∨
      call = .tenantActions tenant.id.text (some .active) := by
  cases effect with
  | tenantCreated _ fresh =>
    rcases List.mem_append.mp member with kept | created
    · exact .inl ⟨tenant, kept, rfl, active⟩
    · obtain rfl := List.mem_singleton.mp created
      exact .inr (.inl fresh)
  | tenantRenamed =>
    rcases KeyedRows.mem_update_cases member with ⟨kept, _⟩ | ⟨before, isBefore, _, rfl⟩
    · exact .inl ⟨tenant, kept, rfl, active⟩
    · exact .inl ⟨before, isBefore, rfl, active⟩
  | @tenantStatusSet _ status changed _ isTenant same =>
    subst same
    rcases KeyedRows.mem_update_cases member with ⟨kept, _⟩ | ⟨before, isBefore, touched, rfl⟩
    · exact .inl ⟨tenant, kept, rfl, active⟩
    · rw [isStatusActive_text, decide_eq_true_eq] at active
      subst active
      rw [← List.mem_singleton.mp touched]
      exact .inr (.inr rfl)
  | tenantDeleted => exact .inl ⟨tenant, List.mem_of_mem_filter member, rfl, active⟩
  | passwordChanged | storeCreated | storeRenamed | storeDeleted | userCreated | userUpdated
  | userDeleted | userActed
  | policyWritten => exact .inl ⟨tenant, member, rfl, active⟩

/-- A status that is active after a call was so before, or the account has been created or
reactivated. -/
theorem Written.status_active {before : Option User} {row : User}
    (written : Written platform db tokenData currentUser call before row)
    (active : isStatusActive row.status = true) :
    (∃ user, before = some user ∧ user.id = row.id ∧ user.tenantId = row.tenantId ∧
      isStatusActive user.status = true) ∨
      row.id ∉ db.drawn ∨ Reactivates db row.id (.call tokenData call) := by
  cases written with
  | created _ _ _ _ fresh => exact .inr (.inl fresh)
  | @statusSet _ _ _ before status action named =>
    rw [isStatusActive_text, decide_eq_true_eq] at active
    subst active
    exact .inr (.inr ⟨action, named, rfl⟩)
  | passwordChanged | updated | roleSet | passwordReset => exact .inl ⟨_, rfl, rfl, rfl, active⟩

/-- A locked account stays locked by every request that does not reactivate it. -/
theorem Effect.locked (coherent : Coherent db) (caller : Caller db tokenData currentUser)
    (effect : Effect platform db tokenData currentUser call next) {id : Guid}
    (drawn : id ∈ db.drawn) (locked : Locked db id)
    (unrevoked : ¬ Reactivates db id (.call tokenData call)) : Locked next id := by
  rw [Locked.iff (effect.coherent coherent caller)]
  rintro row member rfl ⟨active, tenant, isTenant, sameTenant, tenantActive⟩
  rw [Locked.iff coherent] at locked
  -- The row was there before with an active status, so its tenant was not active.
  obtain ⟨user, isUser, sameId, inTenant, wasActive⟩ : ∃ user ∈ db.users, user.id = row.id ∧
      user.tenantId = row.tenantId ∧ isStatusActive user.status = true := by
    rcases effect.user_cases coherent caller member with kept | ⟨_, _, before, was, written⟩
    · exact ⟨row, kept, rfl, rfl, active⟩
    · rcases written.status_active active with ⟨user, isBefore, sameId, inTenant,
        wasActive⟩ | fresh | reactivated
      · exact ⟨user, was user isBefore, sameId, inTenant, wasActive⟩
      · exact absurd drawn fresh
      · exact absurd reactivated unrevoked
  apply locked user isUser sameId
  refine ⟨wasActive, ?_⟩
  rcases effect.tenant_active isTenant tenantActive with ⟨before, isBefore, same,
    beforeActive⟩ | fresh | reactivated
  · exact ⟨before, isBefore, same.trans (sameTenant.trans inTenant.symm), beforeActive⟩
  · obtain ⟨existing, isExisting, same⟩ := coherent.userTenant user isUser
    have taken := coherent.tenantsDrawn existing isExisting
    rw [same, inTenant, ← sameTenant] at taken
    exact absurd taken fresh
  · subst reactivated
    exact absurd ⟨rfl, user, isUser, sameId, by rw [inTenant, sameTenant]⟩ unrevoked

/-- What a run keeps of a locked account: its identifier is taken, and it has no tokens but those of
the start. -/
structure LockedOut (start db : AdminDb) (id : Guid) : Prop where
  coherent : Coherent db
  drawn : id ∈ db.drawn
  locked : Locked db id
  tokens : ∀ token ∈ db.issued, token.sub = id → token ∈ start.issued

theorem LockedOut.step {id : Guid} (out : LockedOut start db id)
    (committed : adminStep platform db request = .ok next)
    (unrevoked : ¬ Reactivates db id request) : LockedOut start next id := by
  have coherentNext := coherent_step out.coherent committed
  cases adminStep_stepped committed with
  | @loggedIn _ _ user member active =>
    refine ⟨coherentNext, out.drawn, out.locked, fun token issued named => ?_⟩
    rcases List.mem_append.mp issued with earlier | new
    · exact out.tokens token earlier named
    · obtain rfl := List.mem_singleton.mp new
      have inactive := out.locked user member named
      rw [active] at inactive
      contradiction
  | called caller effect =>
    obtain ⟨grows, sameTokens⟩ := effect.drawn_issued
    exact ⟨coherentNext, grows out.drawn,
      effect.locked out.coherent caller out.drawn out.locked unrevoked,
      fun token issued => out.tokens token (sameTokens ▸ issued)⟩

/-- A locked account makes no request. -/
theorem LockedOut.not_presentedBy {id : Guid} (out : LockedOut start db id)
    (committed : adminStep platform db request = .ok next) : ¬ PresentedBy id request := by
  intro presented
  cases adminStep_stepped committed with
  | loggedIn => exact presented
  | @called _ currentUser _ _ caller =>
    have inactive := out.locked currentUser caller.member (caller.same.trans presented)
    rw [caller.active] at inactive
    contradiction

theorem LockedOut.run {id : Guid} (out : LockedOut start db id)
    (run : Run (adminStep platform) db history last)
    (unrevoked : ∀ entry ∈ history, ¬ Reactivates entry.1 id entry.2) :
    LockedOut start last id ∧ ∀ entry ∈ history, ¬ PresentedBy id entry.2 := by
  induction run with
  | finish => exact ⟨out, List.forall_mem_nil _⟩
  | commit committed _ ih =>
    rw [List.forall_mem_cons] at unrevoked
    obtain ⟨later, silent⟩ := ih (out.step committed unrevoked.1) unrevoked.2
    exact ⟨later, List.forall_mem_cons.mpr ⟨out.not_presentedBy committed, silent⟩⟩

/-- A suspension locks the account. -/
theorem locked_of_suspends {id : Guid} (coherent : Coherent db)
    (committed : adminStep platform db request = .ok next) (suspends : Suspends db id request) :
    LockedOut db next id := by
  have coherentNext := coherent_step coherent committed
  cases adminStep_stepped committed with
  | loggedIn => exact suspends.elim
  | @called tokenData currentUser call _ caller effect =>
    obtain ⟨user, member, isAccount⟩ : ∃ user ∈ db.users, user.id = id := by
      cases call <;> first | exact suspends.elim | skip
      · obtain ⟨_, user, member, same, _⟩ := suspends
        exact ⟨user, member, same⟩
      · exact suspends.2.2.2
    have drawn : id ∈ db.drawn := isAccount ▸ coherent.usersDrawn user member
    refine ⟨coherentNext, effect.drawn_issued.1 drawn, ?_, fun token issued _ =>
      effect.drawn_issued.2 ▸ issued⟩
    rw [Locked.iff coherentNext]
    rintro row isRow same ⟨active, tenant, isTenant, sameTenant, tenantActive⟩
    cases effect with
    | @tenantStatusSet _ status changed _ isChanged named =>
      obtain ⟨inactive, user, member, isUser, inTenant⟩ := suspends
      obtain rfl := coherent.eq_of_id member isRow (same.trans isUser.symm)
      rcases KeyedRows.mem_update_cases isTenant with ⟨_, untouched⟩ | ⟨before, _, _, rfl⟩
      · have sameId : tenant.id = changed.id :=
          sameTenant.trans (Guid.text_injective (inTenant.trans named.symm))
        exact untouched (List.mem_singleton.mpr sameId)
      · rw [isStatusActive_text, decide_eq_true_eq] at tenantActive
        exact inactive (congrArg some tenantActive)
    | @userActed _ payload _ _ user _ change permitted isTarget named reaches changed =>
      obtain ⟨action, inactive, isUser, _⟩ := suspends
      have targeted : user.id = id := Guid.text_injective (named.trans isUser)
      rcases mem_changeUser coherent isTarget isRow with rfl | ⟨_, other⟩
      · rw [userChange, action] at changed
        simp only [bind_eq_ok, fetch_eq_ok, pure_eq_ok] at changed
        obtain ⟨status, chosen, rfl⟩ := changed
        rw [isStatusActive_text, decide_eq_true_eq] at active
        exact inactive (chosen.trans (congrArg some active))
      · exact other (same.trans targeted.symm)
    | policyWritten isPolicy =>
      cases call <;> first | exact suspends | (exact absurd isPolicy Bool.false_ne_true)
    | passwordChanged | tenantCreated | tenantRenamed | tenantDeleted | storeCreated | storeRenamed
    | storeDeleted
    | userCreated | userUpdated | userDeleted => exact suspends

namespace Sample

/-- The manager suspends the user of the store. -/
def suspendClerk : AdminRequest :=
  asUser boss (.userActions "clerk" { action := .setStatus, status := some .suspended,
                                      transactionId := "t1" } "" "")

private theorem loggedIn_commits :
    (recordRun (adminStep salted) staffed [logIn boss, logIn clerk]).isSome = true := by
  decide +kernel

def loggedIn : List (AdminDb × AdminRequest) × AdminDb :=
  (recordRun (adminStep salted) staffed [logIn boss, logIn clerk]).get loggedIn_commits

private theorem suspendClerk_commits :
    (adminStep salted loggedIn.2 suspendClerk).toOption.isSome = true := by decide +kernel

def clerkSuspended : AdminDb :=
  (adminStep salted loggedIn.2 suspendClerk).toOption.get suspendClerk_commits

private theorem hire_commits :
    (recordRun (adminStep salted) clerkSuspended [asUser boss hire]).isSome = true := by
  decide +kernel

def hiredThen : List (AdminDb × AdminRequest) × AdminDb :=
  (recordRun (adminStep salted) clerkSuspended [asUser boss hire]).get hire_commits

end Sample

/-- A request that sets the password of the user: the owner changes it, or a caller who reaches the
user resets it. -/
def SetsPassword (user : User) : AdminRequest → Prop
  | .call tokenData (.changePassword ..) => tokenData.sub = user.id
  | .call tokenData (.userActions userId payload _ _) =>
    payload.action = .resetPassword ∧ userId = user.id.text ∧ Reaches tokenData user.tenantId
  | _ => False

/-- A request by which the owner changes the password. -/
def ChangesOwnPassword (user : User) : AdminRequest → Prop
  | .call tokenData (.changePassword ..) => tokenData.sub = user.id
  | _ => False

/-- What is written of an account without a request that sets its password keeps the password, and
without one of the owner keeps the demand to change it. -/
theorem Written.password {before : Option User} {row : User}
    (caller : Caller db tokenData currentUser)
    (written : Written platform db tokenData currentUser call before row) :
    row.id ∉ db.drawn ∨ ∃ user, before = some user ∧ user.id = row.id ∧
    user.tenantId = row.tenantId ∧
      (row.hashedPassword = user.hashedPassword ∨ SetsPassword row (.call tokenData call)) ∧
      (row.mustChangePassword = user.mustChangePassword ∨ row.mustChangePassword = true ∨
        ChangesOwnPassword row (.call tokenData call)) := by
  cases written with
  | created _ _ _ _ fresh => exact .inl fresh
  | passwordChanged =>
    exact .inr ⟨currentUser, rfl, rfl, rfl, .inr caller.same.symm, .inr (.inr caller.same.symm)⟩
  | @updated _ _ _ before | @statusSet _ _ _ before | @roleSet _ _ _ before =>
    exact .inr ⟨before, rfl, rfl, rfl, .inl rfl, .inl rfl⟩
  | @passwordReset _ _ _ _ before action reaches =>
    exact .inr ⟨before, rfl, rfl, rfl, .inr ⟨action, rfl, reaches⟩, .inr (.inl rfl)⟩

/-- A row with the identifier of a row before a call is that row, or has been written from it. -/
theorem Effect.password (coherent : Coherent db) (caller : Caller db tokenData currentUser)
    (effect : Effect platform db tokenData currentUser call next) {row : User}
    (member : row ∈ next.users) (drawn : row.id ∈ db.drawn) : ∃ user ∈ db.users, user.id = row.id ∧
    user.tenantId = row.tenantId ∧
      (row.hashedPassword = user.hashedPassword ∨ SetsPassword row (.call tokenData call)) ∧
      (row.mustChangePassword = user.mustChangePassword ∨ row.mustChangePassword = true ∨
        ChangesOwnPassword row (.call tokenData call)) := by
  rcases effect.user_cases coherent caller member with kept | ⟨_, _, before, was, written⟩
  · exact ⟨row, kept, rfl, rfl, .inl rfl, .inl rfl⟩
  · rcases written.password caller with fresh | ⟨user, isBefore, rest⟩
    · exact absurd drawn fresh
    · exact ⟨user, was user isBefore, rest⟩

/-- The row of an account, wherever it still is, has its tenant and a property that it had. -/
structure Keeps (account : User) (holds : User → Prop) (db : AdminDb) : Prop where
  coherent : Coherent db
  drawn : account.id ∈ db.drawn
  rows : ∀ user ∈ db.users, user.id = account.id → user.tenantId = account.tenantId ∧ holds user

theorem Keeps.initial {account : User} {holds : User → Prop} (coherent : Coherent db)
    (member : account ∈ db.users) (initial : holds account) : Keeps account holds db where
  coherent := coherent
  drawn := coherent.usersDrawn account member
  rows user isUser same := by
    obtain rfl := coherent.eq_of_id member isUser same
    exact ⟨rfl, initial⟩

/-- A property that a step keeps from each row of the account to the next holds after every allowed
run. -/
theorem Keeps.run {account : User} {holds : User → Prop} (allowed : AdminRequest → Prop)
    (kept : Keeps account holds db) (run : Run (adminStep platform) db history last)
    (permitted : ∀ entry ∈ history, allowed entry.2)
    (step : ∀ {tokenData : TokenData} {call : AdminCall} {user row : User},
      allowed (.call tokenData call) →
      holds user → row.id = account.id → row.tenantId = account.tenantId →
      (row.hashedPassword = user.hashedPassword ∨ SetsPassword row (.call tokenData call)) →
      (row.mustChangePassword = user.mustChangePassword ∨ row.mustChangePassword = true ∨
        ChangesOwnPassword row (.call tokenData call)) → holds row) : Keeps account holds last := by
  induction run with
  | finish => exact kept
  | @commit source request next _ _ committed _ ih =>
    rw [List.forall_mem_cons] at permitted
    refine ih ?_ permitted.2
    have coherentNext := coherent_step kept.coherent committed
    cases adminStep_stepped committed with
    | loggedIn => exact ⟨coherentNext, kept.drawn, kept.rows⟩
    | called caller effect =>
      refine ⟨coherentNext, effect.drawn_issued.1 kept.drawn, fun row member same => ?_⟩
      obtain ⟨user, isUser, sameId, sameTenant, password, demand⟩ :=
        effect.password kept.coherent caller member (same ▸ kept.drawn)
      obtain ⟨inTenant, held⟩ := kept.rows user isUser (sameId.trans same)
      exact ⟨sameTenant.symm.trans inTenant,
        step permitted.1 held same (sameTenant.symm.trans inTenant) password demand⟩

private theorem setsPassword_congr {user other : User} (sameId : user.id = other.id)
    (sameTenant : user.tenantId = other.tenantId) :
    SetsPassword user request ↔ SetsPassword other request := by
  unfold SetsPassword
  rw [sameId, sameTenant]

/-- Over any run the password of an account changes only by its owner, or by a reset of a caller who
is of the platform or of its tenant; and a demand to change the password is lifted by the owner
only. -/
theorem passwords_set_by_owner_or_reset (coherent : Coherent start)
    (run : Run (adminStep platform) start history last) (before after : User)
    (wasUser : before ∈ start.users) (isUser : after ∈ last.users) (same : after.id = before.id) :
    (after.hashedPassword = before.hashedPassword ∨ ∃ entry ∈ history,
      SetsPassword before entry.2) ∧
      (before.mustChangePassword = true → after.mustChangePassword = true ∨
        ∃ entry ∈ history, ChangesOwnPassword before entry.2) := by
  constructor
  · by_cases touched : ∃ entry ∈ history, SetsPassword before entry.2
    · exact .inr touched
    · push Not at touched
      have kept : Keeps before (fun user => user.hashedPassword = before.hashedPassword) last := by
        refine Keeps.run (fun request => ¬ SetsPassword before request)
          (.initial coherent wasUser rfl) run touched ?_
        intro _ _ user row untouched held sameId sameTenant password _
        rcases password with same | sets
        · exact same.trans held
        · exact absurd ((setsPassword_congr sameId sameTenant).mp sets) untouched
      exact .inl (kept.rows after isUser same).2
  · intro demanded
    by_cases touched : ∃ entry ∈ history, ChangesOwnPassword before entry.2
    · exact .inr touched
    · push Not at touched
      have kept : Keeps before (fun user => user.mustChangePassword = true) last := by
        refine Keeps.run (fun request => ¬ ChangesOwnPassword before request)
          (.initial coherent wasUser demanded) run touched ?_
        intro tokenData call user row untouched held sameId _ _ demand
        rcases demand with same | demand | changes
        · exact same.trans held
        · exact demand
        · have own : ChangesOwnPassword before (.call tokenData call) := by
            unfold ChangesOwnPassword at changes ⊢
            rwa [sameId] at changes
          exact absurd own untouched
      exact .inl (kept.rows after isUser same).2

namespace Sample

/-- The manager resets the password of the user of the store. -/
def resets : List AdminRequest :=
  [logIn boss, asUser boss (.userActions "clerk" { action := .resetPassword, transactionId := "t1" }
    "Generated123" "pepper")]

private theorem resets_commit : (recordRun (adminStep salted) staffed resets).isSome = true := by
  decide +kernel

def reset : List (AdminDb × AdminRequest) × AdminDb :=
  (recordRun (adminStep salted) staffed resets).get resets_commit

private theorem reset_run : Run (adminStep salted) staffed reset.1 reset.2 :=
  run_of_recordRun (Option.some_get resets_commit).symm

/-- The row of the user after the reset, which demands another password. -/
def clerkReset : User :=
  { clerk with hashedPassword := "pepper$Generated123", mustChangePassword := true }

/-- The user chooses a password. -/
def choices : List AdminRequest :=
  [.login "clerk" "Generated123", .call (createUserAccessToken clerkReset)
    (.changePassword "Generated123" "MyOwnChoice123" "sugar")]

private theorem choices_commit : (recordRun (adminStep salted) reset.2 choices).isSome = true := by
  decide +kernel

def chosen : List (AdminDb × AdminRequest) × AdminDb :=
  (recordRun (adminStep salted) reset.2 choices).get choices_commit

/-- The row of the user at the end. -/
def clerkChosen : User := { clerk with hashedPassword := "sugar$MyOwnChoice123" }

end Sample

/-- Somebody has set the password that the user has after the reset, and the user has lifted the
demand to change it that is gone at the end. -/
theorem passwords_set_by_owner_or_reset_clerk :
    (∃ entry ∈ Sample.reset.1, SetsPassword Sample.clerk entry.2) ∧
      ∃ entry ∈ Sample.chosen.1, ChangesOwnPassword Sample.clerkReset entry.2 := by
  have coherent : Coherent Sample.reset.2 := Sample.reset_run.invariant Sample.staffed_coherent
    fun _ _ _ before committed => coherent_step before committed
  constructor
  · refine (passwords_set_by_owner_or_reset Sample.staffed_coherent Sample.reset_run Sample.clerk
      Sample.clerkReset ?_ ?_ rfl).1.resolve_left ?_
    · decide +kernel
    · decide +kernel
    · decide +kernel
  · refine ((passwords_set_by_owner_or_reset coherent (run_of_recordRun
      (Option.some_get Sample.choices_commit).symm) Sample.clerkReset Sample.clerkChosen ?_
      ?_ rfl).2
        rfl).resolve_left ?_
    · decide +kernel
    · decide +kernel
    · decide +kernel

end ArisCloud.Administration
