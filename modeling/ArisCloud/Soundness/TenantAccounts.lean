import ArisCloud.Soundness.RoleAssignments

/-! # Tenants do not administer each other

A caller who is not of the platform works in the tenant of the own token. Whatever the callers of
other tenants request, and in whatever order, the rows of a tenant stay as they were: the tenant,
its stores, its users and the policies and overrides in it; and so do the templates and the policies
of the platform.
-/

namespace ArisCloud.Administration

open Checked Requests
open AccessControl (AccessDb PolicyRequest PolicyEntry)
open Overlays (replaceEntries)

variable {platform : Platform} {db next start last : AdminDb} {tokenData : TokenData}
    {currentUser : User} {call : AdminCall}
  {request : AdminRequest} {history : List (AdminDb × AdminRequest)} {tenantId : Guid}

/-- The rows of a tenant, and those of the platform, are the same in two states. -/
structure SameTenant (tenantId : Guid) (db next : AdminDb) : Prop where
  tenants : next.tenants.filter (·.id = tenantId) = db.tenants.filter (·.id = tenantId)
  stores : next.stores.filter (·.tenantId = tenantId) = db.stores.filter (·.tenantId = tenantId)
  users : next.users.filter (·.tenantId = tenantId) = db.users.filter (·.tenantId = tenantId)
  catalog : next.access.permissionCatalog = db.access.permissionCatalog
  templates : next.access.roleTemplates = db.access.roleTemplates
  links : next.access.roleTemplatePermissions = db.access.roleTemplatePermissions
  tenantPolicies : next.access.tenantRolePolicies.filter
      (fun entry => decide (entry.scope.tenantId = none ∨
      entry.scope.tenantId = some tenantId.text)) = db.access.tenantRolePolicies.filter
      (fun entry =>
        decide (entry.scope.tenantId = none ∨ entry.scope.tenantId = some tenantId.text))
  storePolicies : next.access.storeRolePolicies.filter (·.scope.tenantId = tenantId.text) =
    db.access.storeRolePolicies.filter (·.scope.tenantId = tenantId.text)
  overrides : next.access.userPermissionOverrides.filter (·.scope.tenantId = tenantId.text) =
    db.access.userPermissionOverrides.filter (·.scope.tenantId = tenantId.text)

theorem SameTenant.refl (tenantId : Guid) (db : AdminDb) : SameTenant tenantId db db :=
  ⟨rfl, rfl, rfl, rfl, rfl, rfl, rfl, rfl, rfl⟩

theorem SameTenant.trans {middle : AdminDb} (first : SameTenant tenantId db middle)
    (second : SameTenant tenantId middle next) :
    SameTenant tenantId db next where
  tenants := second.tenants.trans first.tenants
  stores := second.stores.trans first.stores
  users := second.users.trans first.users
  catalog := second.catalog.trans first.catalog
  templates := second.templates.trans first.templates
  links := second.links.trans first.links
  tenantPolicies := second.tenantPolicies.trans first.tenantPolicies
  storePolicies := second.storePolicies.trans first.storePolicies
  overrides := second.overrides.trans first.overrides

/-- A request of a caller of another tenant, or a login. -/
def Foreign (tenantId : Guid) : AdminRequest → Prop
  | .call tokenData _ => isSuperadmin tokenData.role = false ∧ tokenData.tenantId ≠ some tenantId
  | .login .. => True

/-- The tokens of platform administrators say so. -/
def PlatformTokens (db : AdminDb) : Prop :=
  ∀ token ∈ db.issued, ∀ user ∈ db.users, user.id = token.sub → isSuperadmin user.role = true →
    isSuperadmin token.role = true

theorem PlatformTokens.step (platformTokens : PlatformTokens db) (coherent : Coherent db)
    (committed : adminStep platform db request = .ok next) : PlatformTokens next := by
  cases adminStep_stepped committed with
  | @loggedIn _ _ user member =>
    intro token issued row isRow same platformRole
    rcases List.mem_append.mp issued with earlier | new
    · exact platformTokens token earlier row isRow same platformRole
    · obtain rfl := List.mem_singleton.mp new
      rw [coherent.eq_of_id member isRow same] at platformRole
      exact platformRole
  | called caller effect =>
    intro token issued row isRow same platformRole
    rw [effect.drawn_issued.2] at issued
    rcases effect.role_cases coherent caller isRow with ⟨user, isUser, sameId, _, sameRole⟩ | ⟨role,
      assigned, _, _, _, allowed⟩
    · exact platformTokens token issued user isUser (sameId.trans same) (sameRole ▸ platformRole)
    · rw [assigned, allowed.tenantRole] at platformRole
      contradiction

/-! ## Writes outside of a selection -/

section Selections

variable {α κ : Type} [DecidableEq κ] {key : α → κ} {rows : List α} {selected : α → Bool}

/-- Changing one row that is not selected does not show in the selection. -/
theorem filter_update_unselected (distinct : (rows.map key).Nodup) {row : α} {change : α → α}
    (member : row ∈ rows) (before : selected row = false) (after : selected (change row) = false) :
    (KeyedRows.update key [key row] change rows).filter selected = rows.filter selected := by
  refine KeyedRows.filter_update_of_outside fun other isOther listed => ?_
  obtain rfl := List.inj_on_of_nodup_map distinct isOther member (List.mem_singleton.mp listed)
  exact ⟨before, after⟩

private theorem filter_append_unselected {row : α} (unselected : selected row = false) :
    (rows ++ [row]).filter selected = rows.filter selected := by
  rw [List.filter_append, List.filter_cons_of_neg (by rw [unselected]; exact Bool.false_ne_true),
    List.filter_nil, List.append_nil]

/-- Replacing the entries of a scope that is not selected does not show in the selection. -/
theorem filter_replaceEntries_unselected {target : κ} {new : List α}
    (named : ∀ entry ∈ new, key entry = target)
    (unselected : ∀ entry, key entry = target → selected entry = false) :
    (replaceEntries key target rows new).filter selected = rows.filter selected := by
  have none : new.filter selected = [] := by
    rw [List.filter_eq_nil_iff]
    intro entry member isSelected
    rw [unselected entry (named entry member)] at isSelected
    contradiction
  rw [replaceEntries, List.filter_append, none, List.append_nil, List.filter_filter]
  refine List.filter_congr fun entry _ => ?_
  by_cases same : key entry = target
  · simp [unselected entry same]
  · simp [same]

end Selections

private theorem scope_of_buildEntries {τ : Type} {scope : τ} {allow deny : List String} :
    ∀ entry ∈ AccessControl.buildEntries scope allow deny, entry.scope = scope := by
  intro entry member
  rcases List.mem_append.mp member with listed | listed <;>
    (obtain ⟨code, _, rfl⟩ := List.mem_map.mp listed; rfl)

/-- A policy that another tenant's administrator writes is none of the tenant and none of the
platform. -/
theorem Effect.sameTenant_of_policy {policy : PolicyRequest} {report : AccessControl.Report}
    {access : AccessDb} (allowed : PolicyAllowed tokenData policy)
    (ordinary : isSuperadmin tokenData.role = false) (foreign : tokenData.tenantId ≠ some tenantId)
    (written : AccessControl.policyCall db.access policy = .ok (report, access)) :
    SameTenant tenantId db { db with access } := by
  have other : ∀ {own : Guid}, tokenData.tenantId = some own → own.text ≠ tenantId.text := by
    intro own named same
    exact foreign (named.trans (congrArg some (Guid.text_injective same)))
  cases allowed with
  | platform _ platformRole =>
    rw [ordinary] at platformRole
    contradiction
  | tenantRole own roleName allow deny enforceCeiling _ named =>
    cases AccessControl.policyCall_ok written
    refine { SameTenant.refl tenantId db with tenantPolicies := ?_ }
    refine filter_replaceEntries_unselected scope_of_buildEntries fun entry ofScope =>
      decide_eq_false ?_
    rw [ofScope]
    rintro (none | same)
    · exact Option.some_ne_none _ none
    · exact other named (Option.some.inj same)
  | storeRole own storeId roleName allow deny enforceCeiling _ named =>
    cases AccessControl.policyCall_ok written
    refine { SameTenant.refl tenantId db with storePolicies := ?_ }
    refine filter_replaceEntries_unselected scope_of_buildEntries fun entry ofScope =>
      decide_eq_false ?_
    rw [ofScope]
    exact other named
  | user own userId allow deny enforceCeiling _ named =>
    cases AccessControl.policyCall_ok written
    refine { SameTenant.refl tenantId db with overrides := ?_ }
    refine filter_replaceEntries_unselected scope_of_buildEntries fun entry ofScope =>
      decide_eq_false ?_
    rw [ofScope]
    exact other named

/-- A call of another tenant's caller leaves the rows of the tenant alone. -/
theorem Effect.sameTenant (coherent : Coherent db) (platformTokens : PlatformTokens db)
    (caller : Caller db tokenData currentUser)
    (effect : Effect platform db tokenData currentUser call next)
    (ordinary : isSuperadmin tokenData.role = false)
    (foreign : tokenData.tenantId ≠ some tenantId) : SameTenant tenantId db next := by
  have elsewhere : currentUser.tenantId ≠ tenantId := by
    rintro rfl
    exact foreign (caller.tenant coherent)
  have reached : ∀ {reachedId : Guid}, Reaches tokenData reachedId → reachedId ≠ tenantId := by
    intro reachedId reaches
    rw [caller.own_of_reaches coherent reaches ordinary]
    exact elsewhere
  cases effect with
  | tenantCreated platformRole | tenantRenamed platformRole | tenantStatusSet platformRole
  | tenantDeleted platformRole
  | storeDeleted platformRole | userDeleted platformRole =>
    rw [ordinary] at platformRole
    contradiction
  | passwordChanged =>
    refine { SameTenant.refl tenantId db with users := ?_ }
    exact filter_update_unselected coherent.userIds caller.member (decide_eq_false elsewhere)
      (decide_eq_false elsewhere)
  | storeCreated resolved =>
    refine { SameTenant.refl tenantId db with stores := filter_append_unselected (decide_eq_false ?_) }
    rcases resolved with ⟨platformRole, _⟩ | named
    · have tokenRole := platformTokens tokenData caller.issued currentUser caller.member caller.same
        platformRole
      rw [ordinary] at tokenRole
      contradiction
    · exact reached (.inr named)
  | storeRenamed member named =>
    refine { SameTenant.refl tenantId db with stores := ?_ }
    have unselected := reached (.inr named)
    exact filter_update_unselected coherent.storeIds member (decide_eq_false unselected)
      (decide_eq_false unselected)
  | userCreated _ _ reaches =>
    exact { SameTenant.refl tenantId db with
      users := filter_append_unselected (decide_eq_false (reached reaches)) }
  | userUpdated _ member reaches =>
    refine { SameTenant.refl tenantId db with users := ?_ }
    have unselected := reached reaches
    exact filter_update_unselected coherent.userIds member (decide_eq_false unselected)
      (decide_eq_false unselected)
  | @userActed _ _ _ _ user _ _ permitted member _ reaches changed =>
    refine { SameTenant.refl tenantId db with users := ?_ }
    have unselected := reached reaches
    refine filter_update_unselected coherent.userIds member (decide_eq_false unselected)
      (decide_eq_false ?_)
    have written : Written platform db tokenData currentUser _ (some user) _ :=
      userChange_written permitted reaches changed
    obtain ⟨never, _⟩ | ⟨other, same, _, sameTenant⟩ := written.key
    · exact absurd never (Option.some_ne_none user)
    · obtain rfl : user = other := Option.some.inj same
      rw [sameTenant]
      exact unselected
  | policyWritten _ allowed written =>
    exact Effect.sameTenant_of_policy allowed ordinary foreign written

/-- What runs of other tenants' callers keep. -/
structure Isolated (tenantId : Guid) (start db : AdminDb) : Prop where
  coherent : Coherent db
  platformTokens : PlatformTokens db
  same : SameTenant tenantId start db

theorem Isolated.step (isolated : Isolated tenantId start db) (foreign : Foreign tenantId request)
    (committed : adminStep platform db request = .ok next) : Isolated tenantId start next := by
  refine ⟨coherent_step isolated.coherent committed,
    isolated.platformTokens.step isolated.coherent committed, ?_⟩
  refine isolated.same.trans ?_
  cases adminStep_stepped committed with
  | loggedIn => exact ⟨rfl, rfl, rfl, rfl, rfl, rfl, rfl, rfl, rfl⟩
  | called caller effect =>
    exact effect.sameTenant isolated.coherent isolated.platformTokens caller foreign.1 foreign.2

/-- Callers of other tenants, in any number and order of requests, leave a tenant as it was: its
row, its stores, its users, its policies and overrides, and everything of the platform. -/
theorem tenants_isolated (coherent : Coherent start) (platformTokens : PlatformTokens start)
    (run : Run (adminStep platform) start history last)
    (foreign : ∀ entry ∈ history, Foreign tenantId entry.2) :
    SameTenant tenantId start last := by
  have here : Isolated tenantId start start := ⟨coherent, platformTokens, .refl tenantId start⟩
  have reached : Reachable (adminStep platform) (fun _ request => Foreign tenantId request) start
    last := run.reachable foreign
  have there : Isolated tenantId start last :=
    reached.invariant here fun _ _ _ before permitted committed =>
    before.step permitted committed
  exact there.same

/-- The hiring in one tenant leaves the other tenant as it was. -/
theorem tenants_isolated_hired : SameTenant Sample.rival Sample.staffed Sample.hired.2 := by
  refine tenants_isolated Sample.staffed_coherent (List.forall_mem_nil _)
    (run_of_recordRun (Option.some_get Sample.hiring_commits).symm) ?_
  have requests := requests_of_recordRun (Option.some_get Sample.hiring_commits).symm
  have allForeign : ∀ request ∈ Sample.hiring, Foreign Sample.rival request := by
    simp only [Sample.hiring, List.forall_mem_cons]
    exact ⟨trivial, ⟨by decide +kernel, by decide +kernel⟩, List.forall_mem_nil _⟩
  intro entry member
  have listed : entry.2 ∈ Sample.hired.1.map (·.2) := List.mem_map_of_mem member
  rw [Sample.hired, requests] at listed
  exact allForeign entry.2 listed

end ArisCloud.Administration
