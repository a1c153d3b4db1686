import ArisCloud.Proofs.PermissionListing

/-! # Checks and listings of permissions agree

A check of a permission and the listing of the effective ones decide by the same layers, except that
a check grants nothing to a caller without a role while a listing still applies the overrides of the
user.
-/

namespace ArisCloud.AccessControl

open Overlays AccessControlService

variable (service : AccessControlService) (cache : Cache) (context : RequestContext)
    (tokenData : Option TokenData)

/-- A deny resolver or a layer of the caller denies the key. -/
def Denied (key : String) : Prop :=
  key ∈ service.getDeniedPermissions context ∨
    key ∈ (service.tenantLayer cache context tokenData).deny ∨
    key ∈ (service.storeLayer cache context tokenData).deny ∨
    key ∈ (service.userLayer cache context tokenData).deny

/-- A check allows what the listing allows, and neither allows what is denied. -/
structure PermissionsAgree : Prop where
  agree : ∀ key ∈ service.catalog cache, strip key = key →
    ((service.check cache context tokenData key).allowed = true ↔
    ListsAllowed service cache context tokenData key)
  notChecked : ∀ permissionKey, Denied service cache context tokenData (strip permissionKey) →
    (service.check cache context tokenData permissionKey).allowed = false
  notListed : ∀ key, Denied service cache context tokenData key →
    ¬ ListsAllowed service cache context tokenData key

section

variable {service cache context tokenData} {key : String}

private theorem not_allowed_of_denied (isDenied : Denied service cache context tokenData key) :
    ¬ (service.decision cache context tokenData key).allowed = true := by
  rw [decision_allowed, mem_effective]
  rintro ⟨unresolved, _, free⟩
  simp only [denied_cons, denied_nil, Finset.mem_union, Finset.notMem_empty, or_false,
    not_or] at free
  rcases isDenied with resolved | tenant | store | user
  · exact unresolved resolved
  · exact free.1 tenant
  · exact free.2.1 store
  · exact free.2.2 user

private theorem check_allowed : (service.check cache context tokenData key).allowed = true ↔
    strip key ∈ service.catalog cache ∧ (resolveRoleScope context tokenData).1 ≠ none ∧
      (service.decision cache context tokenData (strip key)).allowed = true := by
  rw [check_eq]
  split_ifs with known unnamed
  · simp [unnamed]
  · simp [known, unnamed]
  · simp [known]

/-- Without a role only the overrides of the user are effective. -/
theorem decision_allowed_of_no_role (unnamed : (resolveRoleScope context tokenData).1 = none) :
    (service.decision cache context tokenData key).allowed = true ↔
    key ∉ service.getDeniedPermissions context ∧
      key ∈ (service.userLayer cache context tokenData).allow ∧ key ∉
      (service.userLayer cache context tokenData).deny := by
  have base : service.baseLayer cache context tokenData = ∅ := by
    rw [baseLayer]
    split
    · rfl
    · next named => rw [named] at unnamed; contradiction
  have tenant : service.tenantLayer cache context tokenData = {} := by
    simp only [tenantLayer, unnamed]
    rfl
  have store : service.storeLayer cache context tokenData = {} := by
    simp only [storeLayer, unnamed, getStoreRolePolicy_none]
    rfl
  rw [decision_allowed, mem_effective, base, tenant, store]
  simp

end

/-- Checks and listings agree exactly when the caller has a role, or the user's overrides grant
nothing. -/
theorem permission_checks_agree_iff : PermissionsAgree service cache context tokenData ↔
    (resolveRoleScope context tokenData).1 ≠ none ∨ ∀ key ∈ service.catalog cache, strip key = key →
      key ∈ (service.userLayer cache context tokenData).allow →
        key ∈ service.getDeniedPermissions context ∨ key ∈
        (service.userLayer cache context tokenData).deny := by
  constructor
  · intro agreement
    by_contra ungoverned
    push Not at ungoverned
    obtain ⟨unnamed, key, catalogued, trimmed, granted, unresolved, undenied⟩ := ungoverned
    have listed : ListsAllowed service cache context tokenData key :=
      listsAllowed_iff.mpr ⟨catalogued, (decision_allowed_of_no_role unnamed).mpr
        ⟨unresolved, granted, undenied⟩⟩
    exact (check_allowed.mp ((agreement.agree key catalogued trimmed).mpr listed)).2.1 unnamed
  · intro governed
    refine ⟨fun key catalogued trimmed => ?_, fun permissionKey isDenied => ?_,
      fun key isDenied listed => ?_⟩
    · rw [check_allowed, listsAllowed_iff, trimmed]
      constructor
      · rintro ⟨_, _, allowed⟩
        exact ⟨catalogued, allowed⟩
      · rintro ⟨_, allowed⟩
        refine ⟨catalogued, fun unnamed => ?_, allowed⟩
        obtain ⟨unresolved, granted, undenied⟩ := (decision_allowed_of_no_role unnamed).mp allowed
        rcases governed with named | covered
        · exact named unnamed
        · rcases covered key catalogued trimmed granted with resolved | isDenied
          · exact unresolved resolved
          · exact undenied isDenied
    · rw [Bool.eq_false_iff]
      exact fun allowed => not_allowed_of_denied isDenied (check_allowed.mp allowed).2.2
    · exact not_allowed_of_denied isDenied (listsAllowed_iff.mp listed).2

namespace Sample

/-- A platform with two permissions, without templates. -/
def platform : AccessDb :=
  { permissionCatalog := ⟨[⟨1, "STORE_VIEW"⟩, ⟨2, "STORE_MANAGE"⟩], by decide +kernel, by decide +kernel⟩
    roleTemplates := ⟨[], by decide +kernel, by decide +kernel⟩ }

/-- A user who may view stores by an override. -/
def overridden : AccessControlService :=
  { db := { platform with userPermissionOverrides := [⟨⟨"t1", "u1"⟩, "STORE_VIEW", EFFECT_ALLOW⟩] } }

/-- The user without a role. -/
def unnamed : RequestContext :=
  { userId := some "u1", tenantId := some "t1", storeId := none, role := none }

end Sample

/-- The override of a user without a role is listed, but a check does not grant it. -/
theorem roleless_override_listed_only :
    ¬ ∀ (service : AccessControlService) (cache : Cache) (context : RequestContext)
    (tokenData : Option TokenData), PermissionsAgree service cache context tokenData := by
  intro agree
  have agreement := (agree Sample.overridden {} Sample.unnamed none).agree "STORE_VIEW"
    (by decide +kernel) (by decide +kernel)
  have refused : ¬ (Sample.overridden.check {} Sample.unnamed none "STORE_VIEW").allowed =
    true := by decide +kernel
  have granted : (Sample.overridden.decision {} Sample.unnamed none "STORE_VIEW").allowed =
    true := by decide +kernel
  exact refused (agreement.mpr (listsAllowed_iff.mpr ⟨by decide +kernel, granted⟩))

end ArisCloud.AccessControl
