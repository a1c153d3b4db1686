import ArisCloud.Library.FirstMatch
import ArisCloud.Model.AdvanceTransactions

/-! # Lookups of advances and other tenants

A lookup takes the first advance of the table that has the code or the number, of whichever tenant
and store, and checks afterwards whom it belongs to. So what it answers depends on the advances that
come first.
-/

namespace ArisCloud

open Checked (fetch)
open FirstMatch KeyedRows

/-! ## What a lookup should answer -/

section Lookup

variable (context : RequestContext) (code : String) (parsedNumber : Option ℕ)

/-- The advance has the code, or the number that it spells. -/
def lookupMatches (advance : PosAdvance) : Bool :=
  advance.barcodeValue = code || parsedNumber = some advance.advanceNumber

/-- The advance belongs to the tenant of the caller. -/
def ofCallerTenant (advance : PosAdvance) : Bool :=
  context.tokenData.tenantId = some advance.tenantId

/-- A store of the caller's tenant. -/
def callerStore (db : Db) (storeId : ℕ) : Option Store :=
  (db.stores.find? (·.id = storeId)).filter fun store => context.tokenData.tenantId =
    some store.tenantId

/-- An advance of the caller's own store that the lookup names. -/
structure OwnAdvance (db : Db) (advance : PosAdvance) : Prop where
  member : advance ∈ db.advances
  named : lookupMatches code parsedNumber advance = true
  ofTenant : ofCallerTenant context advance = true
  ofStore : context.tokenData.storeId = some advance.storeId
  store : ∃ store, db.stores.find? (·.id = advance.storeId) = some store ∧
    context.tokenData.tenantId = some store.tenantId

/-- A lookup leaves the advances of other tenants alone, and finds those of the caller's own
store. -/
structure LookupSound (db : Db) : Prop where
  foreignKept : ∀ answer after, lookupResponse db context code parsedNumber = .ok (answer, after) →
    (after.advances.filter fun advance => !ofCallerTenant context advance) =
      db.advances.filter fun advance => !ofCallerTenant context advance
  ownFound : ∀ advance, OwnAdvance context code parsedNumber db advance →
    ∃ after, lookupResponse db context code parsedNumber = .ok
    (some (expireAdvanceIfNeeded context.now advance), after)

/-- What the caller is told, an advance, nothing, or an error. -/
def lookupAnswer (db : Db) : Except AppError (Option PosAdvance) :=
  (lookupResponse db context code parsedNumber).map (·.1)

/-- The lookup answers alike on both databases, and is right on each. -/
structure LookupIsolated (db other : Db) : Prop where
  sameAnswer : lookupAnswer context code parsedNumber db =
    lookupAnswer context code parsedNumber other
  sound : LookupSound context code parsedNumber db
  soundOther : LookupSound context code parsedNumber other

end Lookup

/-! ## The advance that comes first -/

section First

variable {db other : Db} {context : RequestContext} {code : String} {parsedNumber : Option ℕ}
    {advance : PosAdvance}

/-- The error of a caller whose tenant the advance does not belong to. -/
def foreignError (context : RequestContext) : AppError :=
  if context.tokenData.tenantId = none then ⟨.tenantScopeRequired, ""⟩
    else ⟨.crossTenantAccessDenied, ""⟩

private theorem enforceTenantScope_own (own : ofCallerTenant context advance = true) :
    enforceTenantScope context.tokenData advance.tenantId false = .ok () := by
  have tenant : context.tokenData.tenantId = some advance.tenantId := of_decide_eq_true own
  simp [enforceTenantScope, tenant]

private theorem enforceTenantScope_foreign (foreign : ofCallerTenant context advance = false) :
    enforceTenantScope context.tokenData advance.tenantId false = .error
    (foreignError context) := by
  have tenant : context.tokenData.tenantId ≠ some advance.tenantId := of_decide_eq_false foreign
  rw [enforceTenantScope, foreignError]
  cases caller : context.tokenData.tenantId with
  | none => rfl
  | some tenantId =>
    have different : tenantId ≠ advance.tenantId := fun same =>
      tenant (caller.trans (congrArg some same))
    simp [fetch, bind, Except.bind, Checked.ensure, different]

private theorem lookupResponse_none
    (first : db.advances.find? (lookupMatches code parsedNumber) = none) :
    lookupResponse db context code parsedNumber = .ok (none, db) := by
  unfold lookupMatches at first
  simp only [lookupResponse, first]
  rfl

/-- The tables after the lookup of the advance that comes first. -/
def afterLookup (db : Db) (context : RequestContext) (advance : PosAdvance) : Db :=
  let rows := [advance].filter (·.isDue context.now)
  { db with
    advances := update (·.id) (rows.map (·.id)) Settlement.expired.settle db.advances
    advanceEvents := db.advanceEvents ++
      AdvanceWrite.events { rows, settlement := .expired, validated := some advance,
                            now := context.now } }

/-- A lookup fails with the scope checks of the advance that comes first, or answers that
advance. -/
theorem lookupResponse_some
    (first : db.advances.find? (lookupMatches code parsedNumber) = some advance) :
    lookupResponse db context code parsedNumber = (checkRead db context advance).map fun _ =>
      (some (expireAdvanceIfNeeded context.now advance), afterLookup db context advance) := by
  unfold lookupMatches at first
  have looked : lookupAdvance db context code parsedNumber =
      (checkRead db context advance).map fun _ => afterLookup db context advance := by
    simp only [lookupAdvance, first]
    change (checkRead db context advance >>= fun _ => _) = _
    cases checkRead db context advance <;> rfl
  simp only [lookupResponse, first]
  change (lookupAdvance db context code parsedNumber >>= fun after => _) = _
  rw [looked]
  cases checkRead db context advance <;> rfl

/-- A store that is missing and one of another tenant are refused alike. -/
theorem enforceStoreScope_eq (db : Db) (context : RequestContext) (storeId : ℕ) :
    enforceStoreScope db context.tokenData storeId false =
      match context.tokenData.tenantId, callerStore context db storeId with
      | none, _ => .error ⟨.tenantScopeRequired, ""⟩
      | some _, none => .error ⟨.storeScopeMismatch, ""⟩
      | some _, some _ => Checked.ensure (hasBroadStoreRole context.tokenData ∨
          context.tokenData.storeId.all (· = storeId)) ⟨.storeScopeMismatch, ""⟩ := by
  rw [enforceStoreScope, callerStore]
  cases caller : context.tokenData.tenantId with
  | none => rfl
  | some tenantId =>
    cases db.stores.find? (·.id = storeId) with
    | none => rfl
    | some store =>
      by_cases own : store.tenantId = tenantId
      · simp [fetch, bind, Except.bind, Option.filter, own]
      · simp [fetch, bind, Except.bind, Option.filter, own, Ne.symm own, Checked.ensure]

private theorem checkRead_congr (same : callerStore context db = callerStore context other) :
    checkRead db context advance = checkRead other context advance := by
  rw [checkRead, checkRead, enforceStoreScope_eq, enforceStoreScope_eq, same]

private theorem checkRead_foreign (foreign : ofCallerTenant context advance = false) :
    checkRead db context advance = .error (foreignError context) := by
  rw [checkRead, enforceTenantScope_foreign foreign]
  rfl

private theorem checkRead_own (own : ofCallerTenant context advance = true) :
    checkRead db context advance = enforceStoreScope db context.tokenData advance.storeId
    false := by
  rw [checkRead, enforceTenantScope_own own]
  rfl

/-- The caller may read the advances of his own store. -/
theorem OwnAdvance.checkRead (own : OwnAdvance context code parsedNumber db advance) :
    checkRead db context advance = .ok () := by
  have tenant : context.tokenData.tenantId = some advance.tenantId := of_decide_eq_true own.ofTenant
  obtain ⟨store, found, located⟩ := own.store
  have same : store.tenantId = advance.tenantId := Option.some.inj (located.symm.trans tenant)
  rw [checkRead_own own.ofTenant]
  simp [enforceStoreScope, tenant, found, same, own.ofStore]

/-- The error on a foreign advance is not one that an advance of the caller's tenant leads to. -/
theorem checkRead_own_ne_foreign (own : ofCallerTenant context advance = true) :
    checkRead db context advance ≠ .error (foreignError context) := by
  have tenant : context.tokenData.tenantId = some advance.tenantId := of_decide_eq_true own
  have missing : foreignError context = ⟨.crossTenantAccessDenied, ""⟩ := if_neg (by simp [tenant])
  rw [checkRead_own own, missing, enforceStoreScope, tenant]
  cases db.stores.find? (·.id = advance.storeId) with
  | none => rintro ⟨⟩
  | some store =>
    simp only [fetch, bind, Except.bind]
    split <;> (unfold Checked.ensure; split <;> rintro ⟨⟩)

end First

/-! ## Isolation -/

section Isolation

variable {db other : Db} {context : RequestContext} {code : String} {parsedNumber : Option ℕ}

/-- An advance of another tenant comes first. -/
abbrev ForeignFirst (context : RequestContext) (code : String) (parsedNumber : Option ℕ) (db : Db) :
    Prop :=
  HiddenFirst (ofCallerTenant context) (lookupMatches code parsedNumber) db.advances

private theorem lookupAnswer_of_foreign (foreign : ForeignFirst context code parsedNumber db) :
    lookupAnswer context code parsedNumber db = .error (foreignError context) := by
  obtain ⟨advance, first, hidden⟩ := foreign
  rw [lookupAnswer, lookupResponse_some first, checkRead_foreign hidden]
  rfl

private theorem lookupAnswer_ne_of_not_foreign
    (seen : ¬ ForeignFirst context code parsedNumber db) :
    lookupAnswer context code parsedNumber db ≠ .error (foreignError context) := by
  cases first : db.advances.find? (lookupMatches code parsedNumber) with
  | none =>
    rw [lookupAnswer, lookupResponse_none first]
    exact fun same => nomatch same
  | some advance =>
    have own : ofCallerTenant context advance = true := by
      by_contra hidden
      exact seen ⟨advance, first, Bool.eq_false_iff.mpr hidden⟩
    rw [lookupAnswer, lookupResponse_some first]
    intro same
    have different : checkRead db context advance ≠ .error (foreignError context) :=
      checkRead_own_ne_foreign own
    apply different
    cases checked : checkRead db context advance with
    | ok => rw [checked] at same; exact nomatch same
    | error failure =>
      rw [checked] at same
      exact congrArg Except.error (Except.error.inj same)

/-- Where no advance of another tenant comes first, the answer is the same on both databases. -/
theorem lookupAnswer_congr (stores : callerStore context db = callerStore context other)
    (agree : Agree (ofCallerTenant context) db.advances other.advances)
    (seen : ¬ ForeignFirst context code parsedNumber db)
    (seenOther : ¬ ForeignFirst context code parsedNumber other) :
    lookupAnswer context code parsedNumber db = lookupAnswer context code parsedNumber other := by
  have same := find?_eq_of_agree agree seen seenOther
  cases first : other.advances.find? (lookupMatches code parsedNumber) with
  | none => rw [lookupAnswer, lookupAnswer, lookupResponse_none first,
    lookupResponse_none (same.trans first)]; rfl
  | some advance =>
    rw [lookupAnswer, lookupAnswer, lookupResponse_some first,
      lookupResponse_some (same.trans first), checkRead_congr stores]
    cases checkRead other context advance <;> rfl

/-- A lookup is right on a database exactly when the advances of the caller's own store come
first. -/
theorem lookupSound_iff (distinct : (db.advances.map (·.id)).Nodup) :
    LookupSound context code parsedNumber db ↔
    ∀ advance, OwnAdvance context code parsedNumber db advance →
      db.advances.find? (lookupMatches code parsedNumber) = some advance := by
  constructor
  · intro sound advance own
    obtain ⟨after, answered⟩ := sound.ownFound advance own
    cases first : db.advances.find? (lookupMatches code parsedNumber) with
    | none =>
      rw [lookupResponse_none first] at answered
      cases answered
    | some found =>
      rw [lookupResponse_some first] at answered
      cases checked : checkRead db context found with
      | error => rw [checked] at answered; cases answered
      | ok =>
        rw [checked] at answered
        have same : expireAdvanceIfNeeded context.now found =
            expireAdvanceIfNeeded context.now advance :=
          Option.some.inj (congrArg Prod.fst (Except.ok.inj answered))
        have ids : ∀ row : PosAdvance, (expireAdvanceIfNeeded context.now row).id = row.id := by
          intro row
          unfold expireAdvanceIfNeeded
          split <;> rfl
        refine congrArg some
          (List.inj_on_of_nodup_map distinct (List.mem_of_find?_eq_some first) own.member ?_)
        rw [← ids found, same, ids]
  · intro first
    refine ⟨fun answer after answered => ?_, fun advance own => ?_⟩
    · cases found : db.advances.find? (lookupMatches code parsedNumber) with
      | none =>
        rw [lookupResponse_none found] at answered
        cases answered
        rfl
      | some advance =>
        rw [lookupResponse_some found] at answered
        by_cases own : ofCallerTenant context advance = true
        · cases checked : checkRead db context advance with
          | error => rw [checked] at answered; cases answered
          | ok =>
            rw [checked] at answered
            obtain rfl := congrArg Prod.snd (Except.ok.inj answered)
            refine filter_update_of_outside fun row member listed => ?_
            obtain ⟨due, isDue, same⟩ := List.mem_map.mp listed
            obtain rfl := List.mem_singleton.mp (List.mem_filter.mp isDue).1
            obtain rfl := List.inj_on_of_nodup_map distinct
              (List.mem_of_find?_eq_some found) member same
            exact ⟨by rw [own]; rfl, by rw [show ofCallerTenant context
                (Settlement.expired.settle due) =
              ofCallerTenant context due from rfl, own]; rfl⟩
        · rw [checkRead_foreign (Bool.eq_false_iff.mpr own)] at answered
          cases answered
    · rw [lookupResponse_some (first advance own), own.checkRead]
      exact ⟨_, rfl⟩

/-- Lookups on two databases with the same stores and advances of the caller's tenant are isolated
from other tenants exactly when an advance of another tenant comes first in both or in neither, and
the named ones of the caller's store come first. -/
theorem lookup_isolated_iff (db other : Db) (context : RequestContext) (code : String)
    (parsedNumber : Option ℕ) (distinct : (db.advances.map (·.id)).Nodup)
    (distinctOther : (other.advances.map (·.id)).Nodup)
    (stores : callerStore context db = callerStore context other)
    (agree : Agree (ofCallerTenant context) db.advances other.advances) :
    LookupIsolated context code parsedNumber db other ↔
      (ForeignFirst context code parsedNumber db ↔ ForeignFirst context code parsedNumber other) ∧
      (∀ advance, OwnAdvance context code parsedNumber db advance →
        db.advances.find? (lookupMatches code parsedNumber) = some advance) ∧
      ∀ advance, OwnAdvance context code parsedNumber other advance →
        other.advances.find? (lookupMatches code parsedNumber) = some advance := by
  constructor
  · intro isolated
    refine ⟨?_, (lookupSound_iff distinct).mp isolated.sound,
      (lookupSound_iff distinctOther).mp isolated.soundOther⟩
    constructor
    · intro foreign
      by_contra seen
      exact lookupAnswer_ne_of_not_foreign seen
        (isolated.sameAnswer ▸ lookupAnswer_of_foreign foreign)
    · intro foreign
      by_contra seen
      exact lookupAnswer_ne_of_not_foreign seen
        (isolated.sameAnswer ▸ lookupAnswer_of_foreign foreign)
  · rintro ⟨alike, first, firstOther⟩
    refine ⟨?_, (lookupSound_iff distinct).mpr first,
      (lookupSound_iff distinctOther).mpr firstOther⟩
    by_cases foreign : ForeignFirst context code parsedNumber db
    · rw [lookupAnswer_of_foreign foreign, lookupAnswer_of_foreign (alike.mp foreign)]
    · exact lookupAnswer_congr stores agree foreign fun hidden => foreign (alike.mpr hidden)

end Isolation

namespace Sample

/-- The first advance of a store. -/
def firstAdvance (id tenantId storeId : ℕ) : PosAdvance :=
  { id, tenantId, storeId, advanceNumber := 1, barcodeValue := s!"ADV-{storeId}-1",
    issuedAmount := 20, issuedPaymentMethod := .card, expiresAt := 1000 }

/-- The stores of two tenants with the given advances. -/
def withAdvances (advances : List PosAdvance) : Db := { stores := [⟨10, 1⟩, ⟨20, 2⟩], advances }

/-- The first advance of the caller's store, alone and before one of the other tenant. -/
def ownOnly : Db := withAdvances [firstAdvance 1 1 10]

def ownFirst : Db := withAdvances [firstAdvance 1 1 10, firstAdvance 2 2 20]

/-- That advance behind the one of the other tenant. -/
def ownLast : Db := withAdvances [firstAdvance 2 2 20, firstAdvance 1 1 10]

/-- A user of the first store. -/
def storeClerk : RequestContext :=
  { tokenData := { tenantId := some 1, storeId := some 10, role := some "USER" },
    permits := fun _ => true, now := 100 }

end Sample

/-- The number 1 of the caller's store is found before that of another tenant. -/
theorem lookup_isolated_before_other_tenant : LookupIsolated Sample.storeClerk "1" (some 1)
    Sample.ownOnly Sample.ownFirst := by
  refine (lookup_isolated_iff Sample.ownOnly Sample.ownFirst Sample.storeClerk "1" (some 1)
    (by decide +kernel) (by decide +kernel) rfl (by decide +kernel)).mpr ⟨by decide +kernel, ?_, ?_⟩
  · intro advance own
    rw [List.mem_singleton.mp own.member]
    decide +kernel
  · intro advance own
    rcases List.mem_cons.mp own.member with rfl | later
    · decide +kernel
    · exact absurd (List.mem_singleton.mp later ▸ own.ofTenant) (by decide +kernel)

/-- Found after that of another tenant, the advance is withheld from its own store. -/
theorem lookup_answers_other_tenant : ¬ ∀ (db other : Db) (context : RequestContext) (code : String)
    (parsedNumber : Option ℕ), (db.advances.map (·.id)).Nodup → (other.advances.map (·.id)).Nodup →
    db.stores = other.stores → Agree (ofCallerTenant context) db.advances other.advances →
    LookupIsolated context code parsedNumber db other := by
  intro isolated
  have alike := (isolated Sample.ownOnly Sample.ownLast Sample.storeClerk "1" (some 1)
    (by decide +kernel) (by decide +kernel) rfl (by decide +kernel)).sameAnswer
  have different : lookupAnswer Sample.storeClerk "1" (some 1) Sample.ownOnly ≠
      lookupAnswer Sample.storeClerk "1" (some 1) Sample.ownLast := by decide +kernel
  exact different alike

end ArisCloud
