import ArisCloud.Model.Database

/-! # Callers and what they may touch

A request carries the caller's token, the decision of the permission service on each permission key
and the clock it reads. The checks below are shared by the routers.
-/

namespace ArisCloud

/-- Nonempty text; absent and empty text both count as missing. -/
def isTruthy (text : Option String) : Bool := text.any (· ≠ "")

/-- The first text when it is nonempty, otherwise the second. -/
def orElse (text other : Option String) : Option String := if isTruthy text then text else other

/-- The characters that stripping removes. -/
def isSpace (c : Char) : Bool :=
  let code := c.toNat
  (9 ≤ code && code ≤ 13) || (28 ≤ code && code ≤ 32) || code = 133 || code = 160 || code = 5760 ||
    (8192 ≤ code && code ≤ 8202) || code = 8232 || code = 8233 || code = 8239 || code = 8287 ||
    code = 12288

/-- Text without leading and trailing white space. -/
def strip (text : String) : String :=
  String.ofList ((text.toList.dropWhile isSpace).reverse.dropWhile isSpace).reverse

structure TokenData where
  tenantId : Option ℕ
  storeId : Option ℕ
  role : Option String
deriving DecidableEq, Repr

/-- The caller of a request, what the permission service answers for it, the current time in
seconds, and the random names the request draws. -/
structure RequestContext where
  tokenData : TokenData
  permits : String → Bool
  now : ℕ
  userId : ℕ := 0
  userRole : Option String := none
  uuid : ℕ → String := fun drawn => toString drawn

def normalizedRole (tokenData : TokenData) : String := (tokenData.role.getD "").toUpper

def isSuperadmin (tokenData : TokenData) : Bool :=
  normalizedRole tokenData ∈ ["SUPERADMIN", "PLATFORM_ADMIN"]

/-- The roles that are not bound to the store of their token. -/
def hasBroadStoreRole (tokenData : TokenData) : Bool :=
  normalizedRole tokenData ∈ ["SUPERADMIN", "ADMIN"]

def requirePermission (context : RequestContext) (permissionKey : String) : Except AppError Unit :=
  Checked.ensure (context.permits permissionKey) ⟨.permissionDenied, ""⟩

/-- At least one of the permission keys is granted. -/
def requireAnyPermission (context : RequestContext) (keys : List String) : Except AppError Unit :=
  Checked.ensure (keys.any context.permits) ⟨.permissionDenied, ""⟩

/-- Every mutation names its transaction. -/
def requireTransactionId (transactionId : Option String) : Except AppError Unit :=
  Checked.ensure (isTruthy transactionId) (.validation "transaction_id is required")

/-- The tenant of the token, which a deprecated field of the payload may repeat. -/
def resolveTenantId (tokenData : TokenData) (tenantId : Option ℕ) : Except AppError ℕ := do
  let scopedTenantId ← Checked.fetch tokenData.tenantId ⟨.tenantScopeRequired, ""⟩
  Checked.ensure (tenantId.all (· = scopedTenantId)) ⟨.crossTenantAccessDenied, ""⟩
  return scopedTenantId

theorem resolveTenantId_eq_ok {tokenData : TokenData} {tenantId : Option ℕ} {scopedTenantId : ℕ} :
    resolveTenantId tokenData tenantId = .ok scopedTenantId ↔
      tokenData.tenantId = some scopedTenantId ∧ tenantId.all (· = scopedTenantId) = true := by
  simp only [resolveTenantId, Checked.bind_eq_ok, Checked.fetch_eq_ok, Checked.ensure_eq_ok,
    exists_const, Checked.pure_eq_ok]
  constructor
  · rintro ⟨found, token, agrees, rfl⟩
    exact ⟨token, agrees⟩
  · rintro ⟨token, agrees⟩
    exact ⟨scopedTenantId, token, agrees, rfl⟩

/-- The tenant of a point-of-sale request: platform administrators name it, others have it in their
token. -/
def resolvePosTenantId (tokenData : TokenData) (tenantId : Option ℕ) : Except AppError ℕ :=
  if isSuperadmin tokenData then Checked.fetch tenantId ⟨.tenantScopeRequired, ""⟩
  else resolveTenantId tokenData tenantId

/-- The store of a point-of-sale request, with the error of the router for a caller who has none. -/
def resolveStoreId (tokenData : TokenData) (requestedStoreId : Option ℕ) (missing : AppError) :
    Except AppError ℕ :=
  match tokenData.storeId with
  | some lockedStore =>
    if hasBroadStoreRole tokenData then return requestedStoreId.getD lockedStore
    else do
      Checked.ensure (requestedStoreId.all (· = lockedStore)) ⟨.storeScopeMismatch, ""⟩
      return lockedStore
  | none => Checked.fetch requestedStoreId missing

/-- The error of the sale and return routes for a caller without a store. -/
def missingSaleStore (tokenData : TokenData) : AppError :=
  if hasBroadStoreRole tokenData then .validation "store_id is required for broad-store users"
    else ⟨.storeScopeRequired, ""⟩

def resolveSaleStoreId (tokenData : TokenData) (requestedStoreId : Option ℕ) : Except AppError ℕ :=
  resolveStoreId tokenData requestedStoreId (missingSaleStore tokenData)

/-- The store resolution of the cash and advance routes. -/
def resolveCashStoreId (tokenData : TokenData) (requestedStoreId : Option ℕ) : Except AppError ℕ :=
  resolveStoreId tokenData requestedStoreId ⟨.storeScopeRequired, ""⟩

def enforceTenantScope (tokenData : TokenData) (tenantId : ℕ) (allowSuperadmin : Bool) :
    Except AppError Unit := do
  let tokenTenantId ← Checked.fetch tokenData.tenantId ⟨.tenantScopeRequired, ""⟩
  Checked.ensure (tokenTenantId = tenantId ∨ (allowSuperadmin ∧ isSuperadmin tokenData))
    ⟨.crossTenantAccessDenied, ""⟩

def enforceStoreScope (db : Db) (tokenData : TokenData) (storeId : ℕ) (allowSuperadmin : Bool) :
    Except AppError Unit := do
  let tokenTenantId ← Checked.fetch tokenData.tenantId ⟨.tenantScopeRequired, ""⟩
  let store ← Checked.fetch (db.stores.find? (·.id = storeId)) ⟨.storeScopeMismatch, ""⟩
  if store.tenantId ≠ tokenTenantId then
    Checked.ensure (allowSuperadmin ∧ isSuperadmin tokenData) ⟨.storeScopeMismatch, ""⟩
  else
    Checked.ensure (hasBroadStoreRole tokenData ∨ tokenData.storeId.all (· = storeId))
      ⟨.storeScopeMismatch, ""⟩

end ArisCloud
