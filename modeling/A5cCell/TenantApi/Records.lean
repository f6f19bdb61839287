import A5cCell.TenantApi.Requests

/-!
# Tenant records

`db_factory` and `db_utils`: the client scoped to a tenant, which only that tenant and the platform
are given, and the tenant's `METADATA` row. `tenant_records`: creating, reading, updating and
deleting it; `secrets_manager`: the API key that goes with it. The application id a client is built
with is only logged, and left out.
-/

namespace A5cCell.TenantApi

open Py (Val Items Dict)
open DataAccess

/-! ## Clients and keys -/

def tenantsTableName (py : Python) : String := (py.environ "TENANTS_TABLE_NAME").getD "platform-tenants"
def agentsTableName (py : Python) : String := (py.environ "AGENTS_TABLE_NAME").getD "platform-agents"

def invocationsTableName (py : Python) : String :=
  (py.environ "INVOCATIONS_TABLE_NAME").getD "platform-invocations"

/-- `_require_tenant_scope_allowed`. -/
def requireTenantScopeAllowed (tenantId : String) (caller : CallerIdentity) : Except Exc Unit :=
  if caller.isPlatformActor then .ok ()
  else if caller.tenantId = some tenantId then .ok ()
  else .error (.permissionError "Tenant-scoped client target mismatch")

/-- Who may manage a tenant is given a client for it. -/
theorem scopeAllowed_of_canManage {caller : CallerIdentity} {tenantId : String}
    (h : canManageTenantSelfService caller tenantId = true) :
    requireTenantScopeAllowed tenantId caller = .ok () := by
  unfold canManageTenantSelfService at h
  unfold requireTenantScopeAllowed
  split at h
  · cases h
  · split at h
    · rename_i htenant
      rw [if_pos htenant]
      split <;> rfl
    · rw [if_pos (Bool.and_eq_true_iff.mp h).1]

/-- `db_for_tenant`. -/
def dbForTenant (tenantId : String) (caller : CallerIdentity) : Api Client := do
  Api.ofExcept (requireTenantScopeAllowed tenantId caller)
  pure (.tenantScoped tenantId)

def tenantPk (tenantId : String) : String := tenantPkPrefix ++ tenantId

/-- `tenant_key`. -/
def tenantKey (tenantId : String) : Items :=
  [("PK", .str (tenantPk tenantId)), ("SK", .str "METADATA")]

/-- `read_tenant_record`. -/
def readTenantRecord (py : Python) (tenantId : String) (caller : CallerIdentity) :
    Api (Option Items) := do
  let db ← dbForTenant tenantId caller
  Api.dynamodb (db.getItem (tenantsTableName py) (tenantKey tenantId))

/-- `build_update_expression`: the expression, the names and the values. -/
def buildUpdateExpression (attributes : Items) : String × Items × Items :=
  let numbered := attributes.zipIdx 1
  ("SET " ++ ", ".intercalate (numbered.map fun (_, idx) => s!"#n{idx} = :v{idx}"),
    numbered.map fun ((field, _), idx) => (s!"#n{idx}", .str field),
    numbered.map fun ((_, value), idx) => (s!":v{idx}", value))

/-- `update_item` with the expression that sets the attributes. -/
def setAttributes (db : Client) (table : String) (key attributes : Items) : Api Unit := do
  let (expression, names, values) := buildUpdateExpression attributes
  let _ ← Api.dynamodb (db.updateItem table key expression values (some names))

/-- An optional text as a value. -/
def optionVal : Option String → Val
  | some text => .str text
  | none => .none

/-- `int(dt.timestamp())`. -/
def epochSeconds (time : Instant) : Int := time / 1000000

/-- `timedelta(days=n)`. -/
def days (n : Int) : Int := n * 86400 * 1000000

/-! ## Serialisation -/

def serializedOptionalFields : List String :=
  ["executionRoleArn", "memoryStoreArn", "runtimeRegion", "provisioningStatus",
    "provisioningUpdatedAt", "provisioningError", "apiKeySecretArn", "monthlyBudgetUsd",
    "deletedAt", "purgeAtEpochSeconds"]

/-- `serialize_tenant`. -/
def serializeTenant (item : Items) : Items :=
  let text (field : String) : String × Val := (field, .str (item.get field (.str "")).toStr)
  let kept (field : String) : String × Val := (field, item.get field)
  [text "tenantId", text "appId", text "displayName", text "tier", text "status",
    kept "createdAt", kept "updatedAt", kept "ownerEmail", kept "ownerTeam", kept "accountId"] ++
    (serializedOptionalFields.filter fun field => !(item.get field).isNone).map kept

/-! ## Normalisation -/

/-- `normalize_tier`. -/
def normalizeTier (value : Val) : Except Exc String :=
  match value.strOrNone with
  | none => .error (.valueError "tier is required")
  | some text => match TenantTier.ofValue? (Py.lower text) with
    | some tier => .ok tier.value
    | none => .error (.valueError "tier must be one of: basic, standard, premium")

def tenantStatuses : List String := ["active", "suspended", "deleted"]

/-- `normalize_status`. -/
def normalizeStatus (value : Val) : Except Exc String :=
  match value.strOrNone with
  | none => .error (.valueError "status is required")
  | some text =>
      if tenantStatuses.contains (Py.lower text) then .ok (Py.lower text)
      else .error (.valueError ("status must be one of: " ++ ", ".intercalate tenantStatuses))

/-! ## The API key secret -/

/-- `response[key]`. -/
def getItemOf (value : Val) (key : String) : Except Exc Val :=
  match value with
  | .dict kvs => match kvs.lookup key with
    | some v => .ok v
    | none => .error (.keyError key)
  | _ => .error (.typeError "object is not subscriptable")

def secretPrefix (py : Python) : String :=
  (py.environ "TENANT_API_KEY_SECRET_PREFIX").getD "platform/tenants"

/-- `attach_tenant_api_key_secret_policy`. -/
def attachTenantApiKeySecretPolicy (py : Python) (secretArn : String) : Api Unit := do
  let tenantMgmtRoleArn := Py.strip ((py.environ "TENANT_MGMT_ROLE_ARN").getD "")
  if tenantMgmtRoleArn = "" then pure ()
  else
    let _ ← Api.service "secretsmanager" "put_resource_policy" [
      ("SecretId", .str secretArn),
      ("ResourcePolicy", .dict [
        ("Version", .str "2012-10-17"),
        ("Statement", .list [.dict [
          ("Sid", .str "DenyTenantMgmtReadback"),
          ("Effect", .str "Deny"),
          ("Principal", .dict [("AWS", .str tenantMgmtRoleArn)]),
          ("Action", .str "secretsmanager:GetSecretValue"),
          ("Resource", .str secretArn)]])]),
      ("BlockPublicPolicy", .bool true)]

/-- The secret of a tenant's API key. -/
def apiKeySecret (tenantId appId apiKey : String) : Val :=
  .dict [("tenantId", .str tenantId), ("appId", .str appId), ("apiKey", .str apiKey)]

/-- `create_api_key_secret`. -/
def createApiKeySecret (py : Python) (tenantId appId : String) : Api String := do
  let secretName := Py.rstripChar '/' (secretPrefix py) ++ "/" ++ tenantId ++ "/api-key"
  let apiKey ← Api.random "secrets.token_urlsafe(32)"
  let created ← Api.service "secretsmanager" "create_secret" [
    ("Name", .str secretName),
    ("SecretString", apiKeySecret tenantId appId apiKey),
    ("Description", .str ("Tenant API key for " ++ tenantId)),
    ("Tags", .list [
      .dict [("Key", .str "tenantid"), ("Value", .str tenantId)],
      .dict [("Key", .str "appid"), ("Value", .str appId)]])]
  let arn ← Api.ofExcept (getItemOf created "ARN")
  attachTenantApiKeySecretPolicy py arn.toStr
  pure arn.toStr

/-- `rotate_api_key_secret`. -/
def rotateApiKeySecret (secretArn tenantId appId : String) : Api String := do
  let apiKey ← Api.random "secrets.token_urlsafe(32)"
  let put ← Api.service "secretsmanager" "put_secret_value" [
    ("SecretId", .str secretArn), ("SecretString", apiKeySecret tenantId appId apiKey)]
  let versionId ← Api.ofExcept (getAttr put "VersionId" (.str ""))
  pure versionId.toStr

/-! ## The records -/

/-- `TenantCreateInput`. -/
structure TenantCreateInput where
  tenantId : String
  appId : String
  displayName : String
  tier : String
  ownerEmail : String
  ownerTeam : String
  accountId : String
  monthlyBudgetUsd : Val

/-- `_require_non_empty_text`. -/
def requireNonEmptyText (value : Val) (field : String) : Except Exc String :=
  match value.strOrNone with
  | some text => .ok text
  | none => .error (.valueError (field ++ " is required"))

/-- The answer where a tenant has no record. -/
def tenantNotFound (tenantId : String) : Response :=
  error 404 "NOT_FOUND" ("Tenant '" ++ tenantId ++ "' not found")

namespace Records

/-- `tenant_records.handle_create`. -/
def handleCreate (py : Python) (request : TenantCreateInput) (caller : CallerIdentity) :
    Api Response := do
  Api.ofExcept (requireAdmin caller)
  let tenantId ← Api.ofExcept (canonicalTenantId (.str request.tenantId))
  let appId ← Api.ofExcept (requireNonEmptyText (.str request.appId) "appId")
  let displayName ← Api.ofExcept (requireNonEmptyText (.str request.displayName) "displayName")
  let ownerEmail ← Api.ofExcept (requireNonEmptyText (.str request.ownerEmail) "ownerEmail")
  let ownerTeam ← Api.ofExcept (requireNonEmptyText (.str request.ownerTeam) "ownerTeam")
  let accountId ← Api.ofExcept (requirePlatformHomeAccountId py (.str request.accountId))
  let now ← Api.now
  let tier ← Api.ofExcept (normalizeTier (.str request.tier))
  let existing ← readTenantRecord py tenantId caller
  if existing.isSome then pure (error 409 "CONFLICT" "Tenant already exists")
  else
    let provisioned ← Api.service "memory_provisioner" "provision"
      [("tenant_id", .str tenantId), ("app_id", .str appId)]
    let memoryInfo := provisioned.or (.dict [])
    let apiKeySecretArn ← createApiKeySecret py tenantId appId
    let attributes : Items := tenantKey tenantId ++ [
      ("tenantId", .str tenantId),
      ("appId", .str appId),
      ("displayName", .str displayName),
      ("tier", .str tier),
      ("status", .str "active"),
      ("createdAt", .str (py.isoUtc now)),
      ("updatedAt", .str (py.isoUtc now)),
      ("provisioningStatus", .str "pending"),
      ("provisioningUpdatedAt", .str (py.isoUtc now)),
      ("ownerEmail", .str ownerEmail),
      ("ownerTeam", .str ownerTeam),
      ("accountId", .str accountId),
      ("apiKeySecretArn", .str apiKeySecretArn)]
    let attributes ← match request.monthlyBudgetUsd with
      | .none => pure attributes
      | value => do
          let budget ← Api.ofExcept (asFloat py value "monthlyBudgetUsd")
          pure (attributes ++ [("monthlyBudgetUsd", budget)])
    let memoryStoreArn ← Api.ofExcept (getAttr memoryInfo "memoryStoreArn")
    let attributes := match memoryStoreArn.strOrNone with
      | some arn => attributes ++ [("memoryStoreArn", .str arn)]
      | none => attributes
    let db ← dbForTenant tenantId caller
    Api.dynamodb (db.putItem (tenantsTableName py) attributes)
    let _ ← putEvent py "tenant.created" [
      ("tenantId", .str tenantId),
      ("appId", .str appId),
      ("tier", .str tier),
      ("accountId", .str accountId),
      ("memoryInfo", memoryInfo)]
    response py 201 (serializeTenant attributes)

/-- `tenant_records.handle_read`. -/
def handleRead (py : Python) (caller : CallerIdentity) (tenantId : String) : Api Response := do
  if !canReadTenant caller tenantId then .raise (.permissionError "Access denied")
  else
    match ← readTenantRecord py tenantId caller with
    | none => pure (tenantNotFound tenantId)
    | some item =>
        let usage ← Api.service "usage_client" "get_tenant_usage"
          [("tenant_id", .str tenantId), ("app_id", optionVal (item.get "appId").strOrNone)]
        let usage : Items := usage.asDict?.getD []
        let usage := match Py.truthyText caller.usageIdentifierKey with
          | some key => usage.set "usageIdentifierKey" (.str key)
          | none => usage
        response py 200 (serializeTenant item ++ [("usage", .dict usage)])

/-- The attributes an update sets, in the order the source does. -/
def updatesOf (py : Python) (body : Items) (now : Instant) : Except Exc Items := do
  let updates : Items := [("updatedAt", .str (py.isoUtc now))]
  let updates := if body.has "displayName" then
    updates ++ [("displayName", .str (Py.strip (body.get "displayName").toStr))] else updates
  let updates ← if body.has "status" then do
      let status ← normalizeStatus (body.get "status")
      pure (updates ++ [("status", .str status)])
    else pure updates
  let updates ← if body.has "tier" then do
      let tier ← normalizeTier (body.get "tier")
      pure (updates ++ [("tier", .str tier)])
    else pure updates
  if body.has "monthlyBudgetUsd" then do
    let budget ← asFloat py (body.get "monthlyBudgetUsd") "monthlyBudgetUsd"
    pure (updates ++ [("monthlyBudgetUsd", budget)])
  else pure updates

/-- `tenant_records.handle_update`, of the fields a `TenantUpdateInput` takes from the body. -/
def handleUpdate (py : Python) (body : Items) (caller : CallerIdentity) (tenantId : String) :
    Api Response := do
  Api.ofExcept (requireAdmin caller)
  match ← readTenantRecord py tenantId caller with
  | none => pure (tenantNotFound tenantId)
  | some item =>
      let now ← Api.now
      let updates ← Api.ofExcept (updatesOf py body now)
      let db ← dbForTenant tenantId caller
      setAttributes db (tenantsTableName py) (tenantKey tenantId) updates
      let updatedItem ← readTenantRecord py tenantId caller
      -- an empty row reads as no row
      let shown := match updatedItem with
        | some row => if row.isEmpty then item else row
        | none => item
      let oldTier := (item.get "tier").strOrNone
      let newTier := (shown.get "tier").strOrNone
      let detail : Items := [("tenantId", .str tenantId), ("actorSub", optionVal caller.sub)]
      let _ ← if oldTier ≠ newTier ∧ newTier ≠ none then
          putEvent py "tenant.tier_changed"
            (detail ++ [("oldTier", optionVal oldTier), ("newTier", optionVal newTier)])
        else putEvent py "tenant.updated" detail
      response py 200 (serializeTenant shown)

/-- `tenant_records.handle_delete`. -/
def handleDelete (py : Python) (caller : CallerIdentity) (tenantId : String) : Api Response := do
  Api.ofExcept (requireAdmin caller)
  if reservedTenantIds.contains tenantId then
    .raise (.permissionError "Reserved tenant IDs cannot be deleted")
  else
    match ← readTenantRecord py tenantId caller with
    | none => pure (tenantNotFound tenantId)
    | some _ =>
        let now ← Api.now
        let purgeAtEpochSeconds : Val := .int (epochSeconds (now + days 30))
        let db ← dbForTenant tenantId caller
        setAttributes db (tenantsTableName py) (tenantKey tenantId) [
          ("status", .str "deleted"),
          ("deletedAt", .str (py.isoUtc now)),
          ("purgeAtEpochSeconds", purgeAtEpochSeconds),
          ("updatedAt", .str (py.isoUtc now))]
        let _ ← putEvent py "tenant.deleted" [
          ("tenantId", .str tenantId),
          ("actorSub", optionVal caller.sub),
          ("retentionDays", .int 30),
          ("purgeAtEpochSeconds", purgeAtEpochSeconds)]
        response py 204 []

end Records

end A5cCell.TenantApi
