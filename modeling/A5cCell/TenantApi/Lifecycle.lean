import A5cCell.TenantApi.AuditExports
import A5cCell.TenantApi.Invites
import A5cCell.TenantApi.Webhooks

/-!
# The tenant routes

`tenant_lifecycle`: reading a request into the input of a record operation, the listing of tenants,
rotating an API key, the events of the provisioner, and the routes under `/v1/tenants`.

Listing the tenants is the one route here that a tenant may take and that does not go through the
client scoped to a tenant: it asks for the administrator's role, not for the platform's tenant, and
scans the table.
-/

namespace A5cCell.TenantApi

open Py (Val Items Dict)
open DataAccess

/-! ## Inputs -/

def requiredCreateFields : List String :=
  ["tenantId", "appId", "displayName", "tier", "ownerEmail", "ownerTeam", "accountId"]

/-- `_tenant_create_input_from_event`. -/
def tenantCreateInputFromEvent (py : Python) (event : Items) : Except Exc TenantCreateInput := do
  let body ← requireJsonBody py event
  let missing := requiredCreateFields.filter fun field => (body.get field).strOrNone.isNone
  if !missing.isEmpty then
    throw (.valueError ("Missing required field(s): " ++ ", ".intercalate missing))
  let text (field : String) : String := Py.strip (body.get field).toStr
  pure {
    tenantId := ← canonicalTenantId (body.get "tenantId")
    appId := text "appId"
    displayName := text "displayName"
    tier := text "tier"
    ownerEmail := text "ownerEmail"
    ownerTeam := text "ownerTeam"
    accountId := text "accountId"
    monthlyBudgetUsd := body.get "monthlyBudgetUsd" }

/-- `TenantListInput`. -/
structure TenantListInput where
  statusFilter : Option String
  tierFilter : Option String
  limit : Option Int
  nextToken : Option String

/-- `_tenant_list_input_from_event`. -/
def tenantListInputFromEvent (event : Items) : TenantListInput :=
  let query : Items := (event.get "queryStringParameters").asDict?.getD []
  { statusFilter := (query.get "status").strOrNone
    tierFilter := (query.get "tier").strOrNone
    limit := (query.get "limit").strOrNone.bind Py.toInt?
    nextToken := (query.get "nextToken").strOrNone }

/-! ## Records -/

/-- A record answered with the expected status is put under `tenant`. -/
def wrapTenant (expected : Nat) (answer : Response) : Response :=
  match answer.body with
  | .dict body =>
      if answer.statusCode = expected ∧ Items.has body "tenant" = false then
        { answer with body := .dict [("tenant", .dict body)] }
      else answer
  | _ => answer

/-- `handle_create`. -/
def handleCreate (py : Python) (event : Items) (caller : CallerIdentity) : Api Response := do
  let request ← Api.ofExcept (tenantCreateInputFromEvent py event)
  wrapTenant 201 <$> Records.handleCreate py request caller

/-- `handle_read`. -/
def handleRead (py : Python) (caller : CallerIdentity) (tenantId : String) : Api Response :=
  wrapTenant 200 <$> Records.handleRead py caller tenantId

/-- `handle_update`. -/
def handleUpdate (py : Python) (event : Items) (caller : CallerIdentity) (tenantId : String) :
    Api Response := do
  let body ← Api.ofExcept (requireJsonBody py event)
  wrapTenant 200 <$> Records.handleUpdate py body caller tenantId

/-- `handle_delete`. -/
def handleDelete (py : Python) (caller : CallerIdentity) (tenantId : String) : Api Response := do
  let deleted ← Records.handleDelete py caller tenantId
  if deleted.statusCode = 204 then
    let readResp ← handleRead py caller tenantId
    pure (if readResp.statusCode = 200 then readResp else deleted)
  else pure deleted

/-! ## The listing of tenants -/

def tenantListMaxPageSize : Int := 100
def tenantListDefaultPageSize : Int := 50

/-- The answer to a caller who is no administrator: its own record. -/
def listOwnTenant (py : Python) (caller : CallerIdentity) : Api Response := do
  let items ← match caller.tenantId with
    | some tenantId => do
        let answer ← handleRead py caller tenantId
        if answer.statusCode = 200 then
          let tenant ← Api.ofExcept (getItemOf answer.body "tenant")
          pure [tenant]
        else pure []
    | none => pure []
  response py 200 [("items", .list items), ("nextToken", .none)]

/-- The records of a page of the table that are shown. -/
def listedRecords (request : TenantListInput) (items : List Items) : List Items :=
  let records := (items.filter fun item => textOf item "SK" = some "METADATA").map serializeTenant
  let records := match request.statusFilter with
    | some status => records.filter fun r => textOf r "status" = some status
    | none => records
  match request.tierFilter with
  | some tier => records.filter fun r => textOf r "tier" = some tier
  | none => records

/-- The listing of an administrator, from the page that starts at a key. -/
def listAllTenants (py : Python) (request : TenantListInput) (limit : Int)
    (exclusiveStartKey : Val) : Api Response := do
  let result ← Api.dynamodb
    (controlPlaneScan (tenantsTableName py) none (some limit) exclusiveStartKey)
  response py 200 [
    ("items", .list ((listedRecords request result.items).map .dict)),
    ("nextToken", match nextStartKey result with
      | some key => .str (py.encodePaginationToken key)
      | none => .none)]

/-- The page of the listing a request asks for: its limit and the key it starts at. -/
def listingPage (py : Python) (request : TenantListInput) : Except Response (Int × Val) :=
  let limit := request.limit.getD tenantListDefaultPageSize
  if limit < 1 ∨ tenantListMaxPageSize < limit then
    .error (error 400 "INVALID_LIMIT" ("limit must be between 1 and " ++
      toString tenantListMaxPageSize))
  else match request.nextToken with
    | none => .ok (limit, .none)
    | some token => match py.decodePaginationToken token with
      | none => .error (error 400 "INVALID_TOKEN" "Invalid pagination token")
      | some exclusiveStartKey => .ok (limit, exclusiveStartKey)

/-- `handle_list_tenants`. -/
def handleListTenants (py : Python) (request : TenantListInput) (caller : CallerIdentity) :
    Api Response :=
  if !caller.isAdmin then listOwnTenant py caller
  else match listingPage py request with
    | .error refused => pure refused
    | .ok (limit, exclusiveStartKey) => listAllTenants py request limit exclusiveStartKey

/-! ## The provisioner's events -/

def tenantProvisioningStatuses : List String := ["pending", "provisioning", "ready", "failed"]

/-- The status an event of the provisioner reports. -/
def provisioningStatusOf (event detail : Items) : Except Exc String :=
  let reported := ((detail.get "provisioningStatus").strOrNone).or (detail.get "status").strOrNone
  let implied := match event.get "detail-type" with
    | .str "tenant.provisioning_failed" => some "failed"
    | .str "tenant.provisioned" => some "ready"
    | _ => none
  match reported.or implied with
  | some status =>
      if tenantProvisioningStatuses.contains status then .ok status
      else .error (.valueError ("Invalid provisioning status: " ++ status))
  | none => .error (.valueError "Invalid provisioning status: None")

/-- The attributes an event of the provisioner sets. -/
def provisioningUpdates (detail : Items) (status nowIso : String) : Items :=
  let text (field : String) (value : Val) : Items :=
    if value.truthy then [(field, .str value.toStr)] else []
  [("provisioningStatus", .str status), ("provisioningUpdatedAt", .str nowIso),
    ("updatedAt", .str nowIso)] ++
    (if status = "ready" then
      [("status", .str "active")] ++
        text "executionRoleArn" ((detail.get "executionRoleArn").or (detail.get "ExecutionRoleArn")) ++
        text "memoryStoreArn" ((detail.get "memoryStoreArn").or (detail.get "MemoryStoreArn"))
    else if status = "failed" then
      text "provisioningError" (((detail.get "reason").or (detail.get "provisioningError")).or
        (detail.get "ProvisioningError"))
    else [])

/-- `handle_tenant_provisioning_event`. -/
def handleTenantProvisioningEvent (py : Python) (event : Items) : Api Response := do
  let tenantIdVal ← Api.ofExcept (getAttr (event.get "detail" (.dict [])) "tenantId")
  let detail : Items := (event.get "detail" (.dict [])).asDict?.getD []
  match tenantIdVal.strOrNone with
  | none => .raise (.valueError "tenantId is required")
  | some tenantId =>
      let status ← Api.ofExcept (provisioningStatusOf event detail)
      if (detail.get "accountId").strOrNone.isSome then
        let _ ← Api.ofExcept (requirePlatformHomeAccountId py
          (optionVal (detail.get "accountId").strOrNone))
      let now ← Api.now
      let systemCaller : CallerIdentity :=
        { tenantId := some tenantId
          appId := some ((detail.get "appId").strOrNone.getD "system")
          tier := some "premium"
          sub := some "system"
          roles := []
          usageIdentifierKey := none }
      let db ← dbForTenant tenantId systemCaller
      setAttributes db (tenantsTableName py) (tenantKey tenantId)
        (provisioningUpdates detail status (py.isoUtc now))
      match ← readTenantRecord py tenantId systemCaller with
      | none => .raise (.runtimeError ("Failed to fetch updated tenant " ++ tenantId))
      | some updatedItem =>
          let _ ← putEvent py "tenant.provisioning_updated"
            [("tenantId", .str tenantId), ("status", .str status)]
          response py 200 [("tenant", .dict (serializeTenant updatedItem))]

/-! ## The other routes -/

/-- `handle_health`. -/
def handleHealth (py : Python) : Api Response := do
  let now ← Api.now
  response py 200 [
    ("status", .str "ok"),
    ("version", .str "1.0.0"),
    ("runtimeRegion", .str ((py.environ "AWS_REGION").getD "unknown")),
    ("timestamp", .str (py.isoUtc now))]

/-- `handle_sessions`. -/
def handleSessions (event : Items) : Response :=
  let query : Items := (event.get "queryStringParameters").asDict?.getD []
  match query.get "limit" with
  | .none => error 501 "NOT_IMPLEMENTED" "tenant-backed session tracking is not implemented"
  | rawLimit => match Py.toInt? rawLimit.toStr with
    | some _ => error 501 "NOT_IMPLEMENTED" "tenant-backed session tracking is not implemented"
    | none => error 400 "BAD_REQUEST" "limit must be an integer"

/-- `handle_rotate_api_key`. -/
def handleRotateApiKey (py : Python) (caller : CallerIdentity) (tenantId : String) :
    Api Response := do
  if !canManageTenantSelfService caller tenantId then .raise (.permissionError "Access denied")
  else
    match ← readTenantRecord py tenantId caller with
    | none => pure (tenantNotFound tenantId)
    | some item =>
        let appId := (item.get "appId" (.str "")).toStr
        let secretArn := (item.get "apiKeySecretArn" (.str "")).toStr
        let versionId ← rotateApiKeySecret secretArn tenantId appId
        let now ← Api.now
        let db ← dbForTenant tenantId caller
        setAttributes db (tenantsTableName py) (tenantKey tenantId)
          [("updatedAt", .str (py.isoUtc now))]
        let _ ← putEvent py "tenant.api_key_rotated"
          [("tenantId", .str tenantId), ("actorSub", optionVal caller.sub)]
        response py 200 [("tenantId", .str tenantId), ("versionId", .str versionId)]

namespace Lifecycle

/-- The routes of one tenant. -/
def dispatchTenant (py : Python) (path method : String) (event : Items) (caller : CallerIdentity)
    (tenantId : String) : Api (Option Response) :=
  let route := "/v1/tenants/" ++ tenantId
  if path = route ∧ method = "GET" then some <$> handleRead py caller tenantId
  else if path = route ∧ method = "PATCH" then some <$> handleUpdate py event caller tenantId
  else if path = route ∧ method = "DELETE" then some <$> handleDelete py caller tenantId
  else if path = route ++ "/api-key/rotate" ∧ method = "POST" then
    some <$> handleRotateApiKey py caller tenantId
  else if path = route ++ "/users/invite" ∧ method = "POST" then
    some <$> handleInviteUser py event caller tenantId
  else if path = route ++ "/audit-export" ∧ method = "GET" then
    some <$> handleAuditExport py event caller tenantId
  else if path = route ++ "/users/invites" ∧ method = "GET" then
    some <$> handleListInvites py caller tenantId
  else if Py.startsWith path (route ++ "/webhooks") then
    Webhooks.dispatchRoutes py ("/v1/tenants/" ++ caller.tenantId.getD "None" ++ "/webhooks") method
      event caller caller.tenantId
  else pure none

/-- `tenant_lifecycle.dispatch_routes`. -/
def dispatchRoutes (py : Python) (path method : String) (event : Items) (caller : CallerIdentity)
    (tenantId : Option String) : Api (Option Response) :=
  if path = "/v1/tenants" ∧ method = "POST" then some <$> handleCreate py event caller
  else if path = "/v1/tenants" ∧ method = "GET" then
    some <$> handleListTenants py (tenantListInputFromEvent event) caller
  else match tenantId with
    | some tenantId => dispatchTenant py path method event caller tenantId
    | none => pure none

end Lifecycle

end A5cCell.TenantApi
