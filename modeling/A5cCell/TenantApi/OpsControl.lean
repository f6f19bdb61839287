import A5cCell.TenantApi.Records

/-!
# Platform operations

`ops_control`: the routes under `/v1/platform` that run the platform rather than a tenant. Each asks
for an administrator's role; that the caller is the platform's is asked before any of them is
reached.
-/

namespace A5cCell.TenantApi

open Py (Val Items Dict)
open DataAccess

/-- The role the operations that change the platform ask for. -/
def requirePlatformAdminRole (caller : CallerIdentity) : Except Exc Unit :=
  if caller.roles.contains "Platform.Admin" then .ok ()
  else .error (.permissionError "Platform.Admin role required")

/-- `handle_platform_failover`. -/
def handlePlatformFailover (py : Python) (event : Items) (caller : CallerIdentity) :
    Api Response := do
  Api.ofExcept (requireAdmin caller)
  let body ← Api.ofExcept (requireJsonBody py event)
  match (body.get "targetRegion").strOrNone, (body.get "lockId").strOrNone with
  | some _, some _ => pure (error 409 "RUNTIME_FAILOVER_DISABLED"
      "Runtime regional failover is disabled for the v0.2 topology")
  | _, _ => .raise (.valueError "targetRegion and lockId are required")

/-- `required_ssm_parameter`, with `optional_ssm_parameter`. -/
def requiredSsmParameter (name : String) : Api String := do
  let empty : Exc := .valueError ("SSM parameter " ++ name ++ " is empty")
  match ← (Api.service "ssm" "get_parameter" [("Name", .str name)]).attempt with
  | .error (.clientError "ParameterNotFound") => .raise empty
  | .error x => .raise x
  | .ok answer =>
      let parameter ← Api.ofExcept (getAttr answer "Parameter" (.dict []))
      let value ← Api.ofExcept (getAttr parameter "Value")
      match value.strOrNone with
      | some text => pure text
      | none => .raise empty

/-- `_platform_audit_envelope`. -/
def platformAuditEnvelope (caller : CallerIdentity) (operationType outcome occurredAt : String)
    (targetTenantId : Option String) : Items :=
  [("schemaVersion", .int 1),
    ("occurredAt", .str occurredAt),
    ("actorTenantId", .str platformTenantId),
    ("actorAppId", optionVal caller.appId),
    ("actorSub", optionVal caller.sub),
    ("operationType", .str operationType),
    ("outcome", .str outcome)] ++
    (targetTenantId.map fun tenantId => ("targetTenantId", Val.str tenantId)).toList

/-- `handle_platform_quota`, with `platform_control_response`. -/
def handlePlatformQuota (py : Python) (caller : CallerIdentity) : Api Response := do
  Api.ofExcept (requireAdmin caller)
  let activeRegion ← requiredSsmParameter
    ((py.environ "RUNTIME_REGION_PARAM").getD "/platform/config/runtime-region")
  let quotas ← Api.service "platform_quota_client" "get_utilisation"
    [("active_region", .str activeRegion)]
  let now ← Api.now
  response py 200 [("utilisation", quotas), ("audit", .dict (platformAuditEnvelope caller
    "quota_report" "succeeded" (py.isoUtc now) none))]

/-- One summary of the billing status. -/
def billingSummary (py : Python) (s : Items) : Except Exc Val := do
  let inputTokens ← intOf (s.get "totalInputTokens" (s.get "total_input_tokens" (.int 0)))
  let outputTokens ← intOf (s.get "totalOutputTokens" (s.get "total_output_tokens" (.int 0)))
  let cost ← py.float (s.get "totalCostUsd" (s.get "total_cost_usd" (.int 0)))
  pure (.dict [
    ("tenantId", (s.get "tenantId").or (s.get "tenant_id")),
    ("totalInputTokens", .int inputTokens),
    ("totalOutputTokens", .int outputTokens),
    ("totalCostUsd", cost),
    ("lastUpdated", (s.get "updatedAt").or (s.get "last_updated"))])

/-- `handle_platform_billing_status`. -/
def handlePlatformBillingStatus (py : Python) (caller : CallerIdentity) : Api Response := do
  Api.ofExcept (requireAdmin caller)
  let yearMonth := py.strftime "%Y-%m" (← Api.now)
  let summaries ← Api.dynamodb (controlPlaneScanAll (tenantsTableName py)
    (some (.condition (keyEq "SK" ("BILLING#" ++ yearMonth)))) py.pages)
  let shown ← Api.ofExcept (summaries.mapM (billingSummary py))
  response py 200 [("yearMonth", .str yearMonth), ("summaries", .list shown)]

/-- `handle_service_health`. -/
def handleServiceHealth (py : Python) (caller : CallerIdentity) : Api Response := do
  Api.ofExcept (requireAdmin caller)
  let now ← Api.now
  response py 200 [
    ("status", .str "unknown"),
    ("services", .dict []),
    ("signals", .list [.dict [
      ("name", .str "service_health"),
      ("source", .str "none"),
      ("state", .str "unknown"),
      ("reason", .str "no_authoritative_signal")]]),
    ("timestamp", .str (py.isoUtc now))]

/-- `handle_platform_split_accounts`. -/
def handlePlatformSplitAccounts (py : Python) (event : Items) (caller : CallerIdentity) :
    Api Response := do
  Api.ofExcept (requirePlatformAdminRole caller)
  let body ← Api.ofExcept (requireJsonBody py event)
  let _ ← Api.ofExcept (normalizeTier (body.get "tier"))
  if (body.get "targetAccountId").strOrNone.any matchesAwsAccountId then
    let now ← Api.now
    response py 202 [("status", .str "initiated"),
      ("jobId", .str ("job-split-" ++ toString (epochSeconds now)))]
  else .raise (.valueError "targetAccountId must match ^[0-9]\x7b12\x7d$")

/-- The versions a page of `list_versions_by_function` publishes. -/
def publishedVersions (page : Val) : Except Exc (List String) := do
  let versions ← getAttr page "Versions" (.list [])
  match versions with
  | .list items =>
      let texts ← items.mapM fun item => do pure (← getAttr item "Version").toStr
      pure (texts.filter (· ≠ "$LATEST"))
  | _ => throw (.typeError "object is not iterable")

/-- The version of the alias, and every published version. -/
def readVersions (functionName aliasName : String) : Api (String × List String) := do
  let functionAlias ← Api.service "lambda" "get_alias"
    [("FunctionName", .str functionName), ("Name", .str aliasName)]
  let currentVersion ← Api.ofExcept (getItemOf functionAlias "FunctionVersion")
  let pages ← Api.service "lambda" "list_versions_by_function"
    [("FunctionName", .str functionName)]
  let versions ← Api.ofExcept ((pages.asList?.getD []).mapM publishedVersions)
  pure (currentVersion.toStr, versions.flatten)

/-- `sorted(set(versions), key=int)`. -/
def orderedVersions (versions : List String) : Except Exc (List String) := do
  let numbered ← versions.dedup.mapM fun version => do pure (← intOf (.str version), version)
  pure ((numbered.insertionSort fun a b => a.1 ≤ b.1).map (·.2))

/-- `handle_lambda_rollback`. -/
def handleLambdaRollback (py : Python) (event : Items) (caller : CallerIdentity) :
    Api Response := do
  Api.ofExcept (requirePlatformAdminRole caller)
  let body ← Api.ofExcept (requireJsonBody py event)
  let functionSuffix ← Api.ofExcept (requireNonEmptyText (body.get "functionSuffix") "functionSuffix")
  let aliasName := (body.get "aliasName").strOrNone.getD "live"
  let functionName := "platform-" ++ functionSuffix ++ "-" ++ (py.environ "PLATFORM_ENV").getD "dev"
  match ← (readVersions functionName aliasName).attempt with
  | .error (.clientError "ResourceNotFoundException") =>
      pure (error 404 "NOT_FOUND" "Lambda function not found")
  | .error x => .raise x
  | .ok (currentVersion, versions) =>
      let ordered ← Api.ofExcept (orderedVersions versions)
      match ordered.idxOf? currentVersion with
      | none => pure (error 404 "NOT_FOUND" "Alias version not found")
      | some 0 => pure (error 409 "NO_PREVIOUS_VERSION" "No previous published version")
      | some (previous + 1) =>
          let previousVersion := (ordered[previous]?).getD ""
          let _ ← Api.service "lambda" "update_alias" [
            ("FunctionName", .str functionName),
            ("Name", .str aliasName),
            ("FunctionVersion", .str previousVersion),
            ("Description", .str
              ("Rollback from " ++ currentVersion ++ " to " ++ previousVersion))]
          response py 200 [
            ("functionName", .str functionName),
            ("fromVersion", .str currentVersion),
            ("toVersion", .str previousVersion),
            ("status", .str "rolled_back")]

namespace OpsControl

/-- `dispatch_platform_admin_routes`. -/
def dispatchPlatformAdminRoutes (py : Python) (path method : String) (event : Items)
    (caller : CallerIdentity) : Api (Option Response) :=
  if path = "/v1/platform/failover" ∧ method = "POST" then
    some <$> handlePlatformFailover py event caller
  else if path = "/v1/platform/quota" ∧ method = "GET" then
    some <$> handlePlatformQuota py caller
  else if path = "/v1/platform/quota/split-accounts" ∧ method = "POST" then
    some <$> handlePlatformSplitAccounts py event caller
  else if path = "/v1/platform/billing/status" ∧ method = "GET" then
    some <$> handlePlatformBillingStatus py caller
  else if path = "/v1/platform/service-health" ∧ method = "GET" then
    some <$> handleServiceHealth py caller
  else pure none

/-- `dispatch_ops_routes`. -/
def dispatchOpsRoutes (py : Python) (path method : String) (event : Items)
    (caller : CallerIdentity) : Api (Option Response) :=
  if path = "/v1/platform/ops/lambda-rollback" ∧ method = "POST" then
    some <$> handleLambdaRollback py event caller
  else if Py.startsWith path "/v1/platform/ops" then
    pure (some (error 405 "METHOD_NOT_ALLOWED" "Method not allowed for this route"))
  else pure none

end OpsControl

end A5cCell.TenantApi
