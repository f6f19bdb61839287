import A5cCell.DataAccess.Agent
import A5cCell.TenantApi.OpsControl

/-!
# The agent registry

`agent_registry` and `agent_logic`: registering a version of an agent, and moving it through its
release states. The registry is the platform's: every
route asks for an administrator of the platform tenant before it does anything else.
-/

namespace A5cCell.TenantApi

open Py (Val Items Dict)
open DataAccess

/-! ## Statuses -/

/-- `normalize_agent_status_val`. -/
def normalizeAgentStatusVal (value : Val) : Except Exc AgentStatus :=
  match AgentStatus.normalize (optionVal value.strOrNone) with
  | .ok status => .ok status
  | .error _ => .error (.valueError
      ("status must be one of: " ++ ", ".intercalate (AgentStatus.all.map AgentStatus.value)))

/-- `validate_agent_status_transition`. -/
def validateAgentStatusTransition (currentStatus newStatus : AgentStatus) : Except Exc Unit :=
  if newStatus = currentStatus then .ok ()
  else if currentStatus.transitions.contains newStatus then .ok ()
  else
    let allowedText := ", ".intercalate (currentStatus.transitions.map AgentStatus.value)
    .error (.valueError ("Invalid agent status transition: " ++ currentStatus.value ++ " -> " ++
      newStatus.value ++ ". Allowed transitions: " ++
      (if allowedText = "" then "none" else allowedText)))

/-- `agent_event_detail_type`. -/
def agentEventDetailType : AgentStatus → Option String
  | .promoted => some "platform.agent_version.promoted"
  | .rolledBack => some "platform.agent_version.rolled_back"
  | _ => none

/-- `agent_release_operation`. -/
def agentReleaseOperation : AgentStatus → Option String
  | .promoted => some "promotion"
  | .rolledBack => some "rollback"
  | _ => none

/-! ## Registration -/

/-- The stripped text of a field of the item, empty where it is absent. -/
def fieldText (item : Items) (field : String) : String := Py.strip (item.get field (.str "")).toStr

/-- `_validate_layer_metadata_invariants`. -/
def validateLayerMetadataInvariants (item : Items) : Except Exc Unit :=
  if fieldText item "runtime_arn" ≠ "" then .ok ()
  else
    let layerHash := fieldText item "layer_hash"
    let layerS3Key := fieldText item "layer_s3_key"
    if layerHash = "" ∧ layerS3Key = "" ∧ fieldText item "script_s3_key" = "" then .ok ()
    else
      let missingFields := (if layerHash = "" then ["layerHash"] else []) ++
        (if layerS3Key = "" then ["layerS3Key"] else [])
      if missingFields.isEmpty then .ok ()
      else .error (.valueError ("Zip-agent registration requires non-empty " ++
        ", ".intercalate missingFields))

/-- The endpoint fields of an item, with the names a request gives them, in the order of those. -/
def runtimeEndpointFields : List (String × String) :=
  [("runtime_endpoint_arn", "runtimeEndpointArn"), ("runtime_endpoint_name", "runtimeEndpointName"),
    ("runtime_endpoint_version", "runtimeEndpointVersion")]

/-- `_validate_runtime_endpoint_invariants`. -/
def validateRuntimeEndpointInvariants (py : Python) (item : Items) : Except Exc Unit :=
  let runtimeArn := fieldText item "runtime_arn"
  let (missing, configured) := runtimeEndpointFields.partition fun field => fieldText item field.1 = ""
  if configured.isEmpty then
    if runtimeArn = "" then .ok ()
    else .error (.valueError ("Runtime registration requires runtimeEndpointArn, " ++
      "runtimeEndpointName, runtimeEndpointVersion"))
  else if !missing.isEmpty then
    .error (.valueError ("Runtime endpoint registration requires non-empty " ++
      ", ".intercalate (missing.map (·.2))))
  else match py.fullmatch runtimeArnPattern runtimeArn with
    | none => .error (.valueError "Runtime endpoint registration requires a valid runtimeArn")
    | some runtimeMatch =>
        match py.fullmatch runtimeEndpointArnPattern (fieldText item "runtime_endpoint_arn") with
        | none => .error (.valueError "runtimeEndpointArn is malformed")
        | some endpointMatch =>
            let sameParts := ["partition", "region", "account_id", "runtime_id"].all fun part =>
              endpointMatch.lookup part = runtimeMatch.lookup part
            if !sameParts then .error (.valueError "runtimeEndpointArn does not match runtimeArn")
            else if !Py.startsWith ((endpointMatch.lookup "endpoint_id").getD "")
                (fieldText item "runtime_endpoint_name" ++ "-") then
              .error (.valueError "runtimeEndpointArn does not match runtimeEndpointName")
            else .ok ()

/-- The optional text fields of a registration that are kept under a name of their own. -/
def registeredRuntimeFields : List (String × String) :=
  [("runtimeArn", "runtime_arn"), ("runtimeEndpointArn", "runtime_endpoint_arn"),
    ("runtimeEndpointName", "runtime_endpoint_name"),
    ("runtimeEndpointVersion", "runtime_endpoint_version")]

/-- The field of the body, under its own name. -/
def copiedText (body : Items) (names : String × String) : Items :=
  if body.has names.1 then [(names.2, .str (fieldText body names.1))] else []

/-- The AG-UI fields of an item. -/
def agUiFields (body : Items) : Items :=
  let rawAgUi : Items := (body.get "agUi").asDict?.getD []
  let enabled := (body.get "agUiEnabled" (rawAgUi.get "enabled" (.bool false))).truthy
  let transport :=
    Py.strip (body.get "agUiTransport" (rawAgUi.get "transport" (.str "sse"))).toStr
  let endpoint := optionVal (Py.truthyText (some (Py.strip
    (body.get "agUiEndpoint" (rawAgUi.get "endpoint" (.str ""))).toStr)))
  [("ag_ui", .dict [("enabled", .bool enabled), ("transport", .str transport),
      ("endpoint", endpoint)]),
    ("ag_ui_enabled", .bool enabled), ("ag_ui_transport", .str transport),
    ("ag_ui_endpoint", endpoint)]

/-- The item of a registration. -/
def registeredItem (body : Items) (agentName version nowIso invocationMode : String)
    (initialStatus : AgentStatus) : Except Exc Items := do
  let text (field default : String) : Val := .str (Py.strip (body.get field (.str default)).toStr)
  let scriptS3Key := (body.get "scriptS3Key" (body.get "script_s3_key" (.str ""))).toStr
  let item : Items := [
    ("PK", .str ("AGENT#" ++ agentName)),
    ("SK", .str ("VERSION#" ++ version)),
    ("agent_name", .str agentName),
    ("version", .str version),
    ("status", .str initialStatus.value),
    ("owner_team", text "ownerTeam" "unknown"),
    ("tier_minimum", text "tierMinimum" "basic"),
    ("invocation_mode", .str invocationMode),
    ("streaming_enabled", .bool (body.get "streamingEnabled" (.bool false)).truthy),
    ("layer_hash", text "layerHash" ""),
    ("layer_s3_key", text "layerS3Key" ""),
    ("script_s3_key", .str (Py.strip scriptS3Key)),
    ("deployed_at", .str nowIso),
    ("created_at", .str nowIso),
    ("updated_at", .str nowIso)]
  let duration ← if body.has "estimatedDurationSeconds" then do
      let seconds ← intOf (body.get "estimatedDurationSeconds")
      pure [("estimated_duration_seconds", Val.int seconds)]
    else pure []
  pure (item ++ copiedText body ("displayName", "display_name") ++
    copiedText body ("modelId", "model_id") ++ duration ++
    registeredRuntimeFields.flatMap (copiedText body) ++ agUiFields body)

/-- The status a version is registered with. -/
def initialStatusOf (body : Items) : Except Exc AgentStatus := do
  let initialStatus ← if (body.get "status").truthy then normalizeAgentStatusVal (body.get "status")
    else pure .built
  if initialStatus = .built then pure initialStatus
  else throw (.valueError "Initial status for registration must be one of: built")

/-- `handle_register_agent`. -/
def handleRegisterAgent (py : Python) (event : Items) (caller : CallerIdentity) : Api Response := do
  Api.ofExcept (requireAdmin caller)
  Api.ofExcept (requirePlatformActor caller)
  let body ← Api.ofExcept (requireJsonBody py event)
  let agentName ← Api.ofExcept (canonicalTenantId (body.get "agentName"))
  let version := fieldText body "version"
  if version = "" then .raise (.valueError "version is required")
  else
    let initialStatus ← Api.ofExcept (initialStatusOf body)
    let db ← dbForTenant ((Py.truthyText caller.tenantId).getD "platform") caller
    let nowIso := py.isoUtc (← Api.now)
    let invocationMode := Py.lower (Py.strip (body.get "invocationMode" (.str "sync")).toStr)
    if ¬ (invocationMode = "sync" ∨ invocationMode = "streaming") then
      .raise (.valueError "invocationMode must be one of: streaming, sync")
    else
      let item ← Api.ofExcept
        (registeredItem body agentName version nowIso invocationMode initialStatus)
      Api.ofExcept (validateLayerMetadataInvariants item)
      Api.ofExcept (validateRuntimeEndpointInvariants py item)
      Api.dynamodb (db.putItem (agentsTableName py) item)
      response py 201 [("agentName", .str agentName), ("version", .str version),
        ("status", .str initialStatus.value)]

/-! ## Release states -/

/-- What a change of status comes with. -/
structure ReleaseEvidence where
  releaseNotes : Option String := none
  evaluationScore : Val := .none
  evaluationReportUrl : Option String := none

/-- The attributes a change of status sets. -/
def statusUpdates (py : Python) (caller : CallerIdentity) (existing : Items)
    (targetStatus : AgentStatus) (evidence : ReleaseEvidence) (nowIso : String) :
    Except Exc Items := do
  let updates : Items := [("status", .str targetStatus.value), ("updatedAt", .str nowIso)]
  match targetStatus with
  | .approved =>
      pure (updates ++ [("approved_at", .str nowIso), ("approved_by", optionVal caller.sub)] ++
        (evidence.releaseNotes.map fun notes => ("release_notes", Val.str notes)).toList)
  | .promoted =>
      if !(existing.get "approved_by").truthy || !(existing.get "approved_at").truthy then
        throw (.valueError "Promotion requires existing approval evidence")
      else
        let score ← match evidence.evaluationScore with
          | .none => pure []
          | value => do pure [("evaluation_score", ← py.float value)]
        pure (updates ++ score ++
          (evidence.evaluationReportUrl.map fun url => ("evaluation_report_url", Val.str url)).toList)
  | .rolledBack =>
      pure (updates ++ [("rolled_back_at", .str nowIso), ("rolled_back_by", optionVal caller.sub)])
  | _ => pure updates

/-- `build_agent_release_lifecycle_event_detail`, of the item before and the updates. -/
def agentReleaseEventDetail (caller : CallerIdentity) (agentName version : String)
    (previousStatus newStatus : AgentStatus) (evidence : ReleaseEvidence) (existing updates : Items)
    (nowIso : String) : Items :=
  let updatedText (field : String) : Val :=
    optionVal ((updates.get field).or (existing.get field)).strOrNone
  Items.merge (platformAuditEnvelope caller
      ((agentReleaseOperation newStatus).getD "agent_release") "succeeded" nowIso
      (some platformTenantId)) [
    ("operation", optionVal (agentReleaseOperation newStatus)),
    ("releaseId", .str (agentName ++ ":" ++ version)),
    ("agentRecordPk", .str ("AGENT#" ++ agentName)),
    ("agentRecordSk", .str ("VERSION#" ++ version)),
    ("agentName", .str agentName),
    ("version", .str version),
    ("previousStatus", .str previousStatus.value),
    ("status", .str newStatus.value),
    ("approvedBy", updatedText "approved_by"),
    ("approvedAt", updatedText "approved_at"),
    ("releaseNotes", optionVal (evidence.releaseNotes.or (existing.get "release_notes").strOrNone)),
    ("evaluationScore", if updates.has "evaluation_score" then updates.get "evaluation_score"
      else existing.get "evaluation_score"),
    ("evaluationReportUrl", updatedText "evaluation_report_url"),
    ("rolledBackBy", updates.get "rolled_back_by"),
    ("rolledBackAt", updates.get "rolled_back_at"),
    ("targetResourceType", .str "agentVersion"),
    ("targetResourceId", .str (agentName ++ ":" ++ version))]

/-- `_update_agent_status`. -/
def updateAgentStatus (py : Python) (caller : CallerIdentity) (agentName version : String)
    (targetStatus : AgentStatus) (evidence : ReleaseEvidence := {}) : Api Response := do
  Api.ofExcept (requireAdmin caller)
  Api.ofExcept (requirePlatformActor caller)
  let db ← dbForTenant ((Py.truthyText caller.tenantId).getD "platform") caller
  let key : Items := [("PK", .str ("AGENT#" ++ agentName)), ("SK", .str ("VERSION#" ++ version))]
  let existing ← Api.dynamodb (db.getItem (agentsTableName py) key)
  match existing.filter fun item => !item.isEmpty with
  | none => pure (error 404 "NOT_FOUND"
      ("Agent version " ++ agentName ++ ":" ++ version ++ " not found"))
  | some existing =>
      let currentStatus ← Api.ofExcept (AgentStatus.normalize (existing.get "status"))
      Api.ofExcept (validateAgentStatusTransition currentStatus targetStatus)
      let nowIso := py.isoUtc (← Api.now)
      let updates ← Api.ofExcept (statusUpdates py caller existing targetStatus evidence nowIso)
      setAttributes db (agentsTableName py) key updates
      match agentEventDetailType targetStatus with
      | some detailType =>
          let _ ← putEvent py detailType (agentReleaseEventDetail caller agentName version
            currentStatus targetStatus evidence existing updates nowIso)
      | none => pure ()
      response py 200 [("agentName", .str agentName), ("version", .str version),
        ("status", .str targetStatus.value)]

/-- `handle_promote_agent`. -/
def handlePromoteAgent (py : Python) (caller : CallerIdentity) (agentName version : String) :
    Api Response := updateAgentStatus py caller agentName version .promoted

/-- `handle_rollback_agent`. -/
def handleRollbackAgent (py : Python) (caller : CallerIdentity) (agentName version : String) :
    Api Response := updateAgentStatus py caller agentName version .rolledBack

/-- `handle_patch_agent_version`. -/
def handlePatchAgentVersion (py : Python) (event : Items) (caller : CallerIdentity)
    (agentName version : String) : Api Response := do
  Api.ofExcept (requireAdmin caller)
  Api.ofExcept (requirePlatformActor caller)
  let body ← Api.ofExcept (requireJsonBody py event)
  let targetStatus ← Api.ofExcept (normalizeAgentStatusVal (body.get "status"))
  if body.has "agUi" then
    .raise (.valueError "agUi is immutable once an agent version is registered")
  else
    updateAgentStatus py caller agentName version targetStatus
      { releaseNotes := (body.get "releaseNotes").strOrNone
        evaluationScore := body.get "evaluationScore"
        evaluationReportUrl := (body.get "evaluationReportUrl").strOrNone }

/-- `_require_platform_agent_list_access`. -/
def requirePlatformAgentListAccess (caller : CallerIdentity) : Except Exc Unit :=
  if !caller.hasRole platformSelfServiceAdminRoles then
    .error (.permissionError "Platform.Admin or Platform.Operator role required")
  else requirePlatformActor caller

/-- `handle_list_agents`. -/
def handleListAgents (py : Python) (caller : CallerIdentity) : Api Response := do
  Api.ofExcept (requirePlatformAgentListAccess caller)
  let items ← Api.dynamodb (controlPlaneScanAll (agentsTableName py) none py.pages)
  response py 200 [("items", .list (items.map .dict))]

/-- The agent and the version in a path that matches. -/
def matchAgentVersion (py : Python) (pattern path : String) : Except Exc (Option (String × String)) := do
  match ← py.reMatch pattern path with
  | some [agentName, version] => pure (some (agentName, version))
  | _ => pure none

namespace AgentRegistry

/-- `agent_registry.dispatch_routes`. -/
def dispatchRoutes (py : Python) (path method : String) (event : Items) (caller : CallerIdentity) :
    Api (Option Response) := do
  if path = "/v1/platform/agents" ∧ method = "GET" then some <$> handleListAgents py caller
  else if path = "/v1/platform/agents" ∧ method = "POST" then
    some <$> handleRegisterAgent py event caller
  else
    let promote ← Api.ofExcept (matchAgentVersion py
      "^/v1/platform/agents/([^/]+)/versions/([^/]+)/promote$" path)
    match promote.filter fun _ => method = "POST" with
    | some (agentName, version) => some <$> handlePromoteAgent py caller agentName version
    | none =>
        let update ← Api.ofExcept (matchAgentVersion py
          "^/v1/platform/agents/([^/]+)/versions/([^/]+)$" path)
        match update.filter fun _ => method = "PATCH" with
        | some (agentName, version) =>
            some <$> handlePatchAgentVersion py event caller agentName version
        | none =>
            let rollback ← Api.ofExcept (matchAgentVersion py
              "^/v1/platform/agents/([^/]+)/versions/([^/]+)/rollback$" path)
            match rollback.filter fun _ => method = "POST" with
            | some (agentName, version) => some <$> handleRollbackAgent py caller agentName version
            | none => pure none

end AgentRegistry

end A5cCell.TenantApi
