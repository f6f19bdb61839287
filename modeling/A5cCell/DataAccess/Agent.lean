import A5cCell.DataAccess.Client
import A5cCell.DataAccess.Models

/-!
# Agents

`data_access.domains.agent`: the release statuses of an agent version with the transitions between
them, and the record of a version. The tenant API writes these records and the bridge reads them.
-/

namespace A5cCell.DataAccess

open Py (Val Items)

/-! ## Release statuses -/

/-- `AgentStatus`. -/
inductive AgentStatus where
  | built
  | deployedStaging
  | integrationVerified
  | evaluationPassed
  | approved
  | promoted
  | rolledBack
  | failed
  deriving DecidableEq

namespace AgentStatus

def value : AgentStatus → String
  | built => "built"
  | deployedStaging => "deployed_staging"
  | integrationVerified => "integration_verified"
  | evaluationPassed => "evaluation_passed"
  | approved => "approved"
  | promoted => "promoted"
  | rolledBack => "rolled_back"
  | failed => "failed"

/-- The statuses, in the order they are declared. -/
def all : List AgentStatus :=
  [built, deployedStaging, integrationVerified, evaluationPassed, approved, promoted, rolledBack,
    failed]

/-- `AGENT_STATUS_TRANSITIONS`, each in the order of the values. -/
def transitions : AgentStatus → List AgentStatus
  | built => [deployedStaging, failed]
  | deployedStaging => [failed, integrationVerified]
  | integrationVerified => [evaluationPassed, failed]
  | evaluationPassed => [approved, failed]
  | approved => [failed, promoted]
  | promoted => [rolledBack]
  | rolledBack => []
  | failed => []

/-- `LEGACY_AGENT_STATUS_ALIASES`. -/
def legacyAlias? (text : String) : Option AgentStatus :=
  if text = "pending" then some built
  else if text = "released" then some promoted
  else if text = "rollback" then some rolledBack
  else none

/-- `normalize_agent_status`. -/
def normalize (value : Val) : Except Exc AgentStatus :=
  match value with
  | .none => .error (.valueError "status is required")
  | value =>
      let normalized := Py.lower (Py.strip value.toStr)
      if normalized = "" then .error (.valueError "status is required")
      else match (legacyAlias? normalized).or (all.find? (·.value = normalized)) with
        | some status => .ok status
        | none => .error (.valueError
            (Py.reprStr normalized ++ " is not a valid AgentStatus"))

end AgentStatus

/-- `is_invokable_agent_status`: promoted, where there is no status. -/
def isInvokableAgentStatus (value : Option String) : Except Exc Bool := do
  let status ← match value with
    | some text => if Py.strip text = "" then pure .promoted else AgentStatus.normalize (.str text)
    | none => pure .promoted
  pure (status = .promoted)

/-! ## Records -/

/-- `AgUiTransport`. -/
inductive AgUiTransport where
  | sse
  | websocket
  deriving DecidableEq

def AgUiTransport.value : AgUiTransport → String
  | sse => "sse"
  | websocket => "websocket"

/-- `AgUiTransport(text)`. -/
def AgUiTransport.ofValue? (text : String) : Option AgUiTransport :=
  [sse, websocket].find? (·.value = text)

/-- `AgentAgUiConfig`. -/
structure AgentAgUiConfig where
  enabled : Bool
  transport : AgUiTransport
  endpoint : Option String

/-- An `AgentRecord` with the fields that name its version, its runtime and its artifacts. -/
structure AgentVersion extends AgentRecord where
  version : String
  ownerTeam : String
  layerHash : String
  layerS3Key : String
  scriptS3Key : String
  deployedAt : String
  streamingEnabled : Bool
  status : AgentStatus
  runtimeArn : Option String
  runtimeEndpointArn : Option String
  runtimeEndpointName : Option String
  runtimeEndpointVersion : Option String
  estimatedDurationSeconds : Val
  agUi : AgentAgUiConfig

/-! ## ARNs

The two patterns are used by the registry when a version is registered, and by the bridge when it is
invoked. -/

def runtimeArnPattern : String :=
  "^arn:(?P<partition>aws|aws-us-gov|aws-cn):bedrock-agentcore:(?P<region>[a-z0-9-]+):" ++
    "(?P<account_id>\\d\x7b12\x7d):runtime/(?P<runtime_id>[\\w+=,.@\\-_/]+)$"

def runtimeEndpointArnPattern : String :=
  "^arn:(?P<partition>aws|aws-us-gov|aws-cn):bedrock-agentcore:(?P<region>[a-z0-9-]+):" ++
    "(?P<account_id>\\d\x7b12\x7d):runtime/(?P<runtime_id>" ++
    "[A-Za-z][A-Za-z0-9_]\x7b0,99\x7d-[A-Za-z0-9]\x7b10\x7d)" ++
    "/runtime-endpoint/(?P<endpoint_id>[A-Za-z][A-Za-z0-9_]\x7b0,47\x7d-[A-Za-z0-9]\x7b10\x7d)$"

end A5cCell.DataAccess
