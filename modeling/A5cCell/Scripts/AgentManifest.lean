import Mathlib.Data.Rat.Defs
import Mathlib.Algebra.Order.Ring.Rat
import Mathlib.Data.String.Basic
import Mathlib.Data.List.Dedup
import Mathlib.Data.List.Sort
import A5cCell.Lib.Checked
import A5cCell.Lib.Value
import A5cCell.DataAccess.Agent

/-!
# The manifest of an agent

`scripts/agent_manifest.py`: the contract of an agent is in the `[tool.agentcore]` tables of its
`pyproject.toml`. The loader reads all of it, reports every error it finds, and gives a manifest only
where it found none. A float is the number it is written as.
-/

namespace A5cCell.Scripts

open Py (Val Items Obj)
open DataAccess

/-- A float, as the number that is written. Left out are its rounding to a double and the sign of a
    zero. -/
inductive FloatValue where
  | number (x : ℚ)
  | infinite (negative : Bool)
  | nan
  deriving DecidableEq

/-- What TOML text holds besides texts, whole numbers, booleans, lists and tables: floats and times. -/
structure Toml where
  /-- `type(value).__name__`. -/
  typeName : Obj → String
  /-- The float, where it is one. -/
  float : Obj → Option FloatValue

/-- `type(value).__name__`. -/
def Toml.typeNameOf (toml : Toml) : Val → String
  | .none => "NoneType"
  | .bool _ => "bool"
  | .int _ => "int"
  | .str _ => "str"
  | .list _ => "list"
  | .dict _ => "dict"
  | .obj o => toml.typeName o

/-- A value as a float, where it is one. -/
def Toml.floatOf (toml : Toml) : Val → Option FloatValue
  | .obj o => toml.float o
  | _ => none

/-- A reading that reports its errors. -/
abbrev Checks (α : Type) : Type := Checked Exc String α

/-! ## Manifests -/

structure AgentDeploymentConfig where
  type : String

structure AgentLlmConfig where
  modelId : Option String
  maxTokens : Option Int

structure AgentRuntimeConfig where
  entrypoint : Option String
  protocol : String
  port : Int

structure AgentEvaluationsConfig where
  threshold : FloatValue
  evaluationRegion : String

/-- `AgentManifest`. -/
structure AgentManifest where
  projectName : String
  version : String
  name : String
  ownerTeam : String
  tierMinimum : TenantTier
  handler : String
  invocationMode : InvocationMode
  streamingEnabled : Bool
  estimatedDurationSeconds : Int
  deployment : AgentDeploymentConfig
  runtime : AgentRuntimeConfig
  llm : AgentLlmConfig
  evaluations : AgentEvaluationsConfig
  agUi : AgentAgUiConfig

def defaultEvaluationRegion : String := "eu-central-1"

/-- `DEFAULT_PROTOCOL_PORTS`. -/
def defaultProtocolPorts : List (String × Int) :=
  [("http", 8080), ("mcp", 8000), ("a2a", 9000), ("agui", 8080)]

def manifestKeys : List String :=
  ["name", "owner_team", "tier_minimum", "handler", "invocation_mode", "streaming_enabled",
    "estimated_duration_seconds", "llm", "deployment", "runtime", "evaluations", "ag_ui"]

def llmKeys : List String := ["model_id", "max_tokens"]

def deploymentKeys : List String := ["type"]

def runtimeKeys : List String := ["entrypoint", "protocol", "port"]

def evaluationsKeys : List String := ["threshold", "evaluation_region"]

def agUiKeys : List String := ["enabled", "transport", "endpoint"]

/-! ## Fields -/

/-- `_require_table`. -/
def requireTable (data : Items) (key tableLabel : String) : Checks Items :=
  match data.get key with
  | .dict value => pure value
  | _ => .report ("Missing " ++ tableLabel ++ " section") []

/-- `_optional_table`. -/
def optionalTable (toml : Toml) (data : Items) (key table : String) : Checks Items :=
  match data.get key (.dict []) with
  | .none => pure []
  | .dict value => pure value
  | value => .report ("Invalid " ++ table ++ ": expected table, got " ++ toml.typeNameOf value) []

/-- `_required_string`. -/
def requiredString (data : Items) (key table : String) : Checks String :=
  match data.get key with
  | .str value =>
      if Py.strip value = "" then .report ("Missing required field: " ++ table ++ "." ++ key) ""
      else pure (Py.strip value)
  | _ => .report ("Missing required field: " ++ table ++ "." ++ key) ""

/-- `None`, or a text. -/
def textVal : Option String → Val
  | none => .none
  | some text => .str text

/-- `_optional_string`. -/
def optionalString (data : Items) (key : String) (default : Option String) (table : String) :
    Checks (Option String) :=
  match data.get key (textVal default) with
  | .none => pure none
  | .str value =>
      if Py.strip value = "" then
        .report ("Invalid " ++ table ++ "." ++ key ++ ": expected non-empty string") default
      else pure (some (Py.strip value))
  | _ => .report ("Invalid " ++ table ++ "." ++ key ++ ": expected non-empty string") default

/-- `_optional_bool`. -/
def optionalBool (toml : Toml) (data : Items) (key : String) (default : Bool) (table : String) :
    Checks Bool :=
  match data.get key (.bool default) with
  | .bool value => pure value
  | value => .report
      ("Invalid " ++ table ++ "." ++ key ++ ": expected bool, got " ++ toml.typeNameOf value) default

/-- `None`, or a whole number. -/
def intVal : Option Int → Val
  | none => .none
  | some n => .int n

/-- `_optional_int`. -/
def optionalInt (toml : Toml) (data : Items) (key : String) (default : Option Int) (table : String) :
    Checks (Option Int) :=
  match data.get key (intVal default) with
  | .none => pure none
  | .int value => pure (some value)
  | value => .report
      ("Invalid " ++ table ++ "." ++ key ++ ": expected int, got " ++ toml.typeNameOf value) default

/-- `float(n)`; what rounds beyond the largest float overflows. -/
def floatOfInt (n : Int) : Checks FloatValue :=
  if n.natAbs < 2 ^ 1024 - 2 ^ 970 then pure (.number n) else .raise (.other "OverflowError")

/-- `_optional_float`. -/
def optionalFloat (toml : Toml) (data : Items) (key : String) (default : ℚ) (table : String) :
    Checks FloatValue :=
  match data.lookup key with
  | none => pure (.number default)
  | some (.int n) => floatOfInt n
  | some value => match toml.floatOf value with
    | some x => pure x
    | none => .report ("Invalid " ++ table ++ "." ++ key ++ ": expected number, got " ++
        toml.typeNameOf value) (.number default)

/-- `_required_enum`, of the values of an enumeration. -/
def requiredEnum {α : Type} (ofValue? : String → Option α) (options : String) (first : α) (data : Items)
    (key table : String) : Checks α :=
  match data.get key with
  | .str value =>
      if Py.strip value = "" then .report ("Missing required field: " ++ table ++ "." ++ key) first
      else match ofValue? (Py.strip value) with
        | some member => pure member
        | none => .report ("Invalid " ++ table ++ "." ++ key ++ ": '" ++ value ++
            "'. Must be one of: " ++ options) first
  | _ => .report ("Missing required field: " ++ table ++ "." ++ key) first

/-- The keys of a table that are not allowed, in order. -/
def unknownKeys (data : Items) (allowedKeys : List String) : List String :=
  ((data.map Prod.fst).dedup.filter (!allowedKeys.contains ·)).insertionSort (· ≤ ·)

/-- `_check_unknown_keys`. -/
def checkUnknownKeys (data : Items) (allowedKeys : List String) (table : String) : Checks Unit :=
  .rejectIf (unknownKeys data allowedKeys ≠ [])
    ("Unknown keys in " ++ table ++ ": " ++ ", ".intercalate (unknownKeys data allowedKeys))

/-! ## Tables -/

/-- What identifies an agent, and how it is invoked. -/
structure AgentIdentity where
  projectName : String
  version : String
  name : String
  ownerTeam : String
  handler : String
  tierMinimum : TenantTier
  invocationMode : InvocationMode
  streamingEnabled : Bool
  estimatedDurationSeconds : Option Int

/-- The `[project]` table, and the fields of `[tool.agentcore]` itself. -/
def readIdentity (toml : Toml) (agentName : String) (projectRaw manifestRaw : Items) :
    Checks AgentIdentity := do
  let projectName ← requiredString projectRaw "name" "[project]"
  let version ← requiredString projectRaw "version" "[project]"
  checkUnknownKeys manifestRaw manifestKeys "[tool.agentcore]"
  let name ← requiredString manifestRaw "name" "[tool.agentcore]"
  let ownerTeam ← requiredString manifestRaw "owner_team" "[tool.agentcore]"
  let handler ← requiredString manifestRaw "handler" "[tool.agentcore]"
  let tierMinimum ← requiredEnum TenantTier.ofValue? "basic, standard, premium" .basic manifestRaw
    "tier_minimum" "[tool.agentcore]"
  let invocationMode ← requiredEnum InvocationMode.ofValue? "sync, streaming, async" .sync manifestRaw
    "invocation_mode" "[tool.agentcore]"
  let streamingEnabled ←
    optionalBool toml manifestRaw "streaming_enabled" false "[tool.agentcore]"
  let estimatedDurationSeconds ←
    optionalInt toml manifestRaw "estimated_duration_seconds" (some 5) "[tool.agentcore]"
  .rejectIf (projectName ≠ "" ∧ projectName ≠ agentName)
    ("Project name mismatch: [project].name '" ++ projectName ++
      "' does not match directory name '" ++ agentName ++ "'")
  .rejectIf (name ≠ "" ∧ name ≠ agentName)
    ("Agent name mismatch: manifest name '" ++ name ++ "' does not match directory name '" ++
      agentName ++ "'")
  .rejectIf (projectName ≠ "" ∧ name ≠ "" ∧ projectName ≠ name)
    ("Name mismatch: [project].name '" ++ projectName ++
      "' does not match [tool.agentcore].name '" ++ name ++ "'")
  .rejectIf (handler ≠ "" ∧ ':' ∉ handler.toList)
    "Invalid handler: [tool.agentcore].handler must be in 'module:function' form"
  .rejectIf (∃ seconds ∈ estimatedDurationSeconds, seconds ≤ 0)
    ("Invalid estimated_duration_seconds: [tool.agentcore].estimated_duration_seconds " ++
      "must be greater than 0")
  pure {
    projectName, version, name, ownerTeam, handler, tierMinimum, invocationMode, streamingEnabled
    estimatedDurationSeconds := estimatedDurationSeconds }

/-- `[tool.agentcore.llm]`. -/
def readLlm (toml : Toml) (manifestRaw : Items) : Checks AgentLlmConfig := do
  let llmRaw ← optionalTable toml manifestRaw "llm" "[tool.agentcore.llm]"
  checkUnknownKeys llmRaw llmKeys "[tool.agentcore.llm]"
  let modelId ← optionalString llmRaw "model_id" none "[tool.agentcore.llm]"
  let maxTokens ← optionalInt toml llmRaw "max_tokens" none "[tool.agentcore.llm]"
  .rejectIf (∃ tokens ∈ maxTokens, tokens ≤ 0)
    "Invalid max_tokens: [tool.agentcore.llm].max_tokens must be greater than 0"
  pure { modelId := modelId, maxTokens }

/-- `str(value)` of what may be `None`. -/
def shownText (text : Option String) : String := text.getD "None"

/-- `[tool.agentcore.deployment]`. -/
def readDeployment (toml : Toml) (manifestRaw : Items) : Checks (Option String) := do
  let deploymentRaw ← optionalTable toml manifestRaw "deployment" "[tool.agentcore.deployment]"
  checkUnknownKeys deploymentRaw deploymentKeys "[tool.agentcore.deployment]"
  let deploymentType ←
    optionalString deploymentRaw "type" (some "zip") "[tool.agentcore.deployment]"
  .rejectIf (deploymentType ∉ [some "zip", some "container"])
    ("Invalid deployment type: '" ++ shownText deploymentType ++ "'. Must be one of: container, zip")
  pure deploymentType

/-- `value or default`, of a number. -/
def intOr (value : Option Int) (default : Int) : Int :=
  match value with
  | some n => if n = 0 then default else n
  | none => default

/-- `[tool.agentcore.runtime]`. -/
def readRuntime (toml : Toml) (manifestRaw : Items) (deploymentType : Option String) :
    Checks AgentRuntimeConfig := do
  let runtimeRaw ← optionalTable toml manifestRaw "runtime" "[tool.agentcore.runtime]"
  checkUnknownKeys runtimeRaw runtimeKeys "[tool.agentcore.runtime]"
  let entrypoint ← optionalString runtimeRaw "entrypoint" none "[tool.agentcore.runtime]"
  let runtimeProtocol ← optionalString runtimeRaw "protocol" (some "http") "[tool.agentcore.runtime]"
  let runtimePort ← optionalInt toml runtimeRaw "port" none "[tool.agentcore.runtime]"
  .rejectIf (runtimeProtocol ∉ [some "http", some "mcp", some "a2a", some "agui"])
    ("Invalid runtime protocol: '" ++ shownText runtimeProtocol ++
      "'. Must be one of: a2a, agui, http, mcp")
  .rejectIf (∃ port ∈ runtimePort, ¬ (1 ≤ port ∧ port ≤ 65535))
    "Invalid runtime port: [tool.agentcore.runtime].port must be 1-65535"
  let protocol := runtimeProtocol.getD "http"
  let port := intOr runtimePort ((defaultProtocolPorts.lookup protocol).getD 8080)
  let nonHttpProtocol := protocol ∈ ["mcp", "a2a", "agui"]
  .rejectIf (deploymentType = some "zip" ∧ nonHttpProtocol)
    ("Invalid runtime protocol: ZIP deployment only supports " ++
      "[tool.agentcore.runtime].protocol = 'http'")
  .rejectIf (deploymentType = some "zip" ∧ entrypoint.isSome)
    ("Invalid runtime entrypoint: [tool.agentcore.runtime].entrypoint is only supported " ++
      "for container deployments")
  .rejectIf (deploymentType = some "container" ∧ nonHttpProtocol ∧ ¬ entrypoint.isSome)
    ("Missing runtime entrypoint: [tool.agentcore.runtime].entrypoint is required " ++
      "for non-HTTP container deployments")
  .rejectIf (∃ expected ∈ defaultProtocolPorts.lookup protocol, port ≠ expected)
    ("Invalid runtime port: [tool.agentcore.runtime].protocol '" ++ protocol ++ "' requires port " ++
      ((defaultProtocolPorts.lookup protocol).map toString).getD "")
  pure { entrypoint := entrypoint, protocol, port }

/-- `0.0 <= x <= 1.0`. -/
def FloatValue.InUnit : FloatValue → Prop
  | number x => 0 ≤ x ∧ x ≤ 1
  | _ => False

instance (x : FloatValue) : Decidable x.InUnit :=
  match x with
  | .number x => inferInstanceAs (Decidable (0 ≤ x ∧ x ≤ 1))
  | .infinite _ => isFalse id
  | .nan => isFalse id

/-- `[tool.agentcore.evaluations]`. -/
def readEvaluations (toml : Toml) (manifestRaw : Items) : Checks AgentEvaluationsConfig := do
  let evaluationsRaw ← optionalTable toml manifestRaw "evaluations" "[tool.agentcore.evaluations]"
  checkUnknownKeys evaluationsRaw evaluationsKeys "[tool.agentcore.evaluations]"
  let threshold ←
    optionalFloat toml evaluationsRaw "threshold" (4 / 5) "[tool.agentcore.evaluations]"
  let evaluationRegion ← optionalString evaluationsRaw "evaluation_region"
    (some defaultEvaluationRegion) "[tool.agentcore.evaluations]"
  .rejectIf (¬ threshold.InUnit)
    "Invalid threshold: [tool.agentcore.evaluations].threshold must be 0.0-1.0"
  pure { threshold, evaluationRegion := evaluationRegion.getD defaultEvaluationRegion }

/-- `AgUiTransport(text)`, or its error with `sse`. -/
def readTransport (text : String) : Checks AgUiTransport :=
  match AgUiTransport.ofValue? text with
  | some transport => pure transport
  | none => .report
      "Invalid transport: [tool.agentcore.ag_ui].transport must be one of: sse, websocket" .sse

/-- `[tool.agentcore.ag_ui]`. -/
def readAgUi (toml : Toml) (manifestRaw : Items) (deploymentType : Option String) :
    Checks AgentAgUiConfig := do
  let agUiRaw ← optionalTable toml manifestRaw "ag_ui" "[tool.agentcore.ag_ui]"
  checkUnknownKeys agUiRaw agUiKeys "[tool.agentcore.ag_ui]"
  let enabled ← optionalBool toml agUiRaw "enabled" false "[tool.agentcore.ag_ui]"
  let transportRaw ← optionalString agUiRaw "transport" (some "sse") "[tool.agentcore.ag_ui]"
  let endpoint ← optionalString agUiRaw "endpoint" none "[tool.agentcore.ag_ui]"
  let transport ← readTransport (transportRaw.getD "sse")
  .rejectIf (enabled = true ∧ deploymentType ≠ some "container")
    ("Invalid AG-UI configuration: [tool.agentcore.ag_ui].enabled requires " ++
      "[tool.agentcore.deployment].type = \"container\"")
  .rejectIf (enabled = true ∧ endpoint = none)
    "Missing required field: [tool.agentcore.ag_ui].endpoint when AG-UI is enabled"
  pure { enabled := enabled, transport, endpoint }

/-! ## The loader -/

/-- The tables of a manifest, one after the other. -/
def readManifest (toml : Toml) (agentName : String) (data : Items) : Checks AgentManifest := do
  let projectRaw ← requireTable data "project" "[project]"
  let toolRaw ← requireTable data "tool" "[tool]"
  let manifestRaw ← requireTable toolRaw "agentcore" "[tool.agentcore]"
  let identity ← readIdentity toml agentName projectRaw manifestRaw
  let llm ← readLlm toml manifestRaw
  let deploymentType ← readDeployment toml manifestRaw
  let runtime ← readRuntime toml manifestRaw deploymentType
  let evaluations ← readEvaluations toml manifestRaw
  let agUi ← readAgUi toml manifestRaw deploymentType
  pure {
    projectName := identity.projectName
    version := identity.version
    name := identity.name
    ownerTeam := identity.ownerTeam
    tierMinimum := identity.tierMinimum
    handler := identity.handler
    invocationMode := identity.invocationMode
    streamingEnabled := identity.streamingEnabled
    estimatedDurationSeconds := intOr identity.estimatedDurationSeconds 5
    deployment := { type := deploymentType.getD "zip" }
    runtime, llm, evaluations, agUi }

/-- What is found where the manifest of an agent is looked for. -/
inductive ManifestFile where
  | missing
  | undecodable (message : String)
  | table (data : Items)

/-- Why no manifest is loaded: a `ManifestValidationError`, or another exception. -/
inductive LoadError where
  | invalid (errors : List String)
  | raised (exc : Exc)

/-- `load_agent_manifest`. -/
def loadAgentManifest (toml : Toml) (agentName tomlPath : String) :
    ManifestFile → Except LoadError AgentManifest
  | .missing => .error (.invalid
      ["pyproject.toml not found for agent '" ++ agentName ++ "' at " ++ tomlPath])
  | .undecodable message => .error (.invalid ["Failed to parse " ++ tomlPath ++ ": " ++ message])
  | .table data => match readManifest toml agentName data with
    | .error exc => .error (.raised exc)
    | .ok (manifest, []) => .ok manifest
    | .ok (_, errors) => .error (.invalid errors)

end A5cCell.Scripts
