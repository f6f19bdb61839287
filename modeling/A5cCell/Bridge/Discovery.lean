import Mathlib.Data.List.Sort
import Mathlib.Data.List.Lex
import Mathlib.Data.Prod.Lex
import Mathlib.Data.String.Basic
import A5cCell.DataAccess.Agent
import A5cCell.DataAccess.Capability
import A5cCell.Bridge.Telemetry

/-!
# Discovery

`discovery_service.py`: the listing of the agents, the detail of one, and the record an invocation
resolves to. The three read the same rows. The listing reads all pages of the table, and groups its
rows by their `agent_name`; the other two read the first page of the agent's partition. The listing
and the detail show the attributes of the newest row, and the resolution decodes it, or the next
newest that can be decoded.

A number read from DynamoDB is a `Decimal`, which `json.dumps` does not take.
-/

namespace A5cCell.Bridge.Discovery

open Py (Val Items Dict)
open DataAccess

/-- The digits of Unicode, which are more than Python's `int` reads. -/
structure Unicode where
  /-- `str.isdigit`, of one character. -/
  isDigit : Char → Bool
  /-- `int` of a text of such characters; `none` where it raises `ValueError`. -/
  intOfDigits : String → Option Nat

/-- The digits of ASCII. -/
def asciiDigits : Unicode where
  isDigit := Char.isDigit
  intOfDigits := fun text => (Py.toInt? text).map Int.toNat

/-- What `_agent_record_sort_key` orders the rows by. -/
abbrev SortKey : Type := List Nat ×ₗ String

/-- `_coerce_optional_string` of an attribute. -/
def optionalText (item : Items) (name : String) : Option String := (item.get name).strOrNone

/-- `str` of an attribute. -/
def textOr (item : Items) (name default : String) : String := (item.get name (.str default)).toStr

/-- `_is_supported_invocation_mode`. -/
def isSupportedInvocationMode (item : Items) : Bool :=
  let mode := Py.lower (Py.strip (textOr item "invocation_mode" "sync"))
  mode = "sync" ∨ mode = "streaming"

/-- One part of a version. -/
def semverPart (unicode : Unicode) (part : String) : Except Exc Nat :=
  let digits := String.ofList (part.toList.filter unicode.isDigit)
  if digits = "" then .ok 0
  else match unicode.intOfDigits digits with
    | some n => .ok n
    | none => .error (.valueError ("invalid literal for int() with base 10: " ++ Py.reprStr digits))

/-- `_semver_sort_key`. -/
def semverSortKey (unicode : Unicode) (version : String) : Except Exc (List Nat) :=
  (Py.splitOn '.' version).mapM (semverPart unicode)

/-- `_agent_record_sort_key`. -/
def agentRecordSortKey (unicode : Unicode) (item : Items) : Except Exc SortKey := do
  let key ← semverSortKey unicode (textOr item "version" "")
  pure (toLex (key, textOr item "deployed_at" ""))

/-- Whether a row may be invoked: its status is that of a promoted version, and its mode is
    supported. -/
def isPromoted (item : Items) : Except Exc Bool := do
  let invokable ← isInvokableAgentStatus (optionalText item "status")
  pure (invokable && isSupportedInvocationMode item)

/-- The rows that may be invoked. -/
def promotedRows : List Items → Except Exc (List Items)
  | [] => .ok []
  | item :: items => do
      let promoted ← isPromoted item
      let rest ← promotedRows items
      pure (if promoted then item :: rest else rest)

/-- The rows with their sort keys. -/
def withSortKeys (unicode : Unicode) : List Items → Except Exc (List (SortKey × Items))
  | [] => .ok []
  | item :: items => do
      let key ← agentRecordSortKey unicode item
      let rest ← withSortKeys unicode items
      pure ((key, item) :: rest)

/-- The rows that may be invoked, newest first; rows of one sort key stay in their order. -/
def promotedNewestFirst (unicode : Unicode) (items : List Items) : Except Exc (List Items) := do
  let promoted ← promotedRows items
  let keyed ← withSortKeys unicode promoted
  pure ((keyed.insertionSort fun a b => b.1 ≤ a.1).map (·.2))

/-! ## The record an invocation resolves to -/

/-- What is asked of an optional, or `ValueError`. -/
def orValueError {α : Type} (value : Option α) : Except Exc α :=
  match value with
  | some a => .ok a
  | none => .error (.valueError "is not a valid value")

/-- The AG-UI attributes of a row: the nested ones, or the flat ones where there are none. -/
def agUiItem (item : Items) : Items :=
  let nested := (item.get "ag_ui" (.dict [])).asDict?.getD []
  if nested.isEmpty ∧ ["ag_ui_enabled", "ag_ui_transport", "ag_ui_endpoint"].any item.has then
    [("enabled", .bool (item.get "ag_ui_enabled" (.bool false)).truthy),
      ("transport", .str (textOr item "ag_ui_transport" "sse")),
      ("endpoint", match optionalText item "ag_ui_endpoint" with
        | some endpoint => .str endpoint
        | none => .none)]
  else nested

/-- The record of a row whose texts are read as these values. -/
def agentRecordOf (item : Items) (tierMinimum : TenantTier) (invocationMode : InvocationMode)
    (status : AgentStatus) (transport : AgUiTransport) : AgentVersion where
  agentName := textOr item "agent_name" ""
  version := textOr item "version" ""
  ownerTeam := textOr item "owner_team" ""
  tierMinimum := tierMinimum
  layerHash := Py.strip (textOr item "layer_hash" "")
  layerS3Key := Py.strip (textOr item "layer_s3_key" "")
  scriptS3Key := textOr item "script_s3_key" ""
  deployedAt := textOr item "deployed_at" ""
  invocationMode := invocationMode
  modelId := none
  streamingEnabled := (item.get "streaming_enabled" (.bool false)).truthy
  status := status
  runtimeArn := optionalText item "runtime_arn"
  runtimeEndpointArn := optionalText item "runtime_endpoint_arn"
  runtimeEndpointName := optionalText item "runtime_endpoint_name"
  runtimeEndpointVersion := optionalText item "runtime_endpoint_version"
  estimatedDurationSeconds := item.get "estimated_duration_seconds"
  agUi :=
    { enabled := ((agUiItem item).get "enabled" (.bool false)).truthy
      transport := transport
      endpoint := optionalText (agUiItem item) "endpoint" }

/-- A row without a runtime that does not name both parts of its layer. -/
def incompleteLayer (item : Items) : Bool :=
  (optionalText item "runtime_arn").isNone &&
    (Py.strip (textOr item "layer_hash" "") = "" ∨ Py.strip (textOr item "layer_s3_key" "") = "")

/-- `_agent_record_from_item`. -/
def agentRecordFromItem (item : Items) : Except Exc AgentVersion := do
  if incompleteLayer item then throw (.valueError "Incomplete zip-agent layer metadata")
  else
    let tierMinimum ← orValueError (TenantTier.ofValue? (textOr item "tier_minimum" "basic"))
    let invocationMode ← orValueError
      (InvocationMode.ofValue? (textOr item "invocation_mode" "sync"))
    let status ← orValueError (AgentStatus.all.find? (·.value = textOr item "status" "promoted"))
    let transport ← orValueError
      (AgUiTransport.ofValue? (textOr (agUiItem item) "transport" "sse"))
    pure (agentRecordOf item tierMinimum invocationMode status transport)

@[simp] theorem orValueError_eq_ok {α : Type} {value : Option α} {a : α} :
    orValueError value = .ok a ↔ value = some a := by
  cases value <;> simp [orValueError]

/-- What a row has to say to be decoded. -/
theorem agentRecordFromItem_eq_ok {item : Items} {agent : AgentVersion} :
    agentRecordFromItem item = .ok agent ↔ incompleteLayer item = false ∧
      ∃ tierMinimum invocationMode status transport,
        TenantTier.ofValue? (textOr item "tier_minimum" "basic") = some tierMinimum ∧
        InvocationMode.ofValue? (textOr item "invocation_mode" "sync") = some invocationMode ∧
        AgentStatus.all.find? (·.value = textOr item "status" "promoted") = some status ∧
        AgUiTransport.ofValue? (textOr (agUiItem item) "transport" "sse") = some transport ∧
        agent = agentRecordOf item tierMinimum invocationMode status transport := by
  unfold agentRecordFromItem
  cases hlayer : incompleteLayer item with
  | true => simp [throw, throwThe, MonadExceptOf.throw]
  | false =>
    simp only [Bool.false_eq_true, if_false, true_and]
    cases TenantTier.ofValue? (textOr item "tier_minimum" "basic") with
    | none => simp [orValueError, bind, Except.bind]
    | some tierMinimum =>
      cases InvocationMode.ofValue? (textOr item "invocation_mode" "sync") with
      | none => simp [orValueError, bind, Except.bind]
      | some invocationMode =>
        cases AgentStatus.all.find? (·.value = textOr item "status" "promoted") with
        | none => simp [orValueError, bind, Except.bind]
        | some status =>
          cases AgUiTransport.ofValue? (textOr (agUiItem item) "transport" "sse") with
          | none => simp [orValueError, bind, Except.bind]
          | some transport =>
            simp [orValueError, bind, Except.bind, pure, Except.pure, eq_comm]

/-- What the rows of an agent resolve to: the newest that can be decoded. -/
def resolveFrom (unicode : Unicode) (items : List Items) : Except Exc (Option AgentVersion) := do
  let newest ← promotedNewestFirst unicode items
  pure (newest.findSome? fun item => (agentRecordFromItem item).toOption)

/-- The partition of an agent. -/
def agentPk (agentName : String) : String := "AGENT#" ++ agentName

/-- What a computation without calls comes to. -/
def ofExcept {α : Type} : Except Exc α → Db α
  | .ok a => .ret a
  | .error exc => .raise exc

/-- `resolve_agent_record`, without a version. -/
def resolveAgentRecord (unicode : Unicode) (agentsTable agentName : String) :
    Db (Option AgentVersion) := do
  let page ← controlPlaneQuery agentsTable (agentPk agentName)
  ofExcept (resolveFrom unicode page.items)

/-! ## What is shown of an agent -/

/-- `_agent_summary_from_item`. -/
structure AgentSummary where
  agentName : String
  latestVersion : String
  tierMinimum : String
  invocationMode : String
  streamingEnabled : Bool
  estimatedDurationSeconds : Val
  ownerTeam : String
  agUiEnabled : Bool
  /-- The transport and the bootstrap path. -/
  agUi : Option (String × String)

def agentSummaryFromItem (item : Items) : AgentSummary :=
  let agentName := textOr item "agent_name" ""
  { agentName := agentName
    latestVersion := textOr item "version" ""
    tierMinimum := textOr item "tier_minimum" "basic"
    invocationMode := textOr item "invocation_mode" "sync"
    streamingEnabled := (item.get "streaming_enabled" (.bool false)).truthy
    estimatedDurationSeconds := item.get "estimated_duration_seconds"
    ownerTeam := textOr item "owner_team" ""
    agUiEnabled := (item.get "ag_ui_enabled" (.bool false)).truthy
    agUi := some (textOr item "ag_ui_transport" "sse", "/v1/agents/" ++ agentName ++ "/bootstrap") }

/-- What the bridge knows of the caller, and of the capabilities. -/
structure Viewer where
  /-- `str.lower`, on all of Unicode. -/
  lower : String → String
  sha256 : String → List Nat
  tenantContext : TenantContext
  capabilityPolicy : Option TenantCapabilityPolicy

/-- Whether the policy, where there is one, enables a capability for the caller's tenant. -/
def Viewer.enables (viewer : Viewer) (capability : String) : Bool :=
  viewer.capabilityPolicy.all fun policy => policy.isEnabledWith viewer.lower viewer.sha256 capability
    viewer.tenantContext.tenantId viewer.tenantContext.tier.value

/-- The summary with AG-UI left out where the policy does not enable it. -/
def withAgUiPolicy (viewer : Viewer) (summary : AgentSummary) : AgentSummary :=
  if summary.agUiEnabled && !(viewer.enables "agents.ag_ui" &&
      viewer.enables ("agents." ++ summary.agentName ++ ".ag_ui")) then
    { summary with agUiEnabled := false, agUi := none }
  else summary

/-- The minimum tier `list_agents` reads: basic, where the text is no tier. -/
def listedTierMinimum (item : Items) : TenantTier :=
  (TenantTier.ofValue? (Py.lower (textOr item "tier_minimum" "basic"))).getD .basic

/-- Whether `json.dumps` takes a value read from DynamoDB. -/
def dumpable : Val → Bool
  | .int _ => false
  | .list xs => dumpableList xs
  | .dict kvs => dumpableItems kvs
  | .obj _ => false
  | _ => true
where
  dumpableList : List Val → Bool
    | [] => true
    | x :: xs => dumpable x && dumpableList xs
  dumpableItems : List (String × Val) → Bool
    | [] => true
    | (_, x) :: kvs => dumpable x && dumpableItems kvs

/-- The newest row of each agent, in the order the agents are first met. -/
abbrev Latest : Type := Dict String Items

/-- One row of the loop of `list_agents`. -/
def listRow (unicode : Unicode) (latestByName : Latest) (item : Items) : Except Exc Latest := do
  if !(← isPromoted item) then pure latestByName
  else match optionalText item "agent_name" with
    | none => pure latestByName
    | some agentName => match latestByName.get? agentName with
      | none => pure (latestByName.set agentName item)
      | some existing => do
          let key ← agentRecordSortKey unicode item
          let existingKey ← agentRecordSortKey unicode existing
          pure (if existingKey < key then latestByName.set agentName item else latestByName)

/-- The summaries `list_agents` lists of the rows of the table. -/
def listFrom (unicode : Unicode) (viewer : Viewer) (items : List Items) :
    Except Exc (List AgentSummary) := do
  let latestByName ← items.foldlM (listRow unicode) Dict.empty
  let visible := (latestByName.items.map (·.2)).filter fun item =>
    (listedTierMinimum item).order ≤ viewer.tenantContext.tier.order
  let summaries := visible.map fun item => withAgUiPolicy viewer (agentSummaryFromItem item)
  if summaries.all fun summary => dumpable summary.estimatedDurationSeconds then
    pure (summaries.insertionSort fun a b => a.agentName ≤ b.agentName)
  else throw (.typeError "Object of type Decimal is not JSON serializable")

/-- `list_agents`. -/
def listAgents (unicode : Unicode) (viewer : Viewer) (agentsTable : String) (pages : Nat) :
    Db (List AgentSummary) := do
  let items ← controlPlaneScanAll agentsTable none pages
  ofExcept (listFrom unicode viewer items)

/-- One version in `get_agent_detail`. -/
structure VersionSummary where
  version : String
  deployedAt : String
  invocationMode : String
  streamingEnabled : Bool
  agUiEnabled : Bool
  agUiTransport : String

def versionSummary (item : Items) : VersionSummary where
  version := textOr item "version" ""
  deployedAt := textOr item "deployed_at" ""
  invocationMode := textOr item "invocation_mode" "sync"
  streamingEnabled := (item.get "streaming_enabled" (.bool false)).truthy
  agUiEnabled := (item.get "ag_ui_enabled" (.bool false)).truthy
  agUiTransport := textOr item "ag_ui_transport" "sse"

/-- What `get_agent_detail` shows of the rows of an agent; `none` where it answers 404. -/
def detailFrom (unicode : Unicode) (viewer : Viewer) (items : List Items) :
    Except Exc (Option (AgentSummary × List VersionSummary)) := do
  match ← promotedNewestFirst unicode items with
  | [] => pure none
  | latest :: older =>
      let detail := withAgUiPolicy viewer (agentSummaryFromItem latest)
      if dumpable detail.estimatedDurationSeconds then
        pure (some (detail, (latest :: older).map versionSummary))
      else throw (.typeError "Object of type Decimal is not JSON serializable")

/-- `get_agent_detail`, of an agent that is named. -/
def getAgentDetail (unicode : Unicode) (viewer : Viewer) (agentsTable agentName : String) :
    Db (Option (AgentSummary × List VersionSummary)) := do
  let page ← controlPlaneQuery agentsTable (agentPk agentName)
  ofExcept (detailFrom unicode viewer page.items)

end A5cCell.Bridge.Discovery
