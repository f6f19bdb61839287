import A5cCell.Lib.Value
import A5cCell.DataAccess.Capability
import A5cCell.Bridge.TpmLimiter

/-!
# Invoking an agent

The path of an invocation: `handle_invoke_request` admits it against the token limiter,
`invoke_agent` calls the runtime, whose telemetry counts the tokens it reports, and
`_perform_tpm_correction` settles the estimate. Each of the three names the model in its own way
when the agent has no model id.

The runtime, and everything between it and the call (the role assumed, the region, the HTTP
session), is outside: what came back is `Upstream`. `json.loads` is a parameter, `none` where it
raises `ValueError`.
-/

namespace A5cCell.Bridge

open Py (Val Items truthyText)

/-- What `error_response` is told. No error is answered with a success status: the statuses in
    the code are 4xx and 5xx, and botocore raises a `ClientError` from status 300 on. -/
structure ErrorResponse where
  statusCode : Int
  code : String
  message : String
  statusCode_ge : 300 ≤ statusCode
  deriving DecidableEq

/-- What the bridge looks a request up in. -/
structure BridgeEnv where
  /-- `str.lower`, on all of Unicode. -/
  lower : String → String
  sha256 : String → List Nat
  getAgentRecord : String → Option AgentRecord
  capabilityPolicy : Option TenantCapabilityPolicy

/-- A request to invoke an agent. -/
structure InvokeRequest where
  path : String
  pathParams : Items
  body : Option String

/-- The arguments `invoke_agent` is called with. -/
structure AgentCall where
  agent : AgentRecord
  prompt : String
  sessionId : Option String
  estimate : Nat
  deriving DecidableEq

/-- What `handle_invoke_request` comes to: an error, the 429 of the limiter, an exception, or the
    agent called. -/
inductive Handled where
  | error (response : ErrorResponse)
  | throttled (result : RateLimitResult) (modelId : String)
  | raised
  | invoke (call : AgentCall)

/-- `is_invoke_contract_path`. -/
def isInvokeContractPath (path : String) (agentName : Option String) : Bool :=
  match agentName with
  | none => false
  | some name => Py.endsWith path ("/agents/" ++ name ++ "/invoke")

/-- `estimate_tokens`. -/
def estimateTokens (text : String) : Nat :=
  if text = "" then 0 else max 1 (text.toList.length / 4)

/-- The model an invocation is counted on when it is admitted. -/
def enforcementModel (agent : AgentRecord) : String := (truthyText agent.modelId).getD "unknown"

/-- The model its estimate is corrected on. -/
def correctionModel (agent : AgentRecord) : String :=
  (truthyText agent.modelId).getD agent.agentName

/-- The first half of `handle_invoke_request`: who is called with what, or why nobody is. -/
def resolveInvocation (jsonLoads : String → Option Val) (env : BridgeEnv)
    (tenantContext : TenantContext) (request : InvokeRequest) :
    Except (Option ErrorResponse) AgentCall :=
  let agentName := (request.pathParams.get "agentName").strOrNone
  if request.path ≠ "" ∧ !isInvokeContractPath request.path agentName then
    .error (some ⟨404, "NOT_FOUND", "Route not found", by decide⟩)
  else match agentName with
    | none => .error (some ⟨400, "INVALID_REQUEST", "Missing agentName in path", by decide⟩)
    | some agentName =>
        match jsonLoads ((truthyText request.body).getD "\x7b\x7d") with
        | none => .error (some ⟨400, "INVALID_REQUEST", "Invalid JSON in request body", by decide⟩)
        | some body => match body.asDict? with
          | none => .error none
          | some body => match (body.get "input").strOrNone with
            | none => .error (some ⟨400, "INVALID_REQUEST", "Missing 'input' in request body",
                by decide⟩)
            | some prompt => match env.getAgentRecord agentName with
              | none => .error (some ⟨404, "NOT_FOUND", "Agent '" ++ agentName ++ "' not found",
                  by decide⟩)
              | some agent =>
                  let enabled (capability : String) : Bool :=
                    env.capabilityPolicy.all fun policy =>
                      policy.isEnabledWith env.lower env.sha256 capability tenantContext.tenantId
                        tenantContext.tier.value
                  if tenantContext.tier.order < agent.tierMinimum.order then
                    .error (some ⟨403, "FORBIDDEN", "Tenant tier insufficient for this agent",
                      by decide⟩)
                  else if !enabled "agents.invoke" then
                    .error (some ⟨403, "FORBIDDEN", "Agent invocation capability disabled",
                      by decide⟩)
                  else if !enabled ("agents." ++ agentName) then
                    .error (some ⟨403, "FORBIDDEN", "Access to agent '" ++ agentName ++
                      "' is not enabled for this tenant", by decide⟩)
                  else .ok ⟨agent, prompt, (body.get "sessionId").strOrNone,
                    estimateTokens prompt⟩

/-- The limit of a model for a tier, 0 where there is no policy. -/
def tpmLimit (env : BridgeEnv) (modelId : String) (tier : TenantTier) : Int :=
  match env.capabilityPolicy with
  | none => 0
  | some policy => policy.getTpmLimit modelId tier

/-- `handle_invoke_request`. -/
def handleInvokeRequest (jsonLoads : String → Option Val) (env : BridgeEnv) (link : Link)
    (store : Valkey) (now served : ℚ) (tenantContext : TenantContext) (request : InvokeRequest) :
    Handled × Valkey :=
  match resolveInvocation jsonLoads env tenantContext request with
  | .error none => (.raised, store)
  | .error (some response) => (.error response, store)
  | .ok call =>
      let modelId := enforcementModel call.agent
      let limit := tpmLimit env modelId tenantContext.tier
      if limit > 0 ∨ link ≠ .absent then
        let (result, store) := TokenLimiter.checkAndIncrement link store now served
          tenantContext.tenantId modelId limit call.estimate
        (if result.allowed then .invoke call else .throttled result modelId, store)
      else (.invoke call, store)

/-! ## What the runtime answers -/

/-- `TokenUsage`. `_coerce_int` never answers a negative number. -/
structure TokenUsage where
  inputTokens : Nat
  outputTokens : Nat
  modelId : Option String

def TokenUsage.totalTokens (usage : TokenUsage) : Nat := usage.inputTokens + usage.outputTokens

/-- `_coerce_int`; `none` where `int` raises `OverflowError`, which it does not catch. -/
def coerceInt (value : Val) : Option Nat :=
  match value.toInt with
  | .ok n => some n.toNat
  | .invalid => some 0
  | .overflow => none

/-- `extract_token_usage`. -/
def extractTokenUsage (jsonLoads : String → Option Val) (bodyText : String) : Option TokenUsage :=
  match (jsonLoads bodyText).bind Val.asDict? with
  | none => some ⟨0, 0, none⟩
  | some payload => do
      let usage := ((payload.get "usage").asDict?).getD payload
      let inputTokens ← coerceInt (usage.get "inputTokens" (usage.get "input_tokens"))
      let outputTokens ← coerceInt (usage.get "outputTokens" (usage.get "output_tokens"))
      let outputTokens ←
        if inputTokens = 0 ∧ outputTokens = 0 then
          coerceInt (usage.get "totalTokens" (usage.get "total_tokens"))
        else some outputTokens
      let modelId := payload.get "modelId" (payload.get "model_id")
      some ⟨inputTokens, outputTokens, if modelId.isNone then none else some modelId.toStr⟩

/-- Which runtime is called: the one `mock_runtime_url` names, or AgentCore. -/
inductive Runtime where
  | mock
  | real
  deriving DecidableEq

/-- What became of a call: it was refused before the runtime was reached, it raised while the
    runtime was called or around that, or the runtime answered. -/
inductive Upstream where
  | refused (response : ErrorResponse)
  | failed (response : ErrorResponse)
  | raised (response : ErrorResponse)
  | answered (runtime : Runtime) (statusCode : Int) (body : String)
  deriving DecidableEq

/-- What `invoke_agent` answers. -/
inductive RuntimeResponse where
  | error (response : ErrorResponse)
  | answer (statusCode : Int) (body : String)

/-- What telemetry is told of an invocation. -/
structure Report where
  actualTokens : Int
  estimatedTokens : Int
  modelId : Option String

/-- What a raising `extract_token_usage` is answered with: its `OverflowError` is caught around
    the call, like any failure. -/
def unreadableUsage : ErrorResponse :=
  ⟨502, "RUNTIME_INVOCATION_FAILED", "cannot convert float infinity to integer", by decide⟩

/-- What `log_invocation` is called with, if it is called. -/
def reportOf (jsonLoads : String → Option Val) (call : AgentCall) (upstream : Upstream) :
    Option Report :=
  if call.agent.invocationMode = .async then none
  else match upstream with
    | .refused _ => none
    | .failed _ => some ⟨0, 0, none⟩
    | .raised _ => some ⟨0, call.estimate, none⟩
    | .answered _ _ body => match extractTokenUsage jsonLoads body with
      | none => some ⟨0, 0, none⟩
      | some usage => some ⟨usage.inputTokens + usage.outputTokens, call.estimate, usage.modelId⟩

/-- What the runtime call comes back with. -/
def runtimeResponse (jsonLoads : String → Option Val) (call : AgentCall) (upstream : Upstream) :
    RuntimeResponse :=
  if call.agent.invocationMode = .async then
    .error ⟨422, "UNSUPPORTED_INVOCATION_MODE",
      "Async invocation is not supported by the v0.2 platform contract", by decide⟩
  else match upstream with
    | .refused response => .error response
    | .failed response => .error response
    | .raised response => .error response
    | .answered _ statusCode body => match extractTokenUsage jsonLoads body with
      | none => .error unreadableUsage
      | some _ => .answer statusCode body

/-- The counter's part of `log_invocation`. It is not reached when the audit row cannot be
    written. -/
def logInvocation (link : Link) (store : Valkey) (now served : ℚ) (tenantContext : TenantContext)
    (agent : AgentRecord) (audited : Bool) (report : Report) : Valkey :=
  if audited then
    (recordLogOnlyTpm link store now served tenantContext agent report.actualTokens
      report.estimatedTokens report.modelId).2
  else store

/-- `_perform_tpm_correction`. -/
def performTpmCorrection (jsonLoads : String → Option Val) (link : Link) (store : Valkey)
    (now served : ℚ) (agent : AgentRecord) (tenantContext : TenantContext) (estimate : Nat)
    (bodyText : String) : Valkey :=
  if agent.invocationMode = .streaming then store
  else match extractTokenUsage jsonLoads bodyText with
    | none => store
    | some usage =>
        let actual := usage.totalTokens
        if actual > 0 ∨ estimate > 0 then
          (TokenLimiter.correctUsage link store now served tenantContext.tenantId
            (correctionModel agent) estimate actual).2
        else store

/-- The end of `invoke_agent`: a response of status 200 is corrected. -/
def settle (jsonLoads : String → Option Val) (link : Link) (store : Valkey) (now served : ℚ)
    (tenantContext : TenantContext) (call : AgentCall) (upstream : Upstream) : Valkey :=
  match runtimeResponse jsonLoads call upstream with
  | .answer statusCode body =>
      if statusCode = 200 then performTpmCorrection jsonLoads link store now served call.agent
        tenantContext call.estimate body
      else store
  | .error _ => store

/-- The tokens an invocation used: what the runtime says, and none where it failed. The mock
    runtime fails by its status. -/
def actualTokens (jsonLoads : String → Option Val) : Upstream → Nat
  | .answered runtime statusCode body =>
      if runtime = .mock ∧ 400 ≤ statusCode then 0
      else match extractTokenUsage jsonLoads body with
        | none => 0
        | some usage => usage.totalTokens
  | _ => 0

end A5cCell.Bridge
