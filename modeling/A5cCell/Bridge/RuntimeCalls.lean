import A5cCell.Bridge.Telemetry

/-!
# The runtime calls

`runtime_calls.py`: the call of the AgentCore runtime an agent names, under the role of the tenant,
and the call of the mock runtime. Both answer the caller and write the audit record; what raises
before the runtime is called leaves that to the caller.
-/

namespace A5cCell.Bridge.RuntimeCalls

open Py (Val Items Dict truthyText)
open DataAccess

/-- `_agent_optional_string`. -/
def agentOptionalString (value : Option String) : Option String :=
  value.bind fun text => (Val.str text).strOrNone

def iamRoleArnPattern : String :=
  "^arn:(?:aws|aws-us-gov|aws-cn):iam::(?P<account_id>\\d\x7b12\x7d):role/(?P<role_name>[\\w+=,.@\\-_/]+)$"

/-- `validate_execution_role_arn`; an error is the text of the `ValueError`. -/
def validateExecutionRoleArn (env : Surroundings) (roleArn expectedAccountId : String) :
    Except String String :=
  match env.fullmatch iamRoleArnPattern roleArn with
  | none => .error "Tenant execution role ARN is malformed"
  | some groups =>
      if groups.lookup "account_id" ≠ some expectedAccountId then
        .error "Tenant execution role ARN account mismatch"
      else .ok roleArn

/-- `build_runtime_payload`. -/
def buildRuntimePayload (inv : AgentInvocation) : Items :=
  [("prompt", .str inv.prompt),
    ("input", .str inv.prompt),
    ("mode", .str inv.agent.invocationMode.value),
    ("appid", .str inv.tenantContext.appId),
    ("tenantId", .str inv.tenantContext.tenantId),
    ("agentName", .str inv.agent.agentName),
    ("agentVersion", .str inv.agent.version)] ++
  match truthyText inv.sessionId with
  | some sessionId => [("sessionId", .str sessionId)]
  | none => []

/-- `validate_runtime_arn`. -/
def validateRuntimeArn (env : Surroundings) (runtimeArn : String) :
    Except BridgeExc (List (String × String)) :=
  match env.fullmatch runtimeArnPattern runtimeArn with
  | none => .error (.other "Agent runtime ARN is malformed")
  | some groups => .ok groups

/-- `validate_runtime_endpoint`; an error is the text of the `ValueError`. -/
def validateRuntimeEndpoint (env : Surroundings) (runtimeArnMatch : List (String × String))
    (runtimeEndpointArn runtimeEndpointName : Option String) : Except String (Option String) :=
  match runtimeEndpointArn, runtimeEndpointName with
  | none, none => .ok none
  | some endpointArn, some endpointName =>
      match env.fullmatch runtimeEndpointArnPattern endpointArn with
      | none => .error "Agent runtime endpoint ARN is malformed"
      | some endpointMatch =>
          let sameParts := ["partition", "region", "account_id", "runtime_id"].all fun field =>
            endpointMatch.lookup field = runtimeArnMatch.lookup field
          if !sameParts then .error "Agent runtime endpoint ARN does not match runtime ARN"
          else if !Py.startsWith ((endpointMatch.lookup "endpoint_id").getD "")
              (endpointName ++ "-") then
            .error "Agent runtime endpoint ARN does not match endpoint name"
          else .ok (some endpointName)
  | _, _ => .error "Agent runtime endpoint ARN and name must both be configured"

/-! ## Failures -/

/-- The status, the code and the message `runtime_failure_response` makes of an exception. -/
def failure : BridgeExc → Int × String × String
  | .clientError code message httpStatusCode =>
      ((httpStatusCode.map (·.code)).getD 502,
        (truthyText code).getD "RUNTIME_INVOCATION_FAILED",
        (truthyText message).getD "Agent runtime invocation failed")
  | .other text =>
      (502, "RUNTIME_INVOCATION_FAILED",
        (truthyText (some text)).getD "Agent runtime invocation failed")

/-- `runtime_failure_response`. -/
def runtimeFailureResponse (env : Surroundings) (inv : AgentInvocation) (runtimeRegion : String)
    (exc : BridgeExc) (tpmEstimated : Nat) : Handling HttpResponse := do
  let (statusCode, errorCode, message) := failure exc
  let _ ← Telemetry.logInvocation env inv .error inv.sessionId runtimeRegion noUsage tpmEstimated
    (some errorCode)
  pure (errorResponse statusCode errorCode message inv.requestId)

/-- How a failure is answered around a runtime call. -/
def failedCall (env : Surroundings) (inv : AgentInvocation) (runtimeRegion : String)
    (exc : BridgeExc) : Handling HttpResponse := do
  let errorResp ← runtimeFailureResponse env inv runtimeRegion exc 0
  pure (errorResp.updateHeaders (buildRateLimitHeaders none env.startTime))

/-- `extract_token_usage`, which raises for an infinite number. -/
def tokenUsageOf (env : Surroundings) (bodyText : String) : Except BridgeExc TokenUsage :=
  match extractTokenUsage env.jsonLoads bodyText with
  | none => .error (.other "cannot convert float infinity to integer")
  | some usage => .ok usage

/-! ## The AgentCore runtime -/

/-- How `invoke_real_runtime` ends before it calls the runtime. -/
inductive Stop where
  | respond (response : HttpResponse)
  | raised (exc : BridgeExc)

def invalidRuntime (inv : AgentInvocation) (message : String) : HttpResponse :=
  errorResponse 500 "INVALID_RUNTIME" message inv.requestId

/-- The runtime an agent names: the ARN it is called under, and the qualifier of its endpoint. -/
def resolveRuntime (env : Surroundings) (inv : AgentInvocation) :
    Except Stop (String × Option String) :=
  match agentOptionalString inv.agent.runtimeArn with
  | none => .error (.respond (invalidRuntime inv "Agent runtime ARN not configured"))
  | some runtimeArn => do
      let runtimeArnMatch ← (validateRuntimeArn env runtimeArn).mapError .raised
      let endpointArn := agentOptionalString inv.agent.runtimeEndpointArn
      let runtimeArnRegion := (runtimeArnMatch.lookup "region").getD ""
      let (runtimeArn, runtimeArnMatch) ←
        if runtimeArnRegion ≠ env.runtimeRegion then
          if endpointArn ≠ none then
            .error (.respond (invalidRuntime inv
              "Agent runtime endpoint region does not match active runtime region"))
          else do
            let runtimeArn := Py.replaceFirst runtimeArn (":" ++ runtimeArnRegion ++ ":")
              (":" ++ env.runtimeRegion ++ ":")
            let runtimeArnMatch ← (validateRuntimeArn env runtimeArn).mapError .raised
            pure (runtimeArn, runtimeArnMatch)
        else pure (runtimeArn, runtimeArnMatch)
      let qualifier ← (validateRuntimeEndpoint env runtimeArnMatch endpointArn
        (agentOptionalString inv.agent.runtimeEndpointName)).mapError fun message =>
          .respond (invalidRuntime inv message)
      pure (runtimeArn, qualifier)

/-- The role of the tenant: the one its record names, or the one SSM has. -/
def resolveExecutionRole (env : Surroundings) (inv : AgentInvocation) :
    Except HttpResponse String :=
  let tenantRecord := env.tenantRecord.getD []
  if tenantRecord.isEmpty then
    .error (errorResponse 404 "NOT_FOUND" "Tenant metadata not found" inv.requestId)
  else
    let named := ((tenantRecord.get "executionRoleArn").or
      (tenantRecord.get "execution_role_arn")).strOrNone
    match named.or (truthyText env.executionRole) with
    | none => .error (invalidRuntime inv "Tenant execution role ARN not configured")
    | some roleArn =>
        match ((tenantRecord.get "accountId").or (tenantRecord.get "account_id")).strOrNone with
        | none => .ok roleArn
        | some expectedAccountId =>
            (validateExecutionRoleArn env roleArn expectedAccountId).mapError (invalidRuntime inv)

/-- An answer of the runtime with its body read, and the usage the body reports. -/
structure ReadAnswer where
  fields : Items
  bodyText : String
  tokenUsage : TokenUsage

/-- What the runtime answers the invocation. -/
def runtimeAnswer (env : Surroundings) (inv : AgentInvocation) (runtimeArn : String)
    (qualifier : Option String) (credentials : Items) : Except BridgeExc ReadAnswer := do
  env.runtimeClient env.runtimeRegion credentials
  let answer ← env.invokeAgentRuntime
    { region := env.runtimeRegion
      agentRuntimeArn := runtimeArn
      payload := buildRuntimePayload inv
      runtimeSessionId := truthyText inv.sessionId
      qualifier := truthyText qualifier }
  let bodyText ← answer.body
  let tokenUsage ← tokenUsageOf env bodyText
  pure { fields := answer.fields, bodyText := bodyText, tokenUsage := tokenUsage }

/-- The status of an answer, 200 where it has none. -/
def answeredStatus (env : Surroundings) (fields : Items) : Except BridgeExc Int :=
  let value := fields.get "statusCode" (.int 200)
  match value.toInt with
  | .ok n => .ok n
  | .invalid => .error (.other (env.intError value))
  | .overflow => .error (.other "cannot convert float infinity to integer")

/-- The headers an answer of the runtime is passed on with. -/
def answerHeaders (env : Surroundings) (fields : Items) (tpmResult : Option TpmCounterResult) :
    Headers :=
  let contentType := ("Content-Type", (fields.get "contentType" (.str "application/json")).toStr)
  let headers := match (fields.get "runtimeSessionId").strOrNone with
    | some runtimeSessionId => [contentType, ("x-runtime-session-id", runtimeSessionId)]
    | none => [contentType]
  (Dict.ofItems headers).update (buildRateLimitHeaders tpmResult env.startTime)

/-- The call of the runtime, in the `try` of `invoke_real_runtime`. The status is read last, after
    the success has been logged. -/
def callRuntime (env : Surroundings) (inv : AgentInvocation) (runtimeArn : String)
    (qualifier : Option String) (credentials : Items) : Handling HttpResponse := do
  let answer ← Handling.ofExcept (runtimeAnswer env inv runtimeArn qualifier credentials)
  let tpmResult ← Telemetry.logInvocation env inv .success inv.sessionId env.runtimeRegion
    answer.tokenUsage inv.estimate none
  let headers := answerHeaders env answer.fields tpmResult
  let statusCode ← Handling.ofExcept (answeredStatus env answer.fields)
  pure { statusCode := statusCode, headers := headers, body := .text answer.bodyText }

/-- `invoke_real_runtime`. -/
def invokeRealRuntime (env : Surroundings) (inv : AgentInvocation) : Handling HttpResponse :=
  match resolveRuntime env inv with
  | .error (.respond response) => pure response
  | .error (.raised exc) => .raise exc
  | .ok (runtimeArn, qualifier) =>
      match resolveExecutionRole env inv with
      | .error response => pure response
      | .ok roleArn => do
          let credentials ← Handling.ofExcept (env.assumeRole roleArn)
          (callRuntime env inv runtimeArn qualifier credentials).tryExcept
            (failedCall env inv env.runtimeRegion)

/-! ## The mock runtime -/

/-- What the mock runtime answers the invocation, and the usage its text reports. -/
def mockAnswer (env : Surroundings) (inv : AgentInvocation) (url : String) :
    Except BridgeExc (MockAnswer × TokenUsage) := do
  let answer ← env.post (Py.rstripChar '/' url) (buildRuntimePayload inv)
  let tokenUsage ← tokenUsageOf env answer.text
  pure (answer, tokenUsage)

/-- How an answer of the mock runtime is logged and passed on. -/
def passMockAnswer (env : Surroundings) (inv : AgentInvocation) (answer : MockAnswer)
    (tokenUsage : TokenUsage) : Handling HttpResponse := do
  let status := if answer.ok then .success else .error
  let tpmResult ← Telemetry.logInvocation env inv status inv.sessionId "mock-runtime" tokenUsage
    inv.estimate none
  let headers := Dict.ofItems [("Content-Type", answer.contentType.getD "application/json")]
  pure
    { statusCode := answer.statusCode
      headers := headers.update (buildRateLimitHeaders tpmResult env.startTime)
      body := .text answer.text }

/-- The call of the mock runtime, in the `try` of `invoke_mock_runtime`. -/
def callMockRuntime (env : Surroundings) (inv : AgentInvocation) (url : String) :
    Handling HttpResponse := do
  let answer ← Handling.ofExcept (mockAnswer env inv url)
  passMockAnswer env inv answer.1 answer.2

/-- `invoke_mock_runtime`. -/
def invokeMockRuntime (env : Surroundings) (inv : AgentInvocation) (url : String) :
    Handling HttpResponse :=
  (callMockRuntime env inv url).tryExcept (failedCall env inv "mock-runtime")

end A5cCell.Bridge.RuntimeCalls
