import A5cCell.Lib.Prog
import A5cCell.DataAccess.Agent
import A5cCell.Bridge.Invocation

/-!
# What an invocation writes

Under `handle_invoke_request`, an invocation of an agent talks to the runtime and the services
around it, writes its audit record, and may write to the caller's response stream. What the others
answer is `Surroundings`; what is written is the calls of a program that is not answered, so that
what a caller sees and what the audit table holds can be read off one list.

Invocation storage is available throughout. `log_invocation` still writes nothing where `boto3`
cannot serialise the record, and says nothing of it.

Times are left out: the latency, the time stamps and the sort key made of them. Metrics are too.
-/

namespace A5cCell.Bridge

open Py (Val Items Dict truthyText)
open DataAccess

/-- `InvocationStatus`. -/
inductive InvocationStatus where
  | success
  | error
  | timeout
  | throttled
  deriving DecidableEq

/-- `InvocationRecord`, and the item `log_invocation` makes of it. -/
structure InvocationRecord where
  invocationId : String
  tenantId : String
  appId : String
  agentName : String
  agentVersion : String
  sessionId : String
  inputTokens : Nat
  outputTokens : Nat
  status : InvocationStatus
  runtimeRegion : String
  invocationMode : InvocationMode
  errorCode : Option String
  deriving DecidableEq

/-- Whether `boto3` takes the record: it keeps numbers to 38 digits, and raises for longer ones. -/
def InvocationRecord.serialisable (record : InvocationRecord) : Bool :=
  record.inputTokens < 10 ^ 38 ∧ record.outputTokens < 10 ^ 38

/-- What a body is made of: an error, a text, or a line of the upstream with the blank line that is
    written after it. -/
inductive Body where
  | error (code message requestId : String)
  | text (text : String)
  | line (raw : List UInt8)
  deriving DecidableEq

abbrev Headers : Type := Dict String String

structure HttpResponse where
  statusCode : Int
  headers : Headers
  body : Body

/-- What is written to the response stream. -/
inductive Chunk where
  | preamble (statusCode : Int) (headers : Headers)
  | body (body : Body)

/-- What an invocation does that others see. -/
inductive Act where
  | putItem (record : InvocationRecord)
  | write (chunk : Chunk)

def Act.record? : Act → Option InvocationRecord
  | putItem record => some record
  | write _ => none

def Act.chunk? : Act → Option Chunk
  | putItem _ => none
  | write chunk => some chunk

/-- A status `botocore` raises a `ClientError` for. -/
structure RaisedStatus where
  code : Int
  code_ge : 300 ≤ code

/-- The exceptions the bridge tells apart: a `ClientError` with what its response says, and any
    other with its text. -/
inductive BridgeExc where
  | clientError (code message : Option String) (httpStatusCode : Option RaisedStatus)
  | other (text : String)

/-- The error code of a `ClientError`, empty where there is none. -/
def BridgeExc.code : BridgeExc → String
  | clientError code _ _ => code.getD ""
  | other _ => ""

/-- A program of the bridge. -/
abbrev Handling (α : Type) : Type := Prog Act (fun _ => Unit) BridgeExc α

def Handling.ofExcept {α : Type} : Except BridgeExc α → Handling α
  | .ok a => .ret a
  | .error exc => .raise exc

def Handling.write (chunk : Chunk) : Handling Unit := .call (.write chunk) .ret

/-- What `invoke_agent_runtime` is called with. -/
structure RuntimeRequest where
  region : String
  agentRuntimeArn : String
  payload : Items
  runtimeSessionId : Option String
  qualifier : Option String

/-- What it answers: the fields, and the body, which is read and decoded after. -/
structure RuntimeAnswer where
  fields : Items
  body : Except BridgeExc String

/-- What the mock runtime answers. A streamed body is its lines, up to its end or to where reading it
    raises. -/
structure MockAnswer where
  statusCode : Int
  contentType : Option String
  text : String
  lines : List (List UInt8)
  broken : Option BridgeExc

/-- `response.ok`: that `raise_for_status` does not raise. -/
def MockAnswer.ok (answer : MockAnswer) : Bool := !(400 ≤ answer.statusCode ∧ answer.statusCode < 600)

/-- What stands around one invocation: the libraries, the configuration, and what each service
    answers it. -/
structure Surroundings where
  jsonLoads : String → Option Val
  /-- `pattern.fullmatch(text)`: the named groups. -/
  fullmatch : String → String → Option (List (String × String))
  /-- The text of the exception of `int(value)`. -/
  intError : Val → String
  mockRuntimeUrl : Val
  runtimeRegion : String
  invocationId : String
  startTime : ℚ
  /-- `get_tenant_record`; `none` also where it fails. -/
  tenantRecord : Option Items
  /-- The role SSM has for the tenant; `none` also where it fails. -/
  executionRole : Option String
  assumeRole : String → Except BridgeExc Items
  runtimeClient : String → Items → Except BridgeExc Unit
  invokeAgentRuntime : RuntimeRequest → Except BridgeExc RuntimeAnswer
  post : String → Items → Except BridgeExc MockAnswer
  /-- `record_log_only_tpm`. -/
  recordLogOnlyTpm : Nat → Nat → Option String → TpmCounterResult
  /-- What `_default_counter_client` raises, if the endpoint it is configured with is malformed. -/
  counterClientError : Option String

/-- What `invoke_agent` is called with. -/
structure AgentInvocation where
  agent : AgentVersion
  tenantContext : TenantContext
  prompt : String
  sessionId : Option String
  requestId : String
  /-- Whether there is a stream to respond on. -/
  responseStream : Bool
  estimate : Nat

/-- The record `log_invocation` makes of its arguments. -/
def Telemetry.invocationRecord (env : Surroundings) (inv : AgentInvocation)
    (status : InvocationStatus) (sessionId : Option String) (runtimeRegion : String)
    (usage : TokenUsage) (errorCode : Option String) : InvocationRecord where
  invocationId := env.invocationId
  tenantId := inv.tenantContext.tenantId
  appId := inv.tenantContext.appId
  agentName := inv.agent.agentName
  agentVersion := inv.agent.version
  sessionId := (truthyText sessionId).getD "unknown-session"
  inputTokens := usage.inputTokens
  outputTokens := usage.outputTokens
  status := status
  runtimeRegion := runtimeRegion
  invocationMode := inv.agent.invocationMode
  errorCode := truthyText errorCode

/-- `log_invocation`. It raises nothing. -/
def Telemetry.logInvocation (env : Surroundings) (inv : AgentInvocation) (status : InvocationStatus)
    (sessionId : Option String) (runtimeRegion : String) (usage : TokenUsage)
    (estimatedTokens : Nat) (errorCode : Option String) : Handling (Option TpmCounterResult) :=
  let record := invocationRecord env inv status sessionId runtimeRegion usage errorCode
  if record.serialisable then
    .call (.putItem record) fun _ => .ret (some
      (env.recordLogOnlyTpm (usage.inputTokens + usage.outputTokens) estimatedTokens usage.modelId))
  else .ret none

/-- The usage of an invocation that has none. -/
def noUsage : TokenUsage := ⟨0, 0, none⟩

/-- A record without usage is always written. -/
theorem Telemetry.logInvocation_noUsage (env : Surroundings) (inv : AgentInvocation)
    (status : InvocationStatus) (sessionId : Option String) (runtimeRegion : String)
    (estimatedTokens : Nat) (errorCode : Option String) :
    logInvocation env inv status sessionId runtimeRegion noUsage estimatedTokens errorCode =
      .call (.putItem (invocationRecord env inv status sessionId runtimeRegion noUsage errorCode))
        fun _ => .ret (some (env.recordLogOnlyTpm 0 estimatedTokens none)) := by
  have hserialisable : (invocationRecord env inv status sessionId runtimeRegion noUsage
      errorCode).serialisable = true := by
    simp [invocationRecord, InvocationRecord.serialisable, noUsage]
  unfold logInvocation
  rw [if_pos hserialisable]
  rfl

/-- `build_rate_limit_headers`, as it is called: without limits. -/
def buildRateLimitHeaders (tpmResult : Option TpmCounterResult) (now : ℚ) : List (String × String) :=
  let (usedTpm, resetTs) := match tpmResult.filter (!·.skipped) with
    | some result => (toString result.windowUsage, toString result.windowExpiry)
    | none => ("0", toString (windowExpiry now))
  [("x-ratelimit-limit-tpm", "unlimited"),
    ("x-ratelimit-used-tpm", usedTpm),
    ("x-ratelimit-limit-rpm", "unlimited"),
    ("x-ratelimit-used-rpm", "0"),
    ("x-ratelimit-reset", resetTs)]

/-- `error_response`. -/
def errorResponse (statusCode : Int) (code message requestId : String) : HttpResponse where
  statusCode := statusCode
  headers := Dict.ofItems [("Content-Type", "application/json"), ("x-amzn-RequestId", requestId)]
  body := .error code message requestId

/-- `response["headers"].update(headers)`. -/
def HttpResponse.updateHeaders (response : HttpResponse) (headers : List (String × String)) :
    HttpResponse :=
  { response with headers := response.headers.update headers }

/-! ## What is seen of an invocation -/

/-- The audit records it writes. -/
def auditRecords {α : Type} (p : Handling α) : List InvocationRecord := p.said.filterMap Act.record?

/-- What it writes to the response stream. -/
def written {α : Type} (p : Handling α) : List Chunk := p.said.filterMap Act.chunk?

theorem said_ofExcept {α : Type} (e : Except BridgeExc α) : (Handling.ofExcept e).said = [] := by
  cases e <;> rfl

theorem outcome_ofExcept {α : Type} (e : Except BridgeExc α) : (Handling.ofExcept e).outcome = e := by
  cases e <;> rfl

end A5cCell.Bridge
