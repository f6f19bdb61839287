import A5cCell.TenantProvisioner.Completion

/-!
# The provisioner

`tenant_provisioner.handler`: the Lambda function behind the provisioning workflow. It starts the stack
of a tenant, reads how far the stack is, and puts the result on the bus; the workflow says which by the
event's action. An error it may be asked again after is raised; the other errors of a start or of a poll
are its result.
-/

namespace A5cCell.TenantProvisioner

open Py (Val Items)
open DataAccess TenantApi

/-! ## What it talks to -/

/-- What a task of the workflow raises: the function's own retryable error, an error of an AWS client,
    one that the Lambda service or the workflow names, a path that is not there, or another exception,
    as its text. -/
inductive Raised where
  | retryable (message : String)
  | clientError (code message : String)
  | service (name : String)
  | missingPath (field : String)
  | other (message : String)
  deriving DecidableEq

/-- `str(exc)`. -/
def Raised.text : Raised → String
  | .retryable message => message
  | .clientError _ message => message
  | .service name => name
  | .missingPath field => field
  | .other message => message

/-- A stack as CloudFormation describes it; an output has a key and a value. -/
structure Stack where
  stackStatus : String
  outputs : List (Option String × Option String)

/-- The arguments of `create_stack` and `update_stack`. -/
structure StackRequest where
  stackName : String
  templateUrl : String
  parameters : List (String × String)
  capabilities : List String
  onFailure : Option String
  tags : List (String × String)

/-- A call of the workflow. The Lambda service is asked before the function runs and after, for it may
    fail either time. -/
inductive ProvisionEffect where
  | describeStacks (stackName : String)
  | createStack (request : StackRequest)
  | updateStack (request : StackRequest)
  | putEvents (entry : Entry)
  | invoking
  | returning
  | wait (seconds : ℕ)

/-- What a call is answered: the Lambda service names its error where it fails, and a wait tells whether
    the execution's time is up. -/
abbrev ProvisionEffect.Reply : ProvisionEffect → Type
  | .describeStacks _ => Except Raised (List Stack)
  | .createStack _ => Except Raised Unit
  | .updateStack _ => Except Raised Unit
  | .putEvents _ => Except Raised Unit
  | .invoking => Option String
  | .returning => Option String
  | .wait _ => Bool

abbrev Provisioning (α : Type) : Type := Prog ProvisionEffect ProvisionEffect.Reply Raised α

def Provisioning.ofExcept {α : Type} : Except Raised α → Provisioning α
  | .ok a => .ret a
  | .error x => .raise x

/-! ## The event -/

/-- What the checks of the tenant API raise. -/
def raisedOf : Exc → Raised
  | .valueError message | .typeError message | .runtimeError message | .permissionError message =>
      .other message
  | .keyError key => .other (Py.reprStr key)
  | .clientError code => .clientError code code
  | .botoCoreError name | .other name => .other name
  | .tenantAccessViolation _ _ attemptedKey => .other attemptedKey

/-- `_event_detail`. -/
def eventDetail (event : Items) : Items := (event.get "detail").asDict?.getD event

/-- `str(detail.get(field) or "").strip()`. -/
@[irreducible] def strippedText (detail : Items) (field : String) : String :=
  Py.strip ((detail.get field).or (.str "")).toStr

/-- `_tenant_id`. -/
def tenantIdOf (detail : Items) : Except Raised String :=
  if strippedText detail "tenantId" = "" then .error (.other "Missing tenantId")
  else .ok (strippedText detail "tenantId")

/-- `os.environ[name]`. -/
def environOf (py : Python) (name : String) : Except Raised String :=
  match py.environ name with
  | some value => .ok value
  | none => .error (.other (Py.reprStr name))

section

/- `context.invoked_function_arn`. -/
variable (py : Python) (invokedFunctionArn : String)

/-- `_account_id`. -/
def accountIdOf (detail : Items) : Except Raised String := do
  let provided := strippedText detail "accountId"
  let homeAccountId ← match (Py.splitOn ':' invokedFunctionArn)[4]? with
    | some account => .ok account
    | none => .error (.other "list index out of range")
  if provided = "" then pure homeAccountId
  else
    let accountId ← (requireAwsAccountId (.str provided) "accountId").mapError raisedOf
    if accountId = homeAccountId then pure accountId
    else throw (.other "accountId must equal the platform home account")

/-- `_stack_name`. -/
def stackNameOf (tenantId : String) : Except Raised String := do
  let env ← environOf py "PLATFORM_ENV"
  pure ("platform-tenant-" ++ tenantId ++ "-" ++ env)

/-- `_stack_parameters`. -/
def stackParameters (detail : Items) : Except Raised (List (String × String)) := do
  let tenantId ← tenantIdOf detail
  let tier := Py.strip ((detail.get "tier").or (.str "basic")).toStr
  let accountId ← accountIdOf invokedFunctionArn detail
  let monthlyBudget := detail.get "monthlyBudgetUsd"
  pure ([("tenantId", tenantId), ("tier", if tier = "" then "basic" else tier),
      ("accountId", accountId)] ++
    if monthlyBudget.isNone then [] else [("monthlyBudgetUsd", monthlyBudget.toStr)])

/-- What a start is about to ask for. -/
structure StackPlan where
  tenantId : String
  accountId : String
  stackName : String
  templateUrl : String
  env : String
  parameters : List (String × String)

/-- What `_start_provisioning` puts together before it talks to CloudFormation. -/
def stackPlan (detail : Items) : Except Raised StackPlan := do
  let tenantId ← tenantIdOf detail
  let stackName ← stackNameOf py tenantId
  let templateUrl ← environOf py "TENANT_STACK_TEMPLATE_URL"
  let parameters ← stackParameters invokedFunctionArn detail
  let env ← environOf py "PLATFORM_ENV"
  let accountId ← accountIdOf invokedFunctionArn detail
  pure { tenantId, accountId, stackName, templateUrl, env, parameters }

def StackPlan.createRequest (plan : StackPlan) : StackRequest where
  stackName := plan.stackName
  templateUrl := plan.templateUrl
  parameters := plan.parameters
  capabilities := ["CAPABILITY_NAMED_IAM"]
  onFailure := some "ROLLBACK"
  tags := [("tenantid", plan.tenantId), ("platform:env", plan.env)]

def StackPlan.updateRequest (plan : StackPlan) : StackRequest where
  stackName := plan.stackName
  templateUrl := plan.templateUrl
  parameters := plan.parameters
  capabilities := ["CAPABILITY_NAMED_IAM"]
  onFailure := none
  tags := []

/-! ## The stack -/

/-- `_stack_outputs`. -/
def stackOutputs (stack : Stack) : Items :=
  stack.outputs.foldl (fun outputs output =>
    match Py.truthyText output.1, Py.truthyText output.2 with
    | some key, some val => outputs.set key (.str val)
    | _, _ => outputs) []

/-- `_describe_stack`. -/
def describeStack (stackName : String) : Provisioning Stack :=
  .call (.describeStacks stackName) fun answer => match answer with
    | .ok (stack :: _) => .ret stack
    | .ok [] => .raise (.other ("Stack " ++ stackName ++ " not found"))
    | .error x => .raise x

/-- Whether the stack is there to be updated. -/
def findOperation (stackName : String) : Provisioning String :=
  (describeStack stackName >>= fun _ => pure "UPDATE").tryExcept fun x => match x with
    | .clientError code message =>
        if code = "ValidationError" then .ret "CREATE" else .raise (.clientError code message)
    | x => .raise x

/-- `create_stack` or `update_stack`. -/
def submitStack (plan : StackPlan) (operation : String) : Provisioning Unit :=
  if operation = "CREATE" then .call (.createStack plan.createRequest) Provisioning.ofExcept
  else .call (.updateStack plan.updateRequest) Provisioning.ofExcept

/-- What every result of a start says. -/
def StackPlan.result (plan : StackPlan) (detail : Items) (status operation state : String) : Items :=
  [("status", .str status), ("tenantId", .str plan.tenantId), ("appId", detail.get "appId"),
    ("tier", detail.get "tier"), ("accountId", .str plan.accountId),
    ("stackName", .str plan.stackName), ("operation", .str operation),
    ("provisioningState", .str state)]

/-- Whether CloudFormation refused because nothing would change. -/
def saysNoUpdates : Raised → Bool
  | .clientError _ message => Py.hasSub message "No updates are to be performed"
  | _ => false

/-- `_start_provisioning`. -/
def startProvisioning (event : Items) : Provisioning Items := do
  let detail := eventDetail event
  let plan ← Provisioning.ofExcept (stackPlan py invokedFunctionArn detail)
  let operation ← findOperation plan.stackName
  match ← (submitStack plan operation).attempt with
  | .ok () => pure (plan.result detail "STARTED" operation "IN_PROGRESS")
  | .error x =>
      if saysNoUpdates x then
        let stack ← describeStack plan.stackName
        pure (plan.result detail "SUCCESS" operation "READY" ++
          [("stackStatus", .str stack.stackStatus), ("outputs", .dict (stackOutputs stack))])
      else .raise x

def inProgressStatuses : List String :=
  ["CREATE_IN_PROGRESS", "UPDATE_IN_PROGRESS", "UPDATE_COMPLETE_CLEANUP_IN_PROGRESS",
    "UPDATE_ROLLBACK_IN_PROGRESS", "UPDATE_ROLLBACK_COMPLETE_CLEANUP_IN_PROGRESS",
    "IMPORT_IN_PROGRESS", "IMPORT_ROLLBACK_IN_PROGRESS", "REVIEW_IN_PROGRESS",
    "ROLLBACK_IN_PROGRESS"]

def failedStatuses : List String :=
  ["CREATE_FAILED", "ROLLBACK_COMPLETE", "ROLLBACK_FAILED", "UPDATE_ROLLBACK_COMPLETE",
    "UPDATE_ROLLBACK_FAILED", "DELETE_COMPLETE", "DELETE_FAILED"]

def readyStatuses : List String := ["CREATE_COMPLETE", "UPDATE_COMPLETE"]

/-- What a poll adds to its result for the status of the stack. -/
def pollState (status : String) : Items :=
  if status ∈ readyStatuses then [("provisioningState", .str "READY")]
  else if status ∈ failedStatuses then
    [("provisioningState", .str "FAILED"), ("reason", .str status)]
  else if status ∈ inProgressStatuses then [("provisioningState", .str "IN_PROGRESS")]
  else [("provisioningState", .str "FAILED"), ("reason", .str status)]

/-- `_poll_provisioning`. -/
def pollProvisioning (event : Items) : Provisioning Items := do
  let stackName := strippedText event "stackName"
  let tenantId := strippedText event "tenantId"
  if stackName = "" ∨ tenantId = "" then .raise (.other "stackName and tenantId are required")
  else
    let stack ← describeStack stackName
    pure ([("tenantId", .str tenantId), ("appId", event.get "appId"), ("tier", event.get "tier"),
      ("accountId", event.get "accountId"), ("stackName", .str stackName),
      ("stackStatus", .str stack.stackStatus), ("outputs", .dict (stackOutputs stack))] ++
        pollState stack.stackStatus)

/-! ## The function -/

/-- `_emit_completion`. -/
def emitResult (event : Items) : Provisioning Items := do
  let entry ← Provisioning.ofExcept ((completionEntry py event).mapError raisedOf)
  let _ ← (.call (.putEvents entry) Provisioning.ofExcept : Provisioning Unit)
  pure [("status", .str "EMITTED"), ("detailType", .str entry.detailType),
    ("tenantId", entry.detail.get "tenantId")]

/-- `_is_retryable`. -/
def isRetryable : Raised → Bool
  | .clientError code message =>
      ["Throttling", "ThrottlingException", "RequestLimitExceeded",
        "ProvisionedThroughputExceededException", "ServiceUnavailable", "InternalFailure"].contains
          code ||
        (code == "ValidationError" && Py.hasSub message "Another update is currently in progress")
  | _ => false

/-- The action an event asks for. -/
def actionOf (event : Items) : String :=
  let action := Py.lower (strippedText event "action")
  if action = "" ∧ (event.get "detail").asDict?.isSome then "start" else action

/-- The stack name that a failed start or poll reports. -/
def failedStackName (event : Items) (tenantId : String) : Except Raised Val :=
  if (event.get "stackName").truthy then .ok (event.get "stackName")
  else .str <$> stackNameOf py tenantId

/-- What a failed start or poll answers. -/
def failedResult (event : Items) (x : Raised) : Except Raised Items := do
  let detail := eventDetail event
  let tenantId :=
    Py.strip (((detail.get "tenantId").or (event.get "tenantId")).or (.str "")).toStr
  let stackName ← failedStackName py event tenantId
  pure [("tenantId", .str tenantId), ("appId", (detail.get "appId").or (event.get "appId")),
    ("tier", (detail.get "tier").or (event.get "tier")),
    ("accountId", (detail.get "accountId").or (event.get "accountId")),
    ("stackName", stackName), ("provisioningState", .str "FAILED"), ("reason", .str x.text),
    ("stackStatus", .str "ERROR"), ("outputs", .dict [])]

/-- The part of `lambda_handler` that is tried. -/
def dispatchAction (event : Items) : Provisioning Items :=
  if actionOf event = "start" then startProvisioning py invokedFunctionArn event
  else if actionOf event = "poll" then pollProvisioning event
  else if actionOf event = "emit-result" then emitResult py event
  else .raise (.other ("Unsupported action: " ++ actionOf event))

/-- `lambda_handler`. -/
def lambdaHandler (event : Items) : Provisioning Items :=
  (dispatchAction py invokedFunctionArn event).tryExcept fun x =>
    if isRetryable x then .raise (.retryable x.text)
    else if actionOf event = "start" ∨ actionOf event = "poll" then
      Provisioning.ofExcept (failedResult py event x)
    else .raise x

end

end A5cCell.TenantProvisioner
