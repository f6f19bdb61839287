import A5cCell.TenantProvisioner.Handler

/-!
# The provisioning workflow

The state machine of `infra/cdk/lib/platform-compute.ts` that a created tenant starts: it has the
provisioner start the tenant's stack, polls it until it is ready or has failed, and has the result put
on the bus. Each task hands the function the fields it names of the data before it, and is tried again
after the errors it names.
-/

namespace A5cCell.TenantProvisioner

open Py (Val Items)
open DataAccess TenantApi

/-! ## The tasks -/

/-- The data at the paths of a task's payload, under their own names. -/
def select (fields : List String) (data : Items) : Except Raised Items :=
  fields.mapM fun field =>
    match data.lookup field with
    | some value => .ok (field, value)
    | none => .error (.missingPath field)

def pollFields : List String := ["tenantId", "appId", "tier", "accountId", "stackName"]

def provisionedFields : List String := pollFields ++ ["stackStatus", "outputs"]

def failedFields : List String := pollFields ++ ["stackStatus", "reason", "outputs"]

/-- One invocation of the function by the Lambda service. -/
def invoked (handled : Provisioning Items) : Provisioning Items :=
  .call .invoking fun fault => match fault with
    | some name => .raise (.service name)
    | none => do
        let result ← handled.attempt
        .call .returning fun fault => match fault with
          | some name => .raise (.service name)
          | none => Provisioning.ofExcept result

/-- After which errors a task is tried again, how long after, and how often. -/
structure Retrier where
  retries : Raised → Bool
  interval : ℕ
  maxAttempts : ℕ
  backoffRate : ℕ

/-- A retrier that was used once more. -/
def Retrier.used (retrier : Retrier) : Retrier :=
  { retrier with
    interval := retrier.interval * retrier.backoffRate
    maxAttempts := retrier.maxAttempts - 1 }

/-- The first retrier for an error decides: how long to wait, and the retriers that are left. -/
def retryAfter (x : Raised) : List Retrier → Option (ℕ × List Retrier)
  | [] => none
  | retrier :: retriers =>
      if retrier.retries x then
        if retrier.maxAttempts = 0 then none else some (retrier.interval, retrier.used :: retriers)
      else (retryAfter x retriers).map fun left => (left.1, retrier :: left.2)

/-- A task with its retries, as many as its retriers have. -/
def retrying (handled : Provisioning Items) : (attempts : ℕ) → List Retrier → Provisioning Items
  | 0, _ => invoked handled
  | attempts + 1, retriers =>
      (invoked handled).tryExcept fun x => match retryAfter x retriers with
        | none => .raise x
        | some (interval, left) => .call (.wait interval) fun timeIsUp =>
            if timeIsUp then .raise (.service "States.Timeout") else retrying handled attempts left

/-- The retrier that the workflow adds to each of its tasks. -/
def provisionerRetrier : Retrier where
  retries
    | .retryable _ => true
    | .service name => ["Lambda.TooManyRequestsException", "Lambda.ServiceException"].contains name
    | _ => false
  interval := 2
  maxAttempts := 6
  backoffRate := 2

/-- How often all of the retriers let a task be tried again. -/
def attemptsOf : List Retrier → ℕ
  | [] => 0
  | retrier :: retriers => retrier.maxAttempts + attemptsOf retriers

/-- A task: the retriers that it is built with come before the one that is added to it. -/
def task (builtIn : List Retrier) (handled : Provisioning Items) : Provisioning Items :=
  let retriers := builtIn ++ [provisionerRetrier]
  retrying handled (attemptsOf retriers) retriers

/-! ## The state machine -/

/-- How an execution ends that does not fail. -/
inductive Ending where
  | announced (result : Items)
  | timedOut

section

variable (py : Python) (invokedFunctionArn : String) (builtIn : List Retrier)

/-- What the task that announces a result hands the function. -/
def announcement (resultType : String) (payload : Items) : Items :=
  ("action", .str "emit-result") :: ("resultType", .str resultType) :: payload

/-- `EmitTenantProvisioned` and `EmitTenantProvisioningFailed`. -/
def announce (resultType : String) (fields : List String) (data : Items) : Provisioning Ending := do
  let payload ← Provisioning.ofExcept (select fields data)
  .announced <$>
    task builtIn (lambdaHandler py invokedFunctionArn (announcement resultType payload))

/-- The choice after a start and after a poll, and the wait and the poll that follow it. The execution
    has time for a number of polls at most. -/
def complete : (polls : ℕ) → (data : Items) → Provisioning Ending
  | polls, data =>
    match data.lookup "provisioningState" with
    | none => .raise (.missingPath "provisioningState")
    | some state =>
        if state.asStr? = some "READY" then
          announce py invokedFunctionArn builtIn "provisioned" provisionedFields data
        else if state.asStr? = some "FAILED" then
          announce py invokedFunctionArn builtIn "failed" failedFields data
        else match polls with
          | 0 => pure .timedOut
          | polls + 1 => .call (.wait 10) fun timeIsUp =>
              if timeIsUp then pure .timedOut
              else do
                let payload ← Provisioning.ofExcept (select pollFields data)
                let polled ← task builtIn
                  (lambdaHandler py invokedFunctionArn (("action", .str "poll") :: payload))
                complete polls polled

/-- The execution that the detail of a `tenant.created` event starts. -/
def workflow (detail : Items) (polls : ℕ) : Provisioning Ending := do
  let started ← task builtIn
    (lambdaHandler py invokedFunctionArn [("action", .str "start"), ("detail", .dict detail)])
  complete py invokedFunctionArn builtIn polls started

end

end A5cCell.TenantProvisioner
