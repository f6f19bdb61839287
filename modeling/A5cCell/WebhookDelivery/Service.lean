import A5cCell.DataAccess.Models
import A5cCell.DataAccess.Store
import A5cCell.WebhookDelivery.Events

/-!
# Deliveries

`webhook_delivery.service`, with the persistence and the integrations it uses, and the handler that
takes batches of records: changes of jobs from the table's stream, and messages from the retry queue.

A request that is posted is kept as its payload and the secret it is signed with.
-/

namespace A5cCell.WebhookDelivery

open Py (Val Items Dict)
open DataAccess

/-- What comes of a POST: `raise_for_status` and the client's own errors are `RequestException`s. -/
inductive PostOutcome where
  | accepted
  | requestException (text : String)
  | raised (x : Exc)

/-- A call a delivery makes. -/
inductive Effect where
  | db (request : Request)
  | now
  | jitter (baseDelay : Rat)
  | post (webhookUrl : String) (payload : Items) (signatureSecret : String) (timeoutSeconds : Int)
  | sendMessage (region queueUrl : String) (delaySeconds : Option Int) (body : Items)

/-- What a call is answered; the jitter is cut to a whole number. -/
abbrev Effect.Reply : Effect → Type
  | .db request => Answer request
  | .now => String
  | .jitter _ => Int
  | .post .. => PostOutcome
  | .sendMessage .. => Option Exc

abbrev Delivery (α : Type) : Type := Prog Effect Effect.Reply Exc α

namespace Delivery

def ofExcept {α : Type} : Except Exc α → Delivery α
  | .ok a => .ret a
  | .error x => .raise x

def dynamodb {α : Type} (p : Db α) : Delivery α := p.mapCalls .db (fun _ answer => answer) id

def sendMessage (region queueUrl : String) (delaySeconds : Option Int) (body : Items) :
    Delivery Unit :=
  .call (.sendMessage region queueUrl delaySeconds body) fun reply => match reply with
    | none => .ret ()
    | some x => .raise x

end Delivery

/-! ## Persistence -/

def jobKey (tenantId jobId : String) : Items :=
  [("PK", .str (tenantPkPrefix ++ tenantId)), ("SK", .str ("JOB#" ++ jobId))]

def loadRetryJob (config : DeliveryConfig) (message : RetryMessage) : Delivery (Option Items) :=
  Delivery.dynamodb ((Client.tenantScoped message.tenantId).getItem config.jobsTable
    (jobKey message.tenantId message.jobId))

def tenantContextFromJob (jobItem : Items) : Except Exc TenantContext :=
  match (jobItem.get "tenant_id").strOrNone, (jobItem.get "app_id").strOrNone with
  | some tenantId, some appId => .ok ⟨tenantId, appId, .basic, "webhook-delivery"⟩
  | _, _ => .error (.valueError "Job record is missing tenant_id or app_id")

def getWebhookRegistration (config : DeliveryConfig) (tenantContext : TenantContext)
    (webhookId : String) : Delivery (Option Items) := do
  let record ← Delivery.dynamodb ((Client.tenantScoped tenantContext.tenantId).getItem
    config.tenantsTable [("PK", .str (tenantPkPrefix ++ tenantContext.tenantId)),
      ("SK", .str ("WEBHOOK#" ++ webhookId))])
  pure (record.filter fun record =>
    (record.get "tenant_id" (.str "")).toStr = tenantContext.tenantId)

def markExpression : String :=
  "SET webhook_delivered = :delivered, webhook_delivery_status = :status, " ++
    "webhook_delivery_attempts = :attempts, webhook_delivery_error = :error, " ++
    "webhook_last_attempt_at = :last_attempt_at"

/-- What is set of a job: whether it was delivered, its delivery status, the attempts made, the error
    and the time. -/
structure Mark where
  delivered : Bool
  status : String
  attempts : Int
  error : Option String
  lastAttemptAt : String

def Mark.values (mark : Mark) : Items :=
  [(":delivered", .bool mark.delivered), (":status", .str mark.status),
    (":attempts", .int mark.attempts), (":error", optionVal mark.error),
    (":last_attempt_at", .str mark.lastAttemptAt)]

def markRow (config : DeliveryConfig) (tenantId jobId : String) (mark : Mark) : Delivery Unit := do
  let _ ← Delivery.dynamodb ((Client.tenantScoped tenantId).updateItem config.jobsTable
    (jobKey tenantId jobId) markExpression mark.values)
  pure ()

def markDeliveryState (config : DeliveryConfig) (tenantContext : TenantContext) (jobId : String)
    (delivered : Bool) (status : String) (attempts : Int) (error : Option String) :
    Delivery Unit :=
  .call .now fun lastAttemptAt =>
    markRow config tenantContext.tenantId jobId ⟨delivered, status, attempts, error, lastAttemptAt⟩

/-! ## The queues -/

def enqueueRetry (config : DeliveryConfig) (queueUrl : String) (jobItem : Items) (jobId : String)
    (attempt delaySeconds : Int) : Delivery Unit :=
  Delivery.sendMessage config.region queueUrl (some delaySeconds)
    (retryBody (jobItem.get "tenant_id" (.str "")).toStr (jobItem.get "app_id" (.str "")).toStr
      jobId attempt)

def deadLetterBody (jobItem : Items) (attempt : Int) (reason : String) : Items :=
  [("tenantId", jobItem.get "tenant_id"), ("appId", jobItem.get "app_id"),
    ("jobId", jobItem.get "job_id"), ("webhookId", jobItem.get "webhook_id"),
    ("attempt", .int attempt), ("reason", .str reason)]

def sendToDlq (config : DeliveryConfig) (jobItem : Items) (attempt : Int) (reason : String) :
    Delivery Unit :=
  match config.dlqUrl with
  | none => pure ()
  | some queueUrl =>
      Delivery.sendMessage config.region queueUrl none (deadLetterBody jobItem attempt reason)

/-! ## Attempts -/

def markAndSendDlq (config : DeliveryConfig) (tenantContext : TenantContext) (jobId : String)
    (jobItem : Items) (attempt : Int) (error reason : String) : Delivery Unit := do
  markDeliveryState config tenantContext jobId false config.failedStatus attempt (some error)
  sendToDlq config jobItem attempt reason

def handleDeliveryFailure (config : DeliveryConfig) (tenantContext : TenantContext)
    (jobItem : Items) (attempt : Int) (error : String) : Delivery Unit := do
  let jobId := (jobItem.get "job_id" (.str "")).toStr
  if shouldRetry attempt config.maxRetryAttempts then
    markDeliveryState config tenantContext jobId false config.retryingStatus attempt (some error)
    match config.retryQueueUrl with
    | none => .raise (.runtimeError "WEBHOOK_RETRY_QUEUE_URL is not configured")
    | some queueUrl =>
        .call (.jitter (baseDelay attempt)) fun jitteredDelay =>
          enqueueRetry config queueUrl jobItem jobId (attempt + 1)
            (retryDelaySeconds attempt jitteredDelay)
  else markAndSendDlq config tenantContext jobId jobItem attempt error error

/-- The end of `attempt_delivery`: post the event, and mark what came of it. -/
def postEvent (config : DeliveryConfig) (tenantContext : TenantContext) (jobItem : Items)
    (attempt : Int) (eventName webhookUrl signatureSecret : String) : Delivery Unit :=
  .call (.post webhookUrl (buildPayload jobItem eventName) signatureSecret
    config.httpTimeoutSeconds) fun outcome => match outcome with
    | .accepted =>
        markDeliveryState config tenantContext (jobItem.get "job_id" (.str "")).toStr true
          config.deliveredStatus attempt none
    | .requestException text => handleDeliveryFailure config tenantContext jobItem attempt text
    | .raised x => .raise x

/-- What `attempt_delivery` makes of the registration it found. -/
def deliverTo (config : DeliveryConfig) (tenantContext : TenantContext) (jobItem : Items)
    (attempt : Int) (eventName webhookUrl : String) (registration : Items) : Delivery Unit := do
  let jobId := (jobItem.get "job_id" (.str "")).toStr
  if (registration.get "status" (.str "active")).toStr ≠ "active" then
    markDeliveryState config tenantContext jobId false config.skippedStatus attempt
      (some "Webhook registration disabled")
  else
    let subscribed ← Delivery.ofExcept
      (isSubscribed ((registration.get "events").or (.list [])) eventName)
    if !subscribed then
      markDeliveryState config tenantContext jobId false config.skippedStatus attempt
        (some ("Webhook is not subscribed to " ++ eventName))
    else match (registration.get "signature_secret").strOrNone with
      | none =>
          markAndSendDlq config tenantContext jobId jobItem attempt
            "Webhook registration missing signature secret" "missing-signature-secret"
      | some signatureSecret =>
          postEvent config tenantContext jobItem attempt eventName webhookUrl signatureSecret

/-- What `attempt_delivery` makes of a job whose event is due. -/
def deliverEvent (config : DeliveryConfig) (tenantContext : TenantContext) (jobItem : Items)
    (attempt : Int) (eventName webhookUrl : String) : Delivery Unit := do
  let jobId := (jobItem.get "job_id" (.str "")).toStr
  match (jobItem.get "webhook_id").strOrNone with
  | none =>
      markAndSendDlq config tenantContext jobId jobItem attempt
        "Job is missing webhook_id required for signed delivery" "missing-webhook-id"
  | some webhookId =>
      match ← getWebhookRegistration config tenantContext webhookId with
      | none =>
          markAndSendDlq config tenantContext jobId jobItem attempt
            ("Webhook registration '" ++ webhookId ++ "' not found") "missing-webhook-registration"
      | some registration =>
          deliverTo config tenantContext jobItem attempt eventName webhookUrl registration

/-- The event a job is to be told of, and where: it is over, has a webhook and was not delivered. -/
def dueEvent (config : DeliveryConfig) (jobItem : Items) : Option (String × String) :=
  match config.eventName (jobItem.get "status" (.str "")).toStr,
    (jobItem.get "webhook_url").strOrNone with
  | some eventName, some webhookUrl =>
      if (jobItem.get "webhook_delivered" (.bool false)).truthy then none
      else some (eventName, webhookUrl)
  | _, _ => none

def attemptDelivery (config : DeliveryConfig) (jobItem : Items) (attempt : Int) :
    Delivery Unit := do
  let tenantContext ← Delivery.ofExcept (tenantContextFromJob jobItem)
  match dueEvent config jobItem with
  | none => pure ()
  | some (eventName, webhookUrl) =>
      deliverEvent config tenantContext jobItem attempt eventName webhookUrl

def processStreamRecord (config : DeliveryConfig) (newImage oldImage : Items) : Delivery Unit :=
  if shouldProcessStreamTransition config newImage oldImage then attemptDelivery config newImage 1
  else pure ()

def processRetryRecord (config : DeliveryConfig) (body : Option Val) : Delivery Unit := do
  match ← Delivery.ofExcept (parseRetryRecord body) with
  | none => pure ()
  | some message =>
      match ← loadRetryJob config message with
      | none => pure ()
      | some jobItem => attemptDelivery config jobItem message.attempt

/-! ## The handler -/

/-- A record of a batch, by its `eventSource`. -/
inductive Record where
  | stream (newImage oldImage : Items)
  | retry (messageId : String) (body : Option Val)
  | unsupported (source : String)

/-- One turn of the handler's loop: the item identifiers it reports as failed. -/
def handleRecord (config : DeliveryConfig) : Record → Delivery (List String)
  | .stream newImage oldImage => do
      processStreamRecord config newImage oldImage
      pure []
  | .retry messageId body => do
      match ← (processRetryRecord config body).attempt with
      | .ok () => pure []
      | .error _ => pure (if messageId ≠ "" then [messageId] else [])
  | .unsupported _ => pure []

def handleRecords (config : DeliveryConfig) : List Record → Delivery (List String)
  | [] => pure []
  | record :: records => do
      let failed ← handleRecord config record
      let failures ← handleRecords config records
      pure (failed ++ failures)

/-- What the function answers. -/
inductive HandlerResult where
  | ignored
  | ok
  | batchItemFailures (itemIdentifiers : List String)

def handler (config : DeliveryConfig) (records : List Record) : Delivery HandlerResult := do
  if records.isEmpty then pure .ignored
  else
    let batchFailures ← handleRecords config records
    pure (if batchFailures.isEmpty then .ok else .batchItemFailures batchFailures)

/-- The environment the function is configured from. -/
structure Environment where
  region : String
  jobsTable : String
  tenantsTable : String
  retryQueueUrl : Option String
  dlqUrl : Option String
  maxRetryAttempts : Int
  httpTimeoutSeconds : Int

/-- `_delivery_config`. -/
def deliveryConfig (env : Environment) : DeliveryConfig where
  region := env.region
  jobsTable := env.jobsTable
  tenantsTable := env.tenantsTable
  retryQueueUrl := env.retryQueueUrl
  dlqUrl := env.dlqUrl
  maxRetryAttempts := env.maxRetryAttempts
  httpTimeoutSeconds := env.httpTimeoutSeconds
  deliveredStatus := "delivered"
  failedStatus := "failed"
  retryingStatus := "retrying"
  skippedStatus := "skipped"
  terminalJobEvents := [("completed", "job.completed"), ("failed", "job.failed")]

end A5cCell.WebhookDelivery
