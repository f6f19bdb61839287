import Mathlib.Algebra.Order.Field.Rat
import Mathlib.Algebra.Order.Field.Power
import A5cCell.Lib.Value
import A5cCell.DataAccess.Client

/-!
# Events of the webhook delivery

`webhook_delivery.events` and `webhook_delivery.retry_policy`: which changes of a job start a
delivery, what a retry message says, what is posted, and how long a retry waits.

JSON texts are kept as the values they encode. An image of a stream record is kept as
`deserialize_image` gives it: the empty dictionary where there is none.
-/

namespace A5cCell.WebhookDelivery

open Py (Val Items)
open DataAccess

/-- `DeliveryConfig`. -/
structure DeliveryConfig where
  region : String
  jobsTable : String
  tenantsTable : String
  retryQueueUrl : Option String
  dlqUrl : Option String
  maxRetryAttempts : Int
  httpTimeoutSeconds : Int
  deliveredStatus : String
  failedStatus : String
  retryingStatus : String
  skippedStatus : String
  terminalJobEvents : List (String × String)

def DeliveryConfig.eventName (config : DeliveryConfig) (status : String) : Option String :=
  config.terminalJobEvents.lookup status

/-- `status in terminal_job_events`, of a status that may be `None`. -/
def DeliveryConfig.isTerminal (config : DeliveryConfig) (status : Option String) : Bool :=
  status.any fun status => (config.eventName status).isSome

structure RetryMessage where
  tenantId : String
  appId : String
  jobId : String
  attempt : Int

/-- `int(value)`. -/
def pyInt (v : Val) : Except Exc Int :=
  match v.toInt with
  | .ok n => .ok n
  | .invalid => .error (.valueError "invalid literal for int() with base 10")
  | .overflow => .error (.other "OverflowError")

/-- The message in a body. -/
def retryMessageOf (body : Items) : Except Exc (Option RetryMessage) := do
  let tenantId := (body.get "tenantId").strOrNone
  let appId := (body.get "appId").strOrNone
  let jobId := (body.get "jobId").strOrNone
  let attempt ← pyInt (body.get "attempt" (.int 2))
  match tenantId, appId, jobId with
  | some tenantId, some appId, some jobId => pure (some { tenantId, appId, jobId, attempt })
  | _, _, _ => pure none

/-- `parse_retry_record`, of what `json.loads` makes of the body, `none` where it raises. -/
def parseRetryRecord (body : Option Val) : Except Exc (Option RetryMessage) :=
  match body with
  | none => .error (.valueError "Expecting value")
  | some body => match body.asDict? with
    | some body => retryMessageOf body
    | none => .error (.other "AttributeError")

def shouldProcessStreamTransition (config : DeliveryConfig) (newImage oldImage : Items) : Bool :=
  !newImage.isEmpty && config.isTerminal (newImage.get "status").strOrNone &&
    (newImage.get "webhook_url").strOrNone.isSome &&
    !(newImage.get "webhook_delivered" (.bool false)).truthy &&
    (oldImage.isEmpty || !config.isTerminal (oldImage.get "status").strOrNone)

/-- A text or `None`. -/
def optionVal (text : Option String) : Val := text.elim .none .str

def buildPayload (jobItem : Items) (eventName : String) : Items :=
  [("event", .str eventName),
    ("jobId", .str (jobItem.get "job_id" (.str "")).toStr),
    ("tenantId", .str (jobItem.get "tenant_id" (.str "")).toStr),
    ("agentName", .str (jobItem.get "agent_name" (.str "")).toStr),
    ("status", .str (jobItem.get "status" (.str "")).toStr),
    ("createdAt", optionVal (jobItem.get "created_at").strOrNone),
    ("completedAt", optionVal (jobItem.get "completed_at").strOrNone),
    ("errorMessage", optionVal (jobItem.get "error_message").strOrNone)]

/-- `event_name not in subscribed_events`, the other way round. -/
def isSubscribed (subscribedEvents : Val) (eventName : String) : Except Exc Bool :=
  match subscribedEvents with
  | .list events => .ok (events.any fun event => event.asStr? = some eventName)
  | .dict events => .ok (Items.has events eventName)
  | .str events => .ok (Py.hasSub events eventName)
  | _ => .error (.typeError "argument is not iterable")

/-! ## Retries -/

def shouldRetry (attempt maxRetryAttempts : Int) : Bool := attempt ≤ maxRetryAttempts

/-- `min(900, 2**attempt)`; a power below the least float is `0.0`. -/
def baseDelay (attempt : Int) : Rat :=
  if attempt < -1074 then 0 else min 900 (2 ^ attempt)

/-- `retry_delay_seconds`, of the jitter, cut to a whole number. -/
def retryDelaySeconds (attempt jitteredDelay : Int) : Int :=
  if 0 < baseDelay attempt then max 1 (min 900 jitteredDelay) else 0

theorem baseDelay_pos {attempt : Int} (h : -1074 ≤ attempt) : 0 < baseDelay attempt := by
  rw [baseDelay, if_neg (not_lt.mpr h)]
  exact lt_min (by norm_num) (zpow_pos (by norm_num) attempt)

/-- **Every delay is one the queue takes.** -/
theorem retryDelaySeconds_mem {attempt : Int} (h : -1074 ≤ attempt) (jitteredDelay : Int) :
    1 ≤ retryDelaySeconds attempt jitteredDelay ∧ retryDelaySeconds attempt jitteredDelay ≤ 900 := by
  rw [retryDelaySeconds, if_pos (baseDelay_pos h)]
  exact ⟨le_max_left _ _, max_le (by norm_num) (min_le_left _ _)⟩

/-! ## What a retry message says -/

/-- What `enqueue_retry` sends. -/
def retryBody (tenantId appId jobId : String) (attempt : Int) : Items :=
  [("tenantId", .str tenantId), ("appId", .str appId), ("jobId", .str jobId),
    ("attempt", .int attempt)]

/-- **A retry message is read as it was sent**, its ids stripped. -/
theorem parseRetryRecord_retryBody {tenantId appId jobId t a j : String}
    (htenant : (Val.str tenantId).strOrNone = some t) (happ : (Val.str appId).strOrNone = some a)
    (hjob : (Val.str jobId).strOrNone = some j) (attempt : Int) :
    parseRetryRecord (some (.dict (retryBody tenantId appId jobId attempt))) =
      .ok (some ⟨t, a, j, attempt⟩) := by
  have htenantId : (retryBody tenantId appId jobId attempt).get "tenantId" = .str tenantId := rfl
  have happId : (retryBody tenantId appId jobId attempt).get "appId" = .str appId := rfl
  have hjobId : (retryBody tenantId appId jobId attempt).get "jobId" = .str jobId := rfl
  have hattempt : (retryBody tenantId appId jobId attempt).get "attempt" (.int 2) = .int attempt :=
    rfl
  simp only [parseRetryRecord, Val.asDict?_dict, retryMessageOf, htenantId, happId, hjobId, hattempt,
    htenant, happ, hjob, pyInt, Val.toInt]
  rfl

/-- The text of what has one is read as the same. -/
theorem strOrNone_toStr {v : Val} {text : String} (h : v.strOrNone = some text) :
    (Val.str v.toStr).strOrNone = some text := by
  have hnone : v ≠ .none := by
    intro hv
    rw [hv] at h
    exact absurd h (by simp [Val.strOrNone])
  rw [Val.strOrNone_eq hnone] at h
  rw [Val.strOrNone_eq (by simp)]
  exact h

end A5cCell.WebhookDelivery
