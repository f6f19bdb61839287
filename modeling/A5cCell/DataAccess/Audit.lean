import A5cCell.Lib.Civil
import A5cCell.Lib.Value
import A5cCell.DataAccess.Client

/-!
# Invocation records

`data_access.domains.audit`: what is kept of an invocation, under the time it was written at. The
sort key is that time as a text, so the records of a tenant are kept in the order of their times.
-/

namespace A5cCell.DataAccess

open Py (Val Items)
open Civil (DateTime)

def jitterLength : Nat := 2

/-- `InvocationRecord`. `__post_init__` asks for the length of a jitter and for a positive time to the
    first token. -/
structure InvocationRecord where
  invocationId : String
  tenantId : String
  appId : String
  agentName : String
  agentVersion : String
  sessionId : String
  inputTokens : Int
  outputTokens : Int
  latencyMs : Int
  status : String
  runtimeRegion : String
  invocationMode : String
  timestamp : String
  ttl : Int
  jitter : Option String
  errorCode : Option String
  jobId : Option String
  ttftMs : Option Int
  jitter_length : ∀ text ∈ jitter, text.length = jitterLength
  ttftMs_pos : ∀ ms ∈ ttftMs, 1 ≤ ms

namespace InvocationRecord

variable (record : InvocationRecord)

def pk : String := tenantPkPrefix ++ record.tenantId

/-- What follows the time in a sort key. -/
def suffix : String :=
  "#" ++ record.invocationId ++ match record.jitter with
    | some jitter => "#" ++ jitter
    | none => ""

def sk : String := "INV#" ++ record.timestamp ++ record.suffix

/-- A field that is written only where it holds a text. -/
def textField (name : String) (text : Option String) : Items :=
  match Py.truthyText text with
  | some text => [(name, .str text)]
  | none => []

/-- The item `log_invocation` writes. -/
def item : Items :=
  [("PK", .str record.pk), ("SK", .str record.sk),
    ("invocation_id", .str record.invocationId),
    ("tenant_id", .str record.tenantId),
    ("app_id", .str record.appId),
    ("agent_name", .str record.agentName),
    ("agent_version", .str record.agentVersion),
    ("session_id", .str record.sessionId),
    ("input_tokens", .int record.inputTokens),
    ("output_tokens", .int record.outputTokens),
    ("latency_ms", .int record.latencyMs),
    ("status", .str record.status),
    ("runtime_region", .str record.runtimeRegion),
    ("invocation_mode", .str record.invocationMode),
    ("timestamp", .str record.timestamp),
    ("ttl", .int record.ttl),
    ("ttftMs", record.ttftMs.elim .none .int)] ++
  textField "jitter" record.jitter ++ textField "job_id" record.jobId ++
  textField "error_code" record.errorCode

/-- The record as `log_invocation` makes it at a time. -/
def writtenAt (now : DateTime) : InvocationRecord := { record with timestamp := now.isoformat }

variable {record} {now : DateTime}

@[simp] theorem writtenAt_suffix : (record.writtenAt now).suffix = record.suffix := rfl

@[simp] theorem textOf_item_sk : textOf record.item "SK" = some record.sk := rfl

@[simp] theorem item_timestamp : record.item.get "timestamp" = .str record.timestamp := rfl

/-- A sort key: the second, its fraction, and what follows the time. -/
theorem toList_writtenAt_sk :
    (record.writtenAt now).sk.toList = "INV#".toList ++ (now.isoSeconds ++
      (now.isoFraction ++ ("+00:00".toList ++ record.suffix.toList))) := by
  simp only [sk, writtenAt, DateTime.isoformat, String.toList_append, String.toList_ofList,
    List.append_assoc]
  rfl

/-- A sort key goes on after the time with a number sign. -/
theorem toList_suffix : ∃ rest, record.suffix.toList = '#' :: rest := by
  rw [suffix, String.toList_append, String.toList_append]
  exact ⟨_, rfl⟩

end InvocationRecord

/-- After the same texts, the texts that follow compare. -/
theorem inv_lt_inv_iff {a b : List Char} :
    "INV#".toList ++ a < "INV#".toList ++ b ↔ a < b := by
  rw [Civil.append_lt_append_iff rfl]
  simp only [lt_irrefl, true_and, false_or]

/-- A day, for examples. -/
def lastDayOfJanuary : Civil.Date :=
  ⟨2026, 1, 31, by decide, by decide, by decide, by decide, by decide, by decide⟩

/-- A record of an invocation, for examples. -/
def echoInvocation : InvocationRecord where
  invocationId := "inv-1"
  tenantId := "acme"
  appId := "app"
  agentName := "echo"
  agentVersion := "1.0.0"
  sessionId := "s"
  inputTokens := 10
  outputTokens := 20
  latencyMs := 5
  status := "success"
  runtimeRegion := "eu-west-1"
  invocationMode := "sync"
  timestamp := ""
  ttl := 0
  jitter := some "0a"
  errorCode := none
  jobId := none
  ttftMs := none
  jitter_length := by decide
  ttftMs_pos := by simp

end A5cCell.DataAccess
