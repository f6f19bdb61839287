import A5cCell.TenantApi.Records

/-!
# Audit exports

`tenant_audit_exports`: the invocation records of a tenant between two times, written to the
tenant's directory in S3 as one object, and answered as a link to it.
-/

namespace A5cCell.TenantApi

open Py (Val Items Dict)
open DataAccess

/-- `_invocation_timestamp`. -/
def invocationTimestamp (item : Items) : Option String :=
  match (item.get "timestamp").strOrNone with
  | some timestamp => some timestamp
  | none => match (item.get "SK").strOrNone with
    | none => none
    | some sortKey =>
        if !Py.startsWith sortKey "INV#" then none
        else match Py.splitOn '#' sortKey with
          | _ :: timestamp :: _ :: _ => (Val.str timestamp).strOrNone
          | _ => none

/-- `_audit_export_sk_condition`. -/
def auditExportSkCondition (py : Python) (startAt endAt : Option Instant) : Option (Items → Bool) :=
  match startAt, endAt with
  | none, none => none
  | _, _ => some (keyBetween "SK" (startAt.map fun t => "INV#" ++ py.isoUtc t)
      (endAt.map fun t => "INV#" ++ py.isoUtc t ++ "~"))

/-- Whether a record falls between the two times, as texts. -/
def inExport (py : Python) (startAt endAt : Option Instant) (item : Items) : Bool :=
  (invocationTimestamp item).any fun timestamp =>
    (startAt.all fun t => py.isoUtc t ≤ timestamp) && (endAt.all fun t => timestamp ≤ py.isoUtc t)

def auditExportPageSize : Int := 200

/-- The loop of `_collect_audit_export_records`. -/
def collectAuditExportPages (py : Python) (db : Client) (startAt endAt : Option Instant) :
    Nat → Val → Api (List Items)
  | 0, _ => .raise timedOut
  | pages + 1, lastEvaluatedKey => do
      let page ← Api.dynamodb (db.query (invocationsTableName py)
        { skCondition := auditExportSkCondition py startAt endAt
          limit := some auditExportPageSize
          exclusiveStartKey := lastEvaluatedKey })
      let items := page.items.filter (inExport py startAt endAt)
      match page.lastEvaluatedKey with
      | none => pure items
      | some key =>
          let rest ← collectAuditExportPages py db startAt endAt pages (.dict key)
          pure (items ++ rest)

/-- `_collect_audit_export_records`. -/
def collectAuditExportRecords (py : Python) (tenantId : String) (caller : CallerIdentity)
    (startAt endAt : Option Instant) : Api (List Items) := do
  let db ← dbForTenant tenantId caller
  collectAuditExportPages py db startAt endAt py.pages .none

/-- `_audit_export_url_expiry_seconds`. -/
def auditExportUrlExpirySeconds (py : Python) : Int :=
  match (py.environVal "AUDIT_EXPORT_URL_EXPIRY_SECONDS").toInt with
  | .ok n => max 1 n
  | _ => 3600

/-- `_audit_export_key`. -/
def auditExportKey (py : Python) (tenantId : String) (generatedAt : Instant) (nonce : String) :
    String :=
  "tenants/" ++ tenantId ++ "/audit-exports/audit-export-" ++
    py.strftime "%Y%m%dT%H%M%SZ" generatedAt ++ "-" ++ nonce ++ ".json"

/-- A time as the export shows it. -/
def instantVal (py : Python) : Option Instant → Val
  | some t => .str (py.isoUtc t)
  | none => .none

/-- `_build_audit_export_payload`. -/
def buildAuditExportPayload (py : Python) (tenantId : String) (generatedAt : Instant)
    (startAt endAt : Option Instant) (records : List Items) : Except Exc Val :=
  let payload : Val := .dict [
    ("tenantId", .str tenantId),
    ("generatedAt", .str (py.isoUtc generatedAt)),
    ("windowStart", instantVal py startAt),
    ("windowEnd", instantVal py endAt),
    ("recordCount", .int records.length),
    ("records", .list (records.map .dict))]
  if payload.allObjs py.encodes then .ok payload
  else .error (.typeError "Object is not JSON serializable")

/-- `TenantScopedS3.put_object`, and the link to the object. -/
def uploadAuditExport (py : Python) (tenantId : String) (caller : CallerIdentity)
    (bucket objectKey : String) (payload : Val) : Api Val := do
  Api.ofExcept (requireTenantScopeAllowed tenantId caller)
  Api.ofExcept (s3ValidateKey tenantId objectKey)
  let _ ← Api.service "s3" "put_object" [("Bucket", .str bucket), ("Key", .str objectKey),
    ("Body", payload), ("ContentType", .str "application/json")]
  Api.service "s3" "generate_presigned_url" [("ClientMethod", .str "get_object"),
    ("Params", .dict [("Bucket", .str bucket), ("Key", .str objectKey)]),
    ("ExpiresIn", .int (auditExportUrlExpirySeconds py))]

/-- `tenant_audit_exports.handle_audit_export`. -/
def handleAuditExport (py : Python) (event : Items) (caller : CallerIdentity) (tenantId : String) :
    Api Response := do
  Api.ofExcept (requireAdmin caller)
  match ← readTenantRecord py tenantId caller with
  | none => pure (error 404 "NOT_FOUND" "Tenant not found")
  | some _ =>
      let query := (event.get "queryStringParameters").or (.dict [])
      let start ← Api.ofExcept (getAttr query "start")
      let startAt ← Api.ofExcept (parseOptionalUtcTimestamp py start "start")
      let stop ← Api.ofExcept (getAttr query "end")
      let endAt ← Api.ofExcept (parseOptionalUtcTimestamp py stop "end")
      if startAt.any fun s => endAt.any fun e => e < s then
        .raise (.valueError "start must be less than or equal to end")
      else
        match (py.environVal "AUDIT_EXPORT_BUCKET").strOrNone with
        | none => pure (error 500 "INTERNAL_ERROR" "Audit export bucket is not configured")
        | some bucket =>
            let records ← collectAuditExportRecords py tenantId caller startAt endAt
            let generatedAt ← Api.now
            let nonce ← Api.random "secrets.token_hex(8)"
            let objectKey := auditExportKey py tenantId generatedAt nonce
            let payload ← Api.ofExcept
              (buildAuditExportPayload py tenantId generatedAt startAt endAt records)
            match ← (uploadAuditExport py tenantId caller bucket objectKey payload).attempt with
            | .error _ => pure (error 500 "INTERNAL_ERROR" "Failed to generate audit export")
            | .ok downloadUrl =>
                let expiresAt := generatedAt + auditExportUrlExpirySeconds py * 1000000
                response py 200 [
                  ("tenantId", .str tenantId),
                  ("downloadUrl", downloadUrl),
                  ("expiresAt", .str (py.isoUtc expiresAt))]

end A5cCell.TenantApi
