import A5cCell.TenantApi.Records

/-!
# Webhooks

`webhook_registry`: the webhooks a tenant registers, rows of its own partition.
-/

namespace A5cCell.TenantApi

open Py (Val Items Dict)
open DataAccess

/-- The check every webhook route starts with. -/
def requireWebhookManager (caller : CallerIdentity) (tenantId : String) : Except Exc Unit :=
  if canManageTenantSelfService caller tenantId then .ok ()
  else .error (.permissionError "Caller requires a tenant self-service admin role")

/-- `handle_list_webhooks`. -/
def handleListWebhooks (py : Python) (caller : CallerIdentity) (tenantId : String) :
    Api Response := do
  Api.ofExcept (requireWebhookManager caller tenantId)
  let db ← dbForTenant tenantId caller
  let result ← Api.dynamodb (db.query (tenantsTableName py)
    { skCondition := some (keyBeginsWith "SK" "WEBHOOK#") })
  response py 200 [("items", .list (result.items.map fun item => .dict [
    ("webhookId", item.get "webhook_id"),
    ("callbackUrl", item.get "callback_url"),
    ("events", item.get "events"),
    ("status", item.get "status"),
    ("description", item.get "description"),
    ("createdAt", item.get "created_at"),
    ("updatedAt", item.get "updated_at"),
    ("signatureHeader", item.get "signature_header" (.str "X-Platform-Signature")),
    ("signatureAlgorithm", item.get "signature_algorithm" (.str "HMAC-SHA256"))]))]

def validWebhookEvents : List String := ["job.completed", "job.failed"]

def unprocessable (message : String) : Response := error 422 "UNPROCESSABLE_ENTITY" message

/-- The loop over the events of a registration; it answers at the first one it does not take. -/
def normalizeWebhookEvents : List Val → List String → Except Exc (Except Response (List String))
  | [], normalizedEvents => .ok (.ok normalizedEvents)
  | rawEvent :: rest, normalizedEvents =>
      match rawEvent.strOrNone with
      | none => .ok (.error (unprocessable "events must contain non-empty values"))
      | some eventName =>
          if !validWebhookEvents.contains eventName then
            .ok (.error (unprocessable ("Unsupported webhook event '" ++ eventName ++ "'")))
          else if normalizedEvents.contains eventName then
            .error (.valueError "events must not contain duplicate values")
          else normalizeWebhookEvents rest (normalizedEvents ++ [eventName])

/-- `body.get("events")`, a non-empty list. -/
def webhookEventsOf (body : Items) : Except Exc (List Val) :=
  match body.get "events" with
  | .list (first :: rest) => .ok (first :: rest)
  | _ => .error (.valueError "events must be a non-empty array")

/-- Write a registration that was checked. -/
def storeWebhook (py : Python) (caller : CallerIdentity) (tenantId callbackUrl : String)
    (normalizedEvents : List String) (description : Option String) : Api Response := do
  let webhookId ← Api.random "uuid.uuid4()"
  let now ← Api.now
  let webhookSecret ← Api.random "secrets.token_urlsafe(32)"
  let events : Val := .list (normalizedEvents.map .str)
  let db ← dbForTenant tenantId caller
  Api.dynamodb (db.putItem (tenantsTableName py) [
    ("PK", .str (tenantPk tenantId)),
    ("SK", .str ("WEBHOOK#" ++ webhookId)),
    ("webhook_id", .str webhookId),
    ("tenant_id", .str tenantId),
    ("callback_url", .str callbackUrl),
    ("events", events),
    ("status", .str "active"),
    ("signature_secret", .str webhookSecret),
    ("description", optionVal description),
    ("created_at", .str (py.isoUtc now)),
    ("updated_at", .str (py.isoUtc now)),
    ("signature_header", .str "X-Platform-Signature"),
    ("signature_algorithm", .str "HMAC-SHA256")])
  response py 201 [
    ("webhookId", .str webhookId),
    ("callbackUrl", .str callbackUrl),
    ("events", events),
    ("status", .str "active"),
    ("createdAt", .str (py.isoUtc now)),
    ("signatureHeader", .str "X-Platform-Signature"),
    ("signatureAlgorithm", .str "HMAC-SHA256")]

/-- `handle_register_webhook`. -/
def handleRegisterWebhook (py : Python) (event : Items) (caller : CallerIdentity)
    (tenantId : String) : Api Response := do
  Api.ofExcept (requireWebhookManager caller tenantId)
  let body ← Api.ofExcept (requireJsonBody py event)
  let callbackUrl ← Api.ofExcept (requireNonEmptyText (body.get "callbackUrl") "callbackUrl")
  let (scheme, netloc) ← Api.ofExcept (py.urlparse callbackUrl)
  if ¬ (scheme = "http" ∨ scheme = "https") ∨ netloc = "" then
    pure (unprocessable "callbackUrl must be a valid URL")
  else
    let rawEvents ← Api.ofExcept (webhookEventsOf body)
    match ← Api.ofExcept (normalizeWebhookEvents rawEvents []) with
    | .error refused => pure refused
    | .ok normalizedEvents =>
        let description := (body.get "description").strOrNone
        if description.any fun text => 256 < text.length then
          pure (unprocessable "description must be 256 characters or fewer")
        else storeWebhook py caller tenantId callbackUrl normalizedEvents description

/-- `handle_delete_webhook`. -/
def handleDeleteWebhook (py : Python) (caller : CallerIdentity) (tenantId webhookId : String) :
    Api Response := do
  Api.ofExcept (requireWebhookManager caller tenantId)
  let db ← dbForTenant tenantId caller
  let key : Items := [("PK", .str (tenantPk tenantId)), ("SK", .str ("WEBHOOK#" ++ webhookId))]
  match ← Api.dynamodb (db.getItem (tenantsTableName py) key) with
  | none => pure (error 404 "NOT_FOUND" ("Webhook '" ++ webhookId ++ "' not found"))
  | some _ =>
      Api.dynamodb (db.deleteItem (tenantsTableName py) key)
      response py 204 []

/-- The first group of the first pattern that matches. -/
def matchWebhookId (py : Python) (tenantId path : String) : Except Exc (Option String) := do
  match ← py.reMatch ("^/v1/tenants/" ++ tenantId ++ "/webhooks/([^/]+)$") path with
  | some groups => pure (some (groups.head?.getD ""))
  | none =>
      let groups ← py.reMatch "^/v1/webhooks/([^/]+)$" path
      pure (groups.map fun groups => groups.head?.getD "")

namespace Webhooks

/-- `webhook_registry.dispatch_routes`; an empty tenant id is no tenant. -/
def dispatchRoutes (py : Python) (path method : String) (event : Items) (caller : CallerIdentity)
    (tenantId : Option String) : Api (Option Response) := do
  match Py.truthyText (tenantId.or caller.tenantId) with
  | none => pure none
  | some tenantId =>
      let isCollection := path = "/v1/tenants/" ++ tenantId ++ "/webhooks" ∨ path = "/v1/webhooks"
      if isCollection ∧ method = "GET" then some <$> handleListWebhooks py caller tenantId
      else if isCollection ∧ method = "POST" then
        some <$> handleRegisterWebhook py event caller tenantId
      else
        match ← Api.ofExcept (matchWebhookId py tenantId path) with
        | some webhookId =>
            if method = "DELETE" then some <$> handleDeleteWebhook py caller tenantId webhookId
            else pure none
        | none => pure none

end Webhooks

end A5cCell.TenantApi
