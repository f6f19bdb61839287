import A5cCell.TenantApi.AgentRegistry
import A5cCell.TenantApi.Lifecycle

/-!
# The handler

`handler.handle_event`: the route table of the tenant API, and what it makes of an exception.
-/

namespace A5cCell.TenantApi

open Py (Val Items Dict)
open DataAccess

/-- `_dispatch_tenant_routes`. -/
def dispatchTenantRoutes (py : Python) (runtime : TenantApiRuntime) (event : Items) :
    Api (Option Response) := do
  let { caller, method, path, tenantId, .. } := runtime
  let isAgentRoute := Py.startsWith path "/v1/platform/agents"
  let isPlatformRoute := Py.startsWith path "/v1/platform" && !isAgentRoute
  if isPlatformRoute && !caller.isPlatformActor then
    .raise (.permissionError "Platform tenant context required")
  else
    match ← OpsControl.dispatchPlatformAdminRoutes py path method event caller with
    | some answer => pure (some answer)
    | none =>
        match ← OpsControl.dispatchOpsRoutes py path method event caller with
        | some answer => pure (some answer)
        | none =>
            if isAgentRoute then AgentRegistry.dispatchRoutes py path method event caller
            else if Py.hasSub path "/webhooks" then
              Webhooks.dispatchRoutes py path method event caller tenantId
            else Lifecycle.dispatchRoutes py path method event caller tenantId

/-- What no route took: an event of the provisioner, the health check, the sessions. -/
def handleUnrouted (py : Python) (runtime : TenantApiRuntime) (event : Items) : Api Response :=
  if runtime.detailType.isSome ∧ runtime.source = some "platform.tenant_provisioner" then
    handleTenantProvisioningEvent py event
  else if runtime.path = "/v1/health" ∧ runtime.method = "GET" then handleHealth py
  else if runtime.path = "/v1/sessions" ∧ runtime.method = "GET" then pure (handleSessions event)
  else pure (error 404 "NOT_FOUND"
    ("Route not found: " ++ runtime.method ++ " " ++ runtime.path))

/-- What an exception is answered with. -/
def exceptionResponse : Exc → Response
  | .permissionError message => error 403 "FORBIDDEN" message
  | .valueError message => error 400 "BAD_REQUEST" message
  | .clientError code => error 502 "AWS_CLIENT_ERROR" code
  | _ => error 500 "INTERNAL_ERROR" "Internal server error"

/-- The routes of a request whose runtime was built. -/
def handleRuntime (py : Python) (runtime : TenantApiRuntime) (event : Items) : Api Response := do
  match ← dispatchTenantRoutes py runtime event with
  | some answer => pure answer
  | none => handleUnrouted py runtime event

/-- `handle_event`. -/
def handleEvent (py : Python) (event : Items) : Api Response :=
  (do let runtime ← Api.ofExcept (buildRuntime py event)
      handleRuntime py runtime event : Api Response).tryExcept fun x => .ret (exceptionResponse x)

end A5cCell.TenantApi
