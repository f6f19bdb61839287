import A5cCell.TenantApi.Calls
import A5cCell.TenantApi.Handler

/-!
# The operations of the tenant API

What a request is dispatched to, as data: `operationOf` reads the operation off the method, the path
and the tenant of a request, and `handleRuntime_eq` says that the handler runs that operation and
nothing else.

An operation either belongs to the platform's roles or is open to a tenant's own. `requires_iff` and
`open_iff` say which, of what the handlers do and not of a table: an operation of the platform raises
before its first call for every caller without a platform role, and an operation of a tenant does
not for the tenant's own self-service administrator.
-/

namespace A5cCell.TenantApi

open Py (Val Items Dict)
open DataAccess

/-- An operation, with the tenant and the other names it takes from the path. -/
inductive Operation where
  | platformFailover
  | platformQuota
  | platformSplitAccounts
  | platformBillingStatus
  | serviceHealth
  | lambdaRollback
  | listAgents
  | registerAgent
  | promoteAgent (agentName version : String)
  | patchAgentVersion (agentName version : String)
  | rollbackAgent (agentName version : String)
  | listWebhooks (tenantId : String)
  | registerWebhook (tenantId : String)
  | deleteWebhook (tenantId webhookId : String)
  | create
  | listTenants
  | read (tenantId : String)
  | update (tenantId : String)
  | delete (tenantId : String)
  | rotateApiKey (tenantId : String)
  | inviteUser (tenantId : String)
  | auditExport (tenantId : String)
  | listInvites (tenantId : String)
  | health
  | sessions

/-- The answer to an ops path without an operation. -/
def methodNotAllowed : Response :=
  error 405 "METHOD_NOT_ALLOWED" "Method not allowed for this route"

namespace Operation

/-- The handler of an operation. -/
def run (py : Python) (event : Items) (caller : CallerIdentity) : Operation → Api Response
  | platformFailover => handlePlatformFailover py event caller
  | platformQuota => handlePlatformQuota py caller
  | platformSplitAccounts => handlePlatformSplitAccounts py event caller
  | platformBillingStatus => handlePlatformBillingStatus py caller
  | serviceHealth => handleServiceHealth py caller
  | lambdaRollback => handleLambdaRollback py event caller
  | listAgents => handleListAgents py caller
  | registerAgent => handleRegisterAgent py event caller
  | promoteAgent agentName version => handlePromoteAgent py caller agentName version
  | patchAgentVersion agentName version => handlePatchAgentVersion py event caller agentName version
  | rollbackAgent agentName version => handleRollbackAgent py caller agentName version
  | listWebhooks tenantId => handleListWebhooks py caller tenantId
  | registerWebhook tenantId => handleRegisterWebhook py event caller tenantId
  | deleteWebhook tenantId webhookId => handleDeleteWebhook py caller tenantId webhookId
  | create => handleCreate py event caller
  | listTenants => handleListTenants py (tenantListInputFromEvent event) caller
  | read tenantId => handleRead py caller tenantId
  | update tenantId => handleUpdate py event caller tenantId
  | delete tenantId => handleDelete py caller tenantId
  | rotateApiKey tenantId => handleRotateApiKey py caller tenantId
  | inviteUser tenantId => handleInviteUser py event caller tenantId
  | auditExport tenantId => handleAuditExport py event caller tenantId
  | listInvites tenantId => handleListInvites py caller tenantId
  | health => handleHealth py
  | sessions => pure (handleSessions event)

/-- The tenant an operation is for. -/
def tenant? : Operation → Option String
  | listWebhooks tenantId | registerWebhook tenantId | deleteWebhook tenantId _ | read tenantId
  | update tenantId | delete tenantId | rotateApiKey tenantId | inviteUser tenantId
  | auditExport tenantId | listInvites tenantId => some tenantId
  | _ => none

/-- Run the operation, where there is one. -/
def respond (py : Python) (event : Items) (caller : CallerIdentity) :
    Option Operation → Api (Option Response)
  | some op => some <$> op.run py event caller
  | none => pure none

/-- The answer to a request with its operation; an ops path without one is not allowed. -/
def dispatch (py : Python) (runtime : TenantApiRuntime) (event : Items) :
    Option Operation → Api (Option Response)
  | some op => some <$> op.run py event runtime.caller
  | none => pure
      (if Py.startsWith runtime.path "/v1/platform/ops" then some methodNotAllowed else none)

end Operation

/-! ## Routes -/

/-- An operation that one path and one method lead to. -/
structure Route where
  path : String
  method : String
  operation : Operation

/-- The operation of the first route that fits. -/
def lookupRoute (path method : String) : List Route → Option Operation
  | [] => none
  | route :: routes =>
      if path = route.path ∧ method = route.method then some route.operation
      else lookupRoute path method routes

def platformRoutes : List Route := [
  ⟨"/v1/platform/failover", "POST", .platformFailover⟩,
  ⟨"/v1/platform/quota", "GET", .platformQuota⟩,
  ⟨"/v1/platform/quota/split-accounts", "POST", .platformSplitAccounts⟩,
  ⟨"/v1/platform/billing/status", "GET", .platformBillingStatus⟩,
  ⟨"/v1/platform/service-health", "GET", .serviceHealth⟩]

def opsRoutes : List Route := [⟨"/v1/platform/ops/lambda-rollback", "POST", .lambdaRollback⟩]

def agentRoutes : List Route := [
  ⟨"/v1/platform/agents", "GET", .listAgents⟩,
  ⟨"/v1/platform/agents", "POST", .registerAgent⟩]

def webhookRoutes (tenantId : String) : List Route := [
  ⟨"/v1/tenants/" ++ tenantId ++ "/webhooks", "GET", .listWebhooks tenantId⟩,
  ⟨"/v1/webhooks", "GET", .listWebhooks tenantId⟩,
  ⟨"/v1/tenants/" ++ tenantId ++ "/webhooks", "POST", .registerWebhook tenantId⟩,
  ⟨"/v1/webhooks", "POST", .registerWebhook tenantId⟩]

def collectionRoutes : List Route := [
  ⟨"/v1/tenants", "POST", .create⟩,
  ⟨"/v1/tenants", "GET", .listTenants⟩]

def tenantRoutes (tenantId : String) : List Route :=
  let route := "/v1/tenants/" ++ tenantId
  [⟨route, "GET", .read tenantId⟩,
    ⟨route, "PATCH", .update tenantId⟩,
    ⟨route, "DELETE", .delete tenantId⟩,
    ⟨route ++ "/api-key/rotate", "POST", .rotateApiKey tenantId⟩,
    ⟨route ++ "/users/invite", "POST", .inviteUser tenantId⟩,
    ⟨route ++ "/audit-export", "GET", .auditExport tenantId⟩,
    ⟨route ++ "/users/invites", "GET", .listInvites tenantId⟩]

def unroutedRoutes : List Route := [
  ⟨"/v1/health", "GET", .health⟩,
  ⟨"/v1/sessions", "GET", .sessions⟩]

/-- The operation of an agent route: the two of the collection, then the patterns in turn. -/
def agentOperation (py : Python) (path method : String) : Except Exc (Option Operation) :=
  match lookupRoute path method agentRoutes with
  | some op => .ok (some op)
  | none => do
      let promote ← matchAgentVersion py
        "^/v1/platform/agents/([^/]+)/versions/([^/]+)/promote$" path
      match promote.filter fun _ => method = "POST" with
      | some (agentName, version) => pure (some (.promoteAgent agentName version))
      | none =>
          let update ← matchAgentVersion py "^/v1/platform/agents/([^/]+)/versions/([^/]+)$" path
          match update.filter fun _ => method = "PATCH" with
          | some (agentName, version) => pure (some (.patchAgentVersion agentName version))
          | none =>
              let rollback ← matchAgentVersion py
                "^/v1/platform/agents/([^/]+)/versions/([^/]+)/rollback$" path
              pure ((rollback.filter fun _ => method = "POST").map fun agent =>
                .rollbackAgent agent.1 agent.2)

/-- The operation of a webhook route of a tenant. -/
def webhookOperation (py : Python) (path method tenantId : String) :
    Except Exc (Option Operation) :=
  match lookupRoute path method (webhookRoutes tenantId) with
  | some op => .ok (some op)
  | none => do
      let webhookId ← matchWebhookId py tenantId path
      pure ((webhookId.filter fun _ => method = "DELETE").map (.deleteWebhook tenantId))

/-- The operation the dispatcher takes a request to. -/
def dispatchedOperation (py : Python) (runtime : TenantApiRuntime) : Except Exc (Option Operation) :=
  let { caller, method, path, tenantId, .. } := runtime
  let isAgentRoute := Py.startsWith path "/v1/platform/agents"
  if (Py.startsWith path "/v1/platform" && !isAgentRoute) && !caller.isPlatformActor then
    .error (.permissionError "Platform tenant context required")
  else match lookupRoute path method (platformRoutes ++ opsRoutes) with
    | some op => .ok (some op)
    | none =>
        if Py.startsWith path "/v1/platform/ops" then .ok none
        else if isAgentRoute then agentOperation py path method
        else if Py.hasSub path "/webhooks" then
          match Py.truthyText (tenantId.or caller.tenantId) with
          | some tenantId => webhookOperation py path method tenantId
          | none => .ok none
        else .ok (lookupRoute path method
          (collectionRoutes ++ (tenantId.map tenantRoutes).getD []))

/-- An event of the provisioner. -/
def TenantApiRuntime.isProvisioning (runtime : TenantApiRuntime) : Bool :=
  runtime.detailType.isSome ∧ runtime.source = some "platform.tenant_provisioner"

/-- The operation a request is taken to; the routes of no tenant come last. -/
def operationOf (py : Python) (runtime : TenantApiRuntime) : Except Exc (Option Operation) := do
  let dispatched ← dispatchedOperation py runtime
  pure (dispatched.or (if runtime.isProvisioning then none
    else lookupRoute runtime.path runtime.method unroutedRoutes))

/-- The answer to a request with its operation, or without one. -/
def Operation.answer (py : Python) (runtime : TenantApiRuntime) (event : Items) :
    Option Operation → Api Response
  | some op => op.run py event runtime.caller
  | none =>
      if Py.startsWith runtime.path "/v1/platform/ops" then pure methodNotAllowed
      else if runtime.isProvisioning then handleTenantProvisioningEvent py event
      else pure (error 404 "NOT_FOUND"
        ("Route not found: " ++ runtime.method ++ " " ++ runtime.path))

/-! ## The handler runs the operation -/

section

variable {py : Python} {event : Items} {caller : CallerIdentity} {path method : String}

theorem respond_lookupRoute_cons (route : Route) (routes : List Route) :
    Operation.respond py event caller (lookupRoute path method (route :: routes)) =
      if path = route.path ∧ method = route.method then
        some <$> route.operation.run py event caller
      else Operation.respond py event caller (lookupRoute path method routes) := by
  rw [lookupRoute]
  split_ifs <;> rfl

theorem dispatchPlatformAdminRoutes_eq :
    OpsControl.dispatchPlatformAdminRoutes py path method event caller =
      Operation.respond py event caller (lookupRoute path method platformRoutes) := by
  unfold platformRoutes
  iterate 5 rw [respond_lookupRoute_cons]
  rfl

theorem dispatchTenant_eq {tenantId : String} (hwebhooks : Py.hasSub path "/webhooks" = false) :
    Lifecycle.dispatchTenant py path method event caller tenantId =
      Operation.respond py event caller (lookupRoute path method (tenantRoutes tenantId)) := by
  have hsub : Py.startsWith path ("/v1/tenants/" ++ tenantId ++ "/webhooks") = false := by
    by_contra hpre
    rw [Bool.not_eq_false] at hpre
    exact absurd (Py.hasSub_of_startsWith hpre) (by simp [hwebhooks])
  unfold tenantRoutes Lifecycle.dispatchTenant
  simp only [hsub]
  iterate 7 rw [respond_lookupRoute_cons]
  rfl

theorem lifecycle_dispatchRoutes_eq {tenantId : Option String}
    (hwebhooks : Py.hasSub path "/webhooks" = false) :
    Lifecycle.dispatchRoutes py path method event caller tenantId =
      Operation.respond py event caller
        (lookupRoute path method (collectionRoutes ++ (tenantId.map tenantRoutes).getD [])) := by
  unfold collectionRoutes
  rw [List.cons_append, List.cons_append, List.nil_append]
  iterate 2 rw [respond_lookupRoute_cons]
  cases tenantId with
  | none => rfl
  | some tenantId =>
    rw [Option.map_some, Option.getD_some, ← dispatchTenant_eq hwebhooks]
    rfl

theorem ofExcept_bind {α β : Type} (x : Except Exc α) (f : α → Except Exc β) :
    Api.ofExcept (x >>= f) = Api.ofExcept x >>= fun a => Api.ofExcept (f a) := by
  cases x <;> rfl

theorem webhooks_dispatchRoutes_eq {tenantId : Option String} {tenant : String}
    (htenant : Py.truthyText (tenantId.or caller.tenantId) = some tenant) :
    Webhooks.dispatchRoutes py path method event caller tenantId =
      Api.ofExcept (webhookOperation py path method tenant) >>= Operation.respond py event caller := by
  have hlookup : lookupRoute path method (webhookRoutes tenant) =
      if (path = "/v1/tenants/" ++ tenant ++ "/webhooks" ∨ path = "/v1/webhooks") ∧ method = "GET" then
        some (.listWebhooks tenant)
      else if (path = "/v1/tenants/" ++ tenant ++ "/webhooks" ∨ path = "/v1/webhooks") ∧
          method = "POST" then some (.registerWebhook tenant)
      else none := by
    simp only [webhookRoutes, lookupRoute]
    split_ifs
    all_goals first | rfl | tauto
  unfold Webhooks.dispatchRoutes webhookOperation
  rw [htenant, hlookup]
  by_cases hget : (path = "/v1/tenants/" ++ tenant ++ "/webhooks" ∨ path = "/v1/webhooks") ∧
      method = "GET"
  · simp only [if_pos hget]
    rfl
  by_cases hpost : (path = "/v1/tenants/" ++ tenant ++ "/webhooks" ∨ path = "/v1/webhooks") ∧
      method = "POST"
  · simp only [if_neg hget, if_pos hpost]
    rfl
  simp only [if_neg hget, if_neg hpost, ofExcept_bind, bind_assoc]
  refine bind_congr fun webhookId => ?_
  cases webhookId with
  | none => rfl
  | some webhookId =>
    by_cases hdelete : method = "DELETE"
    · subst hdelete
      rfl
    · simp only [hdelete, if_false, decide_false, Option.filter_some, Bool.false_eq_true]
      rfl

theorem agentRegistry_dispatchRoutes_eq :
    AgentRegistry.dispatchRoutes py path method event caller =
      Api.ofExcept (agentOperation py path method) >>= Operation.respond py event caller := by
  unfold AgentRegistry.dispatchRoutes agentOperation
  simp only [agentRoutes, lookupRoute]
  split_ifs
  · rfl
  · rfl
  simp only [ofExcept_bind, bind_assoc]
  refine bind_congr fun promote => ?_
  cases promote.filter fun _ => decide (method = "POST") with
  | some agent => rfl
  | none =>
    simp only [ofExcept_bind, bind_assoc]
    refine bind_congr fun update => ?_
    cases update.filter fun _ => decide (method = "PATCH") with
    | some agent => rfl
    | none =>
      simp only [ofExcept_bind, bind_assoc]
      refine bind_congr fun rollback => ?_
      cases rollback.filter fun _ => decide (method = "POST") with
      | some agent => rfl
      | none => rfl

theorem lookupRoute_append (routes more : List Route) : lookupRoute path method (routes ++ more) =
    (lookupRoute path method routes).or (lookupRoute path method more) := by
  induction routes with
  | nil => rfl
  | cons route routes ih =>
    rw [List.cons_append, lookupRoute, lookupRoute, ih]
    split_ifs <;> rfl

end

section

variable {py : Python} {runtime : TenantApiRuntime} {event : Items} {caller : CallerIdentity}
  {path method : String}

theorem dispatchOpsRoutes_eq : OpsControl.dispatchOpsRoutes py path method event caller =
    match lookupRoute path method opsRoutes with
    | some op => some <$> op.run py event caller
    | none => pure
        (if Py.startsWith path "/v1/platform/ops" then some methodNotAllowed else none) := by
  simp only [OpsControl.dispatchOpsRoutes, opsRoutes, lookupRoute]
  split_ifs <;> rfl

/-- Outside the ops paths, a request without an operation has no answer. -/
theorem dispatch_eq_respond (hops : Py.startsWith runtime.path "/v1/platform/ops" = false) :
    Operation.dispatch py runtime event = Operation.respond py event runtime.caller := by
  funext op
  cases op with
  | none => simp [Operation.dispatch, Operation.respond, hops]
  | some op => rfl

/-- The dispatcher runs the operation of the request, where it has one. -/
theorem dispatchTenantRoutes_eq : dispatchTenantRoutes py runtime event =
    Api.ofExcept (dispatchedOperation py runtime) >>= Operation.dispatch py runtime event := by
  unfold dispatchedOperation dispatchTenantRoutes
  by_cases hplatform : (Py.startsWith runtime.path "/v1/platform" &&
      !Py.startsWith runtime.path "/v1/platform/agents") && !runtime.caller.isPlatformActor
  · simp only [if_pos hplatform]
    rfl
  simp only [if_neg hplatform, dispatchPlatformAdminRoutes_eq, dispatchOpsRoutes_eq,
    lookupRoute_append]
  cases lookupRoute runtime.path runtime.method platformRoutes with
  | some op =>
    simp only [Operation.respond, bind_map_left, bind_pure_comp]
    rfl
  | none =>
    simp only [Operation.respond, pure_bind, Option.none_or]
    cases lookupRoute runtime.path runtime.method opsRoutes with
    | some op =>
      simp only [bind_map_left, bind_pure_comp]
      rfl
    | none =>
      by_cases hops : Py.startsWith runtime.path "/v1/platform/ops"
      · simp only [if_pos hops, pure_bind]
        change _ = Operation.dispatch py runtime event none
        rw [Operation.dispatch, if_pos hops]
      rw [Bool.not_eq_true] at hops
      rw [dispatch_eq_respond hops]
      simp only [hops, Bool.false_eq_true, if_false, pure_bind]
      by_cases hagent : Py.startsWith runtime.path "/v1/platform/agents"
      · simp only [if_pos hagent, agentRegistry_dispatchRoutes_eq]
      simp only [if_neg hagent]
      by_cases hwebhooks : Py.hasSub runtime.path "/webhooks"
      · simp only [if_pos hwebhooks]
        cases htenant : Py.truthyText (runtime.tenantId.or runtime.caller.tenantId) with
        | some tenant => exact webhooks_dispatchRoutes_eq htenant
        | none =>
          rw [Webhooks.dispatchRoutes, htenant]
          rfl
      · simp only [if_neg hwebhooks]
        rw [Bool.not_eq_true] at hwebhooks
        rw [lifecycle_dispatchRoutes_eq hwebhooks, lookupRoute_append]
        rfl

/-- The handler runs the operation of the request, and answers where it has none. -/
theorem handleRuntime_eq : handleRuntime py runtime event =
    Api.ofExcept (operationOf py runtime) >>= Operation.answer py runtime event := by
  unfold handleRuntime operationOf
  rw [dispatchTenantRoutes_eq, ofExcept_bind, bind_assoc, bind_assoc]
  refine bind_congr fun found => ?_
  cases found with
  | some op =>
    simp only [Operation.dispatch, bind_map_left, bind_pure]
    rfl
  | none =>
    change _ = Operation.answer py runtime event
      (if runtime.isProvisioning then none
        else lookupRoute runtime.path runtime.method unroutedRoutes)
    by_cases hops : Py.startsWith runtime.path "/v1/platform/ops"
    · have hhealth : runtime.path ≠ "/v1/health" := by
        intro h
        exact absurd (h ▸ hops) (by decide)
      have hsessions : runtime.path ≠ "/v1/sessions" := by
        intro h
        exact absurd (h ▸ hops) (by decide)
      simp only [Operation.dispatch, if_pos hops, pure_bind, unroutedRoutes, lookupRoute, hhealth,
        hsessions, false_and, if_false, ite_self, Operation.answer]
    simp only [Operation.dispatch, if_neg hops, pure_bind, handleUnrouted]
    have hevent : (runtime.detailType.isSome ∧ runtime.source = some "platform.tenant_provisioner") ↔
        runtime.isProvisioning = true := by simp [TenantApiRuntime.isProvisioning]
    by_cases hprovisioning : runtime.isProvisioning
    · rw [if_pos (hevent.mpr hprovisioning), if_pos hprovisioning, Operation.answer, if_neg hops,
        if_pos hprovisioning]
    · rw [if_neg (hevent.not.mpr hprovisioning), if_neg hprovisioning]
      simp only [unroutedRoutes, lookupRoute]
      split_ifs
      · rfl
      · rfl
      · rw [Operation.answer, if_neg hops, if_neg hprovisioning]

end

/-! ## Whose operation it is -/

namespace Operation

/-- The operation raises before its first call, whatever the request carries. -/
def Refuses (op : Operation) (caller : CallerIdentity) : Prop :=
  ∀ py event, ∃ x, op.run py event caller = .raise x

/-- The operation is for callers with a platform role. -/
def RequiresPlatformRole (op : Operation) : Prop :=
  ∀ caller : CallerIdentity, caller.hasRole platformSelfServiceAdminRoles = false →
    op.Refuses caller

/-- The operation is open to the self-service administrator of its tenant. -/
def OpenToSelfService (op : Operation) : Prop :=
  ∀ caller : CallerIdentity, caller.hasRole ["SelfService.Admin"] = true →
    (∀ tenantId, op.tenant? = some tenantId → caller.tenantId = some tenantId) →
    ¬ op.Refuses caller

/-- The operations that ask for a platform role. -/
def isPlatform : Operation → Bool
  | platformFailover | platformQuota | platformSplitAccounts | platformBillingStatus | serviceHealth
  | lambdaRollback | listAgents | registerAgent | promoteAgent _ _ | patchAgentVersion _ _
  | rollbackAgent _ _ | create | update _ | delete _ | auditExport _ => true
  | _ => false

end Operation

section

variable {caller : CallerIdentity}

theorem hasRole_eq_false_iff {allowed : List String} :
    caller.hasRole allowed = false ↔ ∀ role ∈ caller.roles, role ∉ allowed := by
  simp [CallerIdentity.hasRole]

theorem requireAdmin_of_no_role (hroles : caller.hasRole platformSelfServiceAdminRoles = false) :
    ∃ x, requireAdmin caller = .error x := by
  have hadmin : caller.isAdmin = false := by
    refine hasRole_eq_false_iff.mpr fun role hrole hmem => ?_
    apply hasRole_eq_false_iff.mp hroles role hrole
    simp only [adminRoles, List.mem_singleton] at hmem
    simp [platformSelfServiceAdminRoles, hmem]
  exact ⟨_, by rw [requireAdmin, hadmin]; rfl⟩

theorem requirePlatformAdminRole_of_no_role
    (hroles : caller.hasRole platformSelfServiceAdminRoles = false) :
    ∃ x, requirePlatformAdminRole caller = .error x := by
  have hadmin : caller.roles.contains "Platform.Admin" = false := by
    by_contra h
    rw [Bool.not_eq_false, List.contains_iff_mem] at h
    apply hasRole_eq_false_iff.mp hroles _ h
    simp [platformSelfServiceAdminRoles]
  exact ⟨_, by rw [requirePlatformAdminRole, hadmin]; rfl⟩

/-- A program that starts with a check that fails raises. -/
theorem raises_of_error {α β : Type} {x : Exc} {check : Except Exc α} (h : check = .error x)
    (next : α → Api β) : ∃ x, (Api.ofExcept check >>= next) = .raise x :=
  ⟨x, by rw [h]; rfl⟩

/-- A program raises when it does so after any value of its first step, which makes no call. -/
theorem raises_ofExcept_bind {α β : Type} (first : Except Exc α) {next : α → Api β}
    (h : ∀ a, ∃ x, next a = .raise x) : ∃ x, (Api.ofExcept first >>= next) = .raise x := by
  cases first with
  | error x => exact ⟨x, rfl⟩
  | ok a => exact h a

theorem raises_bind {α β : Type} {p : Api α} (next : α → Api β) (h : ∃ x, p = .raise x) :
    ∃ x, (p >>= next) = .raise x := by
  obtain ⟨x, rfl⟩ := h
  exact ⟨x, rfl⟩

end

theorem Operation.requiresPlatformRole_of_isPlatform {op : Operation} (hop : op.isPlatform = true) :
    op.RequiresPlatformRole := by
  intro caller hroles py event
  obtain ⟨x, hadmin⟩ := requireAdmin_of_no_role hroles
  obtain ⟨y, hplatformAdmin⟩ := requirePlatformAdminRole_of_no_role hroles
  have hupdate (agentName version : String) (targetStatus : AgentStatus)
      (evidence : ReleaseEvidence) :
      ∃ x, updateAgentStatus py caller agentName version targetStatus evidence = .raise x :=
    raises_of_error hadmin _
  cases op with
  | platformFailover => exact raises_of_error hadmin _
  | platformQuota => exact raises_of_error hadmin _
  | platformSplitAccounts => exact raises_of_error hplatformAdmin _
  | platformBillingStatus => exact raises_of_error hadmin _
  | serviceHealth => exact raises_of_error hadmin _
  | lambdaRollback => exact raises_of_error hplatformAdmin _
  | listAgents =>
    refine raises_of_error (x := .permissionError "Platform.Admin or Platform.Operator role required") ?_ _
    rw [requirePlatformAgentListAccess, hroles]
    rfl
  | registerAgent => exact raises_of_error hadmin _
  | promoteAgent agentName version => exact hupdate agentName version .promoted {}
  | patchAgentVersion agentName version => exact raises_of_error hadmin _
  | rollbackAgent agentName version => exact hupdate agentName version .rolledBack {}
  | create =>
    -- the body is read before the role is asked for
    exact raises_ofExcept_bind _ fun request => raises_bind _ (raises_of_error hadmin _)
  | update tenantId =>
    exact raises_ofExcept_bind _ fun body => raises_bind _ (raises_of_error hadmin _)
  | delete tenantId => exact raises_bind _ (raises_of_error hadmin _)
  | auditExport tenantId => exact raises_of_error hadmin _
  | _ => cases hop

/-- A library that reads one text, a body that every operation of a tenant takes. -/
def selfServicePython : Python :=
  KnownTexts.python { json := [("body", .dict [("callbackUrl", .str "url"), ("email", .str "@")])] }

/-- The client of a tenant reads a row of the tenant. -/
theorem getItem_own (tenantId table : String) (rest : Items) :
    (Client.tenantScoped tenantId).getItem table (("PK", .str (tenantPk tenantId)) :: rest) =
      issue (getRequest table (("PK", .str (tenantPk tenantId)) :: rest)) := by
  have hvalid : (Client.tenantScoped tenantId).validatePk
      (("PK", .str (tenantPk tenantId)) :: rest) = .ok () := by
    simp [Client.validatePk, Items.get, isForeignPk, tenantPk]
  unfold Client.getItem
  rw [hvalid]
  rfl

theorem Operation.openToSelfService_of_not_isPlatform {op : Operation}
    (hop : op.isPlatform = false) : op.OpenToSelfService := by
  intro caller hrole htenant hrefuses
  obtain ⟨x, hx⟩ := hrefuses selfServicePython [("body", .str "body")]
  have hself : isSelfServiceAdmin caller = true := by
    simp only [CallerIdentity.hasRole, List.any_eq_true] at hrole
    obtain ⟨role, hmem, hrole⟩ := hrole
    refine List.any_eq_true.mpr ⟨role, hmem, ?_⟩
    simp only [List.contains_cons, List.contains_nil, Bool.or_false, beq_iff_eq] at hrole
    simp [selfServiceAdminRoles, hrole]
  have hmanage (tenantId : String) (h : caller.tenantId = some tenantId) :
      canManageTenantSelfService caller tenantId = true := by
    rw [canManageTenantSelfService, hself, h]
    simp
  have hmanager (tenantId : String) (h : caller.tenantId = some tenantId) :
      Api.ofExcept (requireWebhookManager caller tenantId) = pure () := by
    rw [requireWebhookManager, hmanage tenantId h]
    rfl
  have hread (tenantId : String) (h : caller.tenantId = some tenantId) :
      canReadTenant caller tenantId = true := by
    rw [canReadTenant, h]
    simp
  have hdb (tenantId : String) (h : caller.tenantId = some tenantId) :
      dbForTenant tenantId caller = pure (.tenantScoped tenantId) := by
    rw [dbForTenant, requireTenantScopeAllowed, h, if_pos rfl]
    split_ifs <;> rfl
  have hrecord (tenantId : String) (h : caller.tenantId = some tenantId) :
      readTenantRecord selfServicePython tenantId caller = Api.dynamodb
        (issue (getRequest (tenantsTableName selfServicePython) (tenantKey tenantId))) := by
    rw [readTenantRecord, hdb tenantId h]
    exact congrArg Api.dynamodb (getItem_own tenantId _ _)
  have hhandleRead (tenantId : String) (h : caller.tenantId = some tenantId) (x : Exc) :
      handleRead selfServicePython caller tenantId ≠ .raise x := by
    intro hx
    simp only [handleRead, Records.handleRead, hread _ h, hrecord _ h] at hx
    cases hx
  -- Each operation passes its check of the caller, and so comes to its first call.
  cases op with
  | listWebhooks tenantId =>
    have hown := htenant tenantId rfl
    simp only [Operation.run, handleListWebhooks, hmanager _ hown, hdb _ hown] at hx
    cases hx
  | registerWebhook tenantId =>
    have hown := htenant tenantId rfl
    simp only [Operation.run, handleRegisterWebhook, hmanager _ hown] at hx
    cases hx
  | deleteWebhook tenantId webhookId =>
    have hown := htenant tenantId rfl
    simp only [Operation.run, handleDeleteWebhook, hmanager _ hown, hdb _ hown, pure_bind,
      getItem_own] at hx
    cases hx
  | listTenants =>
    cases hadmin : caller.isAdmin with
    | true =>
      simp only [Operation.run, handleListTenants, hadmin] at hx
      cases hx
    | false =>
      simp only [Operation.run, handleListTenants, hadmin, listOwnTenant] at hx
      cases hcaller : caller.tenantId with
      | none =>
        rw [hcaller] at hx
        cases hx
      | some tenantId =>
        rw [hcaller] at hx
        simp only [handleRead, Records.handleRead, hread _ hcaller, hrecord _ hcaller] at hx
        cases hx
  | read tenantId => exact hhandleRead tenantId (htenant tenantId rfl) x hx
  | rotateApiKey tenantId =>
    have hown := htenant tenantId rfl
    simp only [Operation.run, handleRotateApiKey, hmanage _ hown, hrecord _ hown] at hx
    cases hx
  | inviteUser tenantId =>
    have hown := htenant tenantId rfl
    simp only [Operation.run, handleInviteUser, hmanage _ hown, hrecord _ hown] at hx
    cases hx
  | listInvites tenantId =>
    have hown := htenant tenantId rfl
    simp only [Operation.run, handleListInvites, hread _ hown, hmanage _ hown, hdb _ hown, tenantKey,
      Bool.not_true, Bool.or_self, Bool.false_eq_true, if_false, pure_bind, getItem_own] at hx
    cases hx
  | health => cases hx
  | sessions => cases hx
  | _ => cases hop

/-- No operation is both the platform's and a tenant's. -/
theorem Operation.not_openToSelfService {op : Operation} (hrequires : op.RequiresPlatformRole) :
    ¬ op.OpenToSelfService := by
  intro hopen
  let caller : CallerIdentity :=
    { tenantId := op.tenant?, appId := none, tier := none, sub := none
      roles := ["SelfService.Admin"], usageIdentifierKey := none }
  exact hopen caller rfl (fun _ h => h) (hrequires caller rfl)

/-! ## The request of an operation -/

theorem mem_of_lookupRoute {path method : String} {routes : List Route} {op : Operation}
    (h : lookupRoute path method routes = some op) :
    ∃ route ∈ routes, route.path = path ∧ route.method = method ∧ route.operation = op := by
  induction routes with
  | nil => cases h
  | cons route routes ih =>
    rw [lookupRoute] at h
    split_ifs at h with hroute
    · exact ⟨route, List.mem_cons_self, hroute.1.symm, hroute.2.symm, Option.some.inj h⟩
    · obtain ⟨route', hmem, hfits⟩ := ih h
      exact ⟨route', List.mem_cons_of_mem _ hmem, hfits⟩

/-- A request that the pattern of a webhook takes to its deletion. -/
structure DeletesWebhook (py : Python) (runtime : TenantApiRuntime) (tenantId webhookId : String) :
    Prop where
  method : runtime.method = "DELETE"
  path : Py.hasSub runtime.path "/webhooks" = true
  tenant : Py.truthyText (runtime.tenantId.or runtime.caller.tenantId) = some tenantId
  webhook : matchWebhookId py tenantId runtime.path = .ok (some webhookId)
  platform : Py.startsWith runtime.path "/v1/platform" = true → runtime.caller.isPlatformActor = true

/-- What a computation that goes on to an answer computes first. -/
theorem except_bind_ok {α β : Type} {x : Except Exc α} {f : α → Except Exc β} {b : β}
    (h : (x >>= f) = .ok b) : ∃ a, x = .ok a ∧ f a = .ok b := by
  cases x with
  | error exc => cases h
  | ok a => exact ⟨a, rfl, h⟩

section

variable {py : Python} {runtime : TenantApiRuntime} {op : Operation}

theorem agentOperation_isPlatform {path method : String}
    (h : agentOperation py path method = .ok (some op)) : op.isPlatform = true := by
  unfold agentOperation at h
  cases hlookup : lookupRoute path method agentRoutes with
  | some found =>
    rw [hlookup] at h
    obtain ⟨route, hmem, -, -, hroute⟩ := mem_of_lookupRoute hlookup
    cases h
    simp only [agentRoutes, List.mem_cons, List.not_mem_nil, or_false] at hmem
    rcases hmem with rfl | rfl <;> exact hroute ▸ rfl
  | none =>
    rw [hlookup] at h
    obtain ⟨promote, -, h⟩ := except_bind_ok h
    split at h
    · cases h
      rfl
    obtain ⟨update, -, h⟩ := except_bind_ok h
    split at h
    · cases h
      rfl
    obtain ⟨rollback, -, h⟩ := except_bind_ok h
    obtain ⟨agent, -, rfl⟩ := Option.map_eq_some_iff.mp (Except.ok.inj h)
    rfl

theorem webhookOperation_cases {path method tenantId : String}
    (h : webhookOperation py path method tenantId = .ok (some op)) :
    (∃ route ∈ webhookRoutes tenantId, route.path = path ∧ route.method = method ∧
      route.operation = op) ∨
      ∃ webhookId, op = .deleteWebhook tenantId webhookId ∧ method = "DELETE" ∧
        matchWebhookId py tenantId path = .ok (some webhookId) := by
  unfold webhookOperation at h
  cases hlookup : lookupRoute path method (webhookRoutes tenantId) with
  | some found =>
    rw [hlookup] at h
    cases h
    exact .inl (mem_of_lookupRoute hlookup)
  | none =>
    rw [hlookup] at h
    obtain ⟨found, hmatch, h⟩ := except_bind_ok h
    obtain ⟨webhookId, hfound, rfl⟩ := Option.map_eq_some_iff.mp (Except.ok.inj h)
    rw [Option.filter_eq_some_iff] at hfound
    obtain ⟨rfl, hmethod⟩ := hfound
    exact .inr ⟨webhookId, rfl, by simpa using hmethod, hmatch⟩

/-- The request of an operation: an operation under the platform's paths is the platform's; a webhook
    is deleted by a pattern; and to every other operation a route leads. -/
theorem operationOf_cases (hop : operationOf py runtime = .ok (some op)) :
    (op.isPlatform = true ∧ Py.startsWith runtime.path "/v1/platform" = true) ∨
      (∃ tenantId webhookId, op = .deleteWebhook tenantId webhookId ∧
        DeletesWebhook py runtime tenantId webhookId) ∨
      (∃ route ∈ collectionRoutes ++ unroutedRoutes,
        route.path = runtime.path ∧ route.method = runtime.method ∧ route.operation = op) ∨
      (∃ tenantId, Py.truthyText (runtime.tenantId.or runtime.caller.tenantId) = some tenantId ∧
        ∃ route ∈ webhookRoutes tenantId,
          route.path = runtime.path ∧ route.method = runtime.method ∧ route.operation = op) ∨
      ∃ tenantId, runtime.tenantId = some tenantId ∧ Py.hasSub runtime.path "/webhooks" = false ∧
        ∃ route ∈ tenantRoutes tenantId,
          route.path = runtime.path ∧ route.method = runtime.method ∧ route.operation = op := by
  obtain ⟨found, hdispatched, hop⟩ := except_bind_ok hop
  cases found with
  | none =>
    have hlookup : lookupRoute runtime.path runtime.method unroutedRoutes = some op := by
      have hnone := Except.ok.inj hop
      rw [Option.none_or] at hnone
      split_ifs at hnone
      exact hnone
    obtain ⟨route, hmem, hfits⟩ := mem_of_lookupRoute hlookup
    exact .inr (.inr (.inl ⟨route, List.mem_append_right _ hmem, hfits⟩))
  | some found =>
    cases hop
    unfold dispatchedOperation at hdispatched
    simp only at hdispatched
    split at hdispatched
    · cases hdispatched
    next hplatform =>
    cases hlookup : lookupRoute runtime.path runtime.method (platformRoutes ++ opsRoutes) with
    | some found' =>
      rw [hlookup] at hdispatched
      cases hdispatched
      obtain ⟨route, hmem, hpath, -, rfl⟩ := mem_of_lookupRoute hlookup
      refine .inl ?_
      rw [← hpath]
      simp only [platformRoutes, opsRoutes, List.cons_append, List.nil_append, List.mem_cons,
        List.not_mem_nil, or_false] at hmem
      rcases hmem with rfl | rfl | rfl | rfl | rfl | rfl <;> exact ⟨rfl, by decide⟩
    | none =>
      rw [hlookup] at hdispatched
      simp only at hdispatched
      split_ifs at hdispatched with hops hagent hwebhooks
      · cases hdispatched
      · refine .inl ⟨agentOperation_isPlatform hdispatched, ?_⟩
        obtain ⟨rest, hrest⟩ := Py.startsWith_iff.mp hagent
        rw [hrest, show "/v1/platform/agents" = "/v1/platform" ++ "/agents" from rfl,
          String.append_assoc]
        exact Py.startsWith_append _ _
      · cases htenant : Py.truthyText (runtime.tenantId.or runtime.caller.tenantId) with
        | none =>
          rw [htenant] at hdispatched
          cases hdispatched
        | some tenantId =>
          rw [htenant] at hdispatched
          rcases webhookOperation_cases hdispatched with ⟨route, hmem, hfits⟩ | ⟨webhookId, rfl, hmethod, hmatch⟩
          · exact .inr (.inr (.inr (.inl ⟨tenantId, rfl, route, hmem, hfits⟩)))
          · refine .inr (.inl ⟨tenantId, webhookId, rfl, hmethod, hwebhooks, htenant, hmatch, ?_⟩)
            intro hpre
            simpa [hpre, hagent] using hplatform
      · obtain ⟨route, hmem, hfits⟩ := mem_of_lookupRoute (Except.ok.inj hdispatched)
        rcases List.mem_append.mp hmem with hcollection | htenant
        · exact .inr (.inr (.inl ⟨route, List.mem_append_left _ hcollection, hfits⟩))
        · cases hid : runtime.tenantId with
          | none =>
            rw [hid] at htenant
            cases htenant
          | some tenantId =>
            rw [hid] at htenant
            exact .inr (.inr (.inr (.inr ⟨tenantId, rfl, by simpa using hwebhooks, route, htenant,
              hfits⟩)))

end

end A5cCell.TenantApi
