import A5cCell.TenantApi.Handler

/-!
# What a tenant's request asks for

A request of a tenant's caller asks DynamoDB only for what its own partition holds, or for rows of no
tenant: each handler is given a client scoped to a tenant, and only the caller's own tenant gets one;
the routes of the platform refuse the caller before they do anything. `Stays` is that fact about a
call, and a lemma here says it of every call of every handler. The listing of tenants is the
exception, and is left to the lemma's hypothesis.
-/

namespace A5cCell.TenantApi

open Py (Val Items Dict)
open DataAccess

/-- What a scan asks for. -/
theorem sat_controlPlaneScan {P : Request → Prop} {table : String} {filterExpression : Option Arg}
    {limit : Option Int} {startKey : Val}
    (h : P ⟨.scan, table, setSome "ExclusiveStartKey" (valUnlessNone startKey)
      (setSome "Limit" (limit.map fun n => .val (.int n))
        (setSome "FilterExpression" filterExpression noKwargs))⟩) :
    (controlPlaneScan table filterExpression limit startKey).Sat P fun _ => True :=
  sat_issue h

-- a program is taken apart by the rules from here on, never by running it
attribute [local irreducible] Prog.Sat

variable (text : Dict String Arg → Items → Bool) (t : String)

/-- A call that asks DynamoDB for nothing outside the tenant's partition, if it asks it at all. -/
def Stays : Effect → Prop
  | .db r => r.Confined text t ∨ Dynamo.Rejected r
  | _ => True

/-- A program whose every call stays. -/
abbrev Confines {α : Type} (p : Api α) : Prop := p.Sat (Stays text t) fun _ => True

/-- A caller of a tenant other than the platform. -/
structure ScopedCaller (caller : CallerIdentity) : Prop where
  tenant : caller.tenantId = some t
  other : t ≠ platformTenantId

variable {text t} {caller : CallerIdentity}

theorem ScopedCaller.not_platform (hc : ScopedCaller t caller) : caller.isPlatformActor = false := by
  rw [CallerIdentity.isPlatformActor, hc.tenant]
  simpa using hc.other

/-! ## Calls -/

section

variable {α : Type} {P : Effect → Prop} {Q : α → Prop}

theorem sat_ofExcept {e : Except Exc α} (h : ∀ a, e = .ok a → Q a) : (Api.ofExcept e).Sat P Q := by
  cases e with
  | ok a => exact Prog.sat_ret.mpr (h a rfl)
  | error x => exact Prog.sat_raise

theorem confines_ofExcept {e : Except Exc α} : Confines text t (Api.ofExcept e) :=
  sat_ofExcept fun _ _ => trivial

theorem confines_dynamodb {p : Db α} (hp : p.Sat (fun r => r.Confined text t) fun _ => True) :
    Confines text t (Api.dynamodb p) :=
  Prog.Sat.mapCalls (hp.mono (fun _ => Or.inl) fun _ => id)

end

theorem confines_now : Confines text t Api.now :=
  Prog.sat_call.mpr ⟨trivial, fun _ => .done⟩

theorem confines_random (source : String) : Confines text t (Api.random source) :=
  Prog.sat_call.mpr ⟨trivial, fun _ => .done⟩

theorem confines_service (client operation : String) (kwargs : Items) :
    Confines text t (Api.service client operation kwargs) := by
  refine Prog.sat_call.mpr ⟨trivial, fun reply => ?_⟩
  cases reply <;> simp

theorem confines_response (py : Python) (statusCode : Nat) (body : Items) :
    Confines text t (response py statusCode body) := by
  unfold response
  split <;> simp

theorem confines_putEvent (py : Python) (detailType : String) (detail : Items) :
    Confines text t (putEvent py detailType detail) := by
  unfold putEvent
  split
  · exact confines_service _ _ _
  · exact Prog.sat_raise

/-! ## The scoped client -/

/-- Only the caller's own tenant gets a client. -/
theorem sat_dbForTenant (hc : ScopedCaller t caller) (tenantId : String) :
    (dbForTenant tenantId caller).Sat (Stays text t) fun db => db = .tenantScoped t := by
  refine Prog.sat_bind.mpr (sat_ofExcept fun _ hallowed => ?_)
  rw [requireTenantScopeAllowed, hc.not_platform, hc.tenant] at hallowed
  by_cases htenant : some t = some tenantId
  · cases htenant
    exact Prog.sat_pure.mpr rfl
  · simp [htenant] at hallowed

section

variable {db : Client} (hdb : db = .tenantScoped t) (table : String)

include hdb

theorem confines_getItem (key : Items) :
    Confines text t (Api.dynamodb (db.getItem table key)) := by
  subst hdb
  exact confines_dynamodb (sat_getItem table key noKwargs)

theorem confines_putItem (item : Items) (conditionExpression : Option String := none) :
    Confines text t (Api.dynamodb (db.putItem table item conditionExpression)) := by
  subst hdb
  refine confines_dynamodb (sat_putItem table item conditionExpression ?_)
  rintro ⟨arg, harg, -⟩
  exact absurd harg (by simp [noKwargs])

theorem confines_updateItem (key : Items) (expression : String) (values : Items)
    (names : Option Items := none) (conditionExpression : Option String := none) :
    Confines text t
      (Api.dynamodb (db.updateItem table key expression values names conditionExpression)) := by
  subst hdb
  exact confines_dynamodb (sat_updateItem table key expression values names conditionExpression)

theorem confines_deleteItem (key : Items) :
    Confines text t (Api.dynamodb (db.deleteItem table key)) := by
  subst hdb
  exact confines_dynamodb (sat_deleteItem table key noKwargs)

theorem confines_query {args : QueryArgs} (hargs : args.extraKwargs = noKwargs) :
    Confines text t (Api.dynamodb (db.query table args)) := by
  subst hdb
  exact confines_dynamodb (sat_query table (not_unconfinedExtra_noKwargs hargs))

theorem confines_setAttributes (key attributes : Items) :
    Confines text t (setAttributes db table key attributes) :=
  (confines_updateItem hdb table key _ _ _).seq fun _ => .done

end

theorem confines_readTenantRecord (py : Python) (hc : ScopedCaller t caller) (tenantId : String) :
    Confines text t (readTenantRecord py tenantId caller) :=
  (sat_dbForTenant hc tenantId).bind fun _ hdb => confines_getItem hdb _ _

/-! ## Tenant records -/

theorem confines_attachPolicy (py : Python) (secretArn : String) :
    Confines text t (attachTenantApiKeySecretPolicy py secretArn) := by
  unfold attachTenantApiKeySecretPolicy
  simp only
  split
  · exact .done
  · exact (confines_service _ _ _).seq fun _ => .done

theorem confines_createApiKeySecret (py : Python) (tenantId appId : String) :
    Confines text t (createApiKeySecret py tenantId appId) := by
  refine (confines_random _).seq fun apiKey => ?_
  refine (confines_service _ _ _).seq fun created => ?_
  refine confines_ofExcept.seq fun arn => ?_
  exact (confines_attachPolicy py _).seq fun _ => .done

theorem confines_rotateApiKeySecret (secretArn tenantId appId : String) :
    Confines text t (rotateApiKeySecret secretArn tenantId appId) := by
  refine (confines_random _).seq fun apiKey => ?_
  refine (confines_service _ _ _).seq fun put => ?_
  exact confines_ofExcept.seq fun _ => .done

section

variable (py : Python) (hc : ScopedCaller t caller)

include hc

theorem confines_recordsCreate (request : TenantCreateInput) :
    Confines text t (Records.handleCreate py request caller) := by
  unfold Records.handleCreate
  iterate 7 refine confines_ofExcept.seq fun _ => ?_
  refine confines_now.seq fun now => ?_
  refine confines_ofExcept.seq fun tier => ?_
  refine (confines_readTenantRecord py hc _).seq fun existing => ?_
  split
  · exact .done
  refine (confines_service _ _ _).seq fun provisioned => ?_
  extract_lets memoryInfo store
  refine (confines_createApiKeySecret py _ _).seq fun arn => ?_
  extract_lets attributes
  have hstore (attributes : Items) : Confines text t (store attributes) := by
    refine confines_ofExcept.seq fun memoryStoreArn => ?_
    refine (sat_dbForTenant hc _).bind fun db hdb => ?_
    refine (confines_putItem hdb _ _).seq fun _ => ?_
    exact (confines_putEvent py _ _).seq fun _ => confines_response py _ _
  split
  · exact hstore _
  · exact confines_ofExcept.seq fun budget => hstore _

theorem confines_recordsRead (tenantId : String) :
    Confines text t (Records.handleRead py caller tenantId) := by
  unfold Records.handleRead
  split
  · exact Prog.sat_raise
  refine (confines_readTenantRecord py hc _).seq fun record => ?_
  cases record with
  | none => exact .done
  | some item => exact (confines_service _ _ _).seq fun _ => confines_response py _ _

theorem confines_recordsUpdate (body : Items) (tenantId : String) :
    Confines text t (Records.handleUpdate py body caller tenantId) := by
  unfold Records.handleUpdate
  refine confines_ofExcept.seq fun _ => ?_
  refine (confines_readTenantRecord py hc _).seq fun record => ?_
  cases record with
  | none => exact .done
  | some item =>
    refine confines_now.seq fun now => ?_
    refine confines_ofExcept.seq fun updates => ?_
    refine (sat_dbForTenant hc _).bind fun db hdb => ?_
    refine (confines_setAttributes hdb _ _ _).seq fun _ => ?_
    refine (confines_readTenantRecord py hc _).seq fun updated => ?_
    extract_lets shown oldTier newTier detail respond
    have hrespond (u : Val) : Confines text t (respond u) := confines_response py _ _
    split <;> exact (confines_putEvent py _ _).seq hrespond

theorem confines_recordsDelete (tenantId : String) :
    Confines text t (Records.handleDelete py caller tenantId) := by
  unfold Records.handleDelete
  refine confines_ofExcept.seq fun _ => ?_
  split
  · exact Prog.sat_raise
  refine (confines_readTenantRecord py hc _).seq fun record => ?_
  cases record with
  | none => exact .done
  | some item =>
    refine confines_now.seq fun now => ?_
    refine (sat_dbForTenant hc _).bind fun db hdb => ?_
    refine (confines_setAttributes hdb _ _ _).seq fun _ => ?_
    exact (confines_putEvent py _ _).seq fun _ => confines_response py _ _

end

/-! ## Invites -/

section

variable (py : Python) (invitation : Invitation) {db : Client} (hdb : db = .tenantScoped t)

include hdb

theorem confines_recordNotification (invite : Items) (expression : String) (values : Items) :
    Confines text t (invitation.recordNotification py db invite expression values) := by
  refine confines_ofExcept.seq fun inviteId => ?_
  refine (confines_updateItem hdb _ _ _ _ _ _).seq fun _ => ?_
  exact (confines_updateItem hdb _ _ _ _ _ _).seq fun _ => .done

theorem confines_notificationFailure (invite : Items) (errorCode : String) :
    Confines text t (invitation.notificationFailureResponse py db invite errorCode) := by
  refine confines_now.seq fun now => ?_
  exact (confines_recordNotification py invitation hdb _ _ _).seq fun _ => .done

theorem confines_notificationSent (invite : Items) :
    Confines text t (invitation.notificationSentResponse py db invite) := by
  refine confines_now.seq fun now => ?_
  refine (confines_recordNotification py invitation hdb _ _ _).seq fun _ => ?_
  exact confines_response py _ _

theorem confines_deliver (invite : Items) :
    Confines text t (invitation.deliverInviteNotification py db invite) := by
  refine confines_ofExcept.seq fun detail => ?_
  refine (confines_putEvent py _ _).attempt.bind fun sent _ => ?_
  split
  · exact confines_notificationFailure py invitation hdb _ _
  · exact confines_notificationFailure py invitation hdb _ _
  · exact Prog.sat_raise
  refine confines_ofExcept.seq fun failed => ?_
  refine confines_ofExcept.seq fun failedEntryCount => ?_
  split
  · refine confines_ofExcept.seq fun entries => ?_
    refine confines_ofExcept.seq fun firstFailed => ?_
    refine confines_ofExcept.seq fun errorCode => ?_
    exact confines_notificationFailure py invitation hdb _ _
  · exact confines_notificationSent py invitation hdb _

theorem confines_restoreInvite (existingLookup : Items) :
    Confines text t (invitation.restoreInvite py db existingLookup) := by
  refine confines_ofExcept.seq fun restored => ?_
  refine (confines_putItem hdb _ _ _).attempt.bind fun stored _ => ?_
  cases stored with
  | ok => exact confines_deliver py invitation hdb _
  | error x =>
    simp only
    split
    · refine (confines_getItem hdb _ _).seq fun invite => ?_
      cases invite with
      | none => exact .done
      | some invite => exact confines_deliver py invitation hdb _
    · exact Prog.sat_raise

theorem confines_existingLookup (existingLookup : Option Items) :
    Confines text t (invitation.handleExistingLookup py db existingLookup) := by
  unfold Invitation.handleExistingLookup
  cases existingLookup with
  | none => exact .done
  | some existingLookup =>
    simp only
    split
    · exact (confines_deleteItem hdb _ _).seq fun _ => .done
    refine (confines_getItem hdb _ _).seq fun invite => ?_
    cases invite with
    | none => exact Prog.sat_map.mpr (confines_restoreInvite py invitation hdb _)
    | some invite =>
      simp only
      split
      · exact (confines_deleteItem hdb _ _).seq fun _ => .done
      split
      · exact Prog.sat_map.mpr (confines_deliver py invitation hdb _)
      · exact Prog.sat_map.mpr (confines_response py _ _)

theorem confines_storeInvite (invite : Items) :
    Confines text t (invitation.storeInvite py db invite) := by
  refine (confines_putItem hdb _ _ _).attempt.bind fun stored _ => ?_
  cases stored with
  | ok => exact confines_deliver py invitation hdb _
  | error x =>
    have hgiveUp : Confines text t (do invitation.deleteLookup py db; .raise x : Api Response) :=
      (confines_deleteItem hdb _ _).seq fun _ => Prog.sat_raise
    simp only
    split
    · refine (confines_getItem hdb _ _).seq fun lookup => ?_
      refine (confines_existingLookup py invitation hdb _).seq fun existing => ?_
      cases existing with
      | none => exact hgiveUp
      | some existing => exact .done
    · exact hgiveUp

theorem confines_createInvite (role : String) :
    Confines text t (invitation.createInvite py db caller role) := by
  refine confines_now.seq fun now => ?_
  refine (confines_random _).seq fun nonce => ?_
  refine (confines_putItem hdb _ _ _).attempt.bind fun stored _ => ?_
  cases stored with
  | ok => exact confines_storeInvite py invitation hdb _
  | error x =>
    simp only
    split
    · refine (confines_getItem hdb _ _).seq fun lookup => ?_
      refine (confines_existingLookup py invitation hdb _).seq fun existing => ?_
      cases existing with
      | none =>
        refine (confines_putItem hdb _ _ _).seq fun _ => ?_
        exact confines_storeInvite py invitation hdb _
      | some existing => exact .done
    · exact Prog.sat_raise

end

section

variable (py : Python) (hc : ScopedCaller t caller)

include hc

theorem confines_inviteUser (event : Items) (tenantId : String) :
    Confines text t (handleInviteUser py event caller tenantId) := by
  unfold handleInviteUser
  split
  · exact Prog.sat_raise
  refine confines_ofExcept.seq fun body => ?_
  extract_lets normalizedEmail role
  split
  · exact Prog.sat_raise
  split
  · exact .done
  refine (confines_readTenantRecord py hc _).seq fun record => ?_
  cases record with
  | none => exact .done
  | some record =>
    refine (sat_dbForTenant hc _).bind fun db hdb => ?_
    refine (confines_getItem hdb _ _).seq fun lookup => ?_
    refine (confines_existingLookup py _ hdb _).seq fun existing => ?_
    cases existing with
    | none => exact confines_createInvite py _ hdb _
    | some existing => exact .done

theorem confines_listInvites (tenantId : String) :
    Confines text t (handleListInvites py caller tenantId) := by
  unfold handleListInvites
  split
  · exact Prog.sat_raise
  refine (sat_dbForTenant hc _).bind fun db hdb => ?_
  refine (confines_getItem hdb _ _).seq fun record => ?_
  cases record with
  | none => exact .done
  | some record => exact (confines_query hdb _ rfl).seq fun _ => confines_response py _ _

/-! ## Audit exports -/

omit hc in
theorem confines_collectPages {db : Client} (hdb : db = .tenantScoped t)
    (startAt endAt : Option Instant) (pages : Nat) (startKey : Val) :
    Confines text t (collectAuditExportPages py db startAt endAt pages startKey) := by
  induction pages generalizing startKey with
  | zero => exact Prog.sat_raise
  | succ pages ih =>
    refine (confines_query hdb _ rfl).seq fun page => ?_
    extract_lets items
    cases page.lastEvaluatedKey with
    | none => exact .done
    | some key => exact (ih (.dict key)).seq fun _ => .done

omit hc in
theorem confines_uploadAuditExport (tenantId bucket objectKey : String) (payload : Val) :
    Confines text t (uploadAuditExport py tenantId caller bucket objectKey payload) := by
  refine confines_ofExcept.seq fun _ => ?_
  refine confines_ofExcept.seq fun _ => ?_
  exact (confines_service _ _ _).seq fun _ => confines_service _ _ _

theorem confines_auditExport (event : Items) (tenantId : String) :
    Confines text t (handleAuditExport py event caller tenantId) := by
  unfold handleAuditExport
  refine confines_ofExcept.seq fun _ => ?_
  refine (confines_readTenantRecord py hc _).seq fun record => ?_
  cases record with
  | none => exact .done
  | some record =>
    iterate 4 refine confines_ofExcept.seq fun _ => ?_
    split
    · exact Prog.sat_raise
    cases (py.environVal "AUDIT_EXPORT_BUCKET").strOrNone with
    | none => exact .done
    | some bucket =>
      refine Prog.Sat.seq ?_ fun records => ?_
      · exact (sat_dbForTenant hc _).bind fun db hdb => confines_collectPages py hdb _ _ _ _
      refine confines_now.seq fun generatedAt => ?_
      refine (confines_random _).seq fun nonce => ?_
      refine confines_ofExcept.seq fun payload => ?_
      refine (confines_uploadAuditExport py _ _ _ _).attempt.bind fun uploaded _ => ?_
      cases uploaded with
      | error x => exact .done
      | ok downloadUrl => exact confines_response py _ _

/-! ## Webhooks -/

theorem confines_listWebhooks (tenantId : String) :
    Confines text t (handleListWebhooks py caller tenantId) := by
  refine confines_ofExcept.seq fun _ => ?_
  refine (sat_dbForTenant hc _).bind fun db hdb => ?_
  exact (confines_query hdb _ rfl).seq fun _ => confines_response py _ _

theorem confines_storeWebhook (tenantId callbackUrl : String) (normalizedEvents : List String)
    (description : Option String) :
    Confines text t (storeWebhook py caller tenantId callbackUrl normalizedEvents description) := by
  refine (confines_random _).seq fun webhookId => ?_
  refine confines_now.seq fun now => ?_
  refine (confines_random _).seq fun webhookSecret => ?_
  refine (sat_dbForTenant hc _).bind fun db hdb => ?_
  exact (confines_putItem hdb _ _).seq fun _ => confines_response py _ _

theorem confines_registerWebhook (event : Items) (tenantId : String) :
    Confines text t (handleRegisterWebhook py event caller tenantId) := by
  unfold handleRegisterWebhook
  iterate 3 refine confines_ofExcept.seq fun _ => ?_
  refine confines_ofExcept.seq fun url => ?_
  obtain ⟨scheme, netloc⟩ := url
  simp only
  split
  · exact .done
  refine confines_ofExcept.seq fun rawEvents => ?_
  refine confines_ofExcept.seq fun normalized => ?_
  cases normalized with
  | error refused => exact .done
  | ok normalizedEvents =>
    simp only
    split
    · exact .done
    · exact confines_storeWebhook py hc _ _ _ _

theorem confines_deleteWebhook (tenantId webhookId : String) :
    Confines text t (handleDeleteWebhook py caller tenantId webhookId) := by
  refine confines_ofExcept.seq fun _ => ?_
  refine (sat_dbForTenant hc _).bind fun db hdb => ?_
  refine (confines_getItem hdb _ _).seq fun record => ?_
  cases record with
  | none => exact .done
  | some record => exact (confines_deleteItem hdb _ _).seq fun _ => confines_response py _ _

theorem confines_webhookRoutes (path method : String) (event : Items) (tenantId : Option String) :
    Confines text t (Webhooks.dispatchRoutes py path method event caller tenantId) := by
  unfold Webhooks.dispatchRoutes
  cases Py.truthyText (tenantId.or caller.tenantId) with
  | none => exact .done
  | some tenantId =>
    simp only
    split
    · exact Prog.sat_map.mpr (confines_listWebhooks py hc _)
    split
    · exact Prog.sat_map.mpr (confines_registerWebhook py hc _ _)
    refine confines_ofExcept.seq fun webhookId => ?_
    cases webhookId with
    | none => exact .done
    | some webhookId =>
      simp only
      split
      · exact Prog.sat_map.mpr (confines_deleteWebhook py hc _ _)
      · exact .done

/-! ## The platform's routes -/

/-- A route for the platform's callers refuses the tenant's. -/
theorem confines_platformActorOnly {α : Type} {p : Unit → Api α} :
    Confines text t (Api.ofExcept (requirePlatformActor caller) >>= p) := by
  refine Prog.sat_bind.mpr (sat_ofExcept fun _ hallowed => ?_)
  rw [requirePlatformActor, hc.not_platform] at hallowed
  exact absurd hallowed (by simp)

theorem confines_agentRoutes (path method : String) (event : Items) :
    Confines text t (AgentRegistry.dispatchRoutes py path method event caller) := by
  have hupdate (agentName version : String) (target : AgentStatus) (evidence : ReleaseEvidence) :
      Confines text t (updateAgentStatus py caller agentName version target evidence) :=
    confines_ofExcept.seq fun _ => confines_platformActorOnly hc
  unfold AgentRegistry.dispatchRoutes
  split
  · refine Prog.sat_map.mpr (Prog.sat_bind.mpr (sat_ofExcept fun _ hallowed => ?_))
    rw [requirePlatformAgentListAccess, requirePlatformActor, hc.not_platform] at hallowed
    split at hallowed <;> exact absurd hallowed (by simp)
  split
  · exact Prog.sat_map.mpr (confines_ofExcept.seq fun _ => confines_platformActorOnly hc)
  refine confines_ofExcept.seq fun promote => ?_
  split
  · exact Prog.sat_map.mpr (hupdate _ _ _ _)
  refine confines_ofExcept.seq fun update => ?_
  split
  · exact Prog.sat_map.mpr (confines_ofExcept.seq fun _ => confines_platformActorOnly hc)
  refine confines_ofExcept.seq fun rollback => ?_
  split
  · exact Prog.sat_map.mpr (hupdate _ _ _ _)
  · exact .done

omit hc in
theorem confines_platformRoutes {path : String}
    (hpath : (Py.startsWith path "/v1/platform" && !Py.startsWith path "/v1/platform/agents") = false)
    (method : String) (event : Items) :
    OpsControl.dispatchPlatformAdminRoutes py path method event caller = pure none ∧
      OpsControl.dispatchOpsRoutes py path method event caller = pure none := by
  have hne (route : String) (hroute : (Py.startsWith route "/v1/platform" &&
      !Py.startsWith route "/v1/platform/agents") = true) : path ≠ route := by
    rintro rfl
    exact absurd hpath (by simp [hroute])
  have hops : Py.startsWith path "/v1/platform/ops" = false := by
    by_contra hops
    obtain ⟨rest, rfl⟩ := Py.startsWith_iff.mp (Bool.not_eq_false _ ▸ hops)
    exact absurd hpath (by simp [Py.startsWith])
  constructor
  · simp only [OpsControl.dispatchPlatformAdminRoutes, hne "/v1/platform/failover" (by decide),
      hne "/v1/platform/quota" (by decide), hne "/v1/platform/quota/split-accounts" (by decide),
      hne "/v1/platform/billing/status" (by decide),
      hne "/v1/platform/service-health" (by decide), false_and, if_false]
  · simp only [OpsControl.dispatchOpsRoutes, hne "/v1/platform/ops/lambda-rollback" (by decide),
      hops, false_and, if_false, Bool.false_eq_true]

/-! ## The tenants' routes -/

theorem confines_rotateApiKey (tenantId : String) :
    Confines text t (handleRotateApiKey py caller tenantId) := by
  unfold handleRotateApiKey
  split
  · exact Prog.sat_raise
  refine (confines_readTenantRecord py hc _).seq fun record => ?_
  cases record with
  | none => exact .done
  | some item =>
    refine (confines_rotateApiKeySecret _ _ _).seq fun versionId => ?_
    refine confines_now.seq fun now => ?_
    refine (sat_dbForTenant hc _).bind fun db hdb => ?_
    refine (confines_setAttributes hdb _ _ _).seq fun _ => ?_
    exact (confines_putEvent py _ _).seq fun _ => confines_response py _ _

theorem confines_read (tenantId : String) : Confines text t (handleRead py caller tenantId) :=
  Prog.sat_map.mpr (confines_recordsRead py hc tenantId)

theorem confines_delete (tenantId : String) :
    Confines text t (handleDelete py caller tenantId) := by
  refine (confines_recordsDelete py hc tenantId).seq fun deleted => ?_
  split
  · exact (confines_read py hc tenantId).seq fun _ => .done
  · exact .done

theorem confines_tenantRoutes (path method : String) (event : Items) (tenantId : String) :
    Confines text t (Lifecycle.dispatchTenant py path method event caller tenantId) := by
  unfold Lifecycle.dispatchTenant
  extract_lets route
  split
  · exact Prog.sat_map.mpr (confines_read py hc _)
  split
  · refine Prog.sat_map.mpr (confines_ofExcept.seq fun body => ?_)
    exact Prog.sat_map.mpr (confines_recordsUpdate py hc _ _)
  split
  · exact Prog.sat_map.mpr (confines_delete py hc _)
  split
  · exact Prog.sat_map.mpr (confines_rotateApiKey py hc _)
  split
  · exact Prog.sat_map.mpr (confines_inviteUser py hc _ _)
  split
  · exact Prog.sat_map.mpr (confines_auditExport py hc _ _)
  split
  · exact Prog.sat_map.mpr (confines_listInvites py hc _)
  split
  · exact confines_webhookRoutes py hc _ _ _ _
  · exact .done

theorem confines_listOwnTenant : Confines text t (listOwnTenant py caller) := by
  unfold listOwnTenant
  extract_lets respond
  have hrespond (items : List Val) : Confines text t (respond items) := confines_response py _ _
  cases caller.tenantId with
  | none => exact hrespond []
  | some tenantId =>
    refine (confines_read py hc tenantId).seq fun answer => ?_
    split
    · exact confines_ofExcept.seq fun tenant => hrespond [tenant]
    · exact hrespond []

end

/-! ## The listing of tenants -/

/-- The caller is shown the page of the table its request asks for: it has an administrator's role,
    and the page starts at the table's start or at a key. -/
def ShowsTable (py : Python) (request : TenantListInput) (caller : CallerIdentity) (limit : Int)
    (startKey : Val) : Prop :=
  caller.isAdmin = true ∧ listingPage py request = .ok (limit, startKey) ∧
    (startKey = .none ∨ ((Arg.val startKey).key? (tenantsTableName py)).isSome)

/-- A scan from what is neither nothing nor a key is refused. -/
theorem confines_rejectedScan {table : String} {limit : Int} {startKey : Val}
    (hnone : startKey ≠ .none) (hkey : (Arg.val startKey).key? table = none) :
    Confines text t (Api.dynamodb (controlPlaneScan table none (some limit) startKey)) := by
  refine Prog.Sat.mapCalls (sat_controlPlaneScan (P := fun r => Stays text t (.db r)) (.inr ?_))
  cases startKey with
  | none => exact absurd rfl hnone
  | dict key => exact ⟨Dynamo.invalid, by simp [Dynamo.startOf, valUnlessNone, setSome, hkey]⟩
  | _ => exact ⟨Dynamo.paramValidation, by simp [Dynamo.startOf, valUnlessNone, setSome]⟩

theorem confines_listTenants (py : Python) (hc : ScopedCaller t caller) {request : TenantListInput}
    (hlist : ∀ limit startKey, ¬ ShowsTable py request caller limit startKey) :
    Confines text t (handleListTenants py request caller) := by
  unfold handleListTenants
  cases hadmin : caller.isAdmin with
  | false => exact confines_listOwnTenant py hc
  | true =>
    cases hpage : listingPage py request with
    | error refused => exact .done
    | ok page =>
      obtain ⟨limit, startKey⟩ := page
      have hstart : ¬ (startKey = .none ∨ _) := fun hstart =>
        hlist limit startKey ⟨hadmin, hpage, hstart⟩
      obtain ⟨hnone, hkey⟩ := not_or.mp hstart
      exact (confines_rejectedScan hnone (Option.not_isSome_iff_eq_none.mp hkey)).seq
        fun _ => confines_response py _ _

/-! ## The handler -/

/-- An event of the provisioner, which comes from the event bus: a request carries no `detail-type`. -/
def IsProvisionerEvent (event : Items) : Prop :=
  (event.get "detail-type").strOrNone.isSome = true ∧
    (event.get "source").strOrNone = some "platform.tenant_provisioner"

/-- The request is answered with a page of the whole table of tenants: it lists the tenants, its
    caller has an administrator's role, and the page it asks for is one. -/
def ListsAllTenants (py : Python) (event : Items) : Prop :=
  ∃ runtime limit startKey, buildRuntime py event = .ok runtime ∧
    runtime.path = "/v1/tenants" ∧ runtime.method = "GET" ∧
    ShowsTable py (tenantListInputFromEvent event) runtime.caller limit startKey

/-- What the runtime takes over from the event. -/
theorem buildRuntime_eq_ok {py : Python} {event : Items} {runtime : TenantApiRuntime}
    (h : buildRuntime py event = .ok runtime) :
    callerIdentity py event = .ok runtime.caller ∧
      runtime.detailType = (event.get "detail-type").strOrNone ∧
      runtime.source = (event.get "source").strOrNone := by
  unfold buildRuntime at h
  cases hcaller : callerIdentity py event with
  | error x => exact absurd h (by simp [hcaller, Bind.bind, Except.bind])
  | ok caller =>
    cases hmethod : eventOrHttp event "httpMethod" "method" with
    | error x => exact absurd h (by simp [hcaller, hmethod, Bind.bind, Except.bind])
    | ok method =>
      cases hpath : eventOrHttp event "path" "path" with
      | error x => exact absurd h (by simp [hcaller, hmethod, hpath, Bind.bind, Except.bind])
      | ok path =>
        cases htenant : pathTenant event caller with
        | error x =>
          exact absurd h (by simp [hcaller, hmethod, hpath, htenant, Bind.bind, Except.bind])
        | ok tenant =>
          simp only [hcaller, hmethod, hpath, htenant, Bind.bind, Except.bind] at h
          cases h
          exact ⟨rfl, rfl, rfl⟩

variable {py : Python} {event : Items}

theorem confines_routes (hc : ScopedCaller t caller) {runtime : TenantApiRuntime}
    (hcaller : runtime.caller = caller)
    (hlist : ∀ limit startKey, runtime.path = "/v1/tenants" → runtime.method = "GET" →
      ¬ ShowsTable py (tenantListInputFromEvent event) caller limit startKey) :
    Confines text t (dispatchTenantRoutes py runtime event) := by
  obtain ⟨runtimeCaller, method, path, tenantId, detailType, source⟩ := runtime
  obtain rfl : runtimeCaller = caller := hcaller
  unfold dispatchTenantRoutes
  simp only [hc.not_platform, Bool.not_false, Bool.and_true]
  split
  · exact Prog.sat_raise
  rename_i hplatform
  obtain ⟨hadmin, hops⟩ := confines_platformRoutes py (Bool.eq_false_of_not_eq_true hplatform)
    method event
  rw [hadmin, hops]
  show Confines text t (if _ then _ else _)
  split
  · exact confines_agentRoutes py hc _ _ _
  split
  · exact confines_webhookRoutes py hc _ _ _ _
  unfold Lifecycle.dispatchRoutes
  split
  · refine Prog.sat_map.mpr (confines_ofExcept.seq fun request => ?_)
    exact Prog.sat_map.mpr (confines_recordsCreate py hc _)
  split
  · rename_i hroute
    exact Prog.sat_map.mpr (confines_listTenants py hc fun limit startKey =>
      hlist limit startKey hroute.1 hroute.2)
  cases tenantId with
  | none => exact .done
  | some tenantId => exact confines_tenantRoutes py hc _ _ _ _

theorem confines_unrouted {runtime : TenantApiRuntime}
    (hevent : ¬ (runtime.detailType.isSome ∧ runtime.source = some "platform.tenant_provisioner")) :
    Confines text t (handleUnrouted py runtime event) := by
  unfold handleUnrouted
  split
  · rename_i hprovisioner
    exact absurd hprovisioner hevent
  split
  · exact confines_now.seq fun now => confines_response py _ _
  split <;> exact .done

/-- **What a request asks for.** A request of a tenant's caller stays in its partition, unless it
    lists the tenants of the whole table. -/
theorem confines_handleEvent (hcaller : callerIdentity py event = .ok caller)
    (hc : ScopedCaller t caller) (hevent : ¬ IsProvisionerEvent event)
    (hlist : ¬ ListsAllTenants py event) : Confines text t (handleEvent py event) := by
  refine Prog.Sat.tryExcept (Prog.sat_bind.mpr (sat_ofExcept fun runtime hruntime => ?_))
    fun x => .done
  obtain ⟨hruntimeCaller, hdetailType, hsource⟩ := buildRuntime_eq_ok hruntime
  obtain rfl : runtime.caller = caller := Except.ok.inj (hruntimeCaller.symm.trans hcaller)
  have hroutes : Confines text t (dispatchTenantRoutes py runtime event) :=
    confines_routes hc rfl fun limit startKey hpath hmethod hshows =>
      hlist ⟨runtime, limit, startKey, hruntime, hpath, hmethod, hshows⟩
  refine hroutes.seq fun answer => ?_
  cases answer with
  | some answer => exact .done
  | none =>
    refine confines_unrouted ?_
    rw [hdetailType, hsource]
    exact hevent

end A5cCell.TenantApi
