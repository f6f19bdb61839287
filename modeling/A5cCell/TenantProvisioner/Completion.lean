import A5cCell.TenantApi.Creation
import A5cCell.TenantApi.Lifecycle

/-!
# The end of a provisioning

`tenant_provisioner.handler._emit_completion`: the event that ends the provisioning workflow of a
tenant, and what the tenant API makes of it. The event is the workflow's own fields with the outputs of
the stack merged over them, so an output may be named like a field.
-/

namespace A5cCell.TenantProvisioner

open Py (Val Items Dict)
open DataAccess TenantApi

/-! ## The event -/

/-- An entry of `put_events`; the detail is kept as the value its text encodes. -/
structure Entry where
  source : String
  detailType : String
  detail : Items
  eventBusName : String

/-- The detail type of a result. -/
def detailTypeOf (resultType : String) : Option String :=
  if resultType = "provisioned" then some "tenant.provisioned"
  else if resultType = "failed" then some "tenant.provisioning_failed"
  else none

def resultTypeOf (event : Items) : String :=
  Py.strip ((event.get "resultType").or (.str "")).toStr

/-- The outputs of the stack that an event of the workflow has. -/
def outputsOf (event : Items) : Items := (event.get "outputs").asDict?.getD []

/-- The workflow's own fields. -/
def ownDetail (event : Items) : Items :=
  ["tenantId", "appId", "tier", "accountId", "stackName", "stackStatus"].map fun field =>
    (field, event.get field)

/-- The detail of the completion event. -/
def completionDetail (event : Items) : Items :=
  let detail := (ownDetail event).merge (outputsOf event)
  if (event.get "reason").isNone then detail else detail.set "reason" (event.get "reason")

/-- What `_emit_completion` puts on the bus. -/
def completionEntry (py : Python) (event : Items) : Except Exc Entry :=
  match detailTypeOf (resultTypeOf event) with
  | none => .error (.valueError "resultType must be 'provisioned' or 'failed'")
  | some detailType => .ok
      { source := "platform.tenant_provisioner"
        detailType := detailType
        detail := completionDetail event
        eventBusName := (py.environ "EVENT_BUS_NAME").getD "default" }

/-- `_emit_completion`. -/
def emitCompletion (py : Python) (event : Items) : Api Items := do
  let entry ← Api.ofExcept (completionEntry py event)
  let _ ← Api.service "events" "put_events" [("Entries", .list [.dict [
    ("Source", .str entry.source),
    ("DetailType", .str entry.detailType),
    ("Detail", .dict entry.detail),
    ("EventBusName", .str entry.eventBusName)]])]
  pure [("status", .str "EMITTED"), ("detailType", .str entry.detailType),
    ("tenantId", entry.detail.get "tenantId")]

/-- The event the bus delivers for an entry, whatever else its envelope has. -/
structure Delivers (entry : Entry) (delivered : Items) : Prop where
  source : delivered.lookup "source" = some (.str entry.source)
  detailType : delivered.lookup "detail-type" = some (.str entry.detailType)
  detail : delivered.lookup "detail" = some (.dict entry.detail)

/-- The provisioning status a result stands for. -/
def outcomeOf (resultType : String) : String := if resultType = "provisioned" then "ready" else "failed"

/-! ## What an event should do -/

/-- The event carries the workflow's own tenant, application, account and outcome. -/
structure CarriesOwn (event : Items) (entry : Entry) (delivered : Items) : Prop where
  tenantId : entry.detail.get "tenantId" = event.get "tenantId"
  appId : entry.detail.get "appId" = event.get "appId"
  accountId : entry.detail.get "accountId" = event.get "accountId"
  detailType : detailTypeOf (resultTypeOf event) = some entry.detailType
  outcome : provisioningStatusOf delivered entry.detail = .ok (outcomeOf (resultTypeOf event))

/-- Only the row of the tenant changes, which is there already. -/
def ChangesOwnRow (py : Python) (tenantId : Val) (before after : Tables) : Prop :=
  ∀ key, after.get? key ≠ before.get? key →
    ∃ tenant, tenantId.strOrNone = some tenant ∧ key = metadataKey py tenant ∧
      (before.get? key).isSome

/-- The event of a completion keeps to its tenant. -/
structure KeepsTenant (py : Python) (event : Items) (entry : Entry) (tables : Tables) : Prop where
  carries : ∀ delivered, Delivers entry delivered → CarriesOwn event entry delivered
  changes : ∀ delivered, Delivers entry delivered → ∀ (τ : Type) (world : World τ) (t : τ),
    ChangesOwnRow py (event.get "tenantId") tables
      (Prog.run world.serve (tables, t) (handleTenantProvisioningEvent py delivered)).final.1

/-! ## When it does -/

/-- No output has another value under the name of a field. -/
def Unmasked (event : Items) (field : String) : Prop :=
  ∀ value, (outputsOf event).lookup field = some value → value = event.get field

/-- The status the outputs report, if they do. -/
def reportedOutcome (event : Items) : Option String :=
  (((outputsOf event).get "provisioningStatus").strOrNone).or ((outputsOf event).get "status").strOrNone

/-- The account of an event is absent, or the platform's own. -/
def accountAccepted (py : Python) (accountId : Val) : Bool :=
  match accountId.strOrNone with
  | none => true
  | some text => (requirePlatformHomeAccountId py (.str text)).isOk

/-- The outputs hide nothing, and the row of the tenant is there, or the event is refused. -/
structure Clear (py : Python) (event : Items) (tables : Tables) : Prop where
  unmasked : ∀ field ∈ ["tenantId", "appId", "accountId"], Unmasked event field
  reported : ∀ status, reportedOutcome event = some status →
    status = outcomeOf (resultTypeOf event)
  registered : ∀ tenant, (event.get "tenantId").strOrNone = some tenant →
    accountAccepted py (event.get "accountId") = true →
      (tables.get? (metadataKey py tenant)).isSome

/-! ## The detail -/

section

variable {py : Python} {event : Items} {entry : Entry} {delivered : Items}

/-- An output is merged over the workflow's own field of that name. -/
theorem lookup_merge_outputsOf (hnodup : ((outputsOf event).map Prod.fst).Nodup) (field : String) :
    ((ownDetail event).merge (outputsOf event)).lookup field =
      ((outputsOf event).lookup field).or ((ownDetail event).lookup field) := by
  cases houtput : (outputsOf event).lookup field with
  | some value =>
    rw [Items.lookup_merge_of_mem _ hnodup ((Py.lookup_eq_some_iff hnodup).mp houtput)]
    rfl
  | none =>
    rw [Items.lookup_merge_of_not_mem, Option.none_or]
    intro kv hkv hkey
    have hpresent := List.lookup_eq_none_iff.mp houtput kv hkv
    simp [hkey] at hpresent

/-- A field of the detail is the output of that name, or the workflow's own. -/
theorem lookup_completionDetail (hnodup : ((outputsOf event).map Prod.fst).Nodup) {field : String}
    (hfield : field ≠ "reason") : (completionDetail event).lookup field =
      ((outputsOf event).lookup field).or ((ownDetail event).lookup field) := by
  rw [← lookup_merge_outputsOf hnodup]
  unfold completionDetail
  split
  · rfl
  · exact Py.lookup_setItem_ne _ hfield _

/-- The detail has what the event has under one of its own fields, where no output is named like
    it. -/
theorem get_completionDetail (hnodup : ((outputsOf event).map Prod.fst).Nodup) {field : String}
    (hfield : field ∈ ["tenantId", "appId", "tier", "accountId", "stackName", "stackStatus"]) :
    (completionDetail event).get field =
      ((outputsOf event).lookup field).getD (event.get field) := by
  have hown : (ownDetail event).lookup field = some (event.get field) := by
    simp only [List.mem_cons, List.not_mem_nil, or_false] at hfield
    rcases hfield with rfl | rfl | rfl | rfl | rfl | rfl <;> rfl
  have hreason : field ≠ "reason" := by
    rintro rfl
    simp at hfield
  have hdetail : (completionDetail event).get field =
      ((completionDetail event).lookup field).getD .none := rfl
  rw [hdetail, lookup_completionDetail hnodup hreason, hown]
  cases (outputsOf event).lookup field <;> rfl

/-- An event without a reason has every output in its detail. -/
theorem get_completionDetail_output (hnodup : ((outputsOf event).map Prod.fst).Nodup)
    (hreason : event.get "reason" = .none) {name : String} {value : Val}
    (houtput : (outputsOf event).lookup name = some value) :
    (completionDetail event).get name = value := by
  have hdetail : completionDetail event = (ownDetail event).merge (outputsOf event) := by
    unfold completionDetail
    rw [hreason]
    rfl
  rw [hdetail, Items.get, lookup_merge_outputsOf hnodup, houtput]
  rfl

/-- A reason is set over whatever the outputs say. -/
theorem get_completionDetail_reason {reason : String} (h : event.get "reason" = .str reason) :
    (completionDetail event).get "reason" = .str reason := by
  have hdetail : completionDetail event =
      ((ownDetail event).merge (outputsOf event)).set "reason" (.str reason) := by
    unfold completionDetail
    rw [h]
    rfl
  rw [hdetail, Items.get, Items.set, Py.lookup_setItem_self]
  rfl

/-- A field of the workflow is carried where no output hides it. -/
theorem get_completionDetail_iff (hnodup : ((outputsOf event).map Prod.fst).Nodup) {field : String}
    (hfield : field ∈ ["tenantId", "appId", "accountId"]) :
    (completionDetail event).get field = event.get field ↔ Unmasked event field := by
  have hall : ∀ field ∈ ["tenantId", "appId", "accountId"],
      field ∈ ["tenantId", "appId", "tier", "accountId", "stackName", "stackStatus"] := by decide
  rw [get_completionDetail hnodup (hall field hfield), Unmasked]
  cases (outputsOf event).lookup field with
  | none => simp
  | some value => simp

/-- The status the event reports is the outputs'. -/
theorem reported_completionDetail (hnodup : ((outputsOf event).map Prod.fst).Nodup) :
    (((completionDetail event).get "provisioningStatus").strOrNone).or
      ((completionDetail event).get "status").strOrNone = reportedOutcome event := by
  have hget (field : String) (hreason : field ≠ "reason")
      (hown : (ownDetail event).lookup field = none) :
      (completionDetail event).get field = (outputsOf event).get field := by
    have hdetail (d : Items) : d.get field = (d.lookup field).getD .none := rfl
    rw [hdetail, hdetail, lookup_completionDetail hnodup hreason, hown, Option.or_none]
  rw [hget "provisioningStatus" (by decide) rfl, hget "status" (by decide) rfl]
  rfl

/-- The two results, with the detail type and the outcome of each. -/
theorem entry_cases (hemit : completionEntry py event = .ok entry) :
    entry.detail = completionDetail event ∧
      (resultTypeOf event = "provisioned" ∧ entry.detailType = "tenant.provisioned" ∨
        resultTypeOf event = "failed" ∧ entry.detailType = "tenant.provisioning_failed") := by
  unfold completionEntry at hemit
  split at hemit
  · cases hemit
  · rename_i detailType htype
    cases hemit
    refine ⟨rfl, ?_⟩
    unfold detailTypeOf at htype
    split at htype
    · rename_i hprovisioned
      exact .inl ⟨hprovisioned, (Option.some.inj htype).symm⟩
    · split at htype
      · rename_i hfailed
        exact .inr ⟨hfailed, (Option.some.inj htype).symm⟩
      · cases htype

/-- What the tenant API reads the outcome as. -/
theorem outcome_iff (hnodup : ((outputsOf event).map Prod.fst).Nodup)
    (hemit : completionEntry py event = .ok entry) (hdelivered : Delivers entry delivered) :
    provisioningStatusOf delivered entry.detail = .ok (outcomeOf (resultTypeOf event)) ↔
      ∀ status, reportedOutcome event = some status → status = outcomeOf (resultTypeOf event) := by
  obtain ⟨hdetail, hcases⟩ := entry_cases hemit
  have htype : delivered.get "detail-type" = .str entry.detailType := by
    rw [Items.get, hdelivered.detailType]
    rfl
  have hmem : outcomeOf (resultTypeOf event) ∈ tenantProvisioningStatuses := by
    rcases hcases with ⟨hresult, -⟩ | ⟨hresult, -⟩ <;> rw [hresult] <;> decide
  unfold provisioningStatusOf
  rw [hdetail, reported_completionDetail hnodup, htype]
  cases hreported : reportedOutcome event with
  | none =>
    constructor
    · intro _ status hstatus
      cases hstatus
    · intro _
      rcases hcases with ⟨hresult, hdetailType⟩ | ⟨hresult, hdetailType⟩
      all_goals
        rw [hresult, hdetailType]
        rfl
  | some status =>
    simp only [Option.some_or, Option.some.injEq, forall_eq']
    constructor
    · intro h
      split at h
      · exact Except.ok.inj h
      · cases h
    · intro h
      rw [h, if_pos (List.contains_iff_mem.mpr hmem)]

end

/-! ## The tenant API -/

section

variable {py : Python} {tenantId : String} {delivered : Items}

/-- What handling an event calls: no write but of the tenant's row. -/
inductive EventCall (py : Python) (tenantId : String) : Effect → Prop
  | now : EventCall py tenantId .now
  | get (table : String) (key : Items) : EventCall py tenantId (.db (getRequest table key))
  | set (attributes : Items) : EventCall py tenantId
      (.db (setRequest (tenantsTableName py) (tenantKey tenantId) attributes))
  | service (client operation : String) (kwargs : Items) :
      EventCall py tenantId (.service client operation kwargs)

/-- What is done of an event that passes the checks. -/
def applyEvent (py : Python) (tenantId : String) (detail : Items) (status : String) : Api Response := do
  let now ← Api.now
  let systemCaller : CallerIdentity :=
    { tenantId := some tenantId
      appId := some ((detail.get "appId").strOrNone.getD "system")
      tier := some "premium"
      sub := some "system"
      roles := []
      usageIdentifierKey := none }
  let db ← dbForTenant tenantId systemCaller
  setAttributes db (tenantsTableName py) (tenantKey tenantId)
    (provisioningUpdates detail status (py.isoUtc now))
  match ← readTenantRecord py tenantId systemCaller with
  | none => .raise (.runtimeError ("Failed to fetch updated tenant " ++ tenantId))
  | some updatedItem =>
      let _ ← putEvent py "tenant.provisioning_updated"
        [("tenantId", .str tenantId), ("status", .str status)]
      response py 200 [("tenant", .dict (serializeTenant updatedItem))]

/-- An event is refused by its checks, or applied. -/
theorem handle_event_eq (py : Python) {detail : Items} (hdetail : delivered.lookup "detail" = some (.dict detail)) :
    (∃ exc, handleTenantProvisioningEvent py delivered = .raise exc) ∧
        ((detail.get "tenantId").strOrNone = none ∨
          (∃ exc, provisioningStatusOf delivered detail = .error exc) ∨
          accountAccepted py (detail.get "accountId") = false) ∨
      ∃ tenant status, (detail.get "tenantId").strOrNone = some tenant ∧
        provisioningStatusOf delivered detail = .ok status ∧
        accountAccepted py (detail.get "accountId") = true ∧
        handleTenantProvisioningEvent py delivered = applyEvent py tenant detail status := by
  have hget : delivered.get "detail" (.dict []) = .dict detail := by
    rw [Items.get, hdetail]
    rfl
  unfold handleTenantProvisioningEvent
  rw [hget]
  simp only [getAttr, Val.asDict?, Option.getD_some, ofExcept_ok_bind]
  cases htenant : (detail.get "tenantId").strOrNone with
  | none => exact .inl ⟨⟨_, rfl⟩, .inl rfl⟩
  | some tenant =>
    cases hstatus : provisioningStatusOf delivered detail with
    | error exc => exact .inl ⟨⟨exc, rfl⟩, .inr (.inl ⟨exc, rfl⟩)⟩
    | ok status =>
      rcases Option.eq_none_or_eq_some (detail.get "accountId").strOrNone with
        haccount | ⟨account, haccount⟩
      · refine .inr ⟨tenant, status, rfl, rfl, ?_, ?_⟩
        · simp [accountAccepted, haccount]
        · simp only [ofExcept_ok_bind, haccount, Option.isSome_none, Bool.false_eq_true, if_false]
          rfl
      · cases hhome : requirePlatformHomeAccountId py (.str account) with
        | error exc =>
          refine .inl ⟨⟨exc, ?_⟩, .inr (.inr ?_)⟩
          · simp only [ofExcept_ok_bind, haccount, Option.isSome_some, if_true, optionVal, hhome,
              ofExcept_error_bind]
          · simp [accountAccepted, haccount, hhome, Except.isOk, Except.toBool]
        | ok home =>
          refine .inr ⟨tenant, status, rfl, rfl, ?_, ?_⟩
          · simp [accountAccepted, haccount, hhome, Except.isOk, Except.toBool]
          · simp only [ofExcept_ok_bind, haccount, Option.isSome_some, if_true, optionVal, hhome]
            rfl

theorem calls_applyEvent {detail : Items} {status : String} :
    (applyEvent py tenantId detail status).Sat (EventCall py tenantId) fun _ => True := by
  unfold applyEvent
  refine ⟨.now, fun now => ?_⟩
  refine calls_dbForTenant.bind fun db _ => ?_
  refine (calls_setAttributes (.set _)).seq fun _ => ?_
  refine (calls_readTenantRecord (.get _ _)).seq fun row => ?_
  cases row with
  | none => trivial
  | some updatedItem => exact (calls_putEvent (.service _ _ _)).seq fun _ => calls_response

/-- A call of the handling changes no row but the tenant's. -/
theorem serve_eventCall {τ : Type} (world : World τ) {e : Effect} (he : EventCall py tenantId e)
    (s : Tables × τ) {key : RowKey} (hkey : key ≠ metadataKey py tenantId) :
    (world.serve s e).2.1.get? key = s.1.get? key := by
  cases he with
  | now => rfl
  | get table key => rw [serve_get]
  | service client operation kwargs => rfl
  | set attributes =>
    rcases serve_set world s (tenantsTableName py) (tenantKey tenantId) attributes with
      ⟨hsame, -⟩ | ⟨row, updated, hrow, -, hset, -⟩
    · rw [hsame]
    · cases (key?_tenantKey py tenantId).symm.trans hrow
      rw [hset, Dict.get?_set_ne _ _ hkey]

/-- A row of the tenant stays through the calls of the handling. -/
theorem serve_eventCall_isSome {τ : Type} (world : World τ) {e : Effect} (he : EventCall py tenantId e)
    (s : Tables × τ) (hrow : (s.1.get? (metadataKey py tenantId)).isSome) :
    ((world.serve s e).2.1.get? (metadataKey py tenantId)).isSome := by
  cases he with
  | now => exact hrow
  | get table key =>
    rw [serve_get]
    exact hrow
  | service client operation kwargs => exact hrow
  | set attributes =>
    rcases serve_set world s (tenantsTableName py) (tenantKey tenantId) attributes with
      ⟨hsame, -⟩ | ⟨row, updated, hkey, -, hset, -⟩
    · rw [hsame]
      exact hrow
    · cases (key?_tenantKey py tenantId).symm.trans hkey
      rw [hset, Dict.get?_set_self]
      rfl

/-- Where nothing fails, the row of a tenant is there once its attributes are set. -/
theorem serve_set_settingRows (py : Python) (tenantId : String) (tables : Tables)
    (attributes : Items) :
    ∃ row updated, (quiet settingRows).serve (tables, ())
      (.db (setRequest (tenantsTableName py) (tenantKey tenantId) attributes)) =
        (.ok row, tables.set (metadataKey py tenantId) updated, ()) := by
  have hget : (setRequest (tenantsTableName py) (tenantKey tenantId) attributes).kwargs.get? "Key" =
    some (.val (.dict (tenantKey tenantId))) := rfl
  have hcondition (row : Option Items) : settingRows.conditionHolds
      (setRequest (tenantsTableName py) (tenantKey tenantId) attributes).kwargs row = true := rfl
  simp only [World.serve, quiet, setRequest, Dynamo.serve] at hget hcondition ⊢
  rw [hget, Option.bind_some, key?_tenantKey]
  simp only [hcondition, if_true]
  exact ⟨_, _, rfl⟩

/-- A caller is given the client of its own tenant. -/
theorem dbForTenant_own {α : Type} {caller : CallerIdentity} (hcaller : caller.tenantId = some tenantId)
    (f : Client → Api α) : (dbForTenant tenantId caller >>= f) = f (.tenantScoped tenantId) := by
  have hscope : requireTenantScopeAllowed tenantId caller = .ok () := by
    unfold requireTenantScopeAllowed
    rw [if_pos hcaller, ite_self]
  unfold dbForTenant
  rw [hscope]
  rfl

/-- A tenant's client sets the attributes of its own row. -/
theorem setAttributes_own {α : Type} (attributes : Items) (f : Unit → Api α) :
    (setAttributes (.tenantScoped tenantId) (tenantsTableName py) (tenantKey tenantId) attributes >>=
      f) = (Api.dynamodb (issue (setRequest (tenantsTableName py) (tenantKey tenantId) attributes)) >>=
        fun _ => f ()) := by
  have hvalid : (Client.tenantScoped tenantId).validatePk (tenantKey tenantId) = .ok () := by
    simp [Client.validatePk, Items.get, tenantKey, isForeignPk, tenantPk]
  have hissue : setAttributes (.tenantScoped tenantId) (tenantsTableName py) (tenantKey tenantId)
      attributes = (Api.dynamodb (issue (setRequest (tenantsTableName py) (tenantKey tenantId)
        attributes)) >>= fun _ => pure ()) := by
    unfold setAttributes Client.updateItem
    rw [hvalid]
    rfl
  rw [hissue, bind_assoc]
  simp only [pure_bind]

/-- A row of the tenant that the first write leaves stays through what follows. -/
theorem isSome_final_write {τ β : Type} {Q : β → Prop} (world : World τ) {r : Request}
    {f : r.operation.Answer → Api β}
    (hcalls : (Api.dynamodb (issue r) >>= f).Sat (EventCall py tenantId) Q) (s : Tables × τ)
    (hrow : ((world.serve s (.db r)).2.1.get? (metadataKey py tenantId)).isSome) :
    ((Prog.run world.serve s (Api.dynamodb (issue r) >>= f)).final.1.get?
      (metadataKey py tenantId)).isSome :=
  Prog.run_inv (I := fun s => (s.1.get? (metadataKey py tenantId)).isSome)
    (fun _ he s hs => serve_eventCall_isSome world he s hs) (hcalls.2 _) hrow

/-- Where nothing fails, applying an event leaves a row of the tenant. -/
theorem applyEvent_creates (py : Python) (tenantId : String) (tables : Tables) (detail : Items)
    (status : String) :
    ((Prog.run (quiet settingRows).serve (tables, ()) (applyEvent py tenantId detail status)).final.1.get?
      (metadataKey py tenantId)).isSome := by
  have hcalls : (applyEvent py tenantId detail status).Sat (EventCall py tenantId) fun _ => True :=
    calls_applyEvent
  unfold applyEvent at hcalls ⊢
  -- the clock is read, and then the row is written
  have hwrites : Prog.Sat (EventCall py tenantId) (fun _ => True) (dbForTenant tenantId _ >>= _) :=
    hcalls.2 0
  show ((Prog.run (quiet settingRows).serve (tables, ()) (dbForTenant tenantId _ >>= _)).final.1.get?
    _).isSome
  rw [dbForTenant_own rfl, setAttributes_own] at hwrites ⊢
  have hrow (attributes : Items) : (((quiet settingRows).serve (tables, ()) (.db (setRequest
      (tenantsTableName py) (tenantKey tenantId) attributes))).2.1.get?
        (metadataKey py tenantId)).isSome := by
    obtain ⟨row, updated, hserve⟩ := serve_set_settingRows py tenantId tables attributes
    rw [hserve, Dict.get?_set_self]
    rfl
  exact isSome_final_write (quiet settingRows) hwrites (tables, ()) (hrow _)

/-- Applying an event changes no row but the tenant's. -/
theorem applyEvent_other {τ : Type} (world : World τ) (s : Tables × τ) {detail : Items}
    {status : String} {key : RowKey} (hkey : key ≠ metadataKey py tenantId) :
    (Prog.run world.serve s (applyEvent py tenantId detail status)).final.1.get? key =
      s.1.get? key := by
  refine Prog.run_inv (P := EventCall py tenantId) (Q := fun _ => True)
    (I := fun s' : Tables × τ => s'.1.get? key = s.1.get? key) ?_ calls_applyEvent rfl
  intro e he s' hs'
  rw [serve_eventCall world he s' hkey, hs']

end

/-! ## When a completion keeps to its tenant -/

section

variable {py : Python} {event : Items} {entry : Entry} {tables : Tables}

theorem completionEntry_detailType (hemit : completionEntry py event = .ok entry) :
    detailTypeOf (resultTypeOf event) = some entry.detailType := by
  unfold completionEntry at hemit
  split at hemit
  · cases hemit
  · rename_i htype
    cases hemit
    exact htype

theorem carriesOwn_iff (hnodup : ((outputsOf event).map Prod.fst).Nodup)
    (hemit : completionEntry py event = .ok entry) {delivered : Items}
    (hdelivered : Delivers entry delivered) :
    CarriesOwn event entry delivered ↔
      (∀ field ∈ ["tenantId", "appId", "accountId"], Unmasked event field) ∧
        ∀ status, reportedOutcome event = some status →
          status = outcomeOf (resultTypeOf event) := by
  have hdetail := (entry_cases hemit).1
  rw [← outcome_iff hnodup hemit hdelivered]
  have hfield {field : String} (hmem : field ∈ ["tenantId", "appId", "accountId"]) :
      entry.detail.get field = event.get field ↔ Unmasked event field := by
    rw [hdetail]
    exact get_completionDetail_iff hnodup hmem
  constructor
  · intro h
    refine ⟨?_, h.outcome⟩
    simp only [List.forall_mem_cons, List.not_mem_nil, false_implies, implies_true, and_true]
    exact ⟨(hfield (by simp)).mp h.tenantId, (hfield (by simp)).mp h.appId,
      (hfield (by simp)).mp h.accountId⟩
  · intro h
    exact ⟨(hfield (by simp)).mpr (h.1 _ (by simp)), (hfield (by simp)).mpr (h.1 _ (by simp)),
      (hfield (by simp)).mpr (h.1 _ (by simp)), completionEntry_detailType hemit, h.2⟩

/-- **A completion keeps to its tenant** exactly where the outputs of the stack hide nothing, and the
    row of the tenant is there when the event is handled, or the event is refused. -/
theorem keepsTenant_iff (hnodup : ((outputsOf event).map Prod.fst).Nodup)
    (hemit : completionEntry py event = .ok entry) :
    KeepsTenant py event entry tables ↔ Clear py event tables := by
  constructor
  · intro h
    obtain ⟨delivered, hdelivered⟩ : ∃ delivered, Delivers entry delivered :=
      ⟨[("source", .str entry.source), ("detail-type", .str entry.detailType),
        ("detail", .dict entry.detail)], rfl, rfl, rfl⟩
    have hcarries := h.carries delivered hdelivered
    obtain ⟨hunmasked, hreported⟩ := (carriesOwn_iff hnodup hemit hdelivered).mp hcarries
    refine ⟨hunmasked, hreported, ?_⟩
    intro tenant htenant haccepted
    rw [← hcarries.tenantId] at htenant
    rw [← hcarries.accountId] at haccepted
    rcases handle_event_eq py hdelivered.detail with ⟨-, hrefused⟩ | happlied
    · rcases hrefused with hnone | ⟨exc, hexc⟩ | hforeign
      · cases htenant.symm.trans hnone
      · cases hcarries.outcome.symm.trans hexc
      · cases haccepted.symm.trans hforeign
    · obtain ⟨tenant', status, htenant', -, -, happly⟩ := happlied
      cases htenant.symm.trans htenant'
      have hcreates := applyEvent_creates py tenant tables entry.detail status
      -- Were the row not there, handling the event would make one, in a world where nothing fails.
      by_cases hrow : tables.get? (metadataKey py tenant) = none
      · have hchanged := h.changes delivered hdelivered Unit (quiet settingRows) ()
          (metadataKey py tenant) ?_
        · obtain ⟨-, -, -, hthere⟩ := hchanged
          exact hthere
        · rw [happly, hrow]
          intro hgone
          rw [hgone] at hcreates
          cases hcreates
      · exact Option.isSome_iff_ne_none.mpr hrow
  · intro h
    have hcarries {delivered : Items} (hdelivered : Delivers entry delivered) :
        CarriesOwn event entry delivered :=
      (carriesOwn_iff hnodup hemit hdelivered).mpr ⟨h.unmasked, h.reported⟩
    refine ⟨fun delivered => hcarries, ?_⟩
    intro delivered hdelivered τ world t key hchanged
    have hown := hcarries hdelivered
    rcases handle_event_eq py hdelivered.detail with ⟨⟨exc, hraise⟩, -⟩ | happlied
    · rw [hraise] at hchanged
      exact absurd rfl hchanged
    · obtain ⟨tenant, status, htenant, -, haccepted, happly⟩ := happlied
      rw [hown.tenantId] at htenant
      rw [hown.accountId] at haccepted
      have hkey : key = metadataKey py tenant := by
        by_contra hkey
        rw [happly] at hchanged
        exact hchanged (applyEvent_other world (tables, t) hkey)
      subst hkey
      exact ⟨tenant, htenant, rfl, h.registered tenant htenant haccepted⟩

end

/-! ## A completion of the sample tenant -/

/-- The end of a provisioning of `acme` whose stack has these outputs. -/
def acmeCompletion (outputs : Items) : Items :=
  [("resultType", .str "provisioned"), ("tenantId", .str "acme"), ("appId", .str "app"),
    ("accountId", .str "123456789012"), ("outputs", .dict outputs)]

/-- What the bus is given for it. -/
def acmeEntry (outputs : Items) : Entry where
  source := "platform.tenant_provisioner"
  detailType := "tenant.provisioned"
  detail := completionDetail (acmeCompletion outputs)
  eventBusName := "default"

def acmeTables : Tables := Dict.empty.set (metadataKey homeAccount "acme") [("status", .str "active")]

theorem keepsTenant_executionRole : KeepsTenant homeAccount
    (acmeCompletion [("ExecutionRoleArn", .str "arn:aws:iam::123456789012:role/acme")])
    (acmeEntry [("ExecutionRoleArn", .str "arn:aws:iam::123456789012:role/acme")]) acmeTables := by
  refine (keepsTenant_iff (by decide) rfl).mpr ⟨?_, ?_, ?_⟩
  · intro field hfield value hvalue
    simp only [List.mem_cons, List.not_mem_nil, or_false] at hfield
    rcases hfield with rfl | rfl | rfl <;> cases hvalue
  · intro status hstatus
    cases hstatus
  · intro tenant htenant _
    cases htenant
    rfl

/-- An output named `tenantId` takes the place of the workflow's tenant. -/
theorem masked_completion_leaves_tenant : ¬ ∀ py event entry tables,
    ((outputsOf event).map Prod.fst).Nodup → completionEntry py event = .ok entry →
      KeepsTenant py event entry tables := by
  intro h
  have hkeeps := h homeAccount (acmeCompletion [("tenantId", .str "globex")])
    (acmeEntry [("tenantId", .str "globex")]) acmeTables (by decide) rfl
  have hcarries := hkeeps.carries
    [("source", .str "platform.tenant_provisioner"), ("detail-type", .str "tenant.provisioned"),
      ("detail", .dict (acmeEntry [("tenantId", .str "globex")]).detail)] ⟨rfl, rfl, rfl⟩
  have htenant : Val.str "globex" = Val.str "acme" := hcarries.tenantId
  have hname : "globex" = "acme" := Val.str.inj htenant
  exact absurd hname (by decide)

end A5cCell.TenantProvisioner
