import A5cCell.Billing.Handler
import A5cCell.DataAccess.Isolation
import A5cCell.TenantApi.Creation

/-!
# The calls of a billing run

A run scans the tenants, and of each of them reads a day's invocations, the prices of its tier, and the
clock; it adds to the summary of the month and sends metrics. Only of a tenant that it finds over budget
does it write the record, and then it publishes the event: no other call comes between the two.
-/

namespace A5cCell.Billing

open Py (Val Items Dict)
open Civil (DateTime)
open DataAccess TenantApi

/-! ## The writes -/

/-- What `update_item` sends to add a day to a summary. -/
def addRequest (lib : Library) (settings : Settings) (tenantId yearMonth lastUpdated : String)
    (day : DayUsage lib) : Request :=
  ⟨.updateItem, settings.tenantsTable,
    (((noKwargs.set "Key" (.val (.dict (summaryKey tenantId yearMonth)))).set
      "UpdateExpression" (.val (.str summaryExpression))).set
      "ExpressionAttributeValues"
        (.val (.dict (summaryValues lib tenantId yearMonth lastUpdated day)))).set
      "ReturnValues" (.val (.str "ALL_NEW"))⟩

/-- What `update_item` sends to suspend a tenant. -/
def suspendRequest (settings : Settings) (tenantId updatedAt : String) : Request :=
  ⟨.updateItem, settings.tenantsTable,
    (((((noKwargs.set "Key" (.val (.dict (tenantKey tenantId)))).set
      "UpdateExpression" (.val (.str "SET #s = :s, updatedAt = :u, updated_at = :u"))).set
      "ExpressionAttributeValues"
        (.val (.dict [(":s", .str "suspended"), (":u", .str updatedAt)]))).set
      "ReturnValues" (.val (.str "ALL_NEW"))).set
      "ExpressionAttributeNames" (.val (.dict [("#s", .str "status")]))).set
      "ConditionExpression" (.val (.str "attribute_exists(PK)"))⟩

variable {py : Python} {lib : Library} {settings : Settings} {tenantId yearMonth : String}

/-- A key of the client's own tenant is taken. -/
theorem validatePk_own {key : Items} (hown : key.get "PK" (.str "") = .str (tenantPk tenantId)) :
    (Client.tenantScoped tenantId).validatePk key = .ok () := by
  simp [Client.validatePk, hown, isForeignPk, tenantPk]

theorem updateItem_summary (lastUpdated : String) (day : DayUsage lib) :
    (Client.tenantScoped tenantId).updateItem settings.tenantsTable (summaryKey tenantId yearMonth)
        summaryExpression (summaryValues lib tenantId yearMonth lastUpdated day) =
      issue (addRequest lib settings tenantId yearMonth lastUpdated day) := by
  unfold Client.updateItem
  rw [validatePk_own rfl]
  rfl

theorem updateItem_suspend (updatedAt : String) :
    (Client.tenantScoped tenantId).updateItem settings.tenantsTable (tenantKey tenantId)
        "SET #s = :s, updatedAt = :u, updated_at = :u"
        [(":s", .str "suspended"), (":u", .str updatedAt)] (some [("#s", .str "status")])
        (some "attribute_exists(PK)") =
      issue (suspendRequest settings tenantId updatedAt) := by
  unfold Client.updateItem
  rw [validatePk_own rfl]
  rfl

/-- Adding to a summary has no condition, and suspending has one. -/
theorem addRequest_ne_suspendRequest {tenantId' lastUpdated updatedAt : String} {day : DayUsage lib} :
    addRequest lib settings tenantId yearMonth lastUpdated day ≠
      suspendRequest settings tenantId' updatedAt := by
  intro h
  have hcondition := congrArg (fun r : Request => r.kwargs.get? "ConditionExpression") h
  cases hcondition

/-- A suspension is of the tenant whose key it has. -/
theorem suspendRequest_inj {tenantId' updatedAt updatedAt' : String}
    (h : suspendRequest settings tenantId updatedAt = suspendRequest settings tenantId' updatedAt') :
    tenantId = tenantId' := by
  have hkey := congrArg (fun r : Request => (r.kwargs.get? "Key").bind Arg.pk?) h
  simpa [suspendRequest, Dict.get?_set, Arg.pk?, tenantKey, tenantPk, textOf, Items.get,
    Val.asStr?] using hkey

/-! ## The calls that write no record -/

section

variable {P : Effect → Prop}

theorem calls_service {client operation : String} {kwargs : Items}
    (hP : P (.service client operation kwargs)) :
    (Api.service client operation kwargs).Sat P fun _ => True := by
  refine ⟨hP, fun answer => ?_⟩
  cases answer with
  | ok value => trivial
  | error fault => trivial

/-- A loop over pages makes the calls that one page makes. -/
theorem calls_allPages {fetch : Val → Db PaginatedItems} {P : Request → Prop}
    (hfetch : ∀ startKey, (fetch startKey).Sat P fun _ => True) (pages : Nat) (startKey : Val) :
    (allPages fetch pages startKey).Sat P fun _ => True := by
  induction pages generalizing startKey with
  | zero => trivial
  | succ pages ih =>
    refine (hfetch startKey).seq fun page => ?_
    split
    · trivial
    · exact (ih _).seq fun _ => trivial

theorem calls_getActiveTenants (hscan : ∀ kwargs, P (.db ⟨.scan, settings.tenantsTable, kwargs⟩)) :
    (getActiveTenants py settings).Sat P fun _ => True := by
  refine Prog.Sat.mapCalls (calls_allPages (fun startKey => ?_) _ _)
  exact sat_issue (P := fun r => P (.db r)) (hscan _)

theorem calls_getPricing {tier : String}
    (hprice : ∀ kwargs, P (.service "pricing_provider" "get" kwargs)) :
    (getPricing lib tier).Sat P fun _ => True := by
  unfold getPricing
  refine (calls_service (hprice _)).attempt.bind fun answered _ => ?_
  split
  · trivial
  · exact calls_ofExcept.bind fun _ _ => calls_ofExcept.bind fun _ _ => trivial
  · trivial

theorem calls_dayUsageOf {tenant : BilledTenant lib} {dateToProcess : DateTime}
    (hquery : ∀ kwargs, P (.db ⟨.query, settings.invocationsTable, kwargs⟩))
    (hprice : ∀ kwargs, P (.service "pricing_provider" "get" kwargs)) :
    (dayUsageOf py lib settings tenant dateToProcess).Sat P fun _ => True := by
  unfold dayUsageOf
  refine Prog.Sat.seq (Prog.Sat.mapCalls (calls_allPages (fun startKey => ?_) _ _))
    fun invocations => ?_
  · exact sat_issue (P := fun r => P (.db r)) (hquery _)
  refine calls_ofExcept.bind fun input _ => calls_ofExcept.bind fun output _ => ?_
  refine (calls_getPricing hprice).attempt.bind fun priced _ => ?_
  split
  · trivial
  · trivial
  · exact calls_ofExcept.bind fun _ _ => trivial

theorem calls_addToSummary {day : DayUsage lib} (hnow : P .now)
    (hadd : ∀ lastUpdated, P (.db (addRequest lib settings tenantId yearMonth lastUpdated day))) :
    (addToSummary lib settings tenantId yearMonth day).Sat P fun _ => True := by
  unfold addToSummary
  refine ⟨hnow, fun now => ?_⟩
  show Prog.Sat P _ (Api.dynamodb (Client.updateItem _ _ _ _ _) >>= _)
  rw [updateItem_summary]
  exact (calls_issue (hadd _)).seq fun _ => calls_ofExcept.mono (fun _ => id) fun _ _ => trivial

theorem calls_putMetrics {tenant : BilledTenant lib} {day : DayUsage lib} {totals : MonthTotals lib}
    (hmetrics : ∀ kwargs, P (.service "cloudwatch" "put_metric_data" kwargs)) :
    (putMetrics lib tenant day totals).Sat P fun _ => True := by
  unfold putMetrics
  exact calls_ofExcept.bind fun metrics _ => (calls_service (hmetrics metrics)).seq fun _ => trivial

theorem calls_dateOf {event : Items} (hnow : P .now) : (dateOf lib event).Sat P fun _ => True := by
  unfold dateOf
  split
  · exact calls_ofExcept.mono (fun _ => id) fun _ _ => trivial
  · exact ⟨hnow, fun _ => trivial⟩

theorem calls_suspendTenant {tenant : BilledTenant lib} {cost : lib.Double} (hnow : P .now)
    (hsuspend : ∀ updatedAt, P (.db (suspendRequest settings tenant.tenantId updatedAt)))
    (hevent : ∀ kwargs, P (.service "events" "put_events" kwargs)) :
    (suspendTenant lib settings tenant yearMonth cost).Sat P fun _ => True := by
  unfold suspendTenant
  refine ⟨hnow, fun now => ?_⟩
  show Prog.Sat P _ (Api.dynamodb (Client.updateItem _ _ _ _ _ _ _) >>= _)
  rw [updateItem_suspend]
  exact (calls_issue (hsuspend _)).seq fun _ => (calls_service (hevent _)).seq fun _ => trivial

end

/-! ## All the calls of a run -/

/-- A call of a run: the clock, a service, a read, an addition to a summary or a suspension. -/
inductive RunCall (lib : Library) (settings : Settings) : Effect → Prop where
  | now : RunCall lib settings .now
  | service (client operation : String) (kwargs : Items) :
      RunCall lib settings (.service client operation kwargs)
  | scan (kwargs : Dict String Arg) : RunCall lib settings (.db ⟨.scan, settings.tenantsTable, kwargs⟩)
  | query (kwargs : Dict String Arg) :
      RunCall lib settings (.db ⟨.query, settings.invocationsTable, kwargs⟩)
  | add (tenantId yearMonth lastUpdated : String) (day : DayUsage lib) :
      RunCall lib settings (.db (addRequest lib settings tenantId yearMonth lastUpdated day))
  | suspend (tenantId updatedAt : String) :
      RunCall lib settings (.db (suspendRequest settings tenantId updatedAt))

theorem calls_processTenant {tenant : Items} {dateToProcess : DateTime} :
    (processTenant py lib settings tenant dateToProcess).Sat (RunCall lib settings) fun _ => True := by
  unfold processTenant
  refine calls_ofExcept.bind fun billed _ => ?_
  refine (calls_dayUsageOf .query (.service _ _)).seq fun day => ?_
  refine (calls_addToSummary .now (.add _ _ · _)).seq fun totals => ?_
  refine (calls_putMetrics (.service _ _)).attempt.bind fun _ _ => ?_
  split
  · exact calls_suspendTenant .now (.suspend _) (.service _ _)
  · trivial

theorem calls_processTenants {dateToProcess : DateTime} {tenants : List Items} :
    (processTenants py lib settings dateToProcess tenants).Sat (RunCall lib settings)
      fun _ => True := by
  induction tenants with
  | nil => trivial
  | cons tenant tenants ih =>
    refine calls_processTenant.attempt.bind fun result _ => ?_
    split
    · exact ih.seq fun _ => trivial
    · split
      · trivial
      · exact ih.seq fun _ => trivial

theorem calls_lambdaHandler (hsettings : settingsOf py = .ok settings) (event : Items) :
    (lambdaHandler py lib event).Sat (RunCall lib settings) fun _ => True := by
  unfold lambdaHandler
  rw [hsettings]
  refine (calls_dateOf .now).seq fun dateToProcess => ?_
  refine (calls_getActiveTenants .scan).seq fun tenants => ?_
  exact calls_processTenants.seq fun _ => trivial

/-! ## What the writes write -/

/-- Where a tenant's summary of a month is. -/
def summaryRow (settings : Settings) (tenantId yearMonth : String) : RowKey :=
  ⟨settings.tenantsTable, tenantPk tenantId, "BILLING#" ++ yearMonth⟩

/-- Where a tenant's record is. -/
def recordRow (settings : Settings) (tenantId : String) : RowKey :=
  ⟨settings.tenantsTable, tenantPk tenantId, "METADATA"⟩

theorem tenantPk_ne_empty (tenantId : String) : tenantPk tenantId ≠ "" := by
  simp [tenantPk, tenantPkPrefix]

theorem key?_summaryKey : Arg.key? settings.tenantsTable (.val (.dict (summaryKey tenantId yearMonth))) =
    some (summaryRow settings tenantId yearMonth) :=
  @Dynamo.key?_item (summaryRow settings tenantId yearMonth) (tenantPk_ne_empty tenantId)
    (by simp [summaryRow])

theorem key?_recordKey : Arg.key? settings.tenantsTable (.val (.dict (tenantKey tenantId))) =
    some (recordRow settings tenantId) :=
  @Dynamo.key?_item (recordRow settings tenantId) (tenantPk_ne_empty tenantId) (by simp [recordRow])

theorem summaryRow_ne_recordRow {tenantId' : String} :
    recordRow settings tenantId' ≠ summaryRow settings tenantId yearMonth := by
  intro h
  have hsk := congrArg (fun key : RowKey => key.sk.toList) h
  simp [recordRow, summaryRow] at hsk

section

variable {τ : Type} (world : World τ) (state : Tables × τ)

/-- An addition writes the summary that the update leaves, and answers with it. -/
theorem serve_add (lastUpdated : String) (day : DayUsage lib) :
    ((world.serve state (.db (addRequest lib settings tenantId yearMonth lastUpdated day))).2.1 =
        state.1 ∧
      ∃ fault, (world.serve state (.db (addRequest lib settings tenantId yearMonth lastUpdated day))).1 =
        .error fault) ∨
    ∃ updated, world.dynamo.update (addRequest lib settings tenantId yearMonth lastUpdated day).kwargs
        ((summaryRow settings tenantId yearMonth).row
          ((state.1.get? (summaryRow settings tenantId yearMonth)).getD [])) = .ok updated ∧
      (world.serve state (.db (addRequest lib settings tenantId yearMonth lastUpdated day))).2.1 =
        state.1.set (summaryRow settings tenantId yearMonth) (attributesOf updated) ∧
      (world.serve state (.db (addRequest lib settings tenantId yearMonth lastUpdated day))).1 =
        .ok [("Attributes",
          .dict ((summaryRow settings tenantId yearMonth).row (attributesOf updated)))] := by
  rcases serve_update world state settings.tenantsTable
      (addRequest lib settings tenantId yearMonth lastUpdated day).kwargs with
    hfault | ⟨key, updated, hkey, hupdate, hset, hanswer⟩
  · exact .inl hfault
  · obtain rfl : summaryRow settings tenantId yearMonth = key :=
      Option.some.inj (key?_summaryKey.symm.trans hkey)
    exact .inr ⟨updated, hupdate, hset, hanswer⟩

/-- A suspension writes the tenant's record. -/
theorem serve_suspend (updatedAt : String) :
    ((world.serve state (.db (suspendRequest settings tenantId updatedAt))).2.1 = state.1 ∧
      ∃ fault, (world.serve state (.db (suspendRequest settings tenantId updatedAt))).1 =
        .error fault) ∨
    ∃ updated, world.dynamo.update (suspendRequest settings tenantId updatedAt).kwargs
        ((recordRow settings tenantId).row ((state.1.get? (recordRow settings tenantId)).getD [])) =
          .ok updated ∧
      (world.serve state (.db (suspendRequest settings tenantId updatedAt))).2.1 =
        state.1.set (recordRow settings tenantId) (attributesOf updated) := by
  rcases serve_update world state settings.tenantsTable
      (suspendRequest settings tenantId updatedAt).kwargs with
    hfault | ⟨key, updated, hkey, hupdate, hset, -⟩
  · exact .inl hfault
  · obtain rfl : recordRow settings tenantId = key :=
      Option.some.inj (key?_recordKey.symm.trans hkey)
    exact .inr ⟨updated, hupdate, hset⟩

end

end A5cCell.Billing
