import A5cCell.Billing.Suspension
import A5cCell.TenantApi.RecordWrites

/-!
# The status of a tenant among its writers

The tenant API, the provisioner's events and the billing pipeline all write the status of a tenant's
record, each from what it has read. In every interleaving of them a change of the status has a cause: an
update that gives one, a deletion, an event that reports the tenant ready, a creation that had read that
there was no record, or a billing run that had scanned the tenant active and found it over its budget
(`status_changes_have_causes`). A record that is there stays.
-/

namespace A5cCell.Billing

open Py (Val Items Dict)
open DataAccess TenantApi Interleaving

/-- Whoever writes tenant records. -/
inductive RecordWriter where
  | api (request : RecordRequest)
  | billing (event : Items)

def RecordWriter.program (py : Python) (lib : Library) : RecordWriter → Api Unit
  | .api request => (fun _ => ()) <$> request.program py
  | .billing event => (fun _ => ()) <$> lambdaHandler py lib event

/-- What a writer calls next, of what it was answered. -/
def RecordWriter.Calls (py : Python) (lib : Library) (settings : Settings) :
    RecordWriter → Past → Effect → Prop
  | .api request => request.Calls py
  | .billing _ => fun past e => NextCall lib settings past e ∧ RunCall lib settings e

/-- Why a writer gives a tenant's record a status. -/
inductive Cause (py : Python) (lib : Library) (settings : Settings) (tenantId : String) :
    RecordWriter → Past → String → Prop where
  | given {request : RecordRequest} {past : Past} {status : String}
      (gives : request.GivesStatus py tenantId status) :
      Cause py lib settings tenantId (.api request) past status
  | created {event : Items} {caller : CallerIdentity} {past : Past}
      (absent : ⟨.db (getRequest (tenantsTableName py) (tenantKey tenantId)), .ok none⟩ ∈ past) :
      Cause py lib settings tenantId (.api (.create event caller)) past "active"
  | overBudget {event : Items} {past : Past} {o : Overspend lib} (tenant : o.tenant.tenantId = tenantId)
      (shown : o.Shown lib settings past) :
      Cause py lib settings tenantId (.billing event) past "suspended"

/-- DynamoDB does what the expression of a suspension says. -/
def SetsSuspended (dynamo : Dynamo) (settings : Settings) : Prop :=
  ∀ tenantId updatedAt row updated,
    dynamo.update (suspendRequest settings tenantId updatedAt).kwargs row = .ok updated →
      updated.lookup "status" = some (.str "suspended")

/-- A change of a tenant's record: none, or a record with the same status, or one whose status has a
    cause. -/
inductive RecordStep (py : Python) (lib : Library) (settings : Settings) (tenantId : String)
    (writer : RecordWriter) (past : Past) : Option Items → Option Items → Prop where
  | same (row : Option Items) : RecordStep py lib settings tenantId writer past row row
  | kept {row : Option Items} {updated : Items}
      (status : updated.lookup "status" = row.bind fun row => row.lookup "status") :
      RecordStep py lib settings tenantId writer past row (some updated)
  | caused {row : Option Items} {updated : Items} {status : String}
      (cause : Cause py lib settings tenantId writer past status)
      (given : updated.lookup "status" = some (.str status)) :
      RecordStep py lib settings tenantId writer past row (some updated)

variable {py : Python} {lib : Library} {settings : Settings} {τ : Type} {world : World τ}
  {state : Tables × τ} {past : Past} {e : Effect} {tenantId : String} {writer : RecordWriter}

theorem tenantsTable_eq (hsettings : settingsOf py = .ok settings) :
    settings.tenantsTable = tenantsTableName py := by
  unfold settingsOf environOf at hsettings
  obtain ⟨table, htable, hsettings⟩ := Except.bind_eq_ok.mp hsettings
  obtain ⟨_, -, hsettings⟩ := Except.bind_eq_ok.mp hsettings
  cases hsettings
  rw [tenantsTableName]
  split at htable
  · rename_i value hvalue
    cases htable
    rw [hvalue]
    rfl
  · cases htable

theorem recordRow_eq (hsettings : settingsOf py = .ok settings) (tenantId : String) :
    recordRow settings tenantId = metadataKey py tenantId := by
  rw [recordRow, metadataKey, tenantsTable_eq hsettings]

theorem traced_recordWriter (hsettings : settingsOf py = .ok settings) (writer : RecordWriter) :
    Prog.Traced (writer.Calls py lib settings) (fun _ _ => True) [] (writer.program py lib) := by
  cases writer with
  | api request =>
    refine (traced_recordRequest request).bind (fun _ _ _ => trivial) fun _ _ _ => ?_
    exact Prog.traced_ret.mpr trivial
  | billing event =>
    have hrun := (@traced_lambdaHandler py lib settings hsettings event).and_sat
      (calls_lambdaHandler hsettings event)
    refine hrun.bind (fun _ _ _ => trivial) fun _ _ _ => ?_
    exact Prog.traced_ret.mpr trivial

theorem metadataKey_ne {tenantId' : String} (h : tenantId ≠ tenantId') :
    metadataKey py tenantId ≠ metadataKey py tenantId' := by
  intro hkey
  have hpk : tenantPk tenantId = tenantPk tenantId' := congrArg RowKey.pk hkey
  exact h (by simpa [tenantPk] using hpk)

/-- A listing writes nothing. -/
theorem serve_read (world : World τ) (state : Tables × τ) {r : Request}
    (h : r.operation = .query ∨ r.operation = .scan) :
    (world.serve state (.db r)).2.1 = state.1 := by
  rcases serve_db world state r with ⟨fault, hserve⟩ | hserve
  · rw [hserve]
  · rw [hserve]
    obtain ⟨operation, table, kwargs⟩ := r
    rcases h with rfl | rfl
    · simp only [Dynamo.serve]
      split <;> rfl
    · rfl

/-- **One call of an operation** on tenant records. -/
theorem recordStep_request (hsets : SetsAttributes world.dynamo) {request : RecordRequest}
    (hcall : request.Calls py past e) (tenantId : String) :
    RecordStep py lib settings tenantId (.api request) past
      (state.1.get? (metadataKey py tenantId))
      ((world.serve state e).2.1.get? (metadataKey py tenantId)) := by
  cases hcall with
  | now => exact .same _
  | random source => exact .same _
  | service client operation kwargs => exact .same _
  | get key =>
    rw [serve_get]
    exact .same _
  | @put event caller tenant rest creates active absent =>
    rcases serve_put world state (tenantsTableName py) (tenantKey tenant ++ rest) with
      ⟨hsame, -⟩ | ⟨key, attributes, hitem, hset, -⟩
    · rw [hsame]
      exact .same _
    · cases (item?_record rest).symm.trans hitem
      rw [hset]
      by_cases htenant : tenantId = tenant
      · subst htenant
        rw [Dict.get?_set_self, creates]
        refine .caused (.created absent) ?_
        rw [lookup_attributesOf (by decide)]
        exact active
      · rw [Dict.get?_set_ne _ _ (metadataKey_ne htenant)]
        exact .same _
  | @set tenant attributes sets =>
    rcases serve_set world state (tenantsTableName py) (tenantKey tenant) attributes with
      ⟨hsame, -⟩ | ⟨key, updated, hkey, hupdate, hset, -⟩
    · rw [hsame]
      exact .same _
    · cases (key?_tenantKey py tenant).symm.trans hkey
      rw [hset]
      by_cases htenant : tenantId = tenant
      · subst htenant
        rw [Dict.get?_set_self]
        have hupdated := hsets _ _ _ _ _ hupdate "status" (by decide)
        rcases sets.status with hother | ⟨status, hgives, hstatus⟩
        · refine .kept ?_
          rw [lookup_attributesOf (by decide), hupdated, Items.lookup_merge_of_not_mem _ hother,
            lookup_row_getD (by decide)]
        · refine .caused (.given hgives) ?_
          rw [lookup_attributesOf (by decide), hupdated, hstatus]
      · rw [Dict.get?_set_ne _ _ (metadataKey_ne htenant)]
        exact .same _

/-- **One call of a billing run.** -/
theorem recordStep_billing (hsuspended : SetsSuspended world.dynamo settings)
    (hsettings : settingsOf py = .ok settings) {event : Items}
    (hcall : NextCall lib settings past e ∧ RunCall lib settings e) (tenantId : String) :
    RecordStep py lib settings tenantId (.billing event) past
      (state.1.get? (metadataKey py tenantId))
      ((world.serve state e).2.1.get? (metadataKey py tenantId)) := by
  obtain ⟨hnext, hcall⟩ := hcall
  cases hcall with
  | now => exact .same _
  | service client operation kwargs => exact .same _
  | scan kwargs =>
    rw [serve_read world state (.inr rfl)]
    exact .same _
  | query kwargs =>
    rw [serve_read world state (.inl rfl)]
    exact .same _
  | add tenant yearMonth lastUpdated day =>
    rcases serve_add world state lastUpdated day with ⟨hsame, -⟩ | ⟨updated, -, hset, -⟩
    · rw [hsame]
      exact .same _
    · rw [hset, ← recordRow_eq hsettings, Dict.get?_set_ne _ _ summaryRow_ne_recordRow]
      exact .same _
  | suspend tenant updatedAt =>
    rcases serve_suspend world state updatedAt with ⟨hsame, -⟩ | ⟨updated, hupdate, hset⟩
    · rw [hsame]
      exact .same _
    · rw [hset, recordRow_eq hsettings]
      by_cases htenant : tenantId = tenant
      · subst htenant
        rw [Dict.get?_set_self]
        have hstatus : (attributesOf updated).lookup "status" = some (.str "suspended") := by
          rw [lookup_attributesOf (by decide)]
          exact hsuspended _ _ _ _ hupdate
        rcases hnext with ⟨o, -, hevent⟩ | ⟨-, -, hshown⟩
        · cases hevent
        · obtain ⟨o, htenant, hshown⟩ := hshown tenantId updatedAt rfl
          exact .caused (.overBudget htenant hshown) hstatus
      · rw [Dict.get?_set_ne _ _ (metadataKey_ne htenant)]
        exact .same _

/-- **One call** of a writer. -/
theorem recordStep_call (hsettings : settingsOf py = .ok settings)
    (hsets : SetsAttributes world.dynamo) (hsuspended : SetsSuspended world.dynamo settings)
    (hcall : writer.Calls py lib settings past e) (tenantId : String) :
    RecordStep py lib settings tenantId writer past (state.1.get? (metadataKey py tenantId))
      ((world.serve state e).2.1.get? (metadataKey py tenantId)) := by
  cases writer with
  | api request => exact recordStep_request hsets hcall tenantId
  | billing event => exact recordStep_billing hsuspended hsettings hcall tenantId

/-- **One move** among the writers changes no record of the tenant, or as one call of a writer does. -/
theorem recordStep_move (hsettings : settingsOf py = .ok settings)
    (hsets : SetsAttributes world.dynamo) (hsuspended : SetsSuspended world.dynamo settings)
    {pool : Pool (Tables × τ) Effect Effect.Reply Exc Unit RecordWriter}
    (hpool : WellTraced (RecordWriter.Calls py lib settings) (fun _ _ _ => True) pool)
    (move : Move RecordWriter) (tenantId : String) :
    (Interleaving.step (RecordWriter.program py lib) world.serve pool move).1.services.1.get?
        (metadataKey py tenantId) = pool.services.1.get? (metadataKey py tenantId) ∨
    ∃ i thread, move = .advance i ∧ pool.threads[i]? = some thread ∧
      RecordStep py lib settings tenantId thread.request thread.past
        (pool.services.1.get? (metadataKey py tenantId))
        ((Interleaving.step (RecordWriter.program py lib) world.serve pool move).1.services.1.get?
          (metadataKey py tenantId)) := by
  rcases step_cases (RecordWriter.program py lib) world.serve pool move with
    hstep | ⟨request, rfl, hstep⟩ | ⟨i, thread, e, next, rfl, hcalls, hstep⟩
  · rw [hstep]
    exact .inl rfl
  · rw [hstep]
    exact .inl rfl
  · rw [hstep]
    exact .inr ⟨i, thread, rfl, hcalls.running,
      recordStep_call hsettings hsets hsuspended (hpool.call hcalls).1 tenantId⟩

/-- **Changes of a status have causes**, in every interleaving of the writers; and no record that is
    there goes away. -/
theorem status_changes_have_causes (hsettings : settingsOf py = .ok settings)
    (hsets : SetsAttributes world.dynamo) (hsuspended : SetsSuspended world.dynamo settings)
    (moves : List (Move RecordWriter)) :
    ∀ m ∈ Runs.trace (Interleaving.step (RecordWriter.program py lib) world.serve)
      (Pool.initial state) moves, ∀ tenantId,
      let after := (Interleaving.step (RecordWriter.program py lib) world.serve m.before m.event).1
      ((m.before.services.1.get? (metadataKey py tenantId)).isSome →
        (after.services.1.get? (metadataKey py tenantId)).isSome) ∧
      (statusOf py tenantId after.services.1 = statusOf py tenantId m.before.services.1 ∨
        ∃ i thread status, m.event = .advance i ∧ m.before.threads[i]? = some thread ∧
          Cause py lib settings tenantId thread.request thread.past status ∧
          statusOf py tenantId after.services.1 = some (.str status)) := by
  intro m hm tenantId
  have hpool := (wellTraced_run (traced_recordWriter hsettings) state moves).1 m hm
  rcases recordStep_move hsettings hsets hsuspended hpool m.event tenantId with
    hsame | ⟨i, thread, hmove, hthread, hstep⟩
  · simp only [statusOf, hsame]
    exact ⟨id, .inl trivial⟩
  · simp only [statusOf]
    generalize m.before.services.1.get? (metadataKey py tenantId) = before at hstep ⊢
    generalize (Interleaving.step (RecordWriter.program py lib) world.serve m.before
      m.event).1.services.1.get? (metadataKey py tenantId) = after at hstep ⊢
    cases hstep with
    | same => exact ⟨id, .inl rfl⟩
    | kept hstatus => exact ⟨fun _ => rfl, .inl hstatus⟩
    | caused cause given => exact ⟨fun _ => rfl, .inr ⟨i, thread, _, hmove, hthread, cause, given⟩⟩

theorem billingRows_setsAttributes : SetsAttributes billingRows := settingRows_setsAttributes

theorem billingRows_setsSuspended : SetsSuspended billingRows billingSettings := by
  intro tenantId updatedAt row updated hupdate
  have hrow : billingRows.update (suspendRequest billingSettings tenantId updatedAt).kwargs row =
      .ok (row.merge [("status", .str "suspended")]) := rfl
  cases hrow.symm.trans hupdate
  exact Py.lookup_setItem_self _ _ _

/-- A billing run of the tenant over its budget, and an update that makes the tenant active. -/
def suspendedThenActive : List (Move RecordWriter) :=
  .start (.billing [("date", .str "2026-01-31")]) ::
    .start (.api (.update [("body", .str activeText)] platformAdmin "acme")) ::
    (List.replicate 9 (.advance 0) ++ List.replicate 5 (.advance 1))

/-- What the writers make of the tables in the first moves. -/
def tablesAfter (n : Nat) : Tables :=
  (Runs.final (Interleaving.step (RecordWriter.program billingPython januaryLibrary)
    (priced billingRows).serve) (Pool.initial (overspent, ())) (suspendedThenActive.take n)).services.1

/-- The run suspends the tenant, and the update makes it active again. -/
theorem suspendedThenActive_has_causes :
    (statusOf billingPython "acme" (tablesAfter 11)).map Val.toStr = some "suspended" ∧
    (statusOf billingPython "acme" (tablesAfter 16)).map Val.toStr = some "active" ∧
    ∀ m ∈ Runs.trace (Interleaving.step (RecordWriter.program billingPython januaryLibrary)
        (priced billingRows).serve) (Pool.initial (overspent, ())) suspendedThenActive, ∀ tenantId,
      let after := (Interleaving.step (RecordWriter.program billingPython januaryLibrary)
        (priced billingRows).serve m.before m.event).1
      ((m.before.services.1.get? (metadataKey billingPython tenantId)).isSome →
        (after.services.1.get? (metadataKey billingPython tenantId)).isSome) ∧
      (statusOf billingPython tenantId after.services.1 =
          statusOf billingPython tenantId m.before.services.1 ∨
        ∃ i thread status, m.event = .advance i ∧ m.before.threads[i]? = some thread ∧
          Cause billingPython januaryLibrary billingSettings tenantId thread.request thread.past status ∧
          statusOf billingPython tenantId after.services.1 = some (.str status)) :=
  ⟨by decide +kernel, by decide +kernel, status_changes_have_causes rfl billingRows_setsAttributes billingRows_setsSuspended _⟩

/-- Every status that is shown is one of the three. -/
def KnownStatuses (py : Python) (tables : Tables) : Prop :=
  ∀ tenantId v, statusOf py tenantId tables = some v → ∃ status ∈ tenantStatuses, v = .str status

theorem Cause.known {status : String} (h : Cause py lib settings tenantId writer past status) :
    status ∈ tenantStatuses := by
  cases h with
  | given gives =>
    cases gives with
    | update read has normalized =>
      unfold normalizeStatus at normalized
      split at normalized
      · cases normalized
      · split at normalized
        · rename_i hmem
          cases normalized
          exact List.contains_iff_mem.mp hmem
        · cases normalized
    | delete => simp [tenantStatuses]
    | ready named reported => simp [tenantStatuses]
  | created absent => simp [tenantStatuses]
  | overBudget tenant shown => simp [tenantStatuses]

/-- **Statuses stay known**, in every state that the writers reach. -/
theorem statuses_stay_known (hsettings : settingsOf py = .ok settings)
    (hsets : SetsAttributes world.dynamo) (hsuspended : SetsSuspended world.dynamo settings)
    (hstart : KnownStatuses py state.1) (moves : List (Move RecordWriter)) :
    KnownStatuses py (Runs.final (Interleaving.step (RecordWriter.program py lib) world.serve)
      (Pool.initial state) moves).services.1 := by
  refine (kept_run (fun state : Tables × τ => KnownStatuses py state.1) (fun _ => True)
    (traced_recordWriter hsettings) ?_ hstart moves).2.2.services
  intro writer past e state hcall hknown
  refine ⟨fun tenantId v hv => ?_, trivial⟩
  have hbefore := hknown tenantId
  have hstep : RecordStep py lib settings tenantId writer past (state.1.get? (metadataKey py tenantId))
      ((world.serve state e).2.1.get? (metadataKey py tenantId)) :=
    recordStep_call hsettings hsets hsuspended hcall tenantId
  simp only [statusOf] at hv hbefore
  generalize state.1.get? (metadataKey py tenantId) = before at hstep hbefore
  generalize (world.serve state e).2.1.get? (metadataKey py tenantId) = after at hstep hv
  cases hstep with
  | same => exact hbefore v hv
  | kept hstatus => exact hbefore v (hstatus.symm.trans hv)
  | caused cause given => exact ⟨_, cause.known, (Option.some.inj (given.symm.trans hv)).symm⟩

theorem overspent_known : KnownStatuses billingPython overspent := by
  intro tenantId v hv
  simp only [statusOf, overspent, Dict.get?_set] at hv
  split at hv
  · rename_i hkey
    exact absurd (congrArg RowKey.table hkey) (by decide : ¬ "tenants" = "invocations")
  · split at hv
    · cases hv
      exact ⟨"active", by simp [tenantStatuses], rfl⟩
    · cases hv

/-- The statuses of that run are known. -/
theorem suspendedThenActive_known : KnownStatuses billingPython
    (Runs.final (Interleaving.step (RecordWriter.program billingPython januaryLibrary)
      (priced billingRows).serve) (Pool.initial (overspent, ())) suspendedThenActive).services.1 :=
  statuses_stay_known rfl billingRows_setsAttributes billingRows_setsSuspended overspent_known _

end A5cCell.Billing
