import A5cCell.Lib.Except
import A5cCell.TenantApi.Creation
import A5cCell.TenantApi.Lifecycle

/-!
# Who writes a tenant's record

The operations on tenant records, each a program of its own: what one of them writes is a `METADATA`
row, with the attributes its request gives, and a creation puts its row only after it has read that there
is none. Nothing erases a row.
-/

namespace A5cCell.TenantApi

open Py (Val Items Dict)
open DataAccess

/-- A request for an operation on tenant records. -/
inductive RecordRequest where
  | create (event : Items) (caller : CallerIdentity)
  | read (caller : CallerIdentity) (tenantId : String)
  | update (event : Items) (caller : CallerIdentity) (tenantId : String)
  | delete (caller : CallerIdentity) (tenantId : String)
  | rotateApiKey (caller : CallerIdentity) (tenantId : String)
  | provisioningEvent (event : Items)

def RecordRequest.program (py : Python) : RecordRequest → Api Response
  | .create event caller => handleCreate py event caller
  | .read caller tenantId => handleRead py caller tenantId
  | .update event caller tenantId => handleUpdate py event caller tenantId
  | .delete caller tenantId => handleDelete py caller tenantId
  | .rotateApiKey caller tenantId => handleRotateApiKey py caller tenantId
  | .provisioningEvent event => handleTenantProvisioningEvent py event

/-- The attributes a deletion sets. -/
def deletionUpdates (py : Python) (now : Instant) : Items :=
  [("status", .str "deleted"), ("deletedAt", .str (py.isoUtc now)),
    ("purgeAtEpochSeconds", .int (epochSeconds (now + days 30))), ("updatedAt", .str (py.isoUtc now))]

section

variable (py : Python)

/-- The attributes a request sets of the tenant's record. -/
inductive RecordRequest.Sets : RecordRequest → String → Items → Prop where
  | update {event body : Items} {caller : CallerIdentity} {tenantId : String} {now : Instant}
      {updates : Items} (read : requireJsonBody py event = .ok body)
      (of_body : Records.updatesOf py body now = .ok updates) : Sets (.update event caller tenantId) tenantId updates
  | delete {caller : CallerIdentity} {tenantId : String} (now : Instant) :
      Sets (.delete caller tenantId) tenantId (deletionUpdates py now)
  | rotateApiKey {caller : CallerIdentity} {tenantId : String} (now : Instant) :
      Sets (.rotateApiKey caller tenantId) tenantId [("updatedAt", .str (py.isoUtc now))]
  | provisioned {event detail : Items} {tenantId status : String} (now : Instant)
      (named : (detail.get "tenantId").strOrNone = some tenantId)
      (reported : provisioningStatusOf event detail = .ok status) :
      Sets (.provisioningEvent event) tenantId (provisioningUpdates detail status (py.isoUtc now))

/-- A call of a request, of what it was answered before. -/
inductive RecordRequest.Calls (request : RecordRequest) (past : Past) : Effect → Prop where
  | now : Calls request past .now
  | random (source : String) : Calls request past (.random source)
  | service (client operation : String) (kwargs : Items) :
      Calls request past (.service client operation kwargs)
  | get (key : Items) : Calls request past (.db (getRequest (tenantsTableName py) key))
  | put {event : Items} {caller : CallerIdentity} {tenantId : String} {rest : Items}
      (creates : request = .create event caller)
      (active : (tenantKey tenantId ++ rest).lookup "status" = some (.str "active"))
      (absent : ⟨.db (getRequest (tenantsTableName py) (tenantKey tenantId)), .ok none⟩ ∈ past) :
      Calls request past (.db (putRequest (tenantsTableName py) (tenantKey tenantId ++ rest)))
  | set {tenantId : String} {attributes : Items} (sets : request.Sets py tenantId attributes) :
      Calls request past (.db (setRequest (tenantsTableName py) (tenantKey tenantId) attributes))

end

section

variable {py : Python} {request : RecordRequest} {past : Past}

-- a program is taken apart by the rules from here on, never by running it
attribute [local irreducible] Prog.Traced

theorem RecordRequest.Calls.mono {before : Past} {e : Effect} (h : request.Calls py before e)
    (hpast : before <:+ past) : request.Calls py past e := by
  cases h with
  | now => exact .now
  | random source => exact .random source
  | service client operation kwargs => exact .service client operation kwargs
  | get key => exact .get key
  | put creates active absent => exact .put creates active (hpast.subset absent)
  | set sets => exact .set sets

/-- Where every call of a program is one of the request's from the start, it is one at any time. -/
theorem traced_of_calls {α : Type} {p : Api α} (hp : p.Sat (request.Calls py []) fun _ => True) :
    Prog.Traced (request.Calls py) (fun past' _ => past <:+ past') past p := by
  have hsuffix : Prog.Traced (request.Calls py)
      (fun past' r => past <:+ past' ∧ ∀ a, r = .ok a → True) past p :=
    hp.traced (List.suffix_refl past) (fun _ _ _ h _ => h.trans (List.suffix_cons _ _))
      fun _ _ _ he => he.mono List.nil_suffix
  exact hsuffix.mono (fun _ _ => id) fun _ _ h => h.1

/-! ## The operations but creation -/

theorem calls_handleReadRecord {caller : CallerIdentity} {tenantId : String} :
    (handleRead py caller tenantId).Sat (request.Calls py []) fun _ => True := by
  unfold handleRead Records.handleRead
  rw [Prog.sat_map]
  split
  · trivial
  refine (calls_readTenantRecord (.get _)).seq fun row => ?_
  split
  · trivial
  · refine Prog.Sat.seq (p := Api.service _ _ _) ?_ fun usage => calls_response
    refine ⟨.service _ _ _, fun answer => ?_⟩
    cases answer <;> trivial

theorem calls_handleUpdateRecord {event : Items} {caller : CallerIdentity} {tenantId : String} :
    (handleUpdate py event caller tenantId).Sat
      ((RecordRequest.update event caller tenantId).Calls py []) fun _ => True := by
  unfold handleUpdate
  refine calls_ofExcept.bind fun body hbody => ?_
  rw [Prog.sat_map]
  unfold Records.handleUpdate
  refine calls_ofExcept.bind fun _ _ => ?_
  refine (calls_readTenantRecord (.get _)).seq fun row => ?_
  split
  · trivial
  refine ⟨.now, fun now => ?_⟩
  refine calls_ofExcept.bind fun updates hupdates => ?_
  refine calls_dbForTenant.bind fun db _ => ?_
  refine (calls_setAttributes (.set (.update hbody hupdates))).seq fun _ => ?_
  refine (calls_readTenantRecord (.get _)).seq fun updatedItem => ?_
  extract_lets shown oldTier newTier detail finish
  have hfinish (published : Val) : (finish published).Sat
      ((RecordRequest.update event caller tenantId).Calls py []) fun _ => True := calls_response
  split
  · exact (calls_putEvent (.service _ _ _)).seq hfinish
  · exact (calls_putEvent (.service _ _ _)).seq hfinish

theorem calls_handleDeleteRecord {caller : CallerIdentity} {tenantId : String} :
    (handleDelete py caller tenantId).Sat ((RecordRequest.delete caller tenantId).Calls py [])
      fun _ => True := by
  unfold handleDelete
  refine Prog.Sat.seq ?_ fun deleted => ?_
  · unfold Records.handleDelete
    refine calls_ofExcept.bind fun _ _ => ?_
    split
    · trivial
    refine (calls_readTenantRecord (.get _)).seq fun row => ?_
    split
    · trivial
    refine ⟨.now, fun now => ?_⟩
    refine calls_dbForTenant.bind fun db _ => ?_
    refine (calls_setAttributes (.set (.delete now))).seq fun _ => ?_
    exact (calls_putEvent (.service _ _ _)).seq fun _ => calls_response
  · split
    · exact calls_handleReadRecord.seq fun _ => trivial
    · trivial

theorem calls_handleRotateApiKey {caller : CallerIdentity} {tenantId : String} :
    (handleRotateApiKey py caller tenantId).Sat
      ((RecordRequest.rotateApiKey caller tenantId).Calls py []) fun _ => True := by
  unfold handleRotateApiKey
  split
  · trivial
  refine (calls_readTenantRecord (.get _)).seq fun row => ?_
  split
  · trivial
  refine Prog.Sat.seq ?_ fun versionId => ?_
  · unfold rotateApiKeySecret
    refine ⟨.random _, fun apiKey => ?_⟩
    refine Prog.Sat.seq (p := Api.service _ _ _) ?_ fun put => ?_
    · refine ⟨.service _ _ _, fun answer => ?_⟩
      cases answer <;> trivial
    · exact calls_ofExcept.bind fun _ _ => trivial
  refine ⟨.now, fun now => ?_⟩
  refine calls_dbForTenant.bind fun db _ => ?_
  refine (calls_setAttributes (.set (.rotateApiKey now))).seq fun _ => ?_
  exact (calls_putEvent (.service _ _ _)).seq fun _ => calls_response

theorem calls_provisioningEvent {event : Items} :
    (handleTenantProvisioningEvent py event).Sat
      ((RecordRequest.provisioningEvent event).Calls py []) fun _ => True := by
  unfold handleTenantProvisioningEvent
  refine calls_ofExcept.bind fun tenantIdVal htenant => ?_
  extract_lets detail
  have hnamed : tenantIdVal = detail.get "tenantId" := by
    simp only [detail]
    cases hdetail : event.get "detail" (.dict []) with
    | dict kvs =>
      rw [hdetail] at htenant
      cases htenant
      rfl
    | _ =>
      rw [hdetail] at htenant
      cases htenant
  split
  · trivial
  rename_i tenantId hname
  rw [hnamed] at hname
  refine calls_ofExcept.bind fun status hstatus => ?_
  extract_lets systemCaller finish
  have hfinish (checked : Unit) : (finish checked).Sat
      ((RecordRequest.provisioningEvent event).Calls py []) fun _ => True := by
    refine ⟨.now, fun now => ?_⟩
    refine calls_dbForTenant.bind fun db _ => ?_
    refine (calls_setAttributes (.set (.provisioned now hname hstatus))).seq fun _ => ?_
    refine (calls_readTenantRecord (.get _)).seq fun updatedItem => ?_
    split
    · trivial
    · exact (calls_putEvent (.service _ _ _)).seq fun _ => calls_response
  split
  · exact calls_ofExcept.bind fun _ _ => hfinish ()
  · exact hfinish ()

/-! ## Creation -/

theorem calls_createApiKeySecret {tenantId appId : String} :
    (createApiKeySecret py tenantId appId).Sat (request.Calls py []) fun _ => True := by
  have hservice (client operation : String) (kwargs : Items) :
      (Api.service client operation kwargs).Sat (request.Calls py []) fun _ => True := by
    refine ⟨.service _ _ _, fun answer => ?_⟩
    cases answer <;> trivial
  unfold createApiKeySecret
  refine ⟨.random _, fun apiKey => ?_⟩
  refine (hservice _ _ _).seq fun created => ?_
  refine calls_ofExcept.bind fun arn _ => ?_
  refine Prog.Sat.seq ?_ fun _ => trivial
  unfold attachTenantApiKeySecretPolicy
  extract_lets tenantMgmtRoleArn
  split
  · trivial
  · exact (hservice _ _ _).seq fun _ => trivial

/-- The record of a creation is put once it was read that there is none. -/
theorem traced_handleCreateRecord {event : Items} {caller : CallerIdentity} :
    Prog.Traced ((RecordRequest.create event caller).Calls py) (fun _ _ => True) []
      (handleCreate py event caller) := by
  have hraise {past : Past} : ∀ exc : Exc, (fun (_ : Past) (_ : Except Exc Response) => True) past
      (.error exc) := fun _ => trivial
  unfold handleCreate
  refine traced_check (fun _ => trivial) fun input _ => ?_
  refine Prog.Traced.bind (Q := fun _ _ => True) ?_ (fun _ _ _ => trivial) fun _ _ _ =>
    Prog.traced_ret.mpr trivial
  unfold Records.handleCreate
  refine traced_check (fun _ => trivial) fun _ _ => ?_
  refine traced_check (fun _ => trivial) fun tenantId _ => ?_
  refine traced_check (fun _ => trivial) fun appId _ => ?_
  refine traced_check (fun _ => trivial) fun displayName _ => ?_
  refine traced_check (fun _ => trivial) fun ownerEmail _ => ?_
  refine traced_check (fun _ => trivial) fun ownerTeam _ => ?_
  refine traced_check (fun _ => trivial) fun accountId _ => ?_
  refine traced_now .now fun now => ?_
  refine traced_check (fun _ => trivial) fun tier _ => ?_
  refine traced_readTenantRecord (fun _ => trivial) (.get _) (fun _ _ => trivial)
    fun hscope existing => ?_
  split
  · exact Prog.traced_pure.mpr trivial
  rename_i habsent
  obtain rfl : existing = none := Option.not_isSome_iff_eq_none.mp habsent
  refine traced_service (.service _ _ _) (fun _ _ => trivial) fun provisioned => ?_
  extract_lets memoryInfo finish
  -- The read that found no record; it stays in the past of the put, whatever is called in between.
  let readNone : Answered Effect Effect.Reply :=
    ⟨.db (getRequest (tenantsTableName py) (tenantKey tenantId)), .ok none⟩
  have hfinish (past : Past) (rest : Items) (habsent : readNone ∈ past)
      (hactive : (tenantKey tenantId ++ rest).lookup "status" = some (.str "active")) :
      Prog.Traced ((RecordRequest.create event caller).Calls py) (fun _ _ => True) past
        (finish (tenantKey tenantId ++ rest)) := by
    refine traced_check (fun _ => trivial) fun memoryStoreArn _ => ?_
    extract_lets attributes
    obtain ⟨rest', hattributes, hactive'⟩ : ∃ rest', attributes = tenantKey tenantId ++ rest' ∧
        (tenantKey tenantId ++ rest').lookup "status" = some (.str "active") := by
      cases harn : memoryStoreArn.strOrNone with
      | none => exact ⟨rest, by simp only [attributes, harn], hactive⟩
      | some arn =>
        refine ⟨rest ++ [("memoryStoreArn", .str arn)], by simp only [attributes, harn,
          List.append_assoc], ?_⟩
        rw [← List.append_assoc, List.lookup_append, hactive]
        rfl
    clear_value attributes
    subst hattributes
    refine traced_dbForTenant_allowed hscope ?_
    refine traced_putOwn rfl (.put rfl hactive' habsent) (fun _ _ => trivial) fun value => ?_
    refine traced_putEvent (fun _ _ => trivial) (.service _ _ _) (fun _ _ => trivial) fun _ => ?_
    exact traced_response (fun _ _ => trivial) trivial
  refine (traced_of_calls calls_createApiKeySecret).bind (fun _ _ _ => trivial)
    fun past apiKeySecretArn hpast => ?_
  have habsent : readNone ∈ past := hpast.subset (List.mem_cons_of_mem _ List.mem_cons_self)
  extract_lets attributes
  obtain ⟨rest, hattributes, hactive⟩ : ∃ rest, attributes = tenantKey tenantId ++ rest ∧
      (tenantKey tenantId ++ rest).lookup "status" = some (.str "active") := ⟨_, rfl, rfl⟩
  -- From here on only the key and the status of the row matter.
  clear_value attributes
  subst hattributes
  split
  · exact hfinish past rest habsent hactive
  · refine traced_check (fun _ => trivial) fun budget _ => ?_
    show Prog.Traced _ _ _ (finish (tenantKey tenantId ++ rest ++ [("monthlyBudgetUsd", budget)]))
    rw [List.append_assoc]
    refine hfinish past _ habsent ?_
    rw [← List.append_assoc, List.lookup_append, hactive]
    rfl

theorem traced_recordRequest (request : RecordRequest) :
    Prog.Traced (request.Calls py) (fun _ _ => True) [] (request.program py) := by
  have htraced {request : RecordRequest} {p : Api Response}
      (hp : p.Sat (request.Calls py []) fun _ => True) :
      Prog.Traced (request.Calls py) (fun _ _ => True) [] p :=
    (traced_of_calls hp).mono (fun _ _ => id) fun _ _ _ => trivial
  cases request with
  | create event caller => exact traced_handleCreateRecord
  | read caller tenantId => exact htraced calls_handleReadRecord
  | update event caller tenantId => exact htraced calls_handleUpdateRecord
  | delete caller tenantId => exact htraced calls_handleDeleteRecord
  | rotateApiKey caller tenantId => exact htraced calls_handleRotateApiKey
  | provisioningEvent event => exact htraced calls_provisioningEvent

end

/-! ## What the writes make of a status -/

/-- The status a record shows. -/
def statusOf (py : Python) (tenantId : String) (tables : Tables) : Option Val :=
  (tables.get? (metadataKey py tenantId)).bind fun row => row.lookup "status"

/-- The status a request gives the record of the tenant by setting it. -/
inductive RecordRequest.GivesStatus (py : Python) : RecordRequest → String → String → Prop where
  | update {event body : Items} {caller : CallerIdentity} {tenantId status : String}
      (read : requireJsonBody py event = .ok body) (has : body.has "status" = true)
      (normalized : normalizeStatus (body.get "status") = .ok status) :
      GivesStatus py (.update event caller tenantId) tenantId status
  | delete {caller : CallerIdentity} {tenantId : String} :
      GivesStatus py (.delete caller tenantId) tenantId "deleted"
  | ready {event detail : Items} {tenantId : String}
      (named : (detail.get "tenantId").strOrNone = some tenantId)
      (reported : provisioningStatusOf event detail = .ok "ready") :
      GivesStatus py (.provisioningEvent event) tenantId "active"

section

variable {py : Python} {request : RecordRequest} {tenantId : String}

/-- What is set last under a name is there. -/
theorem lookup_merge_set (row before after : Items) (v : Val) (h : ∀ kv ∈ after, kv.1 ≠ "status") :
    (Items.merge row (before ++ ("status", v) :: after)).lookup "status" = some v := by
  have hmerge : Items.merge row (before ++ ("status", v) :: after) =
      Items.merge ((Items.merge row before).set "status" v) after := by
    simp [Items.merge]
  rw [hmerge, Items.lookup_merge_of_not_mem _ h]
  exact Py.lookup_setItem_self _ _ _

/-- Only the attributes that follow the body's status are set after it. -/
theorem updatesOf_status {body updates : Items} {now : Instant}
    (h : Records.updatesOf py body now = .ok updates) :
    (∀ kv ∈ updates, kv.1 ≠ "status") ∨
      ∃ status before after, body.has "status" = true ∧
        normalizeStatus (body.get "status") = .ok status ∧
        updates = before ++ ("status", .str status) :: after ∧ ∀ kv ∈ after, kv.1 ≠ "status" := by
  unfold Records.updatesOf at h
  extract_lets named updated budgeted finish at h
  have hupdated : ∀ kv ∈ updated, kv.1 ≠ "status" := by
    simp only [updated, named]
    split <;> simp
  clear_value updated
  -- the tier and the budget come after, whether or not a status was given
  have hbudgeted (tiered : Items) (h : budgeted tiered = .ok updates) :
      ∃ after, updates = tiered ++ after ∧ ∀ kv ∈ after, kv.1 ≠ "status" := by
    simp only [budgeted] at h
    split at h
    · obtain ⟨budget, -, hbudget⟩ := Except.bind_eq_ok.mp h
      cases hbudget
      exact ⟨_, rfl, by simp⟩
    · cases h
      exact ⟨[], (List.append_nil _).symm, by simp⟩
  have hfinish (stated : Items) (h : finish stated = .ok updates) :
      ∃ after, updates = stated ++ after ∧ ∀ kv ∈ after, kv.1 ≠ "status" := by
    simp only [finish] at h
    split at h
    · obtain ⟨tier, -, htier⟩ := Except.bind_eq_ok.mp h
      obtain ⟨after, rfl, hafter⟩ := hbudgeted _ htier
      exact ⟨("tier", .str tier) :: after, by simp, List.forall_mem_cons.mpr ⟨by simp, hafter⟩⟩
    · exact hbudgeted _ h
  split at h
  · rename_i hhas
    obtain ⟨status, hstatus, hset⟩ := Except.bind_eq_ok.mp h
    obtain ⟨after, rfl, hafter⟩ := hfinish _ hset
    exact .inr ⟨status, updated, after, hhas, hstatus, by simp, hafter⟩
  · obtain ⟨after, rfl, hafter⟩ := hfinish _ h
    exact .inl (List.forall_mem_append.mpr ⟨hupdated, hafter⟩)

/-- What a request sets leaves the status, or gives the record one of its own. -/
theorem RecordRequest.Sets.status {attributes : Items} (h : request.Sets py tenantId attributes) :
    (∀ kv ∈ attributes, kv.1 ≠ "status") ∨
      ∃ status, request.GivesStatus py tenantId status ∧
        ∀ row : Items, (row.merge attributes).lookup "status" = some (.str status) := by
  cases h with
  | update read of_body =>
    rcases updatesOf_status of_body with hother | ⟨status, before, after, hhas, hstatus, rfl, hafter⟩
    · exact .inl hother
    · exact .inr ⟨status, .update read hhas hstatus, fun row => lookup_merge_set row _ _ _ hafter⟩
  | delete now =>
    exact .inr ⟨"deleted", .delete, fun row => lookup_merge_set row [] _ _ (by simp)⟩
  | rotateApiKey now => exact .inl (by simp)
  | @provisioned event detail tenantId status now named reported =>
    have htext (field : String) (value : Val) (hfield : field ≠ "status") :
        ∀ kv ∈ (if value.truthy then [(field, Val.str value.toStr)] else []), kv.1 ≠ "status" := by
      split
      · simpa using hfield
      · simp
    by_cases hready : status = "ready"
    · subst hready
      refine .inr ⟨"active", .ready named reported, fun row => ?_⟩
      unfold provisioningUpdates
      extract_lets text
      rw [if_pos rfl, List.append_assoc, List.singleton_append]
      refine lookup_merge_set row _ _ _ (List.forall_mem_append.mpr ⟨?_, ?_⟩)
      · exact htext _ _ (by decide)
      · exact htext _ _ (by decide)
    · refine .inl ?_
      unfold provisioningUpdates
      extract_lets text
      rw [if_neg hready]
      refine List.forall_mem_append.mpr ⟨by simp, ?_⟩
      split
      · exact htext _ _ (by decide)
      · simp

end

end A5cCell.TenantApi
