import A5cCell.WebhookDelivery.World

/-!
# What an attempt does

An attempt for a job reads rows, sends messages, posts requests that tell of that job, and marks the
row of that job (`sat_attemptDelivery`). Where the job is not due, it does nothing at all
(`attemptDelivery_cases`).
-/

namespace A5cCell.WebhookDelivery

open Py (Val Items Dict)
open DataAccess

/-! ## The requests -/

def getRequest (table : String) (key : Items) : Request :=
  ⟨.getItem, table, (noKwargs.set "Key" (.val (.dict key))).update noKwargs.items⟩

/-- What marking a job sends. -/
def markRequest (jobsTable tenantId jobId : String) (mark : Mark) : Request :=
  ⟨.updateItem, jobsTable, (((noKwargs.set "Key" (.val (.dict (jobKey tenantId jobId)))).set
    "UpdateExpression" (.val (.str markExpression))).set
    "ExpressionAttributeValues" (.val (.dict mark.values))).set
    "ReturnValues" (.val (.str "ALL_NEW"))⟩

theorem validatePk_own (tenantId : String) (rest : Items) :
    (Client.tenantScoped tenantId).validatePk
      (("PK", .str (tenantPkPrefix ++ tenantId)) :: rest) = .ok () := by
  simp [Client.validatePk, Items.get, isForeignPk]

theorem getItem_own (tenantId table : String) (rest : Items) :
    (Client.tenantScoped tenantId).getItem table
        (("PK", .str (tenantPkPrefix ++ tenantId)) :: rest) =
      issue (getRequest table (("PK", .str (tenantPkPrefix ++ tenantId)) :: rest)) := by
  unfold Client.getItem
  rw [validatePk_own]
  rfl

theorem updateItem_own (tenantId jobsTable jobId : String) (mark : Mark) :
    (Client.tenantScoped tenantId).updateItem jobsTable (jobKey tenantId jobId) markExpression
      mark.values = issue (markRequest jobsTable tenantId jobId mark) := by
  unfold Client.updateItem jobKey
  rw [validatePk_own]
  rfl

/-! ## What a mark leaves -/

/-- What a mark sets of a row. -/
def Mark.attributes (mark : Mark) : Items :=
  [("webhook_delivered", .bool mark.delivered), ("webhook_delivery_status", .str mark.status),
    ("webhook_delivery_attempts", .int mark.attempts),
    ("webhook_delivery_error", optionVal mark.error),
    ("webhook_last_attempt_at", .str mark.lastAttemptAt)]

/-- DynamoDB does what the expression of a mark says: it leaves a row with the attributes set, and with
    its others as they were. -/
def Marks (dynamo : Dynamo) : Prop :=
  ∀ jobsTable tenantId jobId mark row,
    ∃ updated, dynamo.update (markRequest jobsTable tenantId jobId mark).kwargs row = .ok updated ∧
      ∀ field, IsAttribute field →
        updated.lookup field = (Items.merge row mark.attributes).lookup field

theorem jobRow_inj {jobsTable tenantId tenantId' jobId jobId' : String}
    (h : jobRow jobsTable tenantId jobId = jobRow jobsTable tenantId' jobId') :
    tenantId = tenantId' ∧ jobId = jobId' := by
  simp only [jobRow, RowKey.mk.injEq, true_and] at h
  obtain ⟨htenant, hjob⟩ := h
  have htenantList := congrArg String.toList htenant
  have hjobList := congrArg String.toList hjob
  simp only [String.toList_append, List.append_cancel_left_eq] at htenantList hjobList
  exact ⟨String.toList_inj.mp htenantList, String.toList_inj.mp hjobList⟩

/-- The key of a row of a tenant, given as one. -/
theorem key?_own (table tenantId : String) {sk : String} (hsk : sk ≠ "") :
    Arg.key? table (.val (.dict [("PK", .str (tenantPkPrefix ++ tenantId)), ("SK", .str sk)])) =
      some ⟨table, tenantPkPrefix ++ tenantId, sk⟩ := by
  have hpk : tenantPkPrefix ++ tenantId ≠ "" := by
    intro h
    have hlist := congrArg String.toList h
    simp [tenantPkPrefix] at hlist
  exact @Dynamo.key?_item ⟨table, tenantPkPrefix ++ tenantId, sk⟩ hpk hsk

theorem jobSk_ne (jobId : String) : "JOB#" ++ jobId ≠ "" := by
  intro h
  have hlist := congrArg String.toList h
  simp at hlist

theorem key?_jobKey (jobsTable tenantId jobId : String) :
    Arg.key? jobsTable (.val (.dict (jobKey tenantId jobId))) =
      some (jobRow jobsTable tenantId jobId) := by
  exact key?_own jobsTable tenantId (jobSk_ne jobId)

/-- **A mark sets the attributes of one row.** -/
theorem serve_markRequest {dynamo : Dynamo} (hmarks : Marks dynamo) (tables : Tables)
    (jobsTable tenantId jobId : String) (mark : Mark) :
    ∃ attributes,
      (dynamo.serve tables (markRequest jobsTable tenantId jobId mark)).1 =
        .ok [("Attributes", .dict ((jobRow jobsTable tenantId jobId).row attributes))] ∧
      (dynamo.serve tables (markRequest jobsTable tenantId jobId mark)).2 =
        tables.set (jobRow jobsTable tenantId jobId) attributes ∧
      ∀ field, IsAttribute field → attributes.lookup field =
        (Items.merge ((tables.get? (jobRow jobsTable tenantId jobId)).getD []) mark.attributes).lookup
          field := by
  obtain ⟨updated, hupdate, hfields⟩ := hmarks jobsTable tenantId jobId mark
    ((jobRow jobsTable tenantId jobId).row
      ((tables.get? (jobRow jobsTable tenantId jobId)).getD []))
  have hkey : (markRequest jobsTable tenantId jobId mark).kwargs.get? "Key" =
      some (.val (.dict (jobKey tenantId jobId))) := by
    simp [markRequest, Dict.get?_set]
  have hcondition (row : Option Items) :
      dynamo.conditionHolds (markRequest jobsTable tenantId jobId mark).kwargs row = true := rfl
  have hserve : dynamo.serve tables (markRequest jobsTable tenantId jobId mark) =
      (.ok [("Attributes", .dict ((jobRow jobsTable tenantId jobId).row (attributesOf updated)))],
        tables.set (jobRow jobsTable tenantId jobId) (attributesOf updated)) := by
    simp only [markRequest] at hkey hcondition hupdate ⊢
    simp only [Dynamo.serve, hkey, Option.bind_some, key?_jobKey, hcondition, if_true, hupdate]
  refine ⟨attributesOf updated, congrArg Prod.fst hserve, congrArg Prod.snd hserve, ?_⟩
  intro field hfield
  rw [lookup_attributesOf hfield, hfields field hfield]
  exact Items.lookup_merge_congr _ (lookup_row hfield _ _)

/-! ## What an attempt calls -/

/-- The job id an item names. -/
def jobIdOf (jobItem : Items) : String := (jobItem.get "job_id" (.str "")).toStr

/-- The request tells of the job. -/
def Post.TellsOf (tenantId jobId : String) (post : Post) : Prop :=
  Items.get post.payload "jobId" = .str jobId ∧
    ∃ text, Items.get post.payload "tenantId" = .str text ∧ Py.strip text = tenantId

/-- The call writes nothing but the row of the job, and posts nothing but what tells of it. -/
def Concerns (jobsTable tenantId jobId : String) : Effect → Prop
  | .db request =>
      request.operation = .getItem ∨ ∃ mark, request = markRequest jobsTable tenantId jobId mark
  | .post url payload secret _ => Post.TellsOf tenantId jobId ⟨url, payload, secret⟩
  | _ => True

section

variable {config : DeliveryConfig} {context : TenantContext} {jobItem : Items}

theorem get_default {d : Items} {key : String} {v : Val} (h : d.get key ≠ .none) :
    d.get key v = d.get key := by
  unfold Items.get at h ⊢
  cases hlookup : d.lookup key with
  | none =>
    rw [hlookup] at h
    exact absurd rfl h
  | some w => rfl

theorem ne_none_of_strOrNone {v : Val} {text : String} (h : v.strOrNone = some text) : v ≠ .none := by
  intro hv
  rw [hv] at h
  exact absurd h (by simp [Val.strOrNone])

/-- The context is that of the tenant the item names. -/
def Names (context : TenantContext) (jobItem : Items) : Prop :=
  (jobItem.get "tenant_id").strOrNone = some context.tenantId

theorem names_of_tenantContextFromJob (h : tenantContextFromJob jobItem = .ok context) :
    Names context jobItem := by
  unfold tenantContextFromJob at h
  split at h
  · rename_i tenantId appId htenant happ
    cases h
    exact htenant
  · cases h

theorem tellsOf_buildPayload (hnames : Names context jobItem) (eventName url secret : String) :
    Post.TellsOf context.tenantId (jobIdOf jobItem)
      ⟨url, buildPayload jobItem eventName, secret⟩ := by
  refine ⟨rfl, (jobItem.get "tenant_id" (.str "")).toStr, rfl, ?_⟩
  have hne := ne_none_of_strOrNone hnames
  have htext : Py.truthyText (some (Py.strip (jobItem.get "tenant_id").toStr)) =
      some context.tenantId := (Val.strOrNone_eq hne).symm.trans hnames
  rw [get_default hne]
  exact Option.some.inj (Py.truthyText_eq_some.mp htext).1

/-- The program's calls are those of an attempt for the job. -/
abbrev Delivery.StaysAt (jobsTable tenantId jobId : String) {α : Type} (p : Delivery α) : Prop :=
  p.Sat (Concerns jobsTable tenantId jobId) fun _ => True

variable {tenantId jobId : String}

theorem staysAt_getItem (table : String) (rest : Items) :
    (Delivery.dynamodb ((Client.tenantScoped context.tenantId).getItem table
      (("PK", .str (tenantPkPrefix ++ context.tenantId)) :: rest))).StaysAt
        config.jobsTable tenantId jobId := by
  rw [getItem_own]
  refine Prog.Sat.mapCalls ⟨.inl rfl, fun answer => ?_⟩
  cases answer <;> trivial

theorem staysAt_markDeliveryState (delivered : Bool) (status : String) (attempts : Int)
    (error : Option String) :
    (markDeliveryState config context jobId delivered status attempts error).StaysAt
      config.jobsTable context.tenantId jobId := by
  refine ⟨trivial, fun lastAttemptAt => ?_⟩
  show Prog.Sat _ _ (markRow config context.tenantId jobId _)
  unfold markRow
  rw [updateItem_own]
  refine Prog.Sat.seq (Prog.Sat.mapCalls ⟨.inr ⟨_, rfl⟩, fun answer => ?_⟩) fun _ => trivial
  cases answer <;> trivial

theorem staysAt_sendMessage (region queueUrl : String) (delaySeconds : Option Int) (body : Items) :
    (Delivery.sendMessage region queueUrl delaySeconds body).StaysAt config.jobsTable tenantId jobId := by
  refine ⟨trivial, fun reply => ?_⟩
  cases reply <;> trivial

theorem staysAt_markAndSendDlq (attempt : Int) (error reason : String) :
    (markAndSendDlq config context jobId jobItem attempt error reason).StaysAt
      config.jobsTable context.tenantId jobId := by
  refine Prog.Sat.seq (staysAt_markDeliveryState _ _ _ _) fun _ => ?_
  unfold sendToDlq
  split
  · trivial
  · exact staysAt_sendMessage _ _ _ _

theorem staysAt_handleDeliveryFailure (attempt : Int) (error : String) :
    (handleDeliveryFailure config context jobItem attempt error).StaysAt
      config.jobsTable context.tenantId (jobIdOf jobItem) := by
  unfold handleDeliveryFailure
  show Prog.Sat _ _ (if shouldRetry attempt config.maxRetryAttempts then _ else _)
  split
  · refine Prog.Sat.seq (staysAt_markDeliveryState _ _ _ _) fun _ => ?_
    split
    · trivial
    · exact ⟨trivial, fun jitteredDelay => staysAt_sendMessage _ _ _ _⟩
  · exact staysAt_markAndSendDlq _ _ _

theorem staysAt_postEvent (hnames : Names context jobItem) (attempt : Int)
    (eventName webhookUrl signatureSecret : String) :
    (postEvent config context jobItem attempt eventName webhookUrl signatureSecret).StaysAt
      config.jobsTable context.tenantId (jobIdOf jobItem) := by
  refine ⟨tellsOf_buildPayload hnames _ _ _, fun outcome => ?_⟩
  cases outcome with
  | accepted => exact staysAt_markDeliveryState _ _ _ _
  | requestException text => exact staysAt_handleDeliveryFailure _ _
  | raised x => trivial

theorem staysAt_deliverTo (hnames : Names context jobItem) (attempt : Int)
    (eventName webhookUrl : String) (registration : Items) :
    (deliverTo config context jobItem attempt eventName webhookUrl registration).StaysAt
      config.jobsTable context.tenantId (jobIdOf jobItem) := by
  unfold deliverTo
  show Prog.Sat _ _ (if _ then _ else _)
  split
  · exact staysAt_markDeliveryState _ _ _ _
  · cases isSubscribed ((registration.get "events").or (.list [])) eventName with
    | error x => trivial
    | ok subscribed =>
      show Prog.Sat _ _ (if _ then _ else _)
      split
      · exact staysAt_markDeliveryState _ _ _ _
      · split
        · exact staysAt_markAndSendDlq _ _ _
        · exact staysAt_postEvent hnames _ _ _ _

theorem staysAt_deliverEvent (hnames : Names context jobItem) (attempt : Int)
    (eventName webhookUrl : String) :
    (deliverEvent config context jobItem attempt eventName webhookUrl).StaysAt
      config.jobsTable context.tenantId (jobIdOf jobItem) := by
  unfold deliverEvent
  simp only
  split
  · exact staysAt_markAndSendDlq _ _ _
  · refine Prog.Sat.seq (Prog.Sat.seq (staysAt_getItem _ _) fun _ => trivial) fun registration => ?_
    cases registration with
    | none => exact staysAt_markAndSendDlq _ _ _
    | some registration => exact staysAt_deliverTo hnames _ _ _ _

/-- **What an attempt does**: nothing, where the job is not due; else it stays at the job the item
    names, which the item does not say was delivered. -/
theorem attemptDelivery_cases (config : DeliveryConfig) (jobItem : Items) (attempt : Int) :
    (attemptDelivery config jobItem attempt = .ret () ∨
      ∃ x, attemptDelivery config jobItem attempt = .raise x) ∨
    ∃ tenantId, (jobItem.get "tenant_id").strOrNone = some tenantId ∧
      (jobItem.get "webhook_delivered" (.bool false)).truthy = false ∧
      (attemptDelivery config jobItem attempt).StaysAt config.jobsTable tenantId (jobIdOf jobItem) := by
  unfold attemptDelivery
  cases hcontext : tenantContextFromJob jobItem with
  | error x => exact .inl (.inr ⟨x, rfl⟩)
  | ok context =>
    have hnames := names_of_tenantContextFromJob hcontext
    cases hdue : dueEvent config jobItem with
    | none => exact .inl (.inl rfl)
    | some due =>
      refine .inr ⟨context.tenantId, hnames, ?_, staysAt_deliverEvent hnames attempt due.1 due.2⟩
      unfold dueEvent at hdue
      split at hdue
      · split at hdue
        · cases hdue
        · rename_i hfalse
          simpa using hfalse
      · cases hdue

end

/-! ## Calls to DynamoDB, run -/

section

variable {τ : Type} {config : DeliveryConfig} {world : World τ}

/-- A row of a tenant that is read is the one that is stored. -/
theorem dynamo_getRequest (dynamo : Dynamo) (tables : Tables) (table tenantId : String) {sk : String}
    (hsk : sk ≠ "") :
    dynamo.serve tables (getRequest table
        [("PK", .str (tenantPkPrefix ++ tenantId)), ("SK", .str sk)]) =
      (.ok ((tables.get? ⟨table, tenantPkPrefix ++ tenantId, sk⟩).map
        (RowKey.row ⟨table, tenantPkPrefix ++ tenantId, sk⟩)), tables) := by
  have hkey : (getRequest table [("PK", .str (tenantPkPrefix ++ tenantId)),
      ("SK", .str sk)]).kwargs.get? "Key" =
        some (.val (.dict [("PK", .str (tenantPkPrefix ++ tenantId)), ("SK", .str sk)])) := rfl
  simp only [getRequest] at hkey ⊢
  simp only [Dynamo.serve, hkey, Option.bind_some, key?_own table tenantId hsk]

variable (config world) in
/-- Reading a job's row leaves everything. -/
theorem serve_getRequest (tenantId jobId : String) (state : State τ) :
    let request := getRequest config.jobsTable (jobKey tenantId jobId)
    (world.serve config.jobsTable state (.db request)).2.tables = state.tables ∧
      (world.serve config.jobsTable state (.db request)).2.traffic = state.traffic ∧
      ∀ row, (world.serve config.jobsTable state (.db request)).1 = .ok (some row) →
        ∃ attributes, state.tables.get? (jobRow config.jobsTable tenantId jobId) = some attributes ∧
          row = (jobRow config.jobsTable tenantId jobId).row attributes := by
  intro request
  simp only [World.serve]
  cases world.fault state.world request with
  | some fault => exact ⟨rfl, rfl, fun row h => by cases h⟩
  | none =>
    have hserve := dynamo_getRequest world.dynamo state.tables config.jobsTable tenantId
      (jobSk_ne jobId)
    refine ⟨congrArg Prod.snd hserve, Traffic.append_none _, fun row h => ?_⟩
    have hstored : (state.tables.get? (jobRow config.jobsTable tenantId jobId)).map
        (jobRow config.jobsTable tenantId jobId).row = some row :=
      Except.ok.inj ((congrArg Prod.fst hserve).symm.trans h)
    obtain ⟨attributes, hattributes, hrow⟩ := Option.map_eq_some_iff.mp hstored
    exact ⟨attributes, hattributes, hrow.symm⟩

variable (config world) in
theorem run_issue (request : Request) (state : State τ) :
    let served := world.serve config.jobsTable state (.db request)
    let run := Prog.run (world.serve config.jobsTable) state (Delivery.dynamodb (issue request))
    run.final = served.2 ∧ (∀ value, served.1 = .ok value → run.outcome = .ok value) ∧
      ∀ fault, served.1 = .error fault → run.outcome = .error fault.exc := by
  intro served run
  obtain ⟨answer, hanswer⟩ : ∃ answer, answer = served.1 := ⟨_, rfl⟩
  cases answer with
  | ok value =>
    have hrun : run = ⟨.ok value, served.2, [.db request]⟩ := by
      simp only [run, Delivery.dynamodb, issue, Prog.mapCalls, Prog.run]
      rw [show (world.serve config.jobsTable state (.db request)).1 = .ok value from hanswer.symm]
      rfl
    rw [hrun, ← hanswer]
    exact ⟨rfl, fun _ h => by cases h; rfl, fun _ h => by cases h⟩
  | error fault =>
    have hrun : run = ⟨.error fault.exc, served.2, [.db request]⟩ := by
      simp only [run, Delivery.dynamodb, issue, Prog.mapCalls, Prog.run]
      rw [show (world.serve config.jobsTable state (.db request)).1 = .error fault from hanswer.symm]
      rfl
    rw [hrun, ← hanswer]
    exact ⟨rfl, fun _ h => (by cases h), fun _ h => by cases h; rfl⟩

variable (config world) in
/-- Loading the job of a retry, run. -/
theorem run_loadRetryJob (message : RetryMessage) (state : State τ) :
    let served := world.serve config.jobsTable state
      (.db (getRequest config.jobsTable (jobKey message.tenantId message.jobId)))
    let run := Prog.run (world.serve config.jobsTable) state (loadRetryJob config message)
    run.final = served.2 ∧
      (∀ loaded : Option Items, served.1 = .ok loaded → run.outcome = .ok loaded) ∧
      ∀ fault, served.1 = .error fault → run.outcome = .error fault.exc := by
  have hload : loadRetryJob config message = Delivery.dynamodb (issue
      (getRequest config.jobsTable (jobKey message.tenantId message.jobId))) :=
    congrArg Delivery.dynamodb (getItem_own message.tenantId config.jobsTable _)
  rw [hload]
  exact run_issue config world _ state

end

end A5cCell.WebhookDelivery
