import A5cCell.WebhookDelivery.Attempts

/-!
# A delivered webhook stays delivered

An attempt for a job touches the row of that job and no other, and an attempt made from the row does
nothing once the row says the job was delivered. An attempt made from an image of the stream looks at
the image, not at the row: the job stays delivered in the runs where no record of the stream that
starts a delivery is of a job whose row is delivered (`Current`).
-/

namespace A5cCell.WebhookDelivery

open Py (Val Items Dict)
open DataAccess

variable {τ : Type} {config : DeliveryConfig} {world : World τ}

/-- The row of the job records that it was delivered. -/
def Delivered (config : DeliveryConfig) (tables : Tables) (tenantId jobId : String) : Prop :=
  ∃ attributes, tables.get? (jobRow config.jobsTable tenantId jobId) = some attributes ∧
    Items.get attributes "webhook_delivered" = .bool true

/-- Every job's row is under the ids it names, as `log_job` writes it. -/
def NamesItself (config : DeliveryConfig) (tables : Tables) : Prop :=
  ∀ tenantId jobId attributes,
    tables.get? (jobRow config.jobsTable tenantId jobId) = some attributes →
      ∀ named, (Items.get attributes "tenant_id").strOrNone = some named →
        named = tenantId ∧ jobIdOf attributes = jobId

/-- Where the record is one of the stream that starts a delivery, the job it is of is not delivered. -/
def Current (config : DeliveryConfig) (start : Tables × τ) (record : Record) : Prop :=
  ∀ newImage oldImage, record = .stream newImage oldImage →
    shouldProcessStreamTransition config newImage oldImage = true →
      ∀ tenantId, (newImage.get "tenant_id").strOrNone = some tenantId →
        ¬ Delivered config start.1 tenantId (jobIdOf newImage)

/-! ## What a run leaves -/

/-- Two states, between which nothing happened but at one job: no other row was written, and what was
    posted tells of the job. -/
structure OnlyAt (config : DeliveryConfig) (tenantId jobId : String) (before after : State τ) :
    Prop where
  tables : Table.Agree (· ≠ jobRow config.jobsTable tenantId jobId) after.tables before.tables
  posts : ∀ post ∈ after.traffic.posts,
    post ∈ before.traffic.posts ∨ post.TellsOf tenantId jobId
  named : NamesItself config before.tables → NamesItself config after.tables

theorem OnlyAt.refl {tenantId jobId : String} (state : State τ) :
    OnlyAt config tenantId jobId state state :=
  ⟨.refl _ _, fun _ => .inl, id⟩

theorem OnlyAt.trans {tenantId jobId : String} {a b c : State τ}
    (hab : OnlyAt config tenantId jobId a b) (hbc : OnlyAt config tenantId jobId b c) :
    OnlyAt config tenantId jobId a c where
  tables := hbc.tables.trans hab.tables
  posts := fun post hpost => (hbc.posts post hpost).elim (hab.posts post) .inr
  named := fun h => hbc.named (hab.named h)

/-- A mark does not change what a row names. -/
theorem namesItself_set {tables : Tables} (hnamed : NamesItself config tables)
    {tenantId jobId : String} {mark : Mark} {attributes : Items}
    (hfields : ∀ field, IsAttribute field → attributes.lookup field =
      (Items.merge ((tables.get? (jobRow config.jobsTable tenantId jobId)).getD [])
        mark.attributes).lookup field) :
    NamesItself config (tables.set (jobRow config.jobsTable tenantId jobId) attributes) := by
  intro tenantId' jobId' row hrow named hname
  rw [Dict.get?_set] at hrow
  split at hrow
  · rename_i hkey
    obtain ⟨rfl, rfl⟩ := jobRow_inj hkey
    cases hrow
    -- the ids are no fields of a mark
    have hids (field : String) (hfield : IsAttribute field)
        (hother : ∀ kv ∈ mark.attributes, kv.1 ≠ field) :
        attributes.lookup field =
          ((tables.get? (jobRow config.jobsTable tenantId' jobId')).getD []).lookup field :=
      (hfields field hfield).trans (Items.lookup_merge_of_not_mem _ hother)
    have htenant := hids "tenant_id" (by decide) (by simp [Mark.attributes])
    have hjob := hids "job_id" (by decide) (by simp [Mark.attributes])
    cases hstored : tables.get? (jobRow config.jobsTable tenantId' jobId') with
    | none =>
      rw [hstored] at htenant
      rw [Items.get, htenant] at hname
      exact absurd hname (by simp [Val.strOrNone])
    | some stored =>
      rw [hstored] at htenant hjob
      have hget : Items.get attributes "tenant_id" = Items.get stored "tenant_id" := by
        rw [Items.get, Items.get, htenant, Option.getD_some]
      have hid : jobIdOf attributes = jobIdOf stored := by
        rw [jobIdOf, jobIdOf, Items.get, Items.get, hjob, Option.getD_some]
      rw [hget] at hname
      rw [hid]
      exact hnamed tenantId' jobId' stored hstored named hname
  · exact hnamed tenantId' jobId' row hrow named hname

/-- A read writes nothing. -/
theorem serve_of_getItem {request : Request} (hget : request.operation = .getItem) (tables : Tables)
    (dynamo : Dynamo) : (dynamo.serve tables request).2 = tables := by
  obtain ⟨operation, table, kwargs⟩ := request
  cases hget
  simp only [Dynamo.serve]
  split <;> rfl

theorem serve_onlyAt (hmarks : Marks world.dynamo) {tenantId jobId : String} {e : Effect}
    (he : Concerns config.jobsTable tenantId jobId e) (state : State τ) :
    OnlyAt config tenantId jobId state (world.serve config.jobsTable state e).2 := by
  cases e with
  | db request =>
    simp only [World.serve]
    cases world.fault state.world request with
    | some fault => exact ⟨.refl _ _, fun _ => .inl, id⟩
    | none =>
      rcases he with hget | ⟨mark, rfl⟩
      · have htables := serve_of_getItem hget state.tables world.dynamo
        refine ⟨?_, ?_, ?_⟩
        · simp only [htables]
          exact .refl _ _
        · intro post hpost
          exact .inl (by simpa [Traffic.append] using hpost)
        · simp only [htables]
          exact id
      · obtain ⟨attributes, -, htables, hfields⟩ :=
          serve_markRequest hmarks state.tables config.jobsTable tenantId jobId mark
        refine ⟨?_, ?_, ?_⟩
        · simp only [htables]
          exact .set_of_not (V := (· ≠ jobRow config.jobsTable tenantId jobId)) _ (not_not.mpr rfl) _
        · intro post hpost
          exact .inl (by simpa [Traffic.append] using hpost)
        · simp only [htables]
          exact fun hnamed => namesItself_set hnamed hfields
  | now => exact ⟨.refl _ _, fun _ => .inl, id⟩
  | jitter base => exact ⟨.refl _ _, fun _ => .inl, id⟩
  | post url payload secret timeout =>
    refine ⟨.refl _ _, fun post hpost => ?_, id⟩
    rcases List.mem_append.mp hpost with hbefore | hposted
    · exact .inl hbefore
    · rw [List.mem_singleton.mp hposted]
      exact .inr he
  | sendMessage region url delay body =>
    simp only [World.serve]
    cases world.send state.world ⟨url, delay, body⟩ with
    | some x => exact ⟨.refl _ _, fun _ => .inl, id⟩
    | none =>
      refine ⟨.refl _ _, fun post hpost => .inl ?_, id⟩
      simpa [Traffic.append] using hpost

/-- **An attempt touches its own job.** -/
theorem run_onlyAt {α : Type} (hmarks : Marks world.dynamo) {tenantId jobId : String}
    {p : Delivery α} (hp : p.StaysAt config.jobsTable tenantId jobId) (state : State τ) :
    OnlyAt config tenantId jobId state (Prog.run (world.serve config.jobsTable) state p).final :=
  Prog.run_inv (I := OnlyAt config tenantId jobId state)
    (fun _ he _ hs => hs.trans (serve_onlyAt hmarks he _)) hp (.refl state)

/-! ## One record -/

/-- What comes of a record: nothing, or what an attempt does at a job that was not delivered. -/
def Harmless (config : DeliveryConfig) (before after : State τ) : Prop :=
  (after.tables = before.tables ∧ after.traffic.posts = before.traffic.posts) ∨
    ∃ tenantId jobId, ¬ Delivered config before.tables tenantId jobId ∧
      OnlyAt config tenantId jobId before after

theorem Harmless.of_eq {before before' after : State τ} (h : Harmless config before' after)
    (htables : before'.tables = before.tables) (htraffic : before'.traffic = before.traffic) :
    Harmless config before after := by
  rcases h with ⟨hsame, hposts⟩ | ⟨tenantId, jobId, hnot, honly⟩
  · exact .inl ⟨hsame.trans htables, hposts.trans (by rw [htraffic])⟩
  · rw [htables] at hnot
    exact .inr ⟨tenantId, jobId, hnot, htables ▸ honly.tables, htraffic ▸ honly.posts,
      htables ▸ honly.named⟩

/-- An attempt for a job that is not delivered where the item names it. -/
theorem attempt_harmless (hmarks : Marks world.dynamo) {jobItem : Items} {attempt : Int}
    {state : State τ}
    (hdue : ∀ tenantId, (jobItem.get "tenant_id").strOrNone = some tenantId →
      (jobItem.get "webhook_delivered" (.bool false)).truthy = false →
        ¬ Delivered config state.tables tenantId (jobIdOf jobItem)) :
    Harmless config state
      (Prog.run (world.serve config.jobsTable) state (attemptDelivery config jobItem attempt)).final := by
  rcases attemptDelivery_cases config jobItem attempt with
    hidle | ⟨tenantId, htenant, hfalse, hstays⟩
  · refine .inl ?_
    rcases hidle with hret | ⟨x, hraise⟩
    · rw [hret]
      exact ⟨rfl, rfl⟩
    · rw [hraise]
      exact ⟨rfl, rfl⟩
  · exact .inr ⟨tenantId, jobIdOf jobItem, hdue tenantId htenant hfalse, run_onlyAt hmarks hstays state⟩

theorem stream_harmless (hmarks : Marks world.dynamo) {newImage oldImage : Items} {start : Tables × τ}
    (hcurrent : Current config start (.stream newImage oldImage)) :
    Harmless config ⟨start.1, .none, start.2⟩
      (runOf config world (processStreamRecord config newImage oldImage) start).final := by
  unfold processStreamRecord runOf
  split
  · rename_i hprocess
    apply attempt_harmless hmarks
    intro tenantId htenant _
    exact hcurrent newImage oldImage rfl hprocess tenantId htenant
  · exact .inl ⟨rfl, rfl⟩

theorem retry_harmless (hmarks : Marks world.dynamo) (body : Option Val) {start : Tables × τ}
    (hnamed : NamesItself config start.1) :
    Harmless config ⟨start.1, .none, start.2⟩
      (runOf config world (processRetryRecord config body) start).final := by
  unfold processRetryRecord runOf
  cases parseRetryRecord body with
  | error x => exact .inl ⟨rfl, rfl⟩
  | ok parsed =>
    cases parsed with
    | none => exact .inl ⟨rfl, rfl⟩
    | some message =>
      obtain ⟨htables, htraffic, hrow⟩ := serve_getRequest config world
        message.tenantId message.jobId ⟨start.1, .none, start.2⟩
      obtain ⟨hfinal, hok, herror⟩ := run_loadRetryJob config world message
        ⟨start.1, .none, start.2⟩
      refine Harmless.of_eq ?_ htables htraffic
      show Harmless config _ (Prog.run _ _ (loadRetryJob config message >>= _)).final
      cases hanswer : (world.serve config.jobsTable ⟨start.1, .none, start.2⟩
        (.db (getRequest config.jobsTable (jobKey message.tenantId message.jobId)))).1 with
      | error fault =>
        rw [(Prog.run_bind_error (herror fault hanswer)).2, hfinal]
        exact .inl ⟨rfl, rfl⟩
      | ok loaded =>
        rw [(Prog.run_bind_ok (hok loaded hanswer)).2, hfinal]
        cases loaded with
        | none => exact .inl ⟨rfl, rfl⟩
        | some jobItem =>
          apply attempt_harmless hmarks
          intro tenantId htenant hfalse
          obtain ⟨attributes, hstored, rfl⟩ := hrow jobItem hanswer
          -- the row names itself, so the attempt is for the job it was loaded for
          have hget (field : String) (hfield : IsAttribute field) (v : Val) :
              ((jobRow config.jobsTable message.tenantId message.jobId).row attributes).get field v =
                Items.get attributes field v := by
            rw [Items.get, Items.get, lookup_row hfield]
          rw [hget _ (by decide)] at htenant hfalse
          obtain ⟨rfl, hjob⟩ := hnamed _ _ attributes hstored tenantId htenant
          have hid : jobIdOf ((jobRow config.jobsTable message.tenantId message.jobId).row attributes) =
              message.jobId :=
            (congrArg Val.toStr (hget "job_id" (by decide) (.str ""))).trans hjob
          rw [hid, htables]
          intro hdelivered
          obtain ⟨delivered, hrowAt, htrue⟩ := hdelivered
          cases hstored.symm.trans hrowAt
          rw [get_default (by rw [htrue]; simp), htrue] at hfalse
          exact absurd hfalse (by decide)

variable (world) in
/-- **One record** leaves every job that is delivered as it is, and posts nothing of it. -/
theorem process_harmless (hmarks : Marks world.dynamo) {start : Tables × τ} {record : Record}
    (hnamed : NamesItself config start.1) (hcurrent : Current config start record) :
    Harmless config ⟨start.1, .none, start.2⟩
      (runOf config world (handleRecord config record) start).final := by
  cases record with
  | stream newImage oldImage =>
    have hfinal : (runOf config world (handleRecord config (.stream newImage oldImage)) start).final =
        (runOf config world (processStreamRecord config newImage oldImage) start).final :=
      Prog.final_bind_pure _ (fun _ => []) _
    rw [hfinal]
    exact stream_harmless hmarks hcurrent
  | retry messageId body =>
    have hfinal : (runOf config world (handleRecord config (.retry messageId body)) start).final =
        (runOf config world (processRetryRecord config body) start).final := by
      refine (Prog.final_bind_of_pure (fun result => ?_) _).trans (Prog.final_attempt _ _)
      cases result with
      | ok done => exact ⟨[], rfl⟩
      | error x => exact ⟨_, rfl⟩
    rw [hfinal]
    exact retry_harmless hmarks body hnamed
  | unsupported source => exact .inl ⟨rfl, rfl⟩

/-! ## Runs -/

theorem Post.TellsOf.unique {post : Post} {tenantId tenantId' jobId jobId' : String}
    (h : post.TellsOf tenantId jobId) (h' : post.TellsOf tenantId' jobId') :
    tenantId = tenantId' ∧ jobId = jobId' := by
  obtain ⟨hjob, text, htext, htenant⟩ := h
  obtain ⟨hjob', text', htext', htenant'⟩ := h'
  refine ⟨?_, Val.str.inj (hjob.symm.trans hjob')⟩
  rw [← htenant, ← htenant', Val.str.inj (htext.symm.trans htext')]

/-- What is harmless keeps a job delivered, and posts nothing of it. -/
theorem Harmless.keeps {before after : State τ} (h : Harmless config before after)
    (hposts : before.traffic.posts = []) {tenantId jobId : String}
    (hdelivered : Delivered config before.tables tenantId jobId) :
    Delivered config after.tables tenantId jobId ∧
      ∀ post ∈ after.traffic.posts, ¬ post.TellsOf tenantId jobId := by
  rcases h with ⟨htables, hsame⟩ | ⟨tenantId', jobId', hnot, honly⟩
  · rw [htables, hsame, hposts]
    exact ⟨hdelivered, by simp⟩
  · constructor
    · obtain ⟨attributes, hrow, htrue⟩ := hdelivered
      refine ⟨attributes, ?_, htrue⟩
      rw [honly.tables _ ?_]
      · exact hrow
      · intro hkey
        obtain ⟨rfl, rfl⟩ := jobRow_inj hkey
        exact hnot ⟨attributes, hrow, htrue⟩
    · intro post hpost htells
      rcases honly.posts post hpost with hbefore | htells'
      · rw [hposts] at hbefore
        cases hbefore
      · obtain ⟨rfl, rfl⟩ := htells.unique htells'
        exact hnot hdelivered

theorem Harmless.named {before after : State τ} (h : Harmless config before after)
    (hnamed : NamesItself config before.tables) : NamesItself config after.tables := by
  rcases h with ⟨htables, -⟩ | ⟨_, _, -, honly⟩
  · rw [htables]
    exact hnamed
  · exact honly.named hnamed

/-- **A delivered webhook stays delivered**: from any state of a run on, a job whose row records that it
    was delivered keeps recording it, and nothing more is posted of it. -/
theorem delivered_stays_delivered (hmarks : Marks world.dynamo) {start : Tables × τ}
    (hnamed : NamesItself config start.1) (earlier later : List Record)
    (hcurrent : ∀ m ∈ Runs.trace (process config world) start (earlier ++ later),
      Current config m.before m.event)
    (tenantId jobId : String)
    (hdelivered : Delivered config (Runs.final (process config world) start earlier).1 tenantId jobId) :
    Delivered config (Runs.final (process config world) start (earlier ++ later)).1 tenantId jobId ∧
      ∀ m ∈ Runs.trace (process config world) (Runs.final (process config world) start earlier) later,
        ∀ post ∈ m.response.posts, ¬ post.TellsOf tenantId jobId := by
  rw [Runs.trace_append] at hcurrent
  rw [Runs.final_append]
  have hstart : NamesItself config (Runs.final (process config world) start earlier).1 := by
    have hnames : ∀ s record, NamesItself config s.1 → Current config s record →
        NamesItself config (process config world s record).1.1 :=
      fun s record hs hrecord => (process_harmless world hmarks hs hrecord).named hs
    have hall := @Runs.inv_final _ _ _ (process config world) (fun s => NamesItself config s.1) _ hnames
    exact hall hnamed fun m hm => hcurrent m (List.mem_append_left _ hm)
  have hstep : ∀ s record, (NamesItself config s.1 ∧ Delivered config s.1 tenantId jobId) →
      Current config s record → NamesItself config (process config world s record).1.1 ∧
        Delivered config (process config world s record).1.1 tenantId jobId := by
    intro s record hs hrecord
    have hharmless := process_harmless world hmarks hs.1 hrecord
    exact ⟨hharmless.named hs.1, (hharmless.keeps rfl hs.2).1⟩
  have hlater : ∀ m ∈ Runs.trace (process config world)
      (Runs.final (process config world) start earlier) later, Current config m.before m.event :=
    fun m hm => hcurrent m (List.mem_append_right _ hm)
  constructor
  · exact (Runs.inv_final hstep ⟨hstart, hdelivered⟩ hlater).2
  · intro m hm
    obtain ⟨hbefore, hthere⟩ := Runs.inv_of_mem_trace hstep ⟨hstart, hdelivered⟩ hlater m hm
    rw [Runs.response_of_mem_trace hm]
    exact ((process_harmless world hmarks hbefore (hlater m hm)).keeps rfl hthere).2

/-! ## A change of the stream that is delivered twice -/

/-- What the values of a mark set. -/
def marksOf (kwargs : Dict String Arg) : Items :=
  match kwargs.get? "ExpressionAttributeValues" with
  | some (.val (.dict values)) =>
      [("webhook_delivered", Items.get values ":delivered"),
        ("webhook_delivery_status", Items.get values ":status"),
        ("webhook_delivery_attempts", Items.get values ":attempts"),
        ("webhook_delivery_error", Items.get values ":error"),
        ("webhook_last_attempt_at", Items.get values ":last_attempt_at")]
  | _ => []

/-- A DynamoDB that sets what a mark sets. -/
def markingRows : Dynamo :=
  { Dynamo.rowByRow with update := fun kwargs row => .ok (row.merge (marksOf kwargs)) }

theorem markingRows_marks : Marks markingRows := by
  intro jobsTable tenantId jobId mark row
  exact ⟨_, rfl, fun field _ => rfl⟩

/-- A world where nothing fails, and an endpoint takes the first requests posted. -/
def worldTaking (first : Nat) : World Nat where
  dynamo := markingRows
  fault := fun _ _ => none
  now := fun _ => "2026-01-31T12:00:00+00:00"
  jitter := fun _ _ => 1
  post := fun posted _ => if posted < first then .accepted else .requestException "503"
  send := fun _ _ => none
  next := fun posted e => match e with
    | .post .. => posted + 1
    | _ => posted

/-- An environment, for examples. -/
def exampleEnvironment : Environment where
  region := "eu-west-2"
  jobsTable := "platform-jobs"
  tenantsTable := "platform-tenants"
  retryQueueUrl := some "retries"
  dlqUrl := some "dead-letters"
  maxRetryAttempts := 3
  httpTimeoutSeconds := 10

def exampleConfig : DeliveryConfig := deliveryConfig exampleEnvironment

/-- A job that is over, for examples. -/
def exampleJob : Items :=
  [("job_id", .str "j-1"), ("tenant_id", .str "t-1"), ("app_id", .str "a-1"),
    ("agent_name", .str "agent"), ("status", .str "completed"), ("webhook_id", .str "w-1"),
    ("webhook_url", .str "https://example.test/hook"), ("webhook_delivered", .bool false),
    ("webhook_delivery_attempts", .int 0)]

/-- The registration of its webhook, for examples. -/
def exampleRegistration : Items :=
  [("tenant_id", .str "t-1"), ("status", .str "active"), ("events", .list [.str "job.completed"]),
    ("signature_secret", .str "secret")]

def exampleTables : Tables :=
  (Dict.empty.set (jobRow "platform-jobs" "t-1" "j-1") exampleJob).set
    ⟨"platform-tenants", "TENANT#t-1", "WEBHOOK#w-1"⟩ exampleRegistration

/-- The change that ended the job. -/
def exampleChange : Record :=
  .stream ((jobRow "platform-jobs" "t-1" "j-1").row exampleJob)
    [("tenant_id", .str "t-1"), ("job_id", .str "j-1"), ("status", .str "running")]

theorem exampleTables_namesItself : NamesItself exampleConfig exampleTables := by
  intro tenantId jobId attributes hrow named hname
  have hother : jobRow exampleConfig.jobsTable tenantId jobId ≠
      ⟨"platform-tenants", "TENANT#t-1", "WEBHOOK#w-1"⟩ := by
    intro h
    have htable : "platform-jobs" = "platform-tenants" := congrArg RowKey.table h
    exact absurd htable (by decide)
  rw [exampleTables, Dict.get?_set_ne _ _ hother, Dict.get?_set] at hrow
  split at hrow
  · rename_i hkey
    obtain ⟨rfl, rfl⟩ := @jobRow_inj "platform-jobs" _ _ _ _ hkey
    cases hrow
    have hread : (Items.get exampleJob "tenant_id").strOrNone = some "t-1" := rfl
    cases hread.symm.trans hname
    exact ⟨rfl, rfl⟩
  · cases hrow

theorem delivered_job_returns :
    ∃ (earlier later : List Record),
      NamesItself exampleConfig exampleTables ∧
      Delivered exampleConfig
        (Runs.final (process exampleConfig (worldTaking 1)) (exampleTables, 0) earlier).1 "t-1" "j-1" ∧
      ¬ Delivered exampleConfig
        (Runs.final (process exampleConfig (worldTaking 1)) (exampleTables, 0)
          (earlier ++ later)).1 "t-1" "j-1" ∧
      ∃ m ∈ Runs.trace (process exampleConfig (worldTaking 1))
          (Runs.final (process exampleConfig (worldTaking 1)) (exampleTables, 0) earlier) later,
        ∃ post ∈ m.response.posts, post.TellsOf "t-1" "j-1" := by
  refine ⟨[exampleChange], [exampleChange], exampleTables_namesItself, ⟨_, rfl, rfl⟩, ?_, ?_⟩
  · intro hdelivered
    obtain ⟨attributes, hrow, htrue⟩ := hdelivered
    have hstored : ∃ row, (Runs.final (process exampleConfig (worldTaking 1)) (exampleTables, 0)
        ([exampleChange] ++ [exampleChange])).1.get? (jobRow "platform-jobs" "t-1" "j-1") = some row ∧
          Items.get row "webhook_delivered" = .bool false := ⟨_, rfl, rfl⟩
    obtain ⟨row, hstored, hfalse⟩ := hstored
    cases hstored.symm.trans hrow
    cases hfalse.symm.trans htrue
  · refine ⟨_, List.mem_cons_self, _, List.mem_cons_self, rfl, _, rfl, rfl⟩

/-- A retry message that comes after all. -/
def exampleRetry : Record := .retry "m-1" (some (.dict (retryBody "t-1" "a-1" "j-1" 2)))

theorem delivered_stays_delivered_late_retry :
    Delivered exampleConfig (Runs.final (process exampleConfig (worldTaking 1)) (exampleTables, 0)
        ([exampleChange] ++ [exampleRetry])).1 "t-1" "j-1" ∧
      ∀ m ∈ Runs.trace (process exampleConfig (worldTaking 1))
          (Runs.final (process exampleConfig (worldTaking 1)) (exampleTables, 0) [exampleChange])
          [exampleRetry],
        ∀ post ∈ m.response.posts, ¬ post.TellsOf "t-1" "j-1" := by
  apply delivered_stays_delivered markingRows_marks exampleTables_namesItself
  · intro m hm
    simp only [List.singleton_append, Runs.trace_cons, Runs.trace_nil, List.mem_cons,
      List.not_mem_nil, or_false] at hm
    rcases hm with rfl | rfl
    · intro newImage oldImage hrecord _ tenantId htenant
      cases hrecord
      have hread : (((jobRow "platform-jobs" "t-1" "j-1").row exampleJob).get "tenant_id").strOrNone =
          some "t-1" := rfl
      cases hread.symm.trans htenant
      intro hdelivered
      obtain ⟨attributes, hrow, htrue⟩ := hdelivered
      have hstored : exampleTables.get? (jobRow "platform-jobs" "t-1" "j-1") = some exampleJob := rfl
      cases hstored.symm.trans hrow
      cases htrue
    · intro newImage oldImage hrecord
      cases hrecord
  · exact ⟨_, rfl, rfl⟩

end A5cCell.WebhookDelivery
