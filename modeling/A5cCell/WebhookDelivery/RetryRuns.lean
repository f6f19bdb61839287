import A5cCell.WebhookDelivery.Attempts

/-!
# An attempt where nothing is down

Storage and queues answer, and an endpoint either takes a request or refuses it. An attempt for a job
that is over then comes to one of five ends (`Came`), and marks the job's row with it
(`does_attemptDelivery`).
-/

namespace A5cCell.WebhookDelivery

open Py (Val Items Dict)
open DataAccess

/-- Storage and queues are available, and no POST raises anything but a `RequestException`. The
    client does raise others, where it is redirected to what cannot be parsed as a URL, and nothing
    catches them (`unparsable_redirect_ends_nowhere`). -/
structure Available {τ : Type} (world : World τ) : Prop where
  marks : Marks world.dynamo
  fault : ∀ w request, world.fault w request = none
  send : ∀ w message, world.send w message = none
  post : ∀ w post x, world.post w post ≠ .raised x

/-- The fields a mark sets. -/
def markFields : List String :=
  ["webhook_delivered", "webhook_delivery_status", "webhook_delivery_attempts",
    "webhook_delivery_error", "webhook_last_attempt_at"]

/-- A row before and after it is marked. -/
structure Remarked (attributes attributes' : Items) (delivered : Bool) (status : String) : Prop where
  delivered : attributes'.lookup "webhook_delivered" = some (.bool delivered)
  status : attributes'.lookup "webhook_delivery_status" = some (.str status)
  others : ∀ field, IsAttribute field → field ∉ markFields →
    attributes'.lookup field = attributes.lookup field

theorem remarked_of_merge {attributes attributes' : Items} {mark : Mark}
    (hfields : ∀ field, IsAttribute field →
      attributes'.lookup field = (attributes.merge mark.attributes).lookup field) :
    Remarked attributes attributes' mark.delivered mark.status := by
  have hnodup : (mark.attributes.map Prod.fst).Nodup := by
    show markFields.Nodup
    decide
  refine ⟨?_, ?_, fun field hfield hother => ?_⟩
  · rw [hfields _ (by decide)]
    exact Items.lookup_merge_of_mem attributes hnodup (by simp [Mark.attributes])
  · rw [hfields _ (by decide)]
    exact Items.lookup_merge_of_mem attributes hnodup (by simp [Mark.attributes])
  · rw [hfields field hfield]
    apply Items.lookup_merge_of_not_mem
    intro kv hkv hname
    apply hother
    rw [← hname]
    exact List.mem_map_of_mem (f := Prod.fst) hkv

section

variable {τ : Type} (config : DeliveryConfig) (world : World τ)

/-- The run returns, having marked the job's row once, with what `R` says was marked, posted and
    sent. -/
def Does (tenantId jobId : String) (attributes : Items) (state : State τ) (p : Delivery Unit)
    (R : Bool → String → List Post → List Message → Prop) : Prop :=
  (Prog.run (world.serve config.jobsTable) state p).outcome = .ok () ∧
    ∃ delivered status posts messages attributes' w, R delivered status posts messages ∧
      Remarked attributes attributes' delivered status ∧
      (Prog.run (world.serve config.jobsTable) state p).final =
        ⟨state.tables.set (jobRow config.jobsTable tenantId jobId) attributes',
          state.traffic.append
            ⟨[((jobRow config.jobsTable tenantId jobId).row attributes',
              (jobRow config.jobsTable tenantId jobId).row attributes)], posts, messages⟩, w⟩

end

variable {τ : Type} {config : DeliveryConfig} {world : World τ}
  {tenantId jobId : String} {attributes : Items} {state : State τ}

theorem Does.mono {p : Delivery Unit} {R R' : Bool → String → List Post → List Message → Prop}
    (h : Does config world tenantId jobId attributes state p R)
    (hR : ∀ delivered status posts messages, R delivered status posts messages →
      R' delivered status posts messages) :
    Does config world tenantId jobId attributes state p R' := by
  obtain ⟨hok, delivered, status, posts, messages, attributes', w, hr, hrest⟩ := h
  exact ⟨hok, delivered, status, posts, messages, attributes', w, hR _ _ _ _ hr, hrest⟩

/-! ## Single calls -/

variable (config) in
theorem serve_db (hworld : Available world) (state : State τ) (request : Request) :
    world.serve config.jobsTable state (.db request) =
      ((world.dynamo.serve state.tables request).1, {
        tables := (world.dynamo.serve state.tables request).2
        traffic := state.traffic.append ⟨changesOf config.jobsTable request
          (world.dynamo.serve state.tables request).1 state.tables
          (world.dynamo.serve state.tables request).2, [], []⟩
        world := world.next state.world (.db request) }) := by
  simp only [World.serve, hworld.fault]

variable (state) in
theorem does_markRow (hworld : Available world)
    (hrow : state.tables.get? (jobRow config.jobsTable tenantId jobId) = some attributes)
    (mark : Mark) :
    Does config world tenantId jobId attributes state (markRow config tenantId jobId mark)
      (fun delivered status posts messages =>
        delivered = mark.delivered ∧ status = mark.status ∧ posts = [] ∧ messages = []) := by
  obtain ⟨attributes', hanswer, htables, hfields⟩ :=
    serve_markRequest hworld.marks state.tables config.jobsTable tenantId jobId mark
  obtain ⟨hfinal, hok, -⟩ := run_issue config world
    (markRequest config.jobsTable tenantId jobId mark) state
  have hserve := serve_db config hworld state
    (markRequest config.jobsTable tenantId jobId mark)
  have hprogram : markRow config tenantId jobId mark =
      Delivery.dynamodb (issue (markRequest config.jobsTable tenantId jobId mark)) >>=
        fun _ => pure () := by
    rw [← updateItem_own]
    rfl
  have hanswered : (world.serve config.jobsTable state
      (.db (markRequest config.jobsTable tenantId jobId mark))).1 =
        .ok [("Attributes", .dict ((jobRow config.jobsTable tenantId jobId).row attributes'))] := by
    rw [hserve]
    exact hanswer
  have hchange : changesOf config.jobsTable (markRequest config.jobsTable tenantId jobId mark)
      (world.dynamo.serve state.tables (markRequest config.jobsTable tenantId jobId mark)).1
      state.tables (world.dynamo.serve state.tables
        (markRequest config.jobsTable tenantId jobId mark)).2 =
          [((jobRow config.jobsTable tenantId jobId).row attributes',
            (jobRow config.jobsTable tenantId jobId).row attributes)] := by
    rw [changesOf, if_pos ⟨rfl, rfl, by rw [hanswer]; rfl⟩, htables]
    have hkey : (markRequest config.jobsTable tenantId jobId mark).kwargs.get? "Key" =
        some (.val (.dict (jobKey tenantId jobId))) := by
      simp [markRequest, Dict.get?_set]
    rw [hkey, Option.bind_some, key?_jobKey]
    simp only [imageOf, Dict.get?_set_self, hrow, Option.elim_some, Option.toList_some, List.map_cons,
      List.map_nil]
  rw [Does, hprogram]
  refine ⟨(Prog.run_bind_ok (hok _ hanswered)).1, mark.delivered, mark.status, [], [], attributes',
    world.next state.world (.db (markRequest config.jobsTable tenantId jobId mark)),
    ⟨rfl, rfl, rfl, rfl⟩, ?_, ?_⟩
  · rw [hrow] at hfields
    exact remarked_of_merge hfields
  · rw [(Prog.run_bind_ok (hok _ hanswered)).2, hfinal, hserve, hchange, htables]
    rfl

variable (config) in
/-- Marking a job sets its row, and puts the change on the stream. -/
theorem does_markDeliveryState (hworld : Available world)
    (hrow : state.tables.get? (jobRow config.jobsTable tenantId jobId) = some attributes)
    {context : TenantContext} (hcontext : context.tenantId = tenantId) (delivered : Bool)
    (status : String) (attempts : Int) (error : Option String) :
    Does config world tenantId jobId attributes state
      (markDeliveryState config context jobId delivered status attempts error)
      (fun d s posts messages => d = delivered ∧ s = status ∧ posts = [] ∧ messages = []) := by
  subst hcontext
  -- the time is read, and then the row is updated
  exact does_markRow { state with world := world.next state.world .now } hworld hrow
    ⟨delivered, status, attempts, error, world.now state.world⟩

/-! ## Sequences -/

/-- The run returns, having sent one message that `S` says of. -/
def Sends (config : DeliveryConfig) (world : World τ) (p : Delivery Unit) (S : Message → Prop) : Prop :=
  ∀ state : State τ, (Prog.run (world.serve config.jobsTable) state p).outcome = .ok () ∧
    ∃ message w, S message ∧ (Prog.run (world.serve config.jobsTable) state p).final =
      ⟨state.tables, state.traffic.append ⟨[], [], [message]⟩, w⟩

variable (config) in
theorem sends_sendMessage (hworld : Available world) (region queueUrl : String)
    (delaySeconds : Option Int) (body : Items) :
    Sends config world (Delivery.sendMessage region queueUrl delaySeconds body)
      (· = ⟨queueUrl, delaySeconds, body⟩) := by
  intro state
  simp only [Delivery.sendMessage, Prog.run, World.serve, hworld.send]
  exact ⟨trivial, _, _, rfl, rfl⟩

/-- A message that is sent after the row was marked. -/
theorem Does.send {p q : Delivery Unit} {R : Bool → String → List Post → List Message → Prop}
    {S : Message → Prop} (hp : Does config world tenantId jobId attributes state p R)
    (hq : Sends config world q S) :
    Does config world tenantId jobId attributes state (p >>= fun _ => q)
      (fun delivered status posts messages =>
        ∃ earlier message, R delivered status posts earlier ∧ S message ∧
          messages = earlier ++ [message]) := by
  obtain ⟨hok, delivered, status, posts, messages, attributes', w, hr, hmarked, hfinal⟩ := hp
  obtain ⟨hsent, message, w', hs, hlast⟩ :=
    hq (Prog.run (world.serve config.jobsTable) state p).final
  refine ⟨(Prog.run_bind_ok hok).1.trans hsent, delivered, status, posts, messages ++ [message],
    attributes', w', ⟨messages, message, hr, hs, rfl⟩, hmarked, ?_⟩
  rw [(Prog.run_bind_ok hok).2, hlast, hfinal]
  simp [Traffic.append]

/-- A request that is posted before the row is marked. -/
theorem Does.post {next : PostOutcome → Delivery Unit}
    {R : Bool → String → List Post → List Message → Prop} {url secret : String} {payload : Items}
    {timeout : Int}
    (h : Does config world tenantId jobId attributes
      ⟨state.tables, state.traffic.append ⟨[], [⟨url, payload, secret⟩], []⟩,
        world.next state.world (.post url payload secret timeout)⟩
      (next (world.post state.world ⟨url, payload, secret⟩)) R) :
    Does config world tenantId jobId attributes state (.call (.post url payload secret timeout) next)
      (fun delivered status posts messages =>
        ∃ later, R delivered status later messages ∧ posts = ⟨url, payload, secret⟩ :: later) := by
  obtain ⟨hok, delivered, status, posts, messages, attributes', w, hr, hmarked, hfinal⟩ := h
  refine ⟨hok, delivered, status, _, messages, attributes', w, ⟨posts, hr, rfl⟩, hmarked, ?_⟩
  refine hfinal.trans ?_
  simp [Traffic.append]

/-- What goes on from a part that only reads. -/
theorem Does.of_read {α : Type} {p : Delivery α} {f : α → Delivery Unit} {a : α} {w : τ}
    {R : Bool → String → List Post → List Message → Prop}
    (hok : (Prog.run (world.serve config.jobsTable) state p).outcome = .ok a)
    (hfinal : (Prog.run (world.serve config.jobsTable) state p).final =
      ⟨state.tables, state.traffic, w⟩)
    (h : Does config world tenantId jobId attributes ⟨state.tables, state.traffic, w⟩ (f a) R) :
    Does config world tenantId jobId attributes state (p >>= f) R := by
  obtain ⟨hdone, hrest⟩ := h
  refine ⟨(Prog.run_bind_ok hok).1.trans (by rw [hfinal]; exact hdone), ?_⟩
  rw [(Prog.run_bind_ok hok).2, hfinal]
  exact hrest

/-! ## What an attempt comes to -/

/-- A message that asks for a later attempt. -/
structure IsRetry (queueUrl : String) (jobItem : Items) (attempt : Int) (message : Message) : Prop where
  queue : message.queueUrl = queueUrl
  delay : ∃ seconds, message.delaySeconds = some seconds ∧ 1 ≤ seconds ∧ seconds ≤ 900
  body : message.body = retryBody (jobItem.get "tenant_id" (.str "")).toStr
    (jobItem.get "app_id" (.str "")).toStr (jobIdOf jobItem) attempt

/-- What an attempt comes to: what is marked, what was posted and what was sent. -/
inductive Came (env : Environment) (retryUrl dlqUrl : String) (jobItem : Items) (attempt : Int) :
    Bool → String → List Post → List Message → Prop
  | delivered (post : Post) : Came env retryUrl dlqUrl jobItem attempt true "delivered" [post] []
  | skipped : Came env retryUrl dlqUrl jobItem attempt false "skipped" [] []
  | refused (dead : Message) (hqueue : dead.queueUrl = dlqUrl) :
      Came env retryUrl dlqUrl jobItem attempt false "failed" [] [dead]
  | exhausted (post : Post) (dead : Message) (hlimit : env.maxRetryAttempts < attempt)
      (hqueue : dead.queueUrl = dlqUrl) :
      Came env retryUrl dlqUrl jobItem attempt false "failed" [post] [dead]
  | retrying (post : Post) (message : Message) (hlimit : attempt ≤ env.maxRetryAttempts)
      (hretry : IsRetry retryUrl jobItem (attempt + 1) message) :
      Came env retryUrl dlqUrl jobItem attempt false "retrying" [post] [message]

section

variable {env : Environment} {retryUrl dlqUrl : String} {jobItem : Items} {context : TenantContext}
  {attempt : Int}

variable (jobItem attempt) in
theorem sends_sendToDlq (hworld : Available world) (hdlq : env.dlqUrl = some dlqUrl)
    (reason : String) :
    Sends (deliveryConfig env) world (sendToDlq (deliveryConfig env) jobItem attempt reason)
      (·.queueUrl = dlqUrl) := by
  intro state
  have hurl : (deliveryConfig env).dlqUrl = some dlqUrl := hdlq
  simp only [sendToDlq, hurl]
  obtain ⟨hok, message, w, rfl, hfinal⟩ := sends_sendMessage (deliveryConfig env) hworld
    (deliveryConfig env).region dlqUrl none (deadLetterBody jobItem attempt reason) state
  exact ⟨hok, _, w, rfl, hfinal⟩

theorem does_markAndSendDlq (hworld : Available world) (hdlq : env.dlqUrl = some dlqUrl)
    (hrow : state.tables.get? (jobRow env.jobsTable tenantId jobId) = some attributes)
    (hcontext : context.tenantId = tenantId) (error reason : String) :
    Does (deliveryConfig env) world tenantId jobId attributes state
      (markAndSendDlq (deliveryConfig env) context jobId jobItem attempt error reason)
      (fun delivered status posts messages => delivered = false ∧ status = "failed" ∧ posts = [] ∧
        ∃ dead : Message, dead.queueUrl = dlqUrl ∧ messages = [dead]) := by
  have hmark := does_markDeliveryState (deliveryConfig env) hworld hrow hcontext false
    (deliveryConfig env).failedStatus attempt (some error)
  refine (hmark.send (sends_sendToDlq jobItem attempt hworld hdlq reason)).mono
    fun delivered status posts messages h => ?_
  obtain ⟨earlier, dead, ⟨hdelivered, hstatus, hposts, rfl⟩, hqueue, hmessages⟩ := h
  exact ⟨hdelivered, hstatus, hposts, dead, hqueue, hmessages⟩

variable (retryUrl jobItem) in
/-- A retry waits for a while the queue takes. -/
theorem sends_enqueueRetry (hworld : Available world) (hattempt : 1 ≤ attempt) :
    Sends (deliveryConfig env) world
      (.call (.jitter (baseDelay attempt)) fun jitteredDelay =>
        enqueueRetry (deliveryConfig env) retryUrl jobItem (jobIdOf jobItem) (attempt + 1)
          (retryDelaySeconds attempt jitteredDelay))
      (IsRetry retryUrl jobItem (attempt + 1)) := by
  intro state
  obtain ⟨seconds, hseconds⟩ : ∃ seconds, seconds = retryDelaySeconds attempt
      (world.jitter state.world (baseDelay attempt)) := ⟨_, rfl⟩
  have hdelay : 1 ≤ seconds ∧ seconds ≤ 900 := by
    rw [hseconds]
    exact retryDelaySeconds_mem (by omega) _
  obtain ⟨hok, message, w, rfl, hfinal⟩ := sends_sendMessage (deliveryConfig env) hworld
    (deliveryConfig env).region retryUrl (some seconds)
    (retryBody (jobItem.get "tenant_id" (.str "")).toStr (jobItem.get "app_id" (.str "")).toStr
      (jobIdOf jobItem) (attempt + 1))
    { state with world := world.next state.world (.jitter (baseDelay attempt)) }
  rw [hseconds] at hok hfinal
  refine ⟨hok, _, w, ⟨rfl, ⟨seconds, by rw [hseconds], hdelay⟩, rfl⟩, hfinal⟩

/-- A POST that fails is tried again, or is the last. -/
theorem does_handleDeliveryFailure (hworld : Available world)
    (hretry : env.retryQueueUrl = some retryUrl) (hdlq : env.dlqUrl = some dlqUrl)
    (hrow : state.tables.get? (jobRow env.jobsTable tenantId (jobIdOf jobItem)) = some attributes)
    (hcontext : context.tenantId = tenantId) (hattempt : 1 ≤ attempt) (post : Post) (error : String) :
    Does (deliveryConfig env) world tenantId (jobIdOf jobItem) attributes state
      (handleDeliveryFailure (deliveryConfig env) context jobItem attempt error)
      (fun delivered status posts messages =>
        posts = [] ∧ Came env retryUrl dlqUrl jobItem attempt delivered status [post] messages) := by
  unfold handleDeliveryFailure
  show Does _ _ _ _ _ _ (if shouldRetry attempt env.maxRetryAttempts then _ else _) _
  split
  · rename_i hlimit
    have hurl : (deliveryConfig env).retryQueueUrl = some retryUrl := hretry
    rw [hurl]
    refine ((does_markDeliveryState (deliveryConfig env) hworld hrow hcontext false
      (deliveryConfig env).retryingStatus attempt (some error)).send
        (sends_enqueueRetry retryUrl jobItem hworld hattempt)).mono
          fun delivered status posts messages h => ?_
    obtain ⟨earlier, message, ⟨rfl, rfl, hposts, rfl⟩, hmessage, rfl⟩ := h
    exact ⟨hposts, .retrying post message (by simpa [shouldRetry] using hlimit) hmessage⟩
  · rename_i hlimit
    refine (does_markAndSendDlq hworld hdlq hrow hcontext error error).mono
      fun delivered status posts messages h => ?_
    obtain ⟨rfl, rfl, hposts, dead, hqueue, rfl⟩ := h
    exact ⟨hposts, .exhausted post dead (by simpa [shouldRetry] using hlimit) hqueue⟩

theorem does_postEvent (hworld : Available world)
    (hretry : env.retryQueueUrl = some retryUrl) (hdlq : env.dlqUrl = some dlqUrl)
    (hrow : state.tables.get? (jobRow env.jobsTable tenantId (jobIdOf jobItem)) = some attributes)
    (hcontext : context.tenantId = tenantId) (hattempt : 1 ≤ attempt)
    (eventName webhookUrl signatureSecret : String) :
    Does (deliveryConfig env) world tenantId (jobIdOf jobItem) attributes state
      (postEvent (deliveryConfig env) context jobItem attempt eventName webhookUrl signatureSecret)
      (Came env retryUrl dlqUrl jobItem attempt) := by
  obtain ⟨post, hpost⟩ : ∃ post : Post,
      post = ⟨webhookUrl, buildPayload jobItem eventName, signatureSecret⟩ := ⟨_, rfl⟩
  refine (Does.post (R := fun delivered status posts messages =>
    posts = [] ∧ Came env retryUrl dlqUrl jobItem attempt delivered status [post] messages) ?_).mono
      fun delivered status posts messages h => ?_
  · obtain ⟨later, hlater⟩ : ∃ later : State τ, later =
        ⟨state.tables, state.traffic.append ⟨[], [⟨webhookUrl, buildPayload jobItem eventName,
          signatureSecret⟩], []⟩, world.next state.world (.post webhookUrl
            (buildPayload jobItem eventName) signatureSecret
            (deliveryConfig env).httpTimeoutSeconds)⟩ := ⟨_, rfl⟩
    have hthere : later.tables.get? (jobRow env.jobsTable tenantId (jobIdOf jobItem)) =
        some attributes := by
      rw [hlater]
      exact hrow
    rw [← hlater]
    cases houtcome : world.post state.world
      ⟨webhookUrl, buildPayload jobItem eventName, signatureSecret⟩ with
    | accepted =>
      refine (does_markDeliveryState (deliveryConfig env) hworld hthere hcontext true
        (deliveryConfig env).deliveredStatus attempt none).mono fun delivered status posts messages h => ?_
      obtain ⟨rfl, rfl, hposts, rfl⟩ := h
      exact ⟨hposts, .delivered post⟩
    | requestException text =>
      exact does_handleDeliveryFailure hworld hretry hdlq hthere hcontext hattempt post text
    | raised x => exact absurd houtcome (hworld.post _ _ x)
  · obtain ⟨later, ⟨rfl, hcame⟩, rfl⟩ := h
    rw [← hpost]
    exact hcame

/-- What the registration says can be read: its events can be searched. -/
def Searchable (registration : Items) : Prop :=
  ∀ eventName, ∃ subscribed,
    isSubscribed ((registration.get "events").or (.list [])) eventName = .ok subscribed

variable (state) in
theorem does_deliverTo (hworld : Available world)
    (hretry : env.retryQueueUrl = some retryUrl) (hdlq : env.dlqUrl = some dlqUrl)
    (hrow : state.tables.get? (jobRow env.jobsTable tenantId (jobIdOf jobItem)) = some attributes)
    (hcontext : context.tenantId = tenantId) (hattempt : 1 ≤ attempt)
    (eventName webhookUrl : String) {registration : Items} (hsearch : Searchable registration) :
    Does (deliveryConfig env) world tenantId (jobIdOf jobItem) attributes state
      (deliverTo (deliveryConfig env) context jobItem attempt eventName webhookUrl registration)
      (Came env retryUrl dlqUrl jobItem attempt) := by
  have hskip (error : String) : Does (deliveryConfig env) world tenantId (jobIdOf jobItem) attributes
      state (markDeliveryState (deliveryConfig env) context (jobIdOf jobItem) false
        (deliveryConfig env).skippedStatus attempt (some error))
      (Came env retryUrl dlqUrl jobItem attempt) := by
    refine (does_markDeliveryState (deliveryConfig env) hworld hrow hcontext false
      (deliveryConfig env).skippedStatus attempt (some error)).mono
        fun delivered status posts messages h => ?_
    obtain ⟨rfl, rfl, rfl, rfl⟩ := h
    exact .skipped
  unfold deliverTo
  show Does _ _ _ _ _ _ (if _ then _ else _) _
  split
  · exact hskip _
  · obtain ⟨subscribed, hsubscribed⟩ := hsearch eventName
    rw [hsubscribed]
    show Does _ _ _ _ _ _ (if !subscribed then _ else _) _
    split
    · exact hskip _
    · split
      · refine (does_markAndSendDlq hworld hdlq hrow hcontext _ _).mono
          fun delivered status posts messages h => ?_
        obtain ⟨rfl, rfl, rfl, dead, hqueue, rfl⟩ := h
        exact .refused dead hqueue
      · exact does_postEvent hworld hretry hdlq hrow hcontext hattempt _ _ _

/-- Every webhook registration has events that can be searched, as they are registered. -/
def Registered (env : Environment) (tables : Tables) : Prop :=
  ∀ pk webhookId registration,
    tables.get? ⟨env.tenantsTable, pk, "WEBHOOK#" ++ webhookId⟩ = some registration →
      Searchable registration

theorem run_getWebhookRegistration (hworld : Available world)
    (hregistered : Registered env state.tables) (context : TenantContext) (webhookId : String) :
    ∃ registration w,
      (Prog.run (world.serve env.jobsTable) state
        (getWebhookRegistration (deliveryConfig env) context webhookId)).outcome = .ok registration ∧
      (Prog.run (world.serve env.jobsTable) state
        (getWebhookRegistration (deliveryConfig env) context webhookId)).final =
          ⟨state.tables, state.traffic, w⟩ ∧
      ∀ record, registration = some record → Searchable record := by
  have hsk : "WEBHOOK#" ++ webhookId ≠ "" := by
    intro h
    have hlist := congrArg String.toList h
    simp at hlist
  have hserve := serve_db (deliveryConfig env) hworld state
    (getRequest env.tenantsTable [("PK", .str (tenantPkPrefix ++ context.tenantId)),
      ("SK", .str ("WEBHOOK#" ++ webhookId))])
  rw [dynamo_getRequest world.dynamo state.tables env.tenantsTable context.tenantId hsk] at hserve
  obtain ⟨hfinal, hok, -⟩ := run_issue (deliveryConfig env) world
    (getRequest env.tenantsTable [("PK", .str (tenantPkPrefix ++ context.tenantId)),
      ("SK", .str ("WEBHOOK#" ++ webhookId))]) state
  have hread : (Prog.run (world.serve env.jobsTable) state (Delivery.dynamodb
      ((Client.tenantScoped context.tenantId).getItem env.tenantsTable
        [("PK", .str (tenantPkPrefix ++ context.tenantId)),
          ("SK", .str ("WEBHOOK#" ++ webhookId))]))).outcome = .ok ((state.tables.get?
            ⟨env.tenantsTable, tenantPkPrefix ++ context.tenantId, "WEBHOOK#" ++ webhookId⟩).map
              (RowKey.row ⟨env.tenantsTable, tenantPkPrefix ++ context.tenantId,
                "WEBHOOK#" ++ webhookId⟩)) := by
    rw [getItem_own]
    exact hok _ (congrArg Prod.fst hserve)
  rw [← getItem_own] at hfinal
  refine ⟨_, world.next state.world (.db (getRequest env.tenantsTable
    [("PK", .str (tenantPkPrefix ++ context.tenantId)), ("SK", .str ("WEBHOOK#" ++ webhookId))])),
      (Prog.run_bind_ok hread).1, ?_, ?_⟩
  · refine (Prog.final_bind_pure _ _ _).trans (hfinal.trans ((congrArg Prod.snd hserve).trans ?_))
    -- Reading a registration changes no job.
    have hnone (answer : Answer (getRequest env.tenantsTable
        [("PK", .str (tenantPkPrefix ++ context.tenantId)), ("SK", .str ("WEBHOOK#" ++ webhookId))])) :
        changesOf (deliveryConfig env).jobsTable (getRequest env.tenantsTable
          [("PK", .str (tenantPkPrefix ++ context.tenantId)), ("SK", .str ("WEBHOOK#" ++ webhookId))])
          answer state.tables state.tables = [] := by
      rw [changesOf, if_neg]
      intro h
      cases h.1
    rw [hnone]
    exact congrArg (State.mk state.tables · _) (Traffic.append_none _)
  · intro record hrecord
    obtain ⟨hstored, -⟩ := Option.filter_eq_some_iff.mp hrecord
    obtain ⟨attributes, hattributes, rfl⟩ := Option.map_eq_some_iff.mp hstored
    intro eventName
    obtain ⟨subscribed, hsubscribed⟩ := hregistered _ _ attributes hattributes eventName
    refine ⟨subscribed, ?_⟩
    rw [Items.get, lookup_row (by decide)]
    exact hsubscribed

variable (context) in
theorem does_deliverEvent (hworld : Available world)
    (hretry : env.retryQueueUrl = some retryUrl) (hdlq : env.dlqUrl = some dlqUrl)
    (hrow : state.tables.get? (jobRow env.jobsTable tenantId (jobIdOf jobItem)) = some attributes)
    (hregistered : Registered env state.tables) (hcontext : context.tenantId = tenantId)
    (hattempt : 1 ≤ attempt) (eventName webhookUrl : String) :
    Does (deliveryConfig env) world tenantId (jobIdOf jobItem) attributes state
      (deliverEvent (deliveryConfig env) context jobItem attempt eventName webhookUrl)
      (Came env retryUrl dlqUrl jobItem attempt) := by
  have hrefuse (later : State τ) (htables : later.tables = state.tables) (error reason : String) :
      Does (deliveryConfig env) world tenantId (jobIdOf jobItem) attributes later
        (markAndSendDlq (deliveryConfig env) context (jobIdOf jobItem) jobItem attempt error reason)
        (Came env retryUrl dlqUrl jobItem attempt) := by
    rw [← htables] at hrow
    refine (does_markAndSendDlq hworld hdlq hrow hcontext error reason).mono
      fun delivered status posts messages h => ?_
    obtain ⟨rfl, rfl, rfl, dead, hqueue, rfl⟩ := h
    exact .refused dead hqueue
  unfold deliverEvent
  simp only
  split
  · exact hrefuse state rfl _ _
  · rename_i webhookId hwebhook
    obtain ⟨registration, w, hok, hfinal, hsearch⟩ :=
      run_getWebhookRegistration hworld hregistered context webhookId
    refine Does.of_read hok hfinal ?_
    cases registration with
    | none => exact hrefuse ⟨state.tables, state.traffic, w⟩ rfl _ _
    | some registration =>
      exact does_deliverTo ⟨state.tables, state.traffic, w⟩ hworld hretry hdlq hrow hcontext
        hattempt eventName webhookUrl (hsearch registration rfl)

/-- A job that is over, and has a webhook to be told of it. -/
structure Over (env : Environment) (tenantId jobId : String) (jobItem : Items) : Prop where
  tenant : (jobItem.get "tenant_id").strOrNone = some tenantId
  app : ∃ appId, (jobItem.get "app_id").strOrNone = some appId
  job : (jobItem.get "job_id").strOrNone = some jobId
  jobText : jobIdOf jobItem = jobId
  event : ∃ eventName,
    (deliveryConfig env).eventName (jobItem.get "status" (.str "")).toStr = some eventName
  url : ∃ webhookUrl, (jobItem.get "webhook_url").strOrNone = some webhookUrl

/-- What makes a job one that is over. -/
def overFields : List String := ["tenant_id", "app_id", "job_id", "status", "webhook_url"]

theorem Over.congr {jobItem' : Items} (h : Over env tenantId jobId jobItem)
    (hfields : ∀ field ∈ overFields, jobItem'.lookup field = jobItem.lookup field) :
    Over env tenantId jobId jobItem' := by
  have hget (field : String) (hfield : field ∈ overFields) (v : Val) :
      jobItem'.get field v = jobItem.get field v := by
    rw [Items.get, Items.get, hfields field hfield]
  refine ⟨?_, ?_, ?_, ?_, ?_, ?_⟩
  · rw [hget _ (by decide)]
    exact h.tenant
  · rw [hget _ (by decide)]
    exact h.app
  · rw [hget _ (by decide)]
    exact h.job
  · rw [jobIdOf, hget _ (by decide)]
    exact h.jobText
  · rw [hget _ (by decide)]
    exact h.event
  · rw [hget _ (by decide)]
    exact h.url

variable (state attempt) in
/-- **What an attempt comes to**, for a job that is over and not delivered. -/
theorem does_attemptDelivery (hworld : Available world)
    (hretry : env.retryQueueUrl = some retryUrl) (hdlq : env.dlqUrl = some dlqUrl)
    (hrow : state.tables.get? (jobRow env.jobsTable tenantId jobId) = some attributes)
    (hregistered : Registered env state.tables) (hover : Over env tenantId jobId jobItem)
    (hundelivered : (jobItem.get "webhook_delivered" (.bool false)).truthy = false)
    (hattempt : 1 ≤ attempt) :
    Does (deliveryConfig env) world tenantId jobId attributes state
      (attemptDelivery (deliveryConfig env) jobItem attempt)
      (Came env retryUrl dlqUrl jobItem attempt) := by
  obtain ⟨appId, happ⟩ := hover.app
  obtain ⟨eventName, hevent⟩ := hover.event
  obtain ⟨webhookUrl, hurl⟩ := hover.url
  have hcontext : tenantContextFromJob jobItem =
      .ok ⟨tenantId, appId, .basic, "webhook-delivery"⟩ := by
    simp only [tenantContextFromJob, hover.tenant, happ]
  have hdue : dueEvent (deliveryConfig env) jobItem = some (eventName, webhookUrl) := by
    simp [dueEvent, hevent, hurl, hundelivered]
  unfold attemptDelivery
  rw [hcontext, hdue]
  rw [← hover.jobText] at hrow ⊢
  exact does_deliverEvent ⟨tenantId, appId, .basic, "webhook-delivery"⟩ hworld hretry
    hdlq hrow hregistered rfl hattempt eventName webhookUrl

end

end A5cCell.WebhookDelivery
