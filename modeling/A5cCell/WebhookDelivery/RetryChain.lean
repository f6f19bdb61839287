import A5cCell.WebhookDelivery.RetryRuns
import A5cCell.WebhookDelivery.StaysDelivered

/-!
# The retry chain

A job that ends puts a change on the stream; the change starts an attempt, an attempt that fails sends
a message that asks for the next one, and every attempt marks the job's row, which puts a change on the
stream again. `System` is these around one job: the changes and the messages that wait to be delivered,
in any order, while other rows are written.

At most one thing that waits leads to an attempt (`Waiting`); the last attempt leaves none (`Ended`).
-/

namespace A5cCell.WebhookDelivery

open Py (Val Items Dict)
open DataAccess

/-- The tables, what waits on the stream and on the retry queue, and what has come of the chain so
    far: the changes written, the retries sent, the dead letters, the requests posted, and how many
    changes and messages were delivered. -/
structure System (τ : Type) where
  tables : Tables
  world : τ
  stream : List (Items × Items)
  retries : List Message
  written : List (Items × Items)
  sent : List Message
  deadLetters : List Message
  posts : List Post
  deliveries : Nat

/-- A change or a message is delivered, or another program writes or deletes a row. -/
inductive SystemEvent where
  | change (index : Nat)
  | retry (index : Nat) (messageId : String)
  | write (key : RowKey) (attributes : Option Items)

/-- A row is written, or deleted. -/
def writeRow (tables : Tables) (key : RowKey) : Option Items → Tables
  | some attributes => tables.set key attributes
  | none => tables.erase key

section

variable {τ : Type} (env : Environment) (world : World τ)

/-- What a record leaves of the system. -/
def System.deliver (sys : System τ) (record : Record) : System τ :=
  let after := process (deliveryConfig env) world (sys.tables, sys.world) record
  let retries := after.2.messages.filter fun message => some message.queueUrl = env.retryQueueUrl
  { tables := after.1.1
    world := after.1.2
    stream := sys.stream ++ after.2.stream
    retries := sys.retries ++ retries
    written := sys.written ++ after.2.stream
    sent := sys.sent ++ retries
    deadLetters := sys.deadLetters ++
      after.2.messages.filter fun message => some message.queueUrl = env.dlqUrl
    posts := sys.posts ++ after.2.posts
    deliveries := sys.deliveries + 1 }

def System.step (sys : System τ) : SystemEvent → System τ × Unit
  | .change index => match sys.stream[index]? with
    | none => (sys, ())
    | some change => (System.deliver env world { sys with stream := sys.stream.eraseIdx index }
        (.stream change.1 change.2), ())
  | .retry index messageId => match sys.retries[index]? with
    | none => (sys, ())
    | some message => (System.deliver env world { sys with retries := sys.retries.eraseIdx index }
        (.retry messageId (some (.dict message.body))), ())
  | .write key attributes => ({ sys with tables := writeRow sys.tables key attributes }, ())

/-- The system when the job has ended: one change waits. -/
def System.start (tables : Tables) (w : τ) (change : Items × Items) : System τ :=
  ⟨tables, w, [change], [], [], [], [], [], 0⟩

end

/-- A write of another program: not to the job's row, and a registration is written as they are
    registered. -/
def Foreign (env : Environment) (tenantId jobId : String) : SystemEvent → Prop
  | .write key attributes => key ≠ jobRow env.jobsTable tenantId jobId ∧
      ∀ registration, attributes = some registration → Searchable registration
  | _ => True

/-! ## One record -/

section

variable {τ : Type} {env : Environment} {world : World τ} {tenantId jobId retryUrl dlqUrl : String}
  {tables : Tables} {w : τ} {attributes : Items}

/-- A change that starts no delivery does nothing. -/
theorem process_idle {newImage oldImage : Items}
    (h : shouldProcessStreamTransition (deliveryConfig env) newImage oldImage = false) :
    process (deliveryConfig env) world (tables, w) (.stream newImage oldImage) =
      ((tables, w), .none) := by
  simp only [process, runOf, handleRecord, processStreamRecord, h]
  rfl

/-- What an attempt leaves, as what its record leaves. -/
def Leaves (env : Environment) (tenantId jobId retryUrl dlqUrl : String) (tables : Tables)
    (attributes : Items) (attempt : Int) (after : (Tables × τ) × Traffic) : Prop :=
  ∃ delivered status posts messages attributes' w',
    Came env retryUrl dlqUrl ((jobRow env.jobsTable tenantId jobId).row attributes) attempt delivered
      status posts messages ∧
    Remarked attributes attributes' delivered status ∧
    after = ((tables.set (jobRow env.jobsTable tenantId jobId) attributes', w'),
      ⟨[((jobRow env.jobsTable tenantId jobId).row attributes',
        (jobRow env.jobsTable tenantId jobId).row attributes)], posts, messages⟩)

theorem get_row {field : String} (hfield : IsAttribute field) (key : RowKey) (v : Val) :
    (key.row attributes).get field v = attributes.get field v := by
  rw [Items.get, Items.get, lookup_row hfield]

theorem Over.row (h : Over env tenantId jobId attributes) (key : RowKey) :
    Over env tenantId jobId (key.row attributes) := by
  have hattribute : ∀ field ∈ overFields, IsAttribute field := by decide
  exact h.congr fun field hfield => lookup_row (hattribute field hfield) key attributes

theorem Over.remarked (h : Over env tenantId jobId attributes) {attributes' : Items}
    {delivered : Bool} {status : String} (hmarked : Remarked attributes attributes' delivered status) :
    Over env tenantId jobId attributes' := by
  have hother : ∀ field ∈ overFields, IsAttribute field ∧ field ∉ markFields := by decide
  exact h.congr fun field hfield =>
    hmarked.others field (hother field hfield).1 (hother field hfield).2

/-- The change that ended the job starts the first attempt. -/
theorem process_change (hworld : Available world) (hretry : env.retryQueueUrl = some retryUrl)
    (hdlq : env.dlqUrl = some dlqUrl)
    (hrow : tables.get? (jobRow env.jobsTable tenantId jobId) = some attributes)
    (hregistered : Registered env tables) (hover : Over env tenantId jobId attributes)
    (hundelivered : (attributes.get "webhook_delivered" (.bool false)).truthy = false)
    {oldImage : Items}
    (hstarts : shouldProcessStreamTransition (deliveryConfig env)
      ((jobRow env.jobsTable tenantId jobId).row attributes) oldImage = true) :
    Leaves env tenantId jobId retryUrl dlqUrl tables attributes 1
      (process (deliveryConfig env) world (tables, w)
        (.stream ((jobRow env.jobsTable tenantId jobId).row attributes) oldImage)) := by
  obtain ⟨-, delivered, status, posts, messages, attributes', w', hcame, hmarked, hfinal⟩ :=
    does_attemptDelivery ⟨tables, .none, w⟩ 1 hworld hretry hdlq hrow
      hregistered (hover.row (jobRow env.jobsTable tenantId jobId))
      (by rw [get_row (by decide)]; exact hundelivered) le_rfl
  refine ⟨delivered, status, posts, messages, attributes', w', hcame, hmarked, ?_⟩
  have hprocess : (runOf (deliveryConfig env) world (handleRecord (deliveryConfig env)
      (.stream ((jobRow env.jobsTable tenantId jobId).row attributes) oldImage)) (tables, w)).final =
        (Prog.run (world.serve env.jobsTable) ⟨tables, .none, w⟩ (attemptDelivery (deliveryConfig env)
          ((jobRow env.jobsTable tenantId jobId).row attributes) 1)).final := by
    refine (Prog.final_bind_pure _ (fun _ => []) _).trans ?_
    rw [processStreamRecord, if_pos hstarts]
    rfl
  have hstate := hprocess.trans hfinal
  simp only [process, hstate]
  rfl

/-- A retry message starts the attempt it asks for. -/
theorem process_retry (hworld : Available world) (hretry : env.retryQueueUrl = some retryUrl)
    (hdlq : env.dlqUrl = some dlqUrl)
    (hrow : tables.get? (jobRow env.jobsTable tenantId jobId) = some attributes)
    (hregistered : Registered env tables) (hover : Over env tenantId jobId attributes)
    (hundelivered : (attributes.get "webhook_delivered" (.bool false)).truthy = false)
    {body : Items} {appId : String} {attempt : Int} (hattempt : 1 ≤ attempt)
    (hparse : parseRetryRecord (some (.dict body)) = .ok (some ⟨tenantId, appId, jobId, attempt⟩))
    (messageId : String) :
    Leaves env tenantId jobId retryUrl dlqUrl tables attributes attempt
      (process (deliveryConfig env) world (tables, w) (.retry messageId (some (.dict body)))) := by
  obtain ⟨htables, htraffic, -⟩ := serve_getRequest (deliveryConfig env) world
    tenantId jobId ⟨tables, .none, w⟩
  obtain ⟨hfinal, hok, -⟩ := run_loadRetryJob (deliveryConfig env) world
    ⟨tenantId, appId, jobId, attempt⟩ ⟨tables, .none, w⟩
  -- the row is read, and then the attempt is made from it
  obtain ⟨later, hlater⟩ : ∃ later, later = (world.serve env.jobsTable ⟨tables, .none, w⟩
    (.db (getRequest env.jobsTable (jobKey tenantId jobId)))).2 := ⟨_, rfl⟩
  have hthere : later.tables = tables := by
    rw [hlater]
    exact htables
  have hquiet : later.traffic = .none := by
    rw [hlater]
    exact htraffic
  have hanswer : (world.serve env.jobsTable ⟨tables, .none, w⟩
      (.db (getRequest env.jobsTable (jobKey tenantId jobId)))).1 =
        .ok (some ((jobRow env.jobsTable tenantId jobId).row attributes)) := by
    have hdynamo := dynamo_getRequest world.dynamo tables env.jobsTable tenantId (jobSk_ne jobId)
    have hget : tables.get? ⟨env.jobsTable, tenantPkPrefix ++ tenantId, "JOB#" ++ jobId⟩ =
        some attributes := hrow
    rw [hget] at hdynamo
    exact (congrArg Prod.fst (serve_db (deliveryConfig env) hworld _ _)).trans
      (congrArg Prod.fst hdynamo)
  obtain ⟨-, delivered, status, posts, messages, attributes', w', hcame, hmarked, hdone⟩ :=
    does_attemptDelivery later attempt hworld hretry hdlq
      (by rw [hthere]; exact hrow) (by rw [hthere]; exact hregistered)
      (hover.row (jobRow env.jobsTable tenantId jobId))
      (by rw [get_row (by decide)]; exact hundelivered) hattempt
  refine ⟨delivered, status, posts, messages, attributes', w', hcame, hmarked, ?_⟩
  have hprocess : (runOf (deliveryConfig env) world (handleRecord (deliveryConfig env)
      (.retry messageId (some (.dict body)))) (tables, w)).final =
        (Prog.run (world.serve env.jobsTable) later (attemptDelivery (deliveryConfig env)
          ((jobRow env.jobsTable tenantId jobId).row attributes) attempt)).final := by
    refine (Prog.final_bind_of_pure (fun result => ?_) _).trans ((Prog.final_attempt _ _).trans ?_)
    · cases result with
      | ok done => exact ⟨[], rfl⟩
      | error x => exact ⟨_, rfl⟩
    · rw [processRetryRecord, hparse]
      refine (Prog.run_bind_ok (hok _ hanswer)).2.trans ?_
      rw [hfinal, hlater]
      rfl
  have hstate := hprocess.trans hdone
  rw [hthere, hquiet] at hstate
  simp only [process, hstate]
  rfl

/-! ## The invariant -/

/-- A change that starts no delivery. -/
def Idle (env : Environment) (change : Items × Items) : Prop :=
  shouldProcessStreamTransition (deliveryConfig env) change.1 change.2 = false

theorem eventName_eq_some {status eventName : String}
    (h : (deliveryConfig env).eventName status = some eventName) :
    status = "completed" ∨ status = "failed" := by
  by_cases hcompleted : status = "completed"
  · exact .inl hcompleted
  · by_cases hfailed : status = "failed"
    · exact .inr hfailed
    · have hone : (status == "completed") = false := by simpa using hcompleted
      have htwo : (status == "failed") = false := by simpa using hfailed
      simp [DeliveryConfig.eventName, deliveryConfig, List.lookup_cons, hone, htwo] at h

/-- A job that is over has a status that is terminal, as a transition reads it too. -/
theorem Over.isTerminal {jobItem : Items} (h : Over env tenantId jobId jobItem) :
    (deliveryConfig env).isTerminal (jobItem.get "status").strOrNone = true := by
  obtain ⟨eventName, hevent⟩ := h.event
  have hstatus := eventName_eq_some hevent
  have hne : jobItem.get "status" ≠ .none := by
    intro hnone
    unfold Items.get at hnone hstatus
    cases hlookup : jobItem.lookup "status" with
    | none =>
      rw [hlookup] at hstatus
      exact absurd hstatus (by decide)
    | some v =>
      rw [hlookup] at hstatus hnone
      simp only [Option.getD_some] at hstatus hnone
      rw [hnone] at hstatus
      exact absurd hstatus (by decide)
  rw [get_default hne] at hstatus
  rw [Val.strOrNone_eq hne]
  rcases hstatus with hcompleted | hfailed
  · rw [hcompleted]
    rfl
  · rw [hfailed]
    rfl

/-- **The chain's own writes start no other chain**: the row was over before. -/
theorem idle_of_over (h : Over env tenantId jobId attributes) (key : RowKey) (newImage : Items) :
    Idle env (newImage, key.row attributes) := by
  have hterminal := (h.row key).isTerminal
  simp only [Idle, shouldProcessStreamTransition, hterminal]
  simp [RowKey.row, RowKey.item]

/-- The retries sent so far ask for one attempt after the other, after delays the queue takes. -/
structure Numbered (sent : List Message) : Prop where
  attempts : ∀ (i : Nat) (message : Message), sent[i]? = some message →
    Items.get message.body "attempt" = .int (i + 2)
  delays : ∀ message ∈ sent, ∃ seconds, message.delaySeconds = some seconds ∧
    1 ≤ seconds ∧ seconds ≤ 900

theorem Numbered.snoc {sent : List Message} (h : Numbered sent) {message : Message}
    (hattempt : Items.get message.body "attempt" = .int (sent.length + 2))
    (hdelay : ∃ seconds, message.delaySeconds = some seconds ∧ 1 ≤ seconds ∧ seconds ≤ 900) :
    Numbered (sent ++ [message]) := by
  constructor
  · intro i last hlast
    rcases Nat.lt_or_ge i sent.length with hbefore | hafter
    · rw [List.getElem?_append_left hbefore] at hlast
      exact h.attempts i last hlast
    · rw [List.getElem?_append_right hafter] at hlast
      obtain ⟨hlength, rfl⟩ : i - sent.length = 0 ∧ message = last := by
        simpa [List.getElem?_singleton] using hlast
      rw [show i = sent.length by omega]
      exact hattempt
  · intro last hlast
    rcases List.mem_append.mp hlast with hbefore | hnew
    · exact h.delays last hbefore
    · rw [List.mem_singleton.mp hnew]
      exact hdelay

/-- What holds of the system at all times. -/
structure Kept (env : Environment) (sys : System τ) : Prop where
  registered : Registered env sys.tables
  numbered : Numbered sys.sent
  written : ∀ change ∈ sys.written, Idle env change

/-- The attempt that is next, and what leads to it: the change that ended the job, or a message. -/
def Next (env : Environment) (tenantId jobId : String) (attributes : Items) (n : Nat)
    (sys : System τ) : Prop :=
  (n = 0 ∧ sys.retries = [] ∧ ∃ oldImage,
    sys.stream = [((jobRow env.jobsTable tenantId jobId).row attributes, oldImage)] ∧
      shouldProcessStreamTransition (deliveryConfig env)
        ((jobRow env.jobsTable tenantId jobId).row attributes) oldImage = true) ∨
  ((∀ change ∈ sys.stream, Idle env change) ∧ ∃ message appId, sys.retries = [message] ∧
    parseRetryRecord (some (.dict message.body)) =
      .ok (some ⟨tenantId, appId, jobId, (n : Int) + 1⟩))

/-- `n` attempts have failed, and one is to be made. -/
structure Waiting (env : Environment) (tenantId jobId : String) (n : Nat) (sys : System τ) : Prop where
  row : ∃ attributes, sys.tables.get? (jobRow env.jobsTable tenantId jobId) = some attributes ∧
    Over env tenantId jobId attributes ∧
    (attributes.get "webhook_delivered" (.bool false)).truthy = false ∧
    Next env tenantId jobId attributes n sys
  limit : (n : Int) ≤ env.maxRetryAttempts
  posts : sys.posts.length = n
  sent : sys.sent.length = n
  deadLetters : sys.deadLetters = []
  deliveries : sys.deliveries + sys.stream.length + sys.retries.length = 2 * n + 1

/-- The three ends: delivered, failed with one dead letter, or skipped. -/
def Outcome (env : Environment) (tenantId jobId : String) (sys : System τ) : Prop :=
  ∃ attributes, sys.tables.get? (jobRow env.jobsTable tenantId jobId) = some attributes ∧
    ((Items.get attributes "webhook_delivered" = .bool true ∧
        Items.get attributes "webhook_delivery_status" = .str "delivered" ∧ sys.deadLetters = []) ∨
      (Items.get attributes "webhook_delivered" = .bool false ∧
        Items.get attributes "webhook_delivery_status" = .str "failed" ∧
        sys.deadLetters.length = 1) ∨
      (Items.get attributes "webhook_delivered" = .bool false ∧
        Items.get attributes "webhook_delivery_status" = .str "skipped" ∧ sys.deadLetters = []))

/-- No attempt is to be made any more. -/
structure Ended (env : Environment) (tenantId jobId : String) (sys : System τ) : Prop where
  outcome : Outcome env tenantId jobId sys
  stream : ∀ change ∈ sys.stream, Idle env change
  retries : sys.retries = []
  posts : (sys.posts.length : Int) ≤ env.maxRetryAttempts + 1
  deliveries : (sys.deliveries + sys.stream.length : Int) ≤ 2 * env.maxRetryAttempts + 2

def Chain (env : Environment) (tenantId jobId : String) (sys : System τ) : Prop :=
  Kept env sys ∧ ((∃ n, Waiting env tenantId jobId n sys) ∨ Ended env tenantId jobId sys)

/-! ## Steps -/

/-- A mark is of no registration. -/
theorem Registered.set (h : Registered env tables) (attributes : Items) :
    Registered env (tables.set (jobRow env.jobsTable tenantId jobId) attributes) := by
  intro pk webhookId registration hget
  rw [Dict.get?_set_ne] at hget
  · exact h pk webhookId registration hget
  · intro hkey
    have hsk := congrArg (fun key : RowKey => key.sk.toList) hkey
    simp [jobRow] at hsk

/-- The message of a retry is read as the job's ids and the next attempt. -/
theorem IsRetry.parse (hover : Over env tenantId jobId attributes) {attempt : Int} {message : Message}
    (h : IsRetry retryUrl ((jobRow env.jobsTable tenantId jobId).row attributes) attempt message) :
    ∃ appId, parseRetryRecord (some (.dict message.body)) =
      .ok (some ⟨tenantId, appId, jobId, attempt⟩) := by
  have hrow := hover.row (jobRow env.jobsTable tenantId jobId)
  obtain ⟨appId, happ⟩ := hrow.app
  refine ⟨appId, ?_⟩
  rw [h.body]
  apply parseRetryRecord_retryBody
  · rw [get_default (ne_none_of_strOrNone hrow.tenant)]
    exact strOrNone_toStr hrow.tenant
  · rw [get_default (ne_none_of_strOrNone happ)]
    exact strOrNone_toStr happ
  · rw [jobIdOf, get_default (ne_none_of_strOrNone hrow.job)]
    exact strOrNone_toStr hrow.job

/-- `n` attempts have failed, and what led to the next one was taken from where it waited. -/
structure Taken (env : Environment) (n : Nat) (sys : System τ) : Prop where
  kept : Kept env sys
  limit : (n : Int) ≤ env.maxRetryAttempts
  posts : sys.posts.length = n
  sent : sys.sent.length = n
  deadLetters : sys.deadLetters = []
  retries : sys.retries = []
  stream : ∀ change ∈ sys.stream, Idle env change
  deliveries : sys.deliveries + sys.stream.length = 2 * n

/-- The system after a record whose attempt marked the job's row. -/
def System.marked (sys : System τ) (tables : Tables) (w : τ) (change : Items × Items)
    (posts : List Post) (retries deadLetters : List Message) : System τ where
  tables := tables
  world := w
  stream := sys.stream ++ [change]
  retries := sys.retries ++ retries
  written := sys.written ++ [change]
  sent := sys.sent ++ retries
  deadLetters := sys.deadLetters ++ deadLetters
  posts := sys.posts ++ posts
  deliveries := sys.deliveries + 1

theorem idle_snoc {changes : List (Items × Items)} {change : Items × Items}
    (hchanges : ∀ c ∈ changes, Idle env c) (hchange : Idle env change) :
    ∀ c ∈ changes ++ [change], Idle env c := by
  intro c hc
  rcases List.mem_append.mp hc with hbefore | hnew
  · exact hchanges c hbefore
  · rw [List.mem_singleton.mp hnew]
    exact hchange

/-- An attempt that sends no retry and leaves the row in a terminal state ends the chain. -/
theorem Taken.ended {sys : System τ} {n : Nat} (h : Taken env n sys) {attributes' : Items}
    {change : Items × Items} (hidle : Idle env change) {posts : List Post} (hposts : posts.length ≤ 1)
    {deadLetters : List Message} {w' : τ}
    (houtcome : Outcome env tenantId jobId (sys.marked
      (sys.tables.set (jobRow env.jobsTable tenantId jobId) attributes') w' change posts []
        deadLetters)) :
    Chain env tenantId jobId (sys.marked
      (sys.tables.set (jobRow env.jobsTable tenantId jobId) attributes') w' change posts []
        deadLetters) := by
  have hlimit := h.limit
  have hbefore := h.posts
  have hdeliveries := h.deliveries
  refine ⟨⟨h.kept.registered.set _, ?_, idle_snoc h.kept.written hidle⟩,
    .inr ⟨houtcome, idle_snoc h.stream hidle, ?_, ?_, ?_⟩⟩
  · simpa [System.marked] using h.kept.numbered
  · simpa [System.marked] using h.retries
  · simp only [System.marked, List.length_append]
    omega
  · simp only [System.marked, List.length_append, List.length_singleton]
    omega

/-- An attempt that sends a retry leaves the next one waiting. -/
theorem Taken.waiting {sys : System τ} {n : Nat} (h : Taken env n sys)
    (hover : Over env tenantId jobId attributes) {attributes' : Items}
    (hmarked : Remarked attributes attributes' false "retrying") {change : Items × Items}
    (hidle : Idle env change) (post : Post) {message : Message}
    (hmore : (n : Int) + 1 ≤ env.maxRetryAttempts)
    (hmessage : IsRetry retryUrl ((jobRow env.jobsTable tenantId jobId).row attributes) (n + 1 + 1)
      message) (w' : τ) :
    Chain env tenantId jobId (sys.marked
      (sys.tables.set (jobRow env.jobsTable tenantId jobId) attributes') w' change [post] [message]
        []) := by
  obtain ⟨appId, hparse⟩ := hmessage.parse hover
  have hattempt : Items.get message.body "attempt" = .int (sys.sent.length + 2) := by
    rw [hmessage.body, h.sent, show ((n : Int) + 2) = n + 1 + 1 by omega]
    rfl
  have hdeliveries := h.deliveries
  refine ⟨⟨h.kept.registered.set _, h.kept.numbered.snoc hattempt hmessage.delay,
    idle_snoc h.kept.written hidle⟩, .inl ⟨n + 1, ⟨attributes', Dict.get?_set_self _ _ _,
      hover.remarked hmarked, ?_, .inr ⟨idle_snoc h.stream hidle, message, appId, ?_, ?_⟩⟩,
      ?_, ?_, ?_, ?_, ?_⟩⟩
  · rw [Items.get, hmarked.delivered, Option.getD_some]
    rfl
  · simp [System.marked, h.retries]
  · rw [hparse]
    norm_cast
  · exact_mod_cast hmore
  · simp [System.marked, h.posts]
  · simp [System.marked, h.sent]
  · simp [System.marked, h.deadLetters]
  · simp only [System.marked, List.length_append, List.length_singleton, h.retries, List.length_nil]
    omega

/-- What a record leaves whose attempt sent messages to one of the two queues. -/
theorem deliver_eq_marked {sys : System τ} {record : Record} {tables' : Tables} {w' : τ}
    {change : Items × Items} {posts : List Post} {messages retries deadLetters : List Message}
    (hafter : process (deliveryConfig env) world (sys.tables, sys.world) record =
      ((tables', w'), ⟨[change], posts, messages⟩))
    (hretries : messages.filter (fun message => some message.queueUrl = env.retryQueueUrl) = retries)
    (hdead : messages.filter (fun message => some message.queueUrl = env.dlqUrl) = deadLetters) :
    sys.deliver env world record = sys.marked tables' w' change posts retries deadLetters := by
  simp only [System.deliver, hafter, hretries, hdead, System.marked]

/-- The `n + 1`st attempt ends the chain, or the next one waits. -/
theorem deliver_chain (hretry : env.retryQueueUrl = some retryUrl) (hdlq : env.dlqUrl = some dlqUrl)
    (hqueues : retryUrl ≠ dlqUrl) {sys : System τ} {n : Nat} {record : Record}
    (htaken : Taken env n sys) (hover : Over env tenantId jobId attributes)
    (hleaves : Leaves env tenantId jobId retryUrl dlqUrl sys.tables attributes (n + 1)
      (process (deliveryConfig env) world (sys.tables, sys.world) record)) :
    Chain env tenantId jobId (sys.deliver env world record) := by
  obtain ⟨delivered, status, posts, messages, attributes', w', hcame, hmarked, hafter⟩ := hleaves
  have hidle : Idle env ((jobRow env.jobsTable tenantId jobId).row attributes',
      (jobRow env.jobsTable tenantId jobId).row attributes) := idle_of_over hover _ _
  have hget : (sys.tables.set (jobRow env.jobsTable tenantId jobId) attributes').get?
      (jobRow env.jobsTable tenantId jobId) = some attributes' := Dict.get?_set_self _ _ _
  have hdelivered : Items.get attributes' "webhook_delivered" = .bool delivered := by
    rw [Items.get, hmarked.delivered, Option.getD_some]
  have hstatus : Items.get attributes' "webhook_delivery_status" = .str status := by
    rw [Items.get, hmarked.status, Option.getD_some]
  -- the two queues are told apart
  have hdlqOnly (dead : Message) (hqueue : dead.queueUrl = dlqUrl) :
      [dead].filter (fun message => some message.queueUrl = env.retryQueueUrl) = [] ∧
        [dead].filter (fun message => some message.queueUrl = env.dlqUrl) = [dead] := by
    rw [hretry, hdlq]
    simp [hqueue, hqueues.symm]
  have hretryOnly (message : Message) (hqueue : message.queueUrl = retryUrl) :
      [message].filter (fun message => some message.queueUrl = env.retryQueueUrl) = [message] ∧
        [message].filter (fun message => some message.queueUrl = env.dlqUrl) = [] := by
    rw [hretry, hdlq]
    simp [hqueue, hqueues]
  cases hcame with
  | delivered post =>
    rw [deliver_eq_marked hafter List.filter_nil List.filter_nil]
    exact htaken.ended hidle (by simp) ⟨attributes', hget, .inl ⟨hdelivered, hstatus, by
      simp [System.marked, htaken.deadLetters]⟩⟩
  | skipped =>
    rw [deliver_eq_marked hafter List.filter_nil List.filter_nil]
    exact htaken.ended hidle (by simp) ⟨attributes', hget, .inr (.inr ⟨hdelivered, hstatus, by
      simp [System.marked, htaken.deadLetters]⟩)⟩
  | refused dead hqueue =>
    rw [deliver_eq_marked hafter (hdlqOnly dead hqueue).1 (hdlqOnly dead hqueue).2]
    exact htaken.ended hidle (by simp) ⟨attributes', hget, .inr (.inl ⟨hdelivered, hstatus, by
      simp [System.marked, htaken.deadLetters]⟩)⟩
  | exhausted post dead hlast hqueue =>
    rw [deliver_eq_marked hafter (hdlqOnly dead hqueue).1 (hdlqOnly dead hqueue).2]
    exact htaken.ended hidle (by simp) ⟨attributes', hget, .inr (.inl ⟨hdelivered, hstatus, by
      simp [System.marked, htaken.deadLetters]⟩)⟩
  | retrying post message hmore hmessage =>
    rw [deliver_eq_marked hafter (hretryOnly message hmessage.queue).1
      (hretryOnly message hmessage.queue).2]
    exact htaken.waiting hover hmarked hidle post hmore hmessage w'

/-- A change that starts nothing is delivered, and that is all. -/
theorem deliver_idle {change : Items × Items} (hidle : Idle env change) (sys : System τ) :
    sys.deliver env world (.stream change.1 change.2) = { sys with deliveries := sys.deliveries + 1 } := by
  simp only [System.deliver, process_idle hidle]
  simp [Traffic.none]

/-- What another program writes leaves the job's row, and registrations that can be searched. -/
theorem write_tables {key : RowKey} {written : Option Items}
    (hforeign : Foreign env tenantId jobId (.write key written)) (hregistered : Registered env tables) :
    (writeRow tables key written).get? (jobRow env.jobsTable tenantId jobId) =
        tables.get? (jobRow env.jobsTable tenantId jobId) ∧
      Registered env (writeRow tables key written) := by
  obtain ⟨hkey, hsearch⟩ := hforeign
  cases written with
  | some row =>
    refine ⟨Dict.get?_set_ne _ _ (Ne.symm hkey), fun pk webhookId registration hget => ?_⟩
    rw [writeRow, Dict.get?_set] at hget
    split at hget
    · exact hsearch registration hget
    · exact hregistered pk webhookId registration hget
  | none =>
    refine ⟨?_, fun pk webhookId registration hget => ?_⟩
    · rw [writeRow, Dict.get?_erase, if_neg (Ne.symm hkey)]
    · rw [writeRow, Dict.get?_erase] at hget
      split at hget
      · cases hget
      · exact hregistered pk webhookId registration hget

theorem length_eraseIdx_of_getElem? {α : Type} {l : List α} {i : Nat} {a : α} (h : l[i]? = some a) :
    (l.eraseIdx i).length + 1 = l.length := by
  obtain ⟨hi, -⟩ := List.getElem?_eq_some_iff.mp h
  rw [List.length_eraseIdx_of_lt hi]
  omega

theorem getElem?_singleton_eq_some {α : Type} {a b : α} {i : Nat} (h : [a][i]? = some b) :
    i = 0 ∧ a = b := by
  simpa [List.getElem?_singleton] using h

theorem step_waiting (hworld : Available world) (hretry : env.retryQueueUrl = some retryUrl)
    (hdlq : env.dlqUrl = some dlqUrl) (hqueues : retryUrl ≠ dlqUrl) {sys : System τ} {n : Nat}
    (hkept : Kept env sys) (hwaiting : Waiting env tenantId jobId n sys) {event : SystemEvent}
    (hforeign : Foreign env tenantId jobId event) :
    Chain env tenantId jobId (sys.step env world event).1 := by
  have hsame : Chain env tenantId jobId sys := ⟨hkept, .inl ⟨n, hwaiting⟩⟩
  obtain ⟨attributes, hrow, hover, hundelivered, hnext⟩ := hwaiting.row
  have hdeliveries := hwaiting.deliveries
  cases event with
  | change index =>
    simp only [System.step]
    cases hchange : sys.stream[index]? with
    | none => exact hsame
    | some change =>
      rcases hnext with ⟨rfl, hretries, oldImage, hstream, hstarts⟩ | ⟨hidle, hmessage⟩
      · -- the change that ended the job
        rw [hstream] at hchange
        obtain ⟨rfl, rfl⟩ := getElem?_singleton_eq_some hchange
        rw [hstream, hretries] at hdeliveries
        rw [hstream]
        refine deliver_chain hretry hdlq hqueues ⟨⟨hkept.registered, hkept.numbered,
          hkept.written⟩, hwaiting.limit, hwaiting.posts, hwaiting.sent, hwaiting.deadLetters,
          hretries, by simp, ?_⟩ hover ?_
        · simp only [List.length_singleton, List.length_nil] at hdeliveries
          simp only [List.eraseIdx_zero, List.tail_cons, List.length_nil]
          omega
        · exact process_change hworld hretry hdlq hrow hkept.registered hover hundelivered hstarts
      · show Chain env tenantId jobId (System.deliver env world
          { sys with stream := sys.stream.eraseIdx index } (.stream change.1 change.2))
        rw [deliver_idle (hidle change (List.mem_of_getElem? hchange))]
        have hlength := length_eraseIdx_of_getElem? hchange
        refine ⟨⟨hkept.registered, hkept.numbered, hkept.written⟩, .inl ⟨n, ⟨attributes, hrow, hover,
          hundelivered, .inr ⟨fun c hc => hidle c (List.mem_of_mem_eraseIdx hc), hmessage⟩⟩,
          hwaiting.limit, hwaiting.posts, hwaiting.sent, hwaiting.deadLetters, ?_⟩⟩
        simp only
        omega
  | retry index messageId =>
    simp only [System.step]
    cases hmessage : sys.retries[index]? with
    | none => exact hsame
    | some message =>
      rcases hnext with ⟨rfl, hretries, -⟩ | ⟨hidle, next, appId, hretries, hparse⟩
      · rw [hretries] at hmessage
        cases hmessage
      · rw [hretries] at hmessage
        obtain ⟨rfl, rfl⟩ := getElem?_singleton_eq_some hmessage
        rw [hretries] at hdeliveries
        rw [hretries]
        refine deliver_chain hretry hdlq hqueues ⟨⟨hkept.registered, hkept.numbered,
          hkept.written⟩, hwaiting.limit, hwaiting.posts, hwaiting.sent, hwaiting.deadLetters,
          rfl, hidle, ?_⟩ hover ?_
        · simp only [List.length_singleton] at hdeliveries
          simp only
          omega
        · exact process_retry hworld hretry hdlq hrow hkept.registered hover hundelivered (by omega)
            hparse messageId
  | write key written =>
    simp only [System.step]
    obtain ⟨hkeep, hregistered⟩ := write_tables hforeign hkept.registered
    exact ⟨⟨hregistered, hkept.numbered, hkept.written⟩, .inl ⟨n, ⟨attributes, hkeep.trans hrow, hover,
      hundelivered, hnext⟩, hwaiting.limit, hwaiting.posts, hwaiting.sent, hwaiting.deadLetters,
      hdeliveries⟩⟩

theorem step_ended {sys : System τ} (hkept : Kept env sys) (hended : Ended env tenantId jobId sys)
    {event : SystemEvent} (hforeign : Foreign env tenantId jobId event) :
    Chain env tenantId jobId (sys.step env world event).1 := by
  have hsame : Chain env tenantId jobId sys := ⟨hkept, .inr hended⟩
  have hdeliveries := hended.deliveries
  cases event with
  | change index =>
    simp only [System.step]
    cases hchange : sys.stream[index]? with
    | none => exact hsame
    | some change =>
      show Chain env tenantId jobId (System.deliver env world
        { sys with stream := sys.stream.eraseIdx index } (.stream change.1 change.2))
      rw [deliver_idle (hended.stream change (List.mem_of_getElem? hchange))]
      have hlength := length_eraseIdx_of_getElem? hchange
      refine ⟨⟨hkept.registered, hkept.numbered, hkept.written⟩, .inr ⟨hended.outcome,
        fun c hc => hended.stream c (List.mem_of_mem_eraseIdx hc), hended.retries, hended.posts, ?_⟩⟩
      simp only
      omega
  | retry index messageId =>
    simp only [System.step]
    rw [hended.retries]
    exact hsame
  | write key written =>
    simp only [System.step]
    obtain ⟨hkeep, hregistered⟩ := write_tables hforeign hkept.registered
    obtain ⟨attributes, hrow, houtcome⟩ := hended.outcome
    exact ⟨⟨hregistered, hkept.numbered, hkept.written⟩, .inr ⟨⟨attributes, hkeep.trans hrow, houtcome⟩,
      hended.stream, hended.retries, hended.posts, hdeliveries⟩⟩

/-- **A step keeps the chain.** -/
theorem step_chain (hworld : Available world) (hretry : env.retryQueueUrl = some retryUrl)
    (hdlq : env.dlqUrl = some dlqUrl) (hqueues : retryUrl ≠ dlqUrl) {sys : System τ}
    (hchain : Chain env tenantId jobId sys) {event : SystemEvent}
    (hforeign : Foreign env tenantId jobId event) :
    Chain env tenantId jobId (sys.step env world event).1 := by
  obtain ⟨hkept, ⟨n, hwaiting⟩ | hended⟩ := hchain
  · exact step_waiting hworld hretry hdlq hqueues hkept hwaiting hforeign
  · exact step_ended hkept hended hforeign

/-! ## Runs -/

theorem start_chain (hlimit : 0 ≤ env.maxRetryAttempts)
    (hrow : tables.get? (jobRow env.jobsTable tenantId jobId) = some attributes)
    (hregistered : Registered env tables) (hover : Over env tenantId jobId attributes)
    {oldImage : Items}
    (hstarts : shouldProcessStreamTransition (deliveryConfig env)
      ((jobRow env.jobsTable tenantId jobId).row attributes) oldImage = true) :
    Chain env tenantId jobId (System.start tables w
      ((jobRow env.jobsTable tenantId jobId).row attributes, oldImage)) := by
  have hundelivered : (attributes.get "webhook_delivered" (.bool false)).truthy = false := by
    have hnot := hstarts
    simp only [shouldProcessStreamTransition, Bool.and_eq_true, Bool.not_eq_true'] at hnot
    rw [get_row (by decide)] at hnot
    exact hnot.1.2
  refine ⟨⟨hregistered, ⟨fun i message h => ?_, fun message h => ?_⟩, fun change h => ?_⟩,
    .inl ⟨0, ⟨attributes, hrow, hover, hundelivered, .inl ⟨rfl, rfl, oldImage, rfl, hstarts⟩⟩, hlimit,
      rfl, rfl, rfl, rfl⟩⟩
  · simp [System.start] at h
  · cases h
  · cases h

/-- **The retry chain is bounded and ends once.** Of a job that ends, at most the limit and one
    requests are posted, the retries ask for one attempt after the other after delays the queue takes,
    no change the chain writes starts a delivery, at most twice the limit and two changes and messages
    are delivered, and when none waits the chain has come to one of its three ends. -/
theorem retry_chain_ends_once (hworld : Available world) (hretry : env.retryQueueUrl = some retryUrl)
    (hdlq : env.dlqUrl = some dlqUrl) (hqueues : retryUrl ≠ dlqUrl)
    (hlimit : 0 ≤ env.maxRetryAttempts)
    (hrow : tables.get? (jobRow env.jobsTable tenantId jobId) = some attributes)
    (hregistered : Registered env tables) (hover : Over env tenantId jobId attributes)
    (oldImage : Items)
    (hstarts : shouldProcessStreamTransition (deliveryConfig env)
      ((jobRow env.jobsTable tenantId jobId).row attributes) oldImage = true)
    (events : List SystemEvent) (hforeign : ∀ event ∈ events, Foreign env tenantId jobId event) :
    let final := Runs.final (System.step env world) (System.start tables w
      ((jobRow env.jobsTable tenantId jobId).row attributes, oldImage)) events
    (final.posts.length : Int) ≤ env.maxRetryAttempts + 1 ∧
      Numbered final.sent ∧
      (∀ change ∈ final.written, Idle env change) ∧
      (final.deliveries : Int) ≤ 2 * env.maxRetryAttempts + 2 ∧
      (final.stream = [] → final.retries = [] → Outcome env tenantId jobId final) := by
  intro final
  have hfinal : Chain env tenantId jobId final := by
    have hstep : ∀ sys event, Chain env tenantId jobId sys → Foreign env tenantId jobId event →
        Chain env tenantId jobId (System.step env world sys event).1 :=
      fun sys event hchain hevent => step_chain hworld hretry hdlq hqueues hchain hevent
    apply Runs.inv_final hstep (start_chain hlimit hrow hregistered hover hstarts)
    intro m hm
    exact hforeign _ (Runs.event_of_mem_trace hm)
  obtain ⟨hkept, ⟨n, hwaiting⟩ | hended⟩ := hfinal
  · have hposts := hwaiting.posts
    have hn := hwaiting.limit
    have hdeliveries := hwaiting.deliveries
    refine ⟨by omega, hkept.numbered, hkept.written, by omega, fun hstream hretries => ?_⟩
    -- an attempt is still to come
    obtain ⟨row, -, -, -, ⟨-, -, old, hwaits, -⟩ | ⟨-, message, appId, hwaits, -⟩⟩ := hwaiting.row
    · rw [hstream] at hwaits
      cases hwaits
    · rw [hretries] at hwaits
      cases hwaits
  · have hdeliveries := hended.deliveries
    exact ⟨hended.posts, hkept.numbered, hkept.written, by omega, fun _ _ => hended.outcome⟩

end

/-! ## A job whose endpoint refuses it, and one whose endpoint redirects it -/

theorem worldTaking_available (first : Nat) : Available (worldTaking first) where
  marks := markingRows_marks
  fault := fun _ _ => rfl
  send := fun _ _ => rfl
  post := by
    intro w post x
    show (if w < first then PostOutcome.accepted else .requestException "503") ≠ .raised x
    split <;> simp

theorem exampleTables_registered : Registered exampleEnvironment exampleTables := by
  intro pk webhookId registration hget
  rw [exampleTables, Dict.get?_set] at hget
  split at hget
  · cases hget
    intro eventName
    exact ⟨_, rfl⟩
  · rw [Dict.get?_set_ne] at hget
    · cases hget
    · intro hkey
      have htable : "platform-tenants" = "platform-jobs" := congrArg RowKey.table hkey
      exact absurd htable (by decide)

theorem retry_chain_ends_once_refused :
    let final := Runs.final (System.step exampleEnvironment (worldTaking 0))
      (System.start exampleTables 0 ((jobRow "platform-jobs" "t-1" "j-1").row exampleJob, []))
      [.change 0, .retry 0 "m-1", .change 0, .retry 0 "m-2", .change 0, .retry 0 "m-3", .change 0,
        .change 0]
    (final.posts.length : Int) ≤ 4 ∧ Numbered final.sent ∧
      (∀ change ∈ final.written, Idle exampleEnvironment change) ∧
      (final.deliveries : Int) ≤ 8 ∧
      (final.stream = [] → final.retries = [] → Outcome exampleEnvironment "t-1" "j-1" final) := by
  have hover : Over exampleEnvironment "t-1" "j-1" exampleJob :=
    ⟨rfl, ⟨"a-1", rfl⟩, rfl, rfl, ⟨"job.completed", rfl⟩, ⟨"https://example.test/hook", rfl⟩⟩
  exact retry_chain_ends_once (worldTaking_available 0) rfl rfl (by decide) (by decide) rfl
    exampleTables_registered hover [] rfl _ (by simp [Foreign])

/-- An endpoint that answers with a redirect whose `Location` is `http://[bad`. The client raises
    `urlparse`'s own error, which is no `RequestException`. -/
def worldRedirecting : World Nat :=
  { worldTaking 0 with post := fun _ _ => .raised (.valueError "Invalid IPv6 URL") }

theorem unparsable_redirect_ends_nowhere :
    let final := Runs.final (System.step exampleEnvironment worldRedirecting)
      (System.start exampleTables 0 ((jobRow "platform-jobs" "t-1" "j-1").row exampleJob, []))
      [.change 0]
    Registered exampleEnvironment exampleTables ∧ Over exampleEnvironment "t-1" "j-1" exampleJob ∧
      final.stream = [] ∧ final.retries = [] ∧ ¬ Outcome exampleEnvironment "t-1" "j-1" final := by
  intro final
  refine ⟨exampleTables_registered, ⟨rfl, ⟨"a-1", rfl⟩, rfl, rfl, ⟨"job.completed", rfl⟩,
    ⟨"https://example.test/hook", rfl⟩⟩, rfl, rfl, ?_⟩
  rintro ⟨attributes, hrow, houtcome⟩
  -- the row is as it was, with no delivery status
  have hstored : final.tables.get? (jobRow "platform-jobs" "t-1" "j-1") = some exampleJob := rfl
  cases hstored.symm.trans hrow
  rcases houtcome with ⟨-, hstatus, -⟩ | ⟨-, hstatus, -⟩ | ⟨-, hstatus, -⟩ <;> cases hstatus

end A5cCell.WebhookDelivery
