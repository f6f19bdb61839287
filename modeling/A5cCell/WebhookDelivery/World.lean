import A5cCell.Lib.Runs
import A5cCell.DataAccess.Pages
import A5cCell.DataAccess.Rows
import A5cCell.WebhookDelivery.Service

/-!
# The world a delivery runs in

What answers its calls: the tables, whose jobs write to a change stream when they are updated, the
queues and the endpoints. `Traffic` is what has left a run: the changes on the stream, the requests
posted and the messages sent.

`process` is the run of one record. A run of the handler over a batch is the runs of its first
records, one after the other (`handler_processes`).
-/

namespace A5cCell.WebhookDelivery

open Py (Val Items Dict)
open DataAccess

structure Post where
  webhookUrl : String
  payload : Items
  signatureSecret : String

structure Message where
  queueUrl : String
  delaySeconds : Option Int
  body : Items

/-- What leaves a run. A change on the stream is its new and its old image. -/
structure Traffic where
  stream : List (Items × Items)
  posts : List Post
  messages : List Message

namespace Traffic

def none : Traffic := ⟨[], [], []⟩

def append (t u : Traffic) : Traffic :=
  ⟨t.stream ++ u.stream, t.posts ++ u.posts, t.messages ++ u.messages⟩

@[simp] theorem none_append (t : Traffic) : none.append t = t := rfl

@[simp] theorem append_none (t : Traffic) : t.append none = t := by
  simp [append, none]

theorem append_assoc (t u v : Traffic) : (t.append u).append v = t.append (u.append v) := by
  simp [append]

end Traffic

/-- Where a job's row is. -/
def jobRow (jobsTable tenantId jobId : String) : RowKey :=
  ⟨jobsTable, tenantPkPrefix ++ tenantId, "JOB#" ++ jobId⟩

/-- A row as an image of it. -/
def imageOf (tables : Tables) (key : RowKey) : Items := (tables.get? key).elim [] key.row

/-- What answers the calls of a delivery besides the tables. -/
structure World (τ : Type) where
  dynamo : Dynamo
  fault : τ → Request → Option Fault
  now : τ → String
  jitter : τ → Rat → Int
  post : τ → Post → PostOutcome
  send : τ → Message → Option Exc
  next : τ → Effect → τ

structure State (τ : Type) where
  tables : Tables
  traffic : Traffic
  world : τ

section

variable {τ : Type} (jobsTable : String) (world : World τ)

/-- The change an update of a job puts on the stream. -/
def changesOf (request : Request) (answer : Answer request) (tables tables' : Tables) :
    List (Items × Items) :=
  if request.operation = .updateItem ∧ request.table = jobsTable ∧ answer.isOk then
    ((request.kwargs.get? "Key").bind (Arg.key? jobsTable)).toList.map fun key =>
      (imageOf tables' key, imageOf tables key)
  else []

/-- What a call is answered, and the state after it. -/
def World.serve (state : State τ) : (e : Effect) → e.Reply × State τ
  | .db request => match world.fault state.world request with
    | some fault =>
        (.error fault, { state with world := world.next state.world (.db request) })
    | none =>
        let served := world.dynamo.serve state.tables request
        (served.1, {
          tables := served.2
          traffic := state.traffic.append
            ⟨changesOf jobsTable request served.1 state.tables served.2, [], []⟩
          world := world.next state.world (.db request) })
  | .now => (world.now state.world, { state with world := world.next state.world .now })
  | .jitter base =>
      (world.jitter state.world base, { state with world := world.next state.world (.jitter base) })
  | .post url payload secret timeout =>
      (world.post state.world ⟨url, payload, secret⟩, { state with
        traffic := state.traffic.append ⟨[], [⟨url, payload, secret⟩], []⟩
        world := world.next state.world (.post url payload secret timeout) })
  | .sendMessage region url delay body => match world.send state.world ⟨url, delay, body⟩ with
    | some x =>
        (some x, { state with world := world.next state.world (.sendMessage region url delay body) })
    | none =>
        (none, { state with
          traffic := state.traffic.append ⟨[], [], [⟨url, delay, body⟩]⟩
          world := world.next state.world (.sendMessage region url delay body) })

end

section

variable {τ : Type} (config : DeliveryConfig) (world : World τ)

/-- A run of a delivery, from tables and a world. -/
def runOf {α : Type} (p : Delivery α) (start : Tables × τ) : Prog.Run (State τ) Effect Exc α :=
  Prog.run (world.serve config.jobsTable) ⟨start.1, .none, start.2⟩ p

/-- The run of one record: the state after it, and its traffic. -/
def process (start : Tables × τ) (record : Record) : (Tables × τ) × Traffic :=
  let state := (runOf config world (handleRecord config record) start).final
  ((state.tables, state.world), state.traffic)

end

/-! ## Traffic only grows -/

variable {τ : Type} {config : DeliveryConfig} {world : World τ}

/-- What leaves a call does not depend on what has left before it. -/
theorem serve_traffic (state : State τ) (traffic : Traffic) (e : Effect) :
    world.serve config.jobsTable { state with traffic := traffic.append state.traffic } e =
      ((world.serve config.jobsTable state e).1, { (world.serve config.jobsTable state e).2 with
        traffic := traffic.append (world.serve config.jobsTable state e).2.traffic }) := by
  cases e with
  | db request =>
    simp only [World.serve]
    cases world.fault state.world request with
    | some fault => rfl
    | none => simp only [Traffic.append_assoc]
  | now => rfl
  | jitter base => rfl
  | post url payload secret timeout => simp only [World.serve, Traffic.append_assoc]
  | sendMessage region url delay body =>
    simp only [World.serve]
    cases world.send state.world ⟨url, delay, body⟩ with
    | some x => rfl
    | none => simp only [Traffic.append_assoc]

variable (config world) in
theorem run_traffic {α : Type} (p : Delivery α) (state : State τ) (traffic : Traffic) :
    Prog.run (world.serve config.jobsTable)
        { state with traffic := traffic.append state.traffic } p =
      { Prog.run (world.serve config.jobsTable) state p with
        final := { (Prog.run (world.serve config.jobsTable) state p).final with
          traffic := traffic.append (Prog.run (world.serve config.jobsTable) state p).final.traffic } }
    := by
  induction p generalizing state with
  | ret a => rfl
  | raise x => rfl
  | call e next ih =>
    simp only [Prog.run]
    rw [serve_traffic, ih]

/-! ## The handler -/

/-- The traffic of a run over records. -/
def trafficOf (config : DeliveryConfig) (world : World τ) (start : Tables × τ)
    (records : List Record) : Traffic :=
  (Runs.trace (process config world) start records).foldr (fun m => m.response.append) .none

variable (config world) in
/-- **A batch is handled record by record**, up to a record of the stream that fails. -/
theorem handleRecords_processes (records : List Record) (start : Tables × τ) :
    ∃ handled, handled <+: records ∧
      (runOf config world (handleRecords config records) start).final =
        ⟨(Runs.final (process config world) start handled).1,
          trafficOf config world start handled,
          (Runs.final (process config world) start handled).2⟩ := by
  induction records generalizing start with
  | nil => exact ⟨[], List.prefix_refl _, rfl⟩
  | cons record records ih =>
    -- what the first record leaves
    obtain ⟨first, hfirst⟩ : ∃ first, first = runOf config world (handleRecord config record) start :=
      ⟨_, rfl⟩
    have hprocess : process config world start record =
        ((first.final.tables, first.final.world), first.final.traffic) := by rw [hfirst]; rfl
    cases houtcome : first.outcome with
    | error x =>
      refine ⟨[record], List.cons_prefix_cons.mpr ⟨rfl, List.nil_prefix⟩, ?_⟩
      have hraised := (Prog.run_bind_error (f := fun failed => do
        let failures ← handleRecords config records
        pure (failed ++ failures)) (hfirst ▸ houtcome)).2
      simp only [Runs.final_cons, Runs.final_nil, trafficOf, Runs.trace_cons, Runs.trace_nil,
        List.foldr_cons, List.foldr_nil, Traffic.append_none, hprocess]
      exact hraised.trans (by rw [hfirst]; rfl)
    | ok failed =>
      obtain ⟨handled, hhandled, hrest⟩ := ih (first.final.tables, first.final.world)
      refine ⟨record :: handled, List.cons_prefix_cons.mpr ⟨rfl, hhandled⟩, ?_⟩
      have hreturned := (Prog.run_bind_ok (f := fun failed => do
        let failures ← handleRecords config records
        pure (failed ++ failures)) (hfirst ▸ houtcome)).2
      -- the others run as from no traffic, after what the first one left
      have hothers := congrArg Prog.Run.final (run_traffic config world
        (handleRecords config records) ⟨first.final.tables, .none, first.final.world⟩
        first.final.traffic)
      have hlater : (Prog.run (world.serve config.jobsTable) first.final
          (handleRecords config records)).final =
            ⟨(Runs.final (process config world) (first.final.tables, first.final.world) handled).1,
              first.final.traffic.append
                (trafficOf config world (first.final.tables, first.final.world) handled),
              (Runs.final (process config world) (first.final.tables, first.final.world) handled).2⟩ := by
        rw [runOf] at hrest
        rw [hrest] at hothers
        simpa using hothers
      have hbatch : (runOf config world (handleRecords config (record :: records)) start).final =
          (Prog.run (world.serve config.jobsTable) first.final (handleRecords config records)).final := by
        refine hreturned.trans ?_
        rw [Prog.final_bind_pure, hfirst]
        rfl
      rw [hbatch, hlater, Runs.final_cons, hprocess]
      simp only [trafficOf, Runs.trace_cons, List.foldr_cons, hprocess]

theorem handler_processes (records : List Record) (start : Tables × τ) :
    ∃ handled, handled <+: records ∧
      (runOf config world (handler config records) start).final =
        ⟨(Runs.final (process config world) start handled).1,
          trafficOf config world start handled,
          (Runs.final (process config world) start handled).2⟩ := by
  unfold handler
  cases records with
  | nil => exact ⟨[], List.prefix_refl _, rfl⟩
  | cons record records =>
    obtain ⟨handled, hhandled, hfinal⟩ :=
      handleRecords_processes config world (record :: records) start
    refine ⟨handled, hhandled, Eq.trans ?_ hfinal⟩
    exact Prog.final_bind_pure _ _ _

end A5cCell.WebhookDelivery
