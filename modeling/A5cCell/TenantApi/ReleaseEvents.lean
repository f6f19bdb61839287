import A5cCell.TenantApi.ReleaseRuns

/-!
# Release events

A promotion and a rollback are announced by an event once they are stored. The handler announces
whatever it stored, also where the version had that status before, and an event that cannot be encoded
or delivered is not announced again. Where a request does not set a status that is already stored, and
the event bus takes what it is offered, the events of a run mark exactly its transitions
(`events_mark_transitions`).
-/

namespace A5cCell.TenantApi

open Py (Val Items Dict)
open DataAccess

/-! ## Marks -/

section

variable {α : Type} {marks happens : α → Bool} {as : List α}

/-- Each time it happens it is marked once, and not before it has happened. -/
structure Marked (marks happens : α → Bool) (as : List α) : Prop where
  once : as.countP marks = as.countP happens
  after : ∀ first, first <+: as → first.countP marks ≤ first.countP happens

theorem countP_eq_zero_of_false {p : α → Bool} (h : ∀ a ∈ as, p a = false) : as.countP p = 0 := by
  rw [List.countP_eq_zero]
  intro a ha
  rw [h a ha]
  exact Bool.false_ne_true

/-- Nothing happens, and nothing is marked. -/
theorem marked_of_none (h : ∀ a ∈ as, marks a = false ∧ happens a = false) :
    Marked marks happens as := by
  have hnone : ∀ first, first <+: as → first.countP marks = 0 := fun first hfirst =>
    countP_eq_zero_of_false fun a ha => (h a (hfirst.subset ha)).1
  constructor
  · rw [hnone as (List.prefix_refl as), countP_eq_zero_of_false fun a ha => (h a ha).2]
  · intro first hfirst
    rw [hnone first hfirst]
    exact Nat.zero_le _

/-- It happens at most once, and its mark comes next. -/
theorem marked_of_last {cause mark : α} (h : ∀ a ∈ as, marks a = false ∧ happens a = false)
    (hcause : marks cause = false) (hmark : happens mark = false) (hsame : marks mark = happens cause) :
    Marked marks happens (as ++ [cause] ++ [mark]) := by
  have hearly : ∀ first, first <+: as ++ [cause] → first.countP marks = 0 := by
    intro first hfirst
    apply countP_eq_zero_of_false
    intro a ha
    rcases List.mem_append.mp (hfirst.subset ha) with has | hlast
    · exact (h a has).1
    · rw [List.mem_singleton.mp hlast]
      exact hcause
  have hall : (as ++ [cause] ++ [mark]).countP marks = (as ++ [cause] ++ [mark]).countP happens := by
    rw [List.countP_append, hearly _ (List.prefix_refl _), List.countP_append, List.countP_append,
      countP_eq_zero_of_false fun a ha => (h a ha).2]
    simp only [List.countP_singleton, hmark, hsame, zero_add, Bool.false_eq_true, if_false, add_zero]
  refine ⟨hall, fun first hfirst => ?_⟩
  rcases List.prefix_concat_iff.mp hfirst with rfl | hfirst
  · exact hall.le
  · rw [hearly first hfirst]
    exact Nat.zero_le _

end

/-! ## Transitions and their events -/

/-- A transition that is announced, and the type of its event. -/
structure ReleaseMark where
  detailType : String
  source : AgentStatus
  target : AgentStatus

def releaseMarks : List ReleaseMark :=
  [⟨"platform.agent_version.promoted", .approved, .promoted⟩,
    ⟨"platform.agent_version.rolled_back", .promoted, .rolledBack⟩]

/-- The event that is offered to the bus: its type and its detail. -/
def offeredEvent? : Effect → Option (String × Items)
  | .service client operation kwargs =>
      if client = "events" ∧ operation = "put_events" then
        match Items.get kwargs "Entries" with
        | .list [.dict entry] =>
            (Items.get entry "Detail").asDict?.map fun detail =>
              ((Items.get entry "DetailType").toStr, detail)
        | _ => none
      else none
  | _ => none

theorem offeredEvent?_eventEntries (py : Python) (detailType : String) (detail : Items) :
    offeredEvent? (.service "events" "put_events" (eventEntries py detailType detail)) =
      some (detailType, detail) := rfl

/-- The call was answered, and none of its entries failed. -/
def delivered : (e : Effect) → e.Reply → Bool
  | .service _ _ _, .ok value =>
      match intOf ((value.asDict?.getD []).get "FailedEntryCount" (.int 0)) with
      | .ok failed => failed ≤ 0
      | .error _ => false
  | _, _ => false

/-- A call of a request in a world. -/
abbrev ReleaseServed (τ : Type) : Type := Prog.Served (Tables × τ) Effect Effect.Reply

/-- The call emits an event of the type for the version. -/
def emits {τ : Type} (mark : ReleaseMark) (key : RowKey) (served : ReleaseServed τ) : Bool :=
  match offeredEvent? served.call with
  | some (detailType, detail) =>
      detailType == mark.detailType && (detail.get "agentRecordPk").toStr == key.pk &&
        (detail.get "agentRecordSk").toStr == key.sk && delivered served.call served.answer
  | none => false

/-- The call takes the version along the transition. -/
def transits {τ : Type} (world : World τ) (mark : ReleaseMark) (key : RowKey)
    (served : ReleaseServed τ) : Bool :=
  decide (statusOf? (served.before.1.get? key) = some mark.source ∧
    statusOf? ((world.serve served.before served.call).2.1.get? key) = some mark.target)

/-- The events of a request mark its transitions. -/
def EventsMark {τ : Type} (py : Python) (world : World τ) (called : List (ReleaseServed τ)) : Prop :=
  ∀ mark ∈ releaseMarks, ∀ key, key.table = agentsTableName py →
    Marked (emits mark key) (transits world mark key) called

/-- The requests one after the other: the state after a request, and its calls. -/
def registryTurn {τ : Type} (py : Python) (world : World τ) (state : Tables × τ)
    (request : RegistryRequest) : (Tables × τ) × List (ReleaseServed τ) :=
  ((Prog.run world.serve state (request.program py)).final,
    Prog.replay world.serve state (Prog.run world.serve state (request.program py)).calls)

/-! ## What a request sets -/

/-- The status a request sets of a version. -/
structure StatusMove where
  agentName : String
  version : String
  target : AgentStatus
  evidence : ReleaseEvidence

namespace StatusMove

/-- The key the row is read and set under. -/
def item (move : StatusMove) : Items :=
  [("PK", .str ("AGENT#" ++ move.agentName)), ("SK", .str ("VERSION#" ++ move.version))]

def key (py : Python) (move : StatusMove) : RowKey := versionKey py move.agentName move.version

theorem key?_item (py : Python) (move : StatusMove) :
    Arg.key? (agentsTableName py) (.val (.dict move.item)) = some (move.key py) := rfl

/-- The detail of its event. -/
def detail (move : StatusMove) (py : Python) (caller : CallerIdentity) (current : AgentStatus)
    (existing updates : Items) (now : Instant) : Items :=
  agentReleaseEventDetail caller move.agentName move.version current move.target move.evidence existing
    updates (py.isoUtc now)

end StatusMove

/-- What a patch says besides the status. -/
def patchEvidence (body : Items) : ReleaseEvidence where
  releaseNotes := (body.get "releaseNotes").strOrNone
  evaluationScore := body.get "evaluationScore"
  evaluationReportUrl := (body.get "evaluationReportUrl").strOrNone

/-- What a patch sets. -/
def patchMove (py : Python) (event : Items) (agentName version : String) : Except Exc StatusMove := do
  let body ← requireJsonBody py event
  let targetStatus ← normalizeAgentStatusVal (body.get "status")
  pure ⟨agentName, version, targetStatus, patchEvidence body⟩

/-- What a request sets, where it gets that far. -/
def RegistryRequest.move? (py : Python) : RegistryRequest → Option StatusMove
  | .register _ _ => none
  | .patch event _ agentName version => (patchMove py event agentName version).toOption
  | .promote _ agentName version => some ⟨agentName, version, .promoted, {}⟩
  | .rollback _ agentName version => some ⟨agentName, version, .rolledBack, {}⟩

/-! ## The calls of a request -/

section

variable (py : Python)

/-- A call that takes no version along a transition, and emits no event. -/
inductive Idle : Answered Effect Effect.Reply → Prop where
  | now (now : Instant) : Idle ⟨.now, now⟩
  | get (item : Items) (answer : Except Fault (Option Items)) :
      Idle ⟨.db (getRequest (agentsTableName py) item), answer⟩
  | put {item : Items} (h : AnyRegistration py item) (answer : Except Fault Unit) :
      Idle ⟨.db (putRequest (agentsTableName py) item), answer⟩
  | refused (item updates : Items) (fault : Fault) :
      Idle ⟨.db (setRequest (agentsTableName py) item updates), .error fault⟩

/-- What was read and worked out before a status is set. -/
structure Decided (caller : CallerIdentity) (move : StatusMove) (existing updates : Items)
    (current : AgentStatus) (now : Instant) : Prop where
  readStatus : AgentStatus.normalize (existing.get "status") = .ok current
  transition : validateAgentStatusTransition current move.target = .ok ()
  updates_eq : statusUpdates py caller existing move.target move.evidence (py.isoUtc now) = .ok updates

/-- The calls of a request, the latest first: none that matters, or a status is set, and an event that
    can be encoded is offered. -/
inductive ReleaseCalls (move? : Option StatusMove) : Past → Prop where
  | idle {past : Past} (h : ∀ answered ∈ past, Idle py answered) : ReleaseCalls move? past
  | set {move : StatusMove} {caller : CallerIdentity} {existing updates : Items}
      {current : AgentStatus} {now : Instant} {row : Items} (move_eq : move? = some move)
      (decided : Decided py caller move existing updates current now)
      (silent : ∀ detailType, agentEventDetailType move.target = some detailType →
        (Val.dict (move.detail py caller current existing updates now)).allObjs py.encodes = false) :
      ReleaseCalls move? [
        ⟨.db (setRequest (agentsTableName py) move.item updates), .ok row⟩,
        ⟨.now, now⟩,
        ⟨.db (getRequest (agentsTableName py) move.item), .ok (some existing)⟩]
  | offered {move : StatusMove} {caller : CallerIdentity} {existing updates : Items}
      {current : AgentStatus} {now : Instant} {row : Items} {detailType : String}
      (move_eq : move? = some move)
      (decided : Decided py caller move existing updates current now)
      (event : agentEventDetailType move.target = some detailType) (answer : Except Fault Val) :
      ReleaseCalls move? [
        ⟨.service "events" "put_events"
          (eventEntries py detailType (move.detail py caller current existing updates now)), answer⟩,
        ⟨.db (setRequest (agentsTableName py) move.item updates), .ok row⟩,
        ⟨.now, now⟩,
        ⟨.db (getRequest (agentsTableName py) move.item), .ok (some existing)⟩]

end

section

variable {py : Python} {move? : Option StatusMove}

-- a program is taken apart by the rules from here on, never by running it
attribute [local irreducible] Prog.Traced

theorem releaseCalls_nil : ReleaseCalls py move? [] := .idle fun _ h => by cases h

/-- The calls of a change of status. -/
theorem releaseCalls_updateAgentStatus {caller : CallerIdentity} {agentName version : String}
    {target : AgentStatus} {evidence : ReleaseEvidence}
    (hmove : move? = some ⟨agentName, version, target, evidence⟩) :
    Prog.Traced (fun _ _ => True) (fun past _ => ReleaseCalls py move? past) []
      (updateAgentStatus py caller agentName version target evidence) := by
  set move : StatusMove := ⟨agentName, version, target, evidence⟩
  have hread (row : Option Items) : ReleaseCalls py move?
      [⟨.db (getRequest (agentsTableName py) move.item), .ok row⟩] := by
    refine .idle fun answered h => ?_
    rw [List.mem_singleton.mp h]
    exact .get _ _
  unfold updateAgentStatus
  refine traced_check (fun _ => releaseCalls_nil) fun _ _ => ?_
  refine traced_check (fun _ => releaseCalls_nil) fun _ _ => ?_
  refine traced_dbForTenant (fun _ => releaseCalls_nil) ?_
  extract_lets key
  refine traced_getItem (fun _ => releaseCalls_nil) trivial (fun fault _ => ?_) fun row => ?_
  · refine .idle fun answered h => ?_
    rw [List.mem_singleton.mp h]
    exact .get _ _
  cases hexisting : row.filter fun item => !item.isEmpty with
  | none => exact Prog.traced_pure.mpr (hread row)
  | some existing =>
    have hrow : row = some existing := (Option.filter_eq_some_iff.mp hexisting).1
    subst hrow
    simp only
    refine traced_check (fun _ => hread _) fun current hcurrent => ?_
    refine traced_check (fun _ => hread _) fun _ htransition => ?_
    refine traced_now trivial fun now => ?_
    have hidle : ReleaseCalls py move? [⟨.now, now⟩,
        ⟨.db (getRequest (agentsTableName py) move.item), .ok (some existing)⟩] := by
      refine .idle fun answered h => ?_
      rcases List.mem_cons.mp h with rfl | h
      · exact .now _
      · rw [List.mem_singleton.mp h]
        exact .get _ _
    refine traced_check (fun _ => hidle) fun updates hupdates => ?_
    -- All that the request checks is decided by here; the write and the event follow.
    have hdecided : Decided py caller move existing updates current now :=
      ⟨hcurrent, htransition, hupdates⟩
    refine traced_setAttributes (fun _ => hidle) trivial (fun fault _ => ?_) fun row => ?_
    · refine .idle fun answered h => ?_
      rcases List.mem_cons.mp h with rfl | h
      · exact .refused _ _ _
      rcases List.mem_cons.mp h with rfl | h
      · exact .now _
      · rw [List.mem_singleton.mp h]
        exact .get _ _
    cases hevent : agentEventDetailType target with
    | none =>
      have hset : ReleaseCalls py move? [
          ⟨.db (setRequest (agentsTableName py) move.item updates), .ok row⟩, ⟨.now, now⟩,
          ⟨.db (getRequest (agentsTableName py) move.item), .ok (some existing)⟩] := by
        refine .set hmove hdecided fun detailType h => ?_
        rw [hevent] at h
        cases h
      exact traced_response (fun _ _ => hset) hset
    | some detailType =>
      refine traced_putEvent (fun hencode _ => ?_) trivial (fun fault _ => ?_) fun value => ?_
      · exact .set hmove hdecided fun _ _ => hencode
      · exact .offered hmove hdecided hevent _
      · exact traced_response (fun _ _ => .offered hmove hdecided hevent _)
          (.offered hmove hdecided hevent _)

/-- **The calls of a request.** -/
theorem releaseCalls_program (request : RegistryRequest) :
    Prog.Traced (fun _ _ => True) (fun past _ => ReleaseCalls py (request.move? py) past) []
      (request.program py) := by
  cases request with
  | register event caller =>
    have hlate (now : Instant) : ReleaseCalls py none [⟨.now, now⟩] := by
      refine .idle fun answered h => ?_
      rw [List.mem_singleton.mp h]
      exact .now _
    apply traced_registration
    · exact fun _ => releaseCalls_nil
    · trivial
    · exact fun now _ => hlate now
    · exact fun _ _ _ => trivial
    · intro now item answer result hregisters
      refine .idle fun answered h => ?_
      rcases List.mem_cons.mp h with rfl | h
      · exact .put ⟨event, hregisters⟩ _
      · rw [List.mem_singleton.mp h]
        exact .now _
  | patch event caller agentName version =>
    refine traced_check (fun _ => releaseCalls_nil) fun _ _ => ?_
    refine traced_check (fun _ => releaseCalls_nil) fun _ _ => ?_
    refine traced_check (fun _ => releaseCalls_nil) fun body hbody => ?_
    refine traced_check (fun _ => releaseCalls_nil) fun targetStatus htarget => ?_
    split
    · exact Prog.traced_raise.mpr releaseCalls_nil
    · have hmove : RegistryRequest.move? py (.patch event caller agentName version) =
          some ⟨agentName, version, targetStatus, patchEvidence body⟩ := by
        simp only [RegistryRequest.move?, patchMove, hbody, htarget, bind, Except.bind, pure,
          Except.pure, Except.toOption]
      exact releaseCalls_updateAgentStatus hmove
  | promote caller agentName version =>
    have hmove : RegistryRequest.move? py (.promote caller agentName version) =
      some ⟨agentName, version, .promoted, {}⟩ := rfl
    unfold RegistryRequest.program handlePromoteAgent
    exact releaseCalls_updateAgentStatus hmove
  | rollback caller agentName version =>
    have hmove : RegistryRequest.move? py (.rollback caller agentName version) =
      some ⟨agentName, version, .rolledBack, {}⟩ := rfl
    unfold RegistryRequest.program handleRollbackAgent
    exact releaseCalls_updateAgentStatus hmove

end

/-! ## One call -/

theorem source_ne_target : ∀ mark ∈ releaseMarks, mark.source ≠ mark.target ∧ mark.target ≠ .built := by
  decide

theorem agentEventDetailType_target :
    ∀ mark ∈ releaseMarks, agentEventDetailType mark.target = some mark.detailType := by
  intro mark hmark
  simp only [releaseMarks, List.mem_cons, List.not_mem_nil, or_false] at hmark
  rcases hmark with rfl | rfl <;> rfl

/-- An event announces one status. -/
theorem target_eq_iff {target : AgentStatus} {detailType : String}
    (hevent : agentEventDetailType target = some detailType) :
    ∀ mark ∈ releaseMarks, (detailType = mark.detailType ↔ mark.target = target) := by
  cases target <;> cases hevent <;> decide

/-- What is set to an announced status had the status before it. -/
theorem source_of_transition {current target : AgentStatus}
    (h : validateAgentStatusTransition current target = .ok ()) (hne : current ≠ target) :
    ∀ mark ∈ releaseMarks, mark.target = target → mark.source = current := by
  have hpath : current.transitions.contains target = true :=
    (validateAgentStatusTransition_eq_ok h).resolve_left (Ne.symm hne)
  have hall : ∀ mark ∈ releaseMarks, current.transitions.contains mark.target = true →
      mark.source = current := by
    cases current <;> decide
  intro mark hmark htarget
  exact hall mark hmark (htarget ▸ hpath)

section

variable {τ : Type} {py : Python} {world : World τ} {mark : ReleaseMark} {key : RowKey}
  {served : ReleaseServed τ}

theorem emits_eq_false (h : offeredEvent? served.call = none) : emits mark key served = false := by
  simp only [emits, h]

/-- A version that stays as it is goes along no transition. -/
theorem transits_eq_false (hmark : mark ∈ releaseMarks)
    (h : (world.serve served.before served.call).2.1.get? key = served.before.1.get? key) :
    transits world mark key served = false := by
  rw [transits, decide_eq_false_iff_not, h]
  rintro ⟨hsource, htarget⟩
  exact (source_ne_target mark hmark).1 (Option.some.inj (hsource.symm.trans htarget))

theorem idle_emits (h : Idle py served.answered) : emits mark key served = false := by
  obtain ⟨before, call, answer⟩ := served
  apply emits_eq_false
  unfold Prog.Served.answered at h
  cases h <;> rfl

theorem idle_transits (hmark : mark ∈ releaseMarks) (h : Idle py served.answered)
    (hanswer : served.answer = (world.serve served.before served.call).1) :
    transits world mark key served = false := by
  obtain ⟨before, call, answer⟩ := served
  unfold Prog.Served.answered at h
  cases h with
  | now now => exact transits_eq_false hmark rfl
  | get item answer =>
    apply transits_eq_false hmark
    rw [serve_get]
  | put hitem answer =>
    rename_i item
    rcases serve_put world before (agentsTableName py) item with
      ⟨hsame, -⟩ | ⟨rowKey, attributes, hkey, hput, -⟩
    · apply transits_eq_false hmark
      rw [hsame]
    · by_cases hrow : key = rowKey
      · -- what is registered is built
        rw [transits, decide_eq_false_iff_not, hput, hrow, Dict.get?_set_self, eq_attributesOf hkey,
          statusOf?_stored (storedStatus_registered hitem)]
        rintro ⟨-, htarget⟩
        exact (source_ne_target mark hmark).2 (Option.some.inj htarget).symm
      · apply transits_eq_false hmark
        rw [hput, Dict.get?_set_ne _ _ hrow]
  | refused item updates fault =>
    rcases serve_set world before (agentsTableName py) item updates with
      ⟨hsame, -⟩ | ⟨_, _, _, _, _, row, hok⟩
    · apply transits_eq_false hmark
      rw [hsame]
    · cases hanswer.trans hok

/-- A status that is set takes its own version from the status it had. -/
theorem transits_set (hset : SetsAttributes world.dynamo) (hmark : mark ∈ releaseMarks)
    {state : Tables × τ} {move : StatusMove} {caller : CallerIdentity}
    {updates attributes : Items} {current : AgentStatus} {now : Instant} {answer : Except Fault Items}
    (hstored : state.1.get? (move.key py) = some attributes)
    (hdecided : Decided py caller move ((move.key py).row attributes) updates current now)
    (hok : ∃ row, (world.serve state
      (.db (setRequest (agentsTableName py) move.item updates))).1 = .ok row) :
    transits world mark key ⟨state, .db (setRequest (agentsTableName py) move.item updates), answer⟩ =
      decide (key = move.key py ∧ mark.source = current ∧ mark.target = move.target) := by
  obtain ⟨row, hrow⟩ := hok
  rcases serve_set world state (agentsTableName py) move.item updates with
    ⟨-, fault, hfault⟩ | ⟨rowKey, updated, hkey, hupdate, hwrite, -⟩
  · cases hfault.symm.trans hrow
  cases (move.key?_item py).symm.trans hkey
  by_cases hversion : key = move.key py
  · rw [hstored, Option.getD_some] at hupdate
    have hwritten : ∀ field, IsAttribute field →
        (attributesOf updated).lookup field = (attributes.merge updates).lookup field := by
      intro field hattribute
      rw [lookup_attributesOf hattribute, hset _ _ _ _ _ hupdate field hattribute]
      exact Items.lookup_merge_congr _ (lookup_row hattribute _ attributes)
    have hbefore : statusOf? (state.1.get? key) = some current := by
      have hread := hdecided.readStatus
      rw [Items.get, lookup_row (by decide)] at hread
      rw [hversion, hstored]
      exact statusOf?_stored hread
    have hafter : statusOf? ((world.serve state
        (.db (setRequest (agentsTableName py) move.item updates))).2.1.get? key) =
          some move.target := by
      rw [hwrite, hversion, Dict.get?_set_self]
      exact statusOf?_stored (storedStatus_updated hdecided.updates_eq hwritten)
    rw [transits, hbefore, hafter, decide_eq_decide, Option.some.injEq, Option.some.injEq]
    constructor
    · rintro ⟨hsource, htarget⟩
      exact ⟨hversion, hsource.symm, htarget.symm⟩
    · rintro ⟨-, hsource, htarget⟩
      exact ⟨hsource.symm, htarget.symm⟩
  · have hnot : ¬ (key = move.key py ∧ mark.source = current ∧ mark.target = move.target) :=
      fun h => hversion h.1
    rw [decide_eq_false hnot]
    apply transits_eq_false hmark
    rw [hwrite, Dict.get?_set_ne _ _ hversion]

end

/-! ## The detail of an event -/

section

variable {py : Python} {caller : CallerIdentity} {move : StatusMove} {existing updates : Items}
  {current : AgentStatus} {now : Instant}

theorem allObjs_optionVal (p : Py.Obj → Bool) (text : Option String) :
    (optionVal text).allObjs p = true := by
  cases text <;> rfl

/-- What a change of status sets can be encoded, where the score can. -/
theorem statusUpdates_encodes {nowIso : String} {target : AgentStatus} {evidence : ReleaseEvidence}
    (h : statusUpdates py caller existing target evidence nowIso = .ok updates)
    (hgiven : ∀ score, py.float evidence.evaluationScore = .ok score →
      score.allObjs py.encodes = true) :
    ∀ kv ∈ updates, kv.2.allObjs py.encodes = true := by
  cases target with
  | approved =>
    cases h
    cases evidence.releaseNotes <;> simp [Val.allObjs, allObjs_optionVal]
  | rolledBack =>
    cases h
    simp [Val.allObjs, allObjs_optionVal]
  | promoted =>
    obtain ⟨-, -, score, hscore, rfl⟩ := statusUpdates_promoted h
    cases score with
    | none => cases evidence.evaluationReportUrl <;> simp [Val.allObjs]
    | some score =>
      have hencodes := hgiven score (hscore score rfl)
      cases evidence.evaluationReportUrl <;> simp [Val.allObjs, hencodes]
  | _ =>
    cases h
    simp [Val.allObjs]

/-- An event can be encoded, where its score can. -/
theorem detail_encodes (h : Decided py caller move existing updates current now)
    (hstored : (existing.get "evaluation_score").allObjs py.encodes = true)
    (hgiven : ∀ score, py.float move.evidence.evaluationScore = .ok score →
      score.allObjs py.encodes = true) :
    (Val.dict (move.detail py caller current existing updates now)).allObjs py.encodes = true := by
  have hupdates := statusUpdates_encodes h.updates_eq hgiven
  have hscore : (if updates.has "evaluation_score" then updates.get "evaluation_score"
      else existing.get "evaluation_score").allObjs py.encodes = true := by
    split
    · exact Val.allObjs_get hupdates _
    · exact hstored
  rw [Val.allObjs, Val.allObjsItems_iff]
  intro kv hkv
  unfold StatusMove.detail agentReleaseEventDetail at hkv
  rcases Items.mem_merge hkv with henvelope | hdetail
  · simp only [platformAuditEnvelope, Option.map_some, Option.toList_some, List.cons_append,
      List.nil_append, List.mem_cons, List.not_mem_nil, or_false] at henvelope
    rcases henvelope with rfl | rfl | rfl | rfl | rfl | rfl | rfl | rfl
    all_goals first | rfl | exact allObjs_optionVal _ _
  · simp only [List.mem_cons, List.not_mem_nil, or_false] at hdetail
    rcases hdetail with rfl | rfl | rfl | rfl | rfl | rfl | rfl | rfl | rfl | rfl | rfl | rfl | rfl |
      rfl | rfl | rfl | rfl
    all_goals first
      | rfl
      | exact allObjs_optionVal _ _
      | exact Val.allObjs_get hupdates _
      | exact hscore

/-- An event names the row of its version. -/
theorem detail_names (py : Python) (caller : CallerIdentity) (move : StatusMove)
    (current : AgentStatus) (existing updates : Items) (now : Instant) :
    ((move.detail py caller current existing updates now).get "agentRecordPk").toStr =
        (move.key py).pk ∧
      ((move.detail py caller current existing updates now).get "agentRecordSk").toStr =
        (move.key py).sk := by
  unfold StatusMove.detail agentReleaseEventDetail Items.get
  constructor
  · rw [Items.lookup_merge_of_mem _ (by simp) (List.mem_cons_of_mem _ (List.mem_cons_of_mem _
      List.mem_cons_self))]
    rfl
  · rw [Items.lookup_merge_of_mem _ (by simp) (List.mem_cons_of_mem _ (List.mem_cons_of_mem _
      (List.mem_cons_of_mem _ List.mem_cons_self)))]
    rfl

end

/-! ## One request -/

/-- What is asked of a status that is set and announced: it is not the one that is stored, and the
    scores of its event can be encoded. -/
structure Announceable (py : Python) (move : StatusMove) (tables : Tables) : Prop where
  fresh : statusOf? (tables.get? (move.key py)) ≠ some move.target
  storedScore : ∀ attributes, tables.get? (move.key py) = some attributes →
    (attributes.get "evaluation_score").allObjs py.encodes = true
  givenScore : ∀ score, py.float move.evidence.evaluationScore = .ok score →
    score.allObjs py.encodes = true

/-- What is asked of a request: what it sets is announceable, and the bus takes what it offers. -/
structure Announces (py : Python) {τ : Type} (request : RegistryRequest)
    (called : List (ReleaseServed τ)) : Prop where
  sets : ∀ move updates, request.move? py = some move →
    (agentEventDetailType move.target).isSome = true → ∀ served ∈ called,
      served.call = .db (setRequest (agentsTableName py) move.item updates) →
        Announceable py move served.before.1
  taken : ∀ served ∈ called, (offeredEvent? served.call).isSome = true →
    delivered served.call served.answer = true

section

variable {τ : Type} {py : Python} {world : World τ} {state : Tables × τ} {request : RegistryRequest}

/-- A status that is set moves the version that was read. -/
theorem transits_read (hset : SetsAttributes world.dynamo) {mark : ReleaseMark}
    (hmark : mark ∈ releaseMarks) (key : RowKey) {move : StatusMove} {caller : CallerIdentity}
    {existing updates : Items} {current : AgentStatus} {now : Instant} {answer : Except Fault Items}
    {set : Tables × τ} (hsame : set.1 = state.1)
    (hread : (world.serve state (.db (getRequest (agentsTableName py) move.item))).1 =
      .ok (some existing))
    (hdecided : Decided py caller move existing updates current now)
    (hok : ∃ row, (world.serve set
      (.db (setRequest (agentsTableName py) move.item updates))).1 = .ok row) :
    transits world mark key ⟨set, .db (setRequest (agentsTableName py) move.item updates), answer⟩ =
      decide (key = move.key py ∧ mark.source = current ∧ mark.target = move.target) := by
  obtain ⟨attributes, hstored, rfl⟩ := get_of_serve_get world state (move.key?_item py) hread
  exact transits_set hset hmark (hsame ▸ hstored) hdecided hok

/-- What is announceable was set from another status, and its event can be encoded. -/
theorem Announceable.spec {move : StatusMove} {caller : CallerIdentity} {existing updates : Items}
    {current : AgentStatus} {now : Instant} (h : Announceable py move state.1)
    (hread : (world.serve state (.db (getRequest (agentsTableName py) move.item))).1 =
      .ok (some existing))
    (hdecided : Decided py caller move existing updates current now) :
    current ≠ move.target ∧
      (Val.dict (move.detail py caller current existing updates now)).allObjs py.encodes = true := by
  obtain ⟨attributes, hstored, rfl⟩ := get_of_serve_get world state (move.key?_item py) hread
  have hcurrent : storedStatus attributes = .ok current := by
    have hstatus := hdecided.readStatus
    rwa [Items.get, lookup_row (by decide)] at hstatus
  constructor
  · rintro rfl
    apply h.fresh
    rw [hstored]
    exact statusOf?_stored hcurrent
  · refine detail_encodes hdecided ?_ h.givenScore
    rw [Items.get, lookup_row (by decide)]
    exact h.storedScore attributes hstored

/-- An event that is delivered is of the version and the status that were set. -/
theorem emits_event {mark : ReleaseMark} (hmark : mark ∈ releaseMarks) {key : RowKey}
    (hkey : key.table = agentsTableName py) {move : StatusMove} {caller : CallerIdentity}
    {existing updates : Items} {current : AgentStatus} {now : Instant} {detailType : String}
    (hevent : agentEventDetailType move.target = some detailType) {before : Tables × τ}
    {answer : Except Fault Val}
    (htaken : delivered (.service "events" "put_events" (eventEntries py detailType
      (move.detail py caller current existing updates now))) answer = true) :
    emits mark key ⟨before, .service "events" "put_events" (eventEntries py detailType
      (move.detail py caller current existing updates now)), answer⟩ =
        decide (key = move.key py ∧ mark.target = move.target) := by
  obtain ⟨hpk, hsk⟩ := detail_names py caller move current existing updates now
  generalize move.detail py caller current existing updates now = detail at hpk hsk htaken ⊢
  have hversion : key = move.key py ↔ (move.key py).pk = key.pk ∧ (move.key py).sk = key.sk := by
    constructor
    · rintro rfl
      exact ⟨rfl, rfl⟩
    · rintro ⟨h, h'⟩
      obtain ⟨table, pk, sk⟩ := key
      cases hkey
      cases h
      cases h'
      rfl
  simp only [emits, offeredEvent?_eventEntries, htaken, hpk, hsk, Bool.and_true]
  rw [Bool.eq_iff_iff, decide_eq_true_iff, hversion, ← target_eq_iff hevent mark hmark]
  simp only [Bool.and_eq_true, beq_iff_eq]
  tauto

/-- **The events of a request** mark its transitions. -/
theorem eventsMark_of_announces (hset : SetsAttributes world.dynamo)
    (h : Announces py request (registryTurn py world state request).2) :
    EventsMark py world (registryTurn py world state request).2 := by
  have hcalls : ReleaseCalls py (request.move? py)
      (((registryTurn py world state request).2.map Prog.Served.answered).reverse ++ []) :=
    (releaseCalls_program request).replayed state
  rw [List.append_nil] at hcalls
  unfold registryTurn at hcalls h ⊢
  generalize (Prog.run world.serve state (request.program py)).calls = es at hcalls h ⊢
  generalize hpast : ((Prog.replay world.serve state es).map Prog.Served.answered).reverse = past
    at hcalls
  have hanswered := List.reverse_eq_iff.mp hpast
  intro mark hmark key hkey
  cases hcalls with
  | idle hidle =>
    have hserved : ∀ served ∈ Prog.replay world.serve state es, Idle py served.answered := by
      intro served hmem
      apply hidle
      rw [← hpast, List.mem_reverse]
      exact List.mem_map_of_mem hmem
    apply marked_of_none
    intro served hmem
    exact ⟨idle_emits (hserved served hmem),
      idle_transits hmark (hserved served hmem) (Prog.answer_of_mem_replay hmem)⟩
  | @set move caller existing updates current now row hmove hdecided hsilent =>
    cases Prog.calls_replay hanswered
    obtain ⟨hread, hok⟩ : (world.serve state
          (.db (getRequest (agentsTableName py) move.item))).1 = .ok (some existing) ∧
        ∃ row, (world.serve (world.serve (world.serve state
          (.db (getRequest (agentsTableName py) move.item))).2 .now).2
            (.db (setRequest (agentsTableName py) move.item updates))).1 = .ok row := by
      simp [Prog.replay, Prog.Served.answered] at hanswered
      exact ⟨hanswered.1, row, hanswered.2.2⟩
    have hsame : (world.serve (world.serve state
        (.db (getRequest (agentsTableName py) move.item))).2 .now).2.1 = state.1 :=
      serve_get world state (agentsTableName py) move.item
    -- an event of what is announced could have been encoded
    have hnone : agentEventDetailType move.target = none := by
      cases hevent : agentEventDetailType move.target with
      | none => rfl
      | some detailType =>
        have hsets := h.sets move updates hmove (by rw [hevent]; rfl) _
          (List.mem_cons_of_mem _ (List.mem_cons_of_mem _ List.mem_cons_self)) rfl
        have hencodes := (Announceable.spec (hsame ▸ hsets) hread hdecided).2
        cases (hsilent detailType hevent).symm.trans hencodes
    have hother : mark.target ≠ move.target := by
      intro htarget
      have hevent := agentEventDetailType_target mark hmark
      rw [htarget, hnone] at hevent
      cases hevent
    simp only [List.reverse_cons, List.reverse_nil, List.nil_append, List.cons_append, List.map_cons,
      List.map_nil, Prog.replay]
    apply marked_of_none
    intro served hmem
    simp only [List.mem_cons, List.not_mem_nil, or_false] at hmem
    rcases hmem with rfl | rfl | rfl
    · exact ⟨emits_eq_false rfl, transits_eq_false hmark (by rw [serve_get])⟩
    · exact ⟨emits_eq_false rfl, transits_eq_false hmark rfl⟩
    · exact ⟨emits_eq_false rfl, (transits_read hset hmark key hsame hread hdecided hok).trans
        (decide_eq_false fun h => hother h.2.2)⟩
  | @offered move caller existing updates current now row detailType hmove hdecided hevent answer =>
    cases Prog.calls_replay hanswered
    obtain ⟨hread, hok⟩ : (world.serve state
          (.db (getRequest (agentsTableName py) move.item))).1 = .ok (some existing) ∧
        ∃ row, (world.serve (world.serve (world.serve state
          (.db (getRequest (agentsTableName py) move.item))).2 .now).2
            (.db (setRequest (agentsTableName py) move.item updates))).1 = .ok row := by
      simp [Prog.replay, Prog.Served.answered] at hanswered
      exact ⟨hanswered.1, row, hanswered.2.2.1⟩
    have hsame : (world.serve (world.serve state
        (.db (getRequest (agentsTableName py) move.item))).2 .now).2.1 = state.1 :=
      serve_get world state (agentsTableName py) move.item
    have hsets := h.sets move updates hmove (by rw [hevent]; rfl) _
      (List.mem_cons_of_mem _ (List.mem_cons_of_mem _ List.mem_cons_self)) rfl
    have hne := (Announceable.spec (hsame ▸ hsets) hread hdecided).1
    have hsource := source_of_transition hdecided.transition hne mark hmark
    simp only [List.reverse_cons, List.reverse_nil, List.nil_append, List.cons_append, List.map_cons,
      List.map_nil, Prog.replay] at h hanswered ⊢
    refine @marked_of_last _ _ _ [_, _] _ _ ?_ (emits_eq_false rfl) (transits_eq_false hmark rfl) ?_
    · intro served hmem
      simp only [List.mem_cons, List.not_mem_nil, or_false] at hmem
      rcases hmem with rfl | rfl
      · exact ⟨emits_eq_false rfl, transits_eq_false hmark (by rw [serve_get])⟩
      · exact ⟨emits_eq_false rfl, transits_eq_false hmark rfl⟩
    · -- the event is of the version that was set, and of the status where it came from its source
      have htaken := h.taken _ (List.mem_cons_of_mem _ (List.mem_cons_of_mem _
        (List.mem_cons_of_mem _ List.mem_cons_self))) rfl
      refine (emits_event hmark hkey hevent htaken).trans
        (Eq.trans ?_ (transits_read hset hmark key hsame hread hdecided hok).symm)
      rw [decide_eq_decide]
      exact and_congr_right fun _ => ⟨fun htarget => ⟨hsource htarget, htarget⟩, And.right⟩

end

/-! ## Runs -/

/-- The events of every request of a run mark its transitions. -/
def EventsMarkTransitions {τ : Type} (py : Python) (world : World τ) (state : Tables × τ)
    (requests : List RegistryRequest) : Prop :=
  ∀ m ∈ Runs.trace (registryTurn py world) state requests, EventsMark py world m.response

/-- **The events of a run** mark its transitions: of every request, in every run of requests that set
    no status that is stored already, and whose events the bus takes. -/
theorem events_mark_transitions {py : Python} {τ : Type} {world : World τ}
    (hset : SetsAttributes world.dynamo) {state : Tables × τ} {requests : List RegistryRequest}
    (hrequests : ∀ m ∈ Runs.trace (registryTurn py world) state requests,
      Announces py m.event m.response) :
    EventsMarkTransitions py world state requests := by
  intro m hm
  have hresponse := Runs.response_of_mem_trace hm
  have hannounces := hrequests m hm
  rw [hresponse] at hannounces ⊢
  exact eventsMark_of_announces hset hannounces

/-! ## A promotion, and one that is repeated -/

/-- The version is approved. -/
def approvedHelper : Tables × Unit :=
  (Dict.empty.set helperKey [("status", .str "approved"), ("approved_by", .str "ops"),
    ("approved_at", .str "0")], ())

def promotion : RegistryRequest := .promote platformAdmin "helper" "1.0.0"

/-- A promotion is announced. -/
theorem promotion_is_marked :
    EventsMarkTransitions stagingTexts (quiet settingRows) approvedHelper [promotion] := by
  refine events_mark_transitions settingRows_setsAttributes ?_
  intro m hm
  rw [Runs.trace_cons, Runs.trace_nil, List.mem_singleton] at hm
  subst hm
  constructor
  · intro move updates hmove _ served hserved hcall
    cases hmove
    have hbefore : served.before.1 = approvedHelper.1 := by
      rcases hserved with _ | ⟨_, _ | ⟨_, _ | ⟨_, _ | ⟨_, hserved⟩⟩⟩⟩
      · rfl
      · rfl
      · rfl
      · cases hcall
      · cases hserved
    rw [hbefore]
    constructor
    · decide
    · intro attributes hget
      cases hget
      rfl
    · intro score hscore
      cases hscore
  · intro served hserved hoffered
    rcases hserved with _ | ⟨_, _ | ⟨_, _ | ⟨_, _ | ⟨_, hserved⟩⟩⟩⟩
    · cases hoffered
    · cases hoffered
    · cases hoffered
    · rfl
    · cases hserved

/-- A promotion that is repeated is announced again. -/
theorem repeated_promotion_is_announced :
    ¬ EventsMarkTransitions stagingTexts (quiet settingRows) approvedHelper
      [promotion, promotion] := by
  intro h
  have hlast := List.mem_of_getElem? (rfl : (Runs.trace (registryTurn stagingTexts
    (quiet settingRows)) approvedHelper [promotion, promotion])[1]? = some _)
  have honce := (h _ hlast ⟨"platform.agent_version.promoted", .approved, .promoted⟩
    List.mem_cons_self helperKey rfl).once
  revert honce
  decide

end A5cCell.TenantApi
