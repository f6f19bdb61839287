import Mathlib.Data.Fintype.EquivFin
import Mathlib.Data.List.DropRight
import Mathlib.Logic.Function.Basic
import A5cCell.Lib.Runs
import A5cCell.Lib.Value

/-!
# The handoff events of an issue

`record_issue_handoff_event` keeps the last 50 events of an issue, and drops a call with the idempotency
key of the last event. `audit_issue_handoff_evidence` asks the events for a start, for the start of the
closeout, and for its completion at the end.

A call is dropped only where it repeats the key of the call directly before it, and the start is among
the events only where no more than 50 were kept.
-/

namespace A5cCell.IssueTool

open Py (Items)
open Runs

/-! ## Events -/

structure Issue where
  number : Int
  title : String

/-- The arguments of a call. -/
structure HandoffCall where
  repo : Option String := none
  issue : Option Issue := none
  issueNumber : Option Int := none
  issueTitle : Option String := none
  branch : Option String := none
  worktreePath : Option String := none
  eventType : String
  state : String
  details : Items := []
  idempotencyKey : Option String := none

structure HandoffEvent where
  ts : String
  eventType : String
  state : String
  repo : Option String
  issueNumber : Int
  issueTitle : Option String
  branch : Option String
  worktreePath : Option String
  details : Items
  idempotencyKey : Option String

/-- What is stored of an issue. -/
structure IssueState where
  issueNumber : Int
  issueTitle : Option String
  repo : Option String
  branch : Option String
  worktreePath : Option String
  state : String
  lastEventType : String
  lastUpdatedAt : String
  events : List HandoffEvent
  details : Option Items

/-- The state files, by issue. -/
abbrev StateFiles : Type := Int → Option IssueState

def startEvents : List String := ["worktree-created", "worktree-reused", "worktree-resumed"]

def terminalStates : List String := ["done", "closed", "cleanup-failed", "handback-failed"]

/-- `value or default`. -/
def orElse (value default : Option String) : Option String := (Py.truthyText value).or default

/-! ## The writer -/

/-- Whether two texts are there and differ. -/
def differs (incoming existing : Option String) : Bool :=
  match Py.truthyText incoming, Py.truthyText existing with
  | some a, some b => a ≠ b
  | _, _ => false

/-- A start event begins the log anew, where the issue was finished, or has another branch or another
    worktree. -/
def startsAnew (existing : Option IssueState) (call : HandoffCall) : Bool :=
  startEvents.contains call.eventType && existing.any fun existing =>
    terminalStates.contains existing.state || differs call.branch existing.branch ||
      differs call.worktreePath existing.worktreePath

/-- The issue a call is about. -/
def HandoffCall.number? (call : HandoffCall) : Option Int :=
  (call.issue.map (·.number)).or call.issueNumber

def HandoffCall.title (call : HandoffCall) (existing : Option IssueState) : Option String :=
  match call.issue with
  | some issue => some issue.title
  | none => orElse call.issueTitle (existing.bind (·.issueTitle))

/-- The event of a call at a time. -/
def HandoffCall.event (call : HandoffCall) (number : Int) (existing : Option IssueState) (ts : String) :
    HandoffEvent where
  ts
  eventType := call.eventType
  state := call.state
  repo := call.repo
  issueNumber := number
  issueTitle := call.title existing
  branch := orElse call.branch (existing.bind (·.branch))
  worktreePath := call.worktreePath.or (existing.bind (·.worktreePath))
  details := call.details
  idempotencyKey := Py.truthyText call.idempotencyKey

/-- `events[-50:]`, where there are more. -/
def lastFifty (events : List HandoffEvent) : List HandoffEvent := events.rtake 50

/-- What is written for the call, when its event is appended. -/
def HandoffCall.payload (call : HandoffCall) (number : Int) (existing : Option IssueState) (ts : String) :
    IssueState where
  issueNumber := number
  issueTitle := call.title existing
  repo := orElse call.repo (existing.bind (·.repo))
  branch := orElse call.branch (existing.bind (·.branch))
  worktreePath := call.worktreePath.or (existing.bind (·.worktreePath))
  state := call.state
  lastEventType := call.eventType
  lastUpdatedAt := ts
  events := lastFifty ((existing.elim [] (·.events)) ++ [call.event number existing ts])
  details := if call.details = [] then none else some call.details

/-- The key of the last event. -/
def lastKey (existing : Option IssueState) : Option String :=
  (existing.bind (·.events.getLast?)).bind (·.idempotencyKey)

/-- Whether the call repeats the key of the last event. -/
def repeatsLast (existing : Option IssueState) (call : HandoffCall) : Bool :=
  (Py.truthyText call.idempotencyKey).isSome &&
    lastKey existing = Py.truthyText call.idempotencyKey

/-- What a call makes of the state of its issue. -/
def recordInto (existing : Option IssueState) (number : Int) (call : HandoffCall) (ts : String) :
    Option IssueState :=
  let kept := if startsAnew existing call then none else existing
  if repeatsLast kept call then existing else some (call.payload number kept ts)

/-- `record_issue_handoff_event`, at a time. -/
def recordIssueHandoffEvent (files : StateFiles) (call : HandoffCall) (ts : String) : StateFiles :=
  match call.number? with
  | none => files
  | some number => Function.update files number (recordInto (files number) number call ts)

/-! ## The audit -/

/-- The types of events that have one. -/
def typesOf (types : List String) : List String := types.filter (· ≠ "")

/-- The checks of `audit_issue_handoff_evidence` on the events. -/
def auditEvents (issueState : IssueState) : Except String (List String) :=
  if issueState.events = [] then .error "Issue state evidence has no events"
  else
    let eventTypes := typesOf (issueState.events.map (·.eventType))
    match eventTypes.getLast? with
    | none => .error "Issue state evidence has no typed events"
    | some last =>
        if eventTypes.any startEvents.contains = false then
          .error "Issue state evidence is missing a worktree start/resume event"
        else if eventTypes.contains "closeout-started" = false then
          .error "Issue state evidence is missing closeout-started"
        else if last ≠ "closeout-complete" then
          .error ("Final issue state event must be closeout-complete (found " ++ last ++ ")")
        else .ok eventTypes

/-! ## One call -/

/-- The key of a call, where it has one. -/
def HandoffCall.key (call : HandoffCall) : Option String := Py.truthyText call.idempotencyKey

/-- What the audit and the writer read of an event. -/
def HandoffEvent.sig (event : HandoffEvent) : String × Option String :=
  (event.eventType, event.idempotencyKey)

def HandoffCall.sig (call : HandoffCall) : String × Option String := (call.eventType, call.key)

section

variable {existing : Option IssueState} {number : Int} {call : HandoffCall} {ts : String}

theorem rtake_append_singleton {α : Type} (l : List α) (x : α) (n : ℕ) :
    (l ++ [x]).rtake (n + 1) = l.rtake n ++ [x] := List.rtake_concat_succ ..

/-- A call is dropped, where it does not begin the log anew and repeats the last key; or its event is
    the last. -/
theorem recordInto_cases (existing : Option IssueState) (number : Int) (call : HandoffCall)
    (ts : String) :
    (startsAnew existing call = false ∧ repeatsLast existing call = true ∧
      recordInto existing number call ts = existing) ∨
    ((startsAnew existing call = true ∨ repeatsLast existing call = false) ∧
      ∃ stored earlier event, recordInto existing number call ts = some stored ∧
        stored.events = earlier ++ [event] ∧ event.ts = ts ∧ event.sig = call.sig) := by
  have happended (kept : Option IssueState) : ∃ earlier event,
      (call.payload number kept ts).events = earlier ++ [event] ∧ event.ts = ts ∧
        event.sig = call.sig :=
    ⟨_, _, rtake_append_singleton _ _ _, rfl, rfl⟩
  cases hanew : startsAnew existing call with
  | true =>
    obtain ⟨earlier, event, hevents⟩ := happended none
    have hrepeats : repeatsLast none call = false := by
      unfold repeatsLast
      cases Py.truthyText call.idempotencyKey <;> rfl
    have hrecord : recordInto existing number call ts = some (call.payload number none ts) := by
      simp only [recordInto, hanew, if_true, hrepeats, Bool.false_eq_true, if_false]
    exact .inr ⟨.inl rfl, _, earlier, event, hrecord, hevents⟩
  | false =>
    cases hrepeats : repeatsLast existing call with
    | true =>
      have hrecord : recordInto existing number call ts = existing := by
        simp only [recordInto, hanew, hrepeats, Bool.false_eq_true, if_false, if_true]
      exact .inl ⟨rfl, rfl, hrecord⟩
    | false =>
      obtain ⟨earlier, event, hevents⟩ := happended existing
      have hrecord : recordInto existing number call ts = some (call.payload number existing ts) := by
        simp only [recordInto, hanew, hrepeats, Bool.false_eq_true, if_false]
      exact .inr ⟨.inr rfl, _, earlier, event, hrecord, hevents⟩

theorem lastKey_append {stored : IssueState} {earlier : List HandoffEvent} {event : HandoffEvent}
    (h : stored.events = earlier ++ [event]) : lastKey (some stored) = event.idempotencyKey := by
  unfold lastKey
  rw [Option.bind_some, h, List.getLast?_concat, Option.bind_some]

theorem repeatsLast_iff : repeatsLast existing call = true ↔
    call.key.isSome = true ∧ lastKey existing = call.key := by
  rw [repeatsLast, Bool.and_eq_true, decide_eq_true_eq]
  rfl

/-- After a call the last key is the call's. -/
theorem lastKey_recordInto : lastKey (recordInto existing number call ts) = call.key := by
  rcases recordInto_cases existing number call ts with
    ⟨-, hrepeats, hsame⟩ | ⟨-, stored, earlier, event, hstored, hevents, -, hsig⟩
  · rw [hsame]
    exact (repeatsLast_iff.mp hrepeats).2
  · rw [hstored, lastKey_append hevents]
    exact congrArg Prod.snd hsig

end

/-! ## The calls of one issue -/

/-- Calls, each with the time it is made at. -/
abbrev Timed : Type := List (HandoffCall × String)

def recordAll (files : StateFiles) (calls : Timed) : StateFiles :=
  calls.foldl (fun files call => recordIssueHandoffEvent files call.1 call.2) files

/-- The state of one issue after its calls. -/
def recordCalls (number : Int) (existing : Option IssueState) (calls : Timed) : Option IssueState :=
  calls.foldl (fun existing call => recordInto existing number call.1 call.2) existing

def About (number : Int) (calls : Timed) : Prop := ∀ call ∈ calls, call.1.number? = some number

theorem recordAll_about {number : Int} {calls : Timed} (h : About number calls) (files : StateFiles) :
    recordAll files calls number = recordCalls number (files number) calls := by
  induction calls generalizing files with
  | nil => rfl
  | cons call calls ih =>
    obtain ⟨hcall, hcalls⟩ := List.forall_mem_cons.mp h
    have hstep : recordIssueHandoffEvent files call.1 call.2 =
        Function.update files number (recordInto (files number) number call.1 call.2) := by
      unfold recordIssueHandoffEvent
      rw [hcall]
    have hrest := ih hcalls (recordIssueHandoffEvent files call.1 call.2)
    rw [hstep, Function.update_self] at hrest
    rw [← hstep] at hrest
    exact hrest

theorem recordCalls_append (number : Int) (existing : Option IssueState) (calls calls' : Timed) :
    recordCalls number existing (calls ++ calls') =
      recordCalls number (recordCalls number existing calls) calls' := List.foldl_append ..

/-- The key of the last call. -/
theorem lastKey_recordCalls (number : Int) (calls : Timed) :
    lastKey (recordCalls number none calls) = calls.getLast?.bind (·.1.key) := by
  induction calls using List.reverseRecOn with
  | nil => rfl
  | append_singleton calls call ih =>
    rw [recordCalls_append, List.getLast?_concat, Option.bind_some]
    exact lastKey_recordInto

/-! ## The calls that are kept -/

/-- The calls that do not repeat the key of the call directly before them. -/
def keptFrom : Option String → List HandoffCall → List HandoffCall
  | _, [] => []
  | previous, call :: calls =>
      if call.key.isSome ∧ previous = call.key then keptFrom call.key calls
      else call :: keptFrom call.key calls

theorem mem_of_mem_keptFrom {previous : Option String} {calls : List HandoffCall} {call : HandoffCall}
    (h : call ∈ keptFrom previous calls) : call ∈ calls := by
  induction calls generalizing previous with
  | nil => cases h
  | cons first calls ih =>
    rw [keptFrom] at h
    split at h
    · exact List.mem_cons_of_mem _ (ih h)
    · rcases List.mem_cons.mp h with rfl | h
      · exact List.mem_cons_self
      · exact List.mem_cons_of_mem _ (ih h)

theorem rtake_rtake_append {α : Type} (l m : List α) (n : ℕ) :
    (l.rtake n ++ m).rtake n = (l ++ m).rtake n := by
  simp only [List.rtake_eq_reverse_take_reverse, List.reverse_append, List.reverse_reverse,
    List.take_append, List.take_take]
  rw [Nat.min_eq_left (Nat.sub_le _ _)]

/-- **The log.** It has the last 50 of the events before and those of the calls that are kept. -/
theorem sigs_recordCalls (number : Int) {stored : IssueState} {calls : Timed}
    (hstart : ∀ call ∈ calls, startEvents.contains call.1.eventType = false)
    (hlength : stored.events.length ≤ 50) :
    ∃ stored', recordCalls number (some stored) calls = some stored' ∧
      stored'.events.map HandoffEvent.sig = (stored.events.map HandoffEvent.sig ++
        (keptFrom (lastKey (some stored)) (calls.map Prod.fst)).map HandoffCall.sig).rtake 50 := by
  induction calls generalizing stored with
  | nil =>
    refine ⟨stored, rfl, ?_⟩
    rw [List.map_nil, keptFrom, List.map_nil, List.append_nil, List.rtake, List.length_map,
      Nat.sub_eq_zero_of_le hlength, List.drop_zero]
  | cons call calls ih =>
    rw [List.forall_mem_cons] at hstart
    have hanew : startsAnew (some stored) call.1 = false := by
      rw [startsAnew, hstart.1, Bool.false_and]
    rw [List.map_cons, keptFrom]
    by_cases hrepeats : repeatsLast (some stored) call.1 = true
    -- A call that repeats the last event leaves the log as it is.
    · have hsame : recordInto (some stored) number call.1 call.2 = some stored := by
        simp only [recordInto, hanew, hrepeats, Bool.false_eq_true, if_false, if_true]
      have hkeys := repeatsLast_iff.mp hrepeats
      obtain ⟨stored', hfinal, hsigs⟩ := ih hstart.2 hlength
      refine ⟨stored', ?_, ?_⟩
      · rw [recordCalls, List.foldl_cons, hsame]
        exact hfinal
      · rw [if_pos hkeys, ← hkeys.2]
        exact hsigs
    · have hnew : recordInto (some stored) number call.1 call.2 =
          some (call.1.payload number (some stored) call.2) := by
        simp only [recordInto, hanew, hrepeats, Bool.false_eq_true, if_false]
      have hevents : (call.1.payload number (some stored) call.2).events =
          (stored.events ++ [call.1.event number (some stored) call.2]).rtake 50 := rfl
      have hlast : lastKey (some (call.1.payload number (some stored) call.2)) = call.1.key := by
        rw [← hnew]
        exact lastKey_recordInto
      have hshort : (call.1.payload number (some stored) call.2).events.length ≤ 50 := by
        rw [hevents, List.rtake, List.length_drop]
        omega
      obtain ⟨stored', hfinal, hsigs⟩ := ih hstart.2 hshort
      refine ⟨stored', ?_, ?_⟩
      · rw [recordCalls, List.foldl_cons, hnew]
        exact hfinal
      · have hmapped : (call.1.payload number (some stored) call.2).events.map HandoffEvent.sig =
            (stored.events.map HandoffEvent.sig ++ [call.1.sig]).rtake 50 := by
          rw [hevents, List.rtake, List.map_drop, List.map_append, List.rtake, List.length_append,
            List.length_append, List.length_map]
          rfl
        rw [hsigs, hmapped, hlast, rtake_rtake_append, if_neg fun h => hrepeats (repeatsLast_iff.mpr h),
          List.map_cons, List.append_assoc]
        rfl

/-! ## The audit of a log -/

theorem auditEvents_ok_iff {stored : IssueState} :
    (∃ types, auditEvents stored = .ok types) ↔
      (typesOf (stored.events.map (·.eventType))).getLast? = some "closeout-complete" ∧
      (typesOf (stored.events.map (·.eventType))).any startEvents.contains = true ∧
      (typesOf (stored.events.map (·.eventType))).contains "closeout-started" = true := by
  unfold auditEvents
  by_cases hempty : stored.events = []
  · simp [hempty, typesOf]
  · rw [if_neg hempty]
    dsimp only
    generalize typesOf (stored.events.map (·.eventType)) = eventTypes
    cases eventTypes.getLast? with
    | none => simp
    | some last =>
      dsimp only
      split_ifs with hstart hclose hlast
      · simp [hstart]
      · simp only [hclose, Bool.false_eq_true, and_false, iff_false]
        rintro ⟨types, ⟨⟩⟩
      · simp [hlast]
      · rw [Bool.not_eq_false] at hstart hclose
        exact iff_of_true ⟨_, rfl⟩ ⟨congrArg some (not_not.mp hlast), hstart, hclose⟩

/-- **The audit** passes exactly where no more than 50 calls are kept, the start of the closeout is
    among them, and the last of them that has a type is its completion. -/
theorem audit_iff {number : Int} {first : HandoffCall × String} {rest : Timed}
    (habout : About number (first :: rest)) (hfirst : startEvents.contains first.1.eventType = true)
    (hrest : ∀ call ∈ rest, startEvents.contains call.1.eventType = false) :
    let kept := keptFrom none ((first :: rest).map Prod.fst)
    ∃ stored, recordAll (fun _ => none) (first :: rest) number = some stored ∧
      ((∃ types, auditEvents stored = .ok types) ↔
        kept.length ≤ 50 ∧ (∃ call ∈ kept, call.eventType = "closeout-started") ∧
          (typesOf (kept.map (·.eventType))).getLast? = some "closeout-complete") := by
  intro kept
  have hkept : kept = first.1 :: keptFrom first.1.key (rest.map Prod.fst) := by
    show keptFrom none (first.1 :: rest.map Prod.fst) = _
    rw [keptFrom, if_neg]
    rintro ⟨hsome, hnone⟩
    rw [← hnone] at hsome
    cases hsome
  have hbegun : recordInto none number first.1 first.2 =
      some (first.1.payload number none first.2) := by
    have hanew : startsAnew none first.1 = false := by
      rw [startsAnew, Option.any_none, Bool.and_false]
    have hrepeats : ¬ repeatsLast none first.1 = true := by
      rw [repeatsLast_iff]
      rintro ⟨hsome, hnone⟩
      rw [← hnone] at hsome
      cases hsome
    simp only [recordInto, hanew, hrepeats, Bool.false_eq_true, if_false]
  have hlast : lastKey (some (first.1.payload number none first.2)) = first.1.key := by
    rw [← hbegun]
    exact lastKey_recordInto
  have hshort : (first.1.payload number none first.2).events.length ≤ 50 := by
    show ([first.1.event number none first.2].rtake 50).length ≤ 50
    rw [List.rtake, List.length_drop]
    omega
  obtain ⟨stored, hstored, hsigs⟩ := sigs_recordCalls number hrest hshort
  have hsigs : stored.events.map HandoffEvent.sig = (kept.map HandoffCall.sig).rtake 50 := by
    rw [hsigs, hlast, hkept]
    rfl
  have htypes : stored.events.map (·.eventType) = (kept.map (·.eventType)).rtake 50 := by
    have hfirsts := congrArg (List.map Prod.fst) hsigs
    rw [List.rtake, List.map_drop, List.map_map, List.map_map, List.length_map] at hfirsts
    rw [List.rtake, List.length_map]
    exact hfirsts
  refine ⟨stored, ?_, ?_⟩
  · rw [recordAll_about habout, recordCalls, List.foldl_cons, hbegun]
    exact hstored
  · have hwhole (hlength : kept.length ≤ 50) :
        (kept.map (·.eventType)).rtake 50 = kept.map (·.eventType) := by
      rw [List.rtake, List.length_map, Nat.sub_eq_zero_of_le hlength, List.drop_zero]
    rw [auditEvents_ok_iff, htypes]
    constructor
    · rintro ⟨hfinal, hstart, hclose⟩
      have hlength : kept.length ≤ 50 := by
        -- the start is the first of the calls that are kept
        by_contra hlong
        obtain ⟨eventType, hmem, hcontains⟩ := List.any_eq_true.mp hstart
        rw [typesOf, List.mem_filter, List.rtake, List.length_map,
          show kept.length - 50 = (kept.length - 51) + 1 by omega, hkept, List.map_cons,
          List.drop_succ_cons] at hmem
        obtain ⟨call, hcall, rfl⟩ := List.mem_map.mp (List.mem_of_mem_drop hmem.1)
        obtain ⟨timed, htimed, rfl⟩ := List.mem_map.mp (mem_of_mem_keptFrom hcall)
        exact absurd (hcontains.symm.trans (hrest timed htimed)) (by decide)
      rw [hwhole hlength] at hfinal hclose
      rw [List.contains_iff_mem, typesOf, List.mem_filter] at hclose
      obtain ⟨call, hcall, htype⟩ := List.mem_map.mp hclose.1
      exact ⟨hlength, ⟨call, hcall, htype⟩, hfinal⟩
    · rintro ⟨hlength, ⟨call, hcall, htype⟩, hfinal⟩
      rw [hwhole hlength]
      refine ⟨hfinal, ?_, ?_⟩
      · refine List.any_eq_true.mpr ⟨first.1.eventType, ?_, hfirst⟩
        rw [typesOf, List.mem_filter, hkept, List.map_cons]
        refine ⟨List.mem_cons_self, decide_eq_true fun hnone => ?_⟩
        rw [hnone] at hfirst
        exact absurd hfirst (by decide)
      · rw [List.contains_iff_mem, typesOf, List.mem_filter]
        exact ⟨List.mem_map.mpr ⟨call, hcall, htype⟩, by decide⟩

/-! ## Repetitions -/

/-- A text that is none of these. -/
theorem exists_fresh (texts : List String) : ∃ text, text ∉ texts := by
  have hinfinite : Infinite String := Infinite.of_injective (toString : ℕ → String)
    fun _ _ h => Py.repr_injective h
  obtain ⟨text, htext⟩ := Infinite.exists_notMem_finset texts.toFinset
  exact ⟨text, fun h => htext (List.mem_toFinset.mpr h)⟩

/-- What is stored of the events of an issue. -/
def eventsOf (stored : Option IssueState) : List HandoffEvent := stored.elim [] (·.events)

/-- **A repetition** changes no log, whatever comes after it, exactly where it does not begin the log
    anew and the call directly before it has its key. -/
theorem repetition_iff {number : Int} {calls : Timed} {repeated : HandoffCall}
    (habout : About number calls) (hrepeated : repeated.number? = some number)
    (hkey : repeated.key.isSome = true) :
    (∀ ts later, About number later →
      eventsOf (recordAll (fun _ => none) (calls ++ (repeated, ts) :: later) number) =
        eventsOf (recordAll (fun _ => none) (calls ++ later) number)) ↔
    startsAnew (recordAll (fun _ => none) calls number) repeated = false ∧
      calls.getLast?.bind (·.1.key) = repeated.key := by
  have hafter (later : Timed) (hlater : About number later) :
      recordAll (fun _ => none) (calls ++ later) number =
        recordCalls number (recordCalls number none calls) later := by
    rw [recordAll_about (List.forall_mem_append.mpr ⟨habout, hlater⟩), recordCalls_append]
  have hcons (ts : String) {later : Timed} (hlater : About number later) :
      About number ((repeated, ts) :: later) := List.forall_mem_cons.mpr ⟨hrepeated, hlater⟩
  rw [recordAll_about habout, ← lastKey_recordCalls number calls]
  constructor
  · intro hsame
    obtain ⟨ts, hts⟩ := exists_fresh ((eventsOf (recordCalls number none calls)).map (·.ts))
    have hone := hsame ts [] (List.forall_mem_nil _)
    rw [hafter _ (hcons ts (List.forall_mem_nil _)), hafter _ (List.forall_mem_nil _)] at hone
    change eventsOf (recordInto (recordCalls number none calls) number repeated ts) =
      eventsOf (recordCalls number none calls) at hone
    rcases recordInto_cases (recordCalls number none calls) number repeated ts with
      ⟨hanew, hrepeats, -⟩ | ⟨-, stored, earlier, event, hstored, hevents, htime, -⟩
    · exact ⟨hanew, (repeatsLast_iff.mp hrepeats).2⟩
    · -- the event of the repetition has a time that no other event has
      rw [← hone, hstored] at hts
      refine absurd ?_ hts
      rw [eventsOf, Option.elim_some, hevents]
      exact List.mem_map.mpr ⟨event, List.mem_append_right _ List.mem_cons_self, htime⟩
  · rintro ⟨hanew, hlast⟩ ts later hlater
    have hdropped : recordInto (recordCalls number none calls) number repeated ts =
        recordCalls number none calls := by
      have hrepeats := repeatsLast_iff.mpr ⟨hkey, hlast⟩
      simp only [recordInto, hanew, hrepeats, Bool.false_eq_true, if_false, if_true]
    rw [hafter _ (hcons ts hlater), hafter _ hlater]
    show eventsOf (recordCalls number (recordInto (recordCalls number none calls) number repeated ts)
      later) = _
    rw [hdropped]

/-- The audit of a log, and repetitions. -/
theorem handoff_log_iff {number : Int} {first : HandoffCall × String} {rest : Timed}
    (habout : About number (first :: rest)) (hfirst : startEvents.contains first.1.eventType = true)
    (hrest : ∀ call ∈ rest, startEvents.contains call.1.eventType = false) :
    (∃ stored, recordAll (fun _ => none) (first :: rest) number = some stored ∧
      ((∃ types, auditEvents stored = .ok types) ↔
        let kept := keptFrom none ((first :: rest).map Prod.fst)
        kept.length ≤ 50 ∧ (∃ call ∈ kept, call.eventType = "closeout-started") ∧
          (typesOf (kept.map (·.eventType))).getLast? = some "closeout-complete")) ∧
    ∀ calls remaining, first :: rest = calls ++ remaining → ∀ repeated ∈ calls.map Prod.fst,
      repeated.key.isSome = true →
        ((∀ ts later, About number later →
          eventsOf (recordAll (fun _ => none) (calls ++ (repeated, ts) :: later) number) =
            eventsOf (recordAll (fun _ => none) (calls ++ later) number)) ↔
        startsAnew (recordAll (fun _ => none) calls number) repeated = false ∧
          calls.getLast?.bind (·.1.key) = repeated.key) := by
  refine ⟨audit_iff habout hfirst hrest, ?_⟩
  intro calls remaining hsplit repeated hrepeated hkey
  rw [hsplit] at habout
  have hcalls : About number calls := fun call hcall => habout call (List.mem_append_left _ hcall)
  obtain ⟨call, hcall, rfl⟩ := List.mem_map.mp hrepeated
  exact repetition_iff hcalls (hcalls call hcall) hkey

/-! ## Calls about one issue -/

/-- A call about issue 33. -/
def callOf (eventType : String) (idempotencyKey : Option String) : HandoffCall where
  issueNumber := some 33
  eventType
  state := "active"
  idempotencyKey

def created : HandoffCall := callOf "worktree-created" (some "create:33")

def shellOpened : HandoffCall := callOf "shell-opened" (some "shell:33")

/-- The calls of a closeout. -/
def closeout : Timed :=
  [(callOf "closeout-started" (some "closeout-started:33"), "t2"),
    (callOf "closeout-complete" (some "closeout-complete:33"), "t3")]

theorem handoff_log_iff_closeout :
    (∃ stored, recordAll (fun _ => none) ((created, "t1") :: closeout) 33 = some stored ∧
      ((∃ types, auditEvents stored = .ok types) ↔
        let kept := keptFrom none (((created, "t1") :: closeout).map Prod.fst)
        kept.length ≤ 50 ∧ (∃ call ∈ kept, call.eventType = "closeout-started") ∧
          (typesOf (kept.map (·.eventType))).getLast? = some "closeout-complete")) ∧
    ∀ calls remaining, (created, "t1") :: closeout = calls ++ remaining →
      ∀ repeated ∈ calls.map Prod.fst, repeated.key.isSome = true →
        ((∀ ts later, About 33 later →
          eventsOf (recordAll (fun _ => none) (calls ++ (repeated, ts) :: later) 33) =
            eventsOf (recordAll (fun _ => none) (calls ++ later) 33)) ↔
        startsAnew (recordAll (fun _ => none) calls 33) repeated = false ∧
          calls.getLast?.bind (·.1.key) = repeated.key) := by
  refine handoff_log_iff ?_ (by decide) (by decide)
  exact List.forall_mem_cons.mpr ⟨rfl, List.forall_mem_cons.mpr ⟨rfl,
    List.forall_mem_singleton.mpr rfl⟩⟩

/-- The runs of an agent between a start and a closeout. -/
def agentRuns : Timed := List.replicate 49 (callOf "agent-run" none, "t")

/-- With 49 more calls the start is cut off; and a repetition of the start, after another call, is
    stored once more. -/
theorem handoff_log_not_kept :
    (∃ stored, recordAll (fun _ => none) ((created, "t1") :: (agentRuns ++ closeout)) 33 =
        some stored ∧ ¬ ∃ types, auditEvents stored = .ok types) ∧
    (eventsOf (recordAll (fun _ => none) [(created, "t1"), (shellOpened, "t2")] 33)).length = 2 ∧
    (eventsOf (recordAll (fun _ => none)
      [(created, "t1"), (shellOpened, "t2"), (created, "t3")] 33)).length = 3 := by
  refine ⟨?_, rfl, rfl⟩
  have hruns {P : HandoffCall × String → Prop} (hrun : P (callOf "agent-run" none, "t"))
      (hcloseout : ∀ call ∈ closeout, P call) : ∀ call ∈ agentRuns ++ closeout, P call := by
    refine List.forall_mem_append.mpr ⟨fun call hcall => ?_, hcloseout⟩
    rw [List.eq_of_mem_replicate hcall]
    exact hrun
  have habout : About 33 ((created, "t1") :: (agentRuns ++ closeout)) :=
    List.forall_mem_cons.mpr ⟨rfl, hruns rfl
      (List.forall_mem_cons.mpr ⟨rfl, List.forall_mem_singleton.mpr rfl⟩)⟩
  obtain ⟨stored, hstored, hiff⟩ := audit_iff habout (by decide) (hruns (by decide) (by decide))
  refine ⟨stored, hstored, fun hpasses => ?_⟩
  exact absurd (hiff.mp hpasses).1 (by decide)

end A5cCell.IssueTool
