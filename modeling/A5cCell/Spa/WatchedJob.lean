import A5cCell.Spa.JobPolling
import Mathlib.Data.List.DropRight
import Mathlib.Tactic.Tauto

/-!
# The job a page watches

`Watch` is what `useJobPolling` is for: the job that is watched, and what the requests made for it
since were answered. What the hook shows is a function of that alone, whatever was answered to requests
of earlier runs of its effect, and its timer runs for as long as no answer has ended the polling
(`polling_shows_watched`).

The answer to a request of an earlier run does leave a trace: it lowers `inFlightRef`, and the timer
may then send a second request beside one that waits. So requests overlap, and answers come after the
one that ended the polling, at most as often as such answers came (`polling_overlaps_at_most`).
-/

namespace A5cCell.Spa

open Py

/-! ## What is watched -/

/-- The data an answer brings. -/
def PollAnswer.data? : PollAnswer → Option Val
  | .ok data => some data
  | .error _ => none

section

variable (nullRead : String)

/-- What an answer shows as an error. -/
def PollAnswer.error? : PollAnswer → Option String
  | .ok data =>
    match isTerminalJob nullRead data with
    | .error error => some (formatApiErrorMessage error)
    | .ok _ => none
  | .error error => some (formatApiErrorMessage error)

/-- Whether an answer ends the polling: the job has ended, or there is an error. -/
def PollAnswer.ends : PollAnswer → Bool
  | .ok data =>
    match isTerminalJob nullRead data with
    | .error _ => true
    | .ok terminal => terminal
  | .error _ => true

/-- The job that is watched, what the requests of this watch were answered so far, and how many
    requests of earlier ones were answered meanwhile. -/
structure Watch where
  jobId : Option String := none
  mounted : Bool := false
  answers : List PollAnswer := []
  superseded : ℕ := 0

namespace Watch

def status (w : Watch) : Val := ((w.answers.filterMap PollAnswer.data?).getLast?).getD .none

def error (w : Watch) : Option String := (w.answers.filterMap (PollAnswer.error? nullRead)).getLast?

def ended (w : Watch) : Bool := w.answers.any (PollAnswer.ends nullRead)

def loading (w : Watch) : Bool := w.jobId.isSome && !w.ended nullRead

/-- The answers that came after the one that ended the polling. -/
def late (w : Watch) : List PollAnswer :=
  (w.answers.dropWhile (!PollAnswer.ends nullRead ·)).tail

/-- What an event adds to the account of the watch. -/
def next (w : Watch) (m : Runs.Moment JobPolling PollingEvent (List String)) : Watch :=
  match m.event with
  | .changed jobId =>
    let jobId := truthyText jobId
    { jobId, mounted := jobId.isSome }
  | .unmounted => { w with mounted := false }
  | .tick _ => w
  | .answered request answer =>
    match m.before.requests[request]? with
    | none => w
    | some poller =>
      if m.before.active = some poller.run then { w with answers := w.answers ++ [answer] }
      else { w with superseded := w.superseded + 1 }

end Watch

/-- The account of the last watch of a run. -/
def watched (trace : List (Runs.Moment JobPolling PollingEvent (List String))) : Watch :=
  trace.foldl Watch.next {}

/-- The requests of the active run that wait. -/
def JobPolling.waiting (s : JobPolling) : List Poller :=
  s.requests.filter fun poller => s.active = some poller.run

/-! ## What an answer adds -/

variable {nullRead} {s : JobPolling} {w : Watch}

/-- The watch with one more answer. -/
def Watch.taking (w : Watch) (answer : PollAnswer) : Watch :=
  { w with answers := w.answers ++ [answer] }

theorem Watch.status_taking (answer : PollAnswer) :
    (w.taking answer).status = answer.data?.getD w.status := by
  unfold Watch.status Watch.taking
  rw [List.filterMap_append]
  cases answer with
  | ok data => simp [PollAnswer.data?]
  | error error => simp [PollAnswer.data?]

theorem Watch.error_taking (answer : PollAnswer) :
    (w.taking answer).error nullRead = (answer.error? nullRead).or (w.error nullRead) := by
  unfold Watch.error Watch.taking
  rw [List.filterMap_append]
  cases h : answer.error? nullRead with
  | some message => simp [h]
  | none => simp [h]

theorem Watch.ended_taking (answer : PollAnswer) :
    (w.taking answer).ended nullRead = (w.ended nullRead || answer.ends nullRead) := by
  simp [Watch.ended, Watch.taking]

theorem Watch.loading_taking (answer : PollAnswer) :
    (w.taking answer).loading nullRead = (w.loading nullRead && !answer.ends nullRead) := by
  unfold Watch.loading
  rw [ended_taking, Bool.not_or, Bool.and_assoc]
  rfl

/-- Nothing is late while nothing has ended the polling. -/
theorem Watch.late_of_not_ended (h : w.ended nullRead = false) : w.late nullRead = [] := by
  have hall : ∀ a ∈ w.answers, (!PollAnswer.ends nullRead a) = true := by
    intro a ha
    have := List.any_eq_false.mp h a ha
    simpa using this
  rw [Watch.late, List.dropWhile_eq_nil_iff.mpr hall]
  rfl

/-- The answer that ends the polling is not late. -/
theorem Watch.late_taking_of_not_ended {answer : PollAnswer} (h : w.ended nullRead = false) :
    (w.taking answer).late nullRead = [] := by
  have hall : ∀ a ∈ w.answers, (!PollAnswer.ends nullRead a) = true := by
    intro a ha
    have := List.any_eq_false.mp h a ha
    simpa using this
  unfold Watch.late Watch.taking
  rw [List.dropWhile_append_of_pos hall]
  cases he : PollAnswer.ends nullRead answer with
  | true => simp [he]
  | false => simp [he]

/-- Every answer after it is. -/
theorem Watch.length_late_taking {answer : PollAnswer} (h : w.ended nullRead = true) :
    ((w.taking answer).late nullRead).length = (w.late nullRead).length + 1 := by
  obtain ⟨a, ha, hends⟩ := List.any_eq_true.mp h
  have hne : w.answers.dropWhile (!PollAnswer.ends nullRead ·) ≠ [] := by
    intro hnil
    have := List.dropWhile_eq_nil_iff.mp hnil a ha
    simp [hends] at this
  unfold Watch.late Watch.taking
  rw [List.dropWhile_append, if_neg (by simpa using hne)]
  cases hd : w.answers.dropWhile (!PollAnswer.ends nullRead ·) with
  | nil => exact absurd hd hne
  | cons b rest => simp

/-! ## The hook in its watch -/

variable (nullRead) in
/-- The run whose interval is to be running: the active one, until its polling has ended. -/
def Watch.poller? (w : Watch) (run : ℕ) : Option Poller :=
  if w.mounted && !w.ended nullRead then w.jobId.map (Poller.mk run) else none

variable (nullRead s w) in
/-- The hook's state as its watch tells it. -/
structure Follows : Prop where
  status : s.status = w.status
  error : s.error = w.error nullRead
  loading : s.loading = w.loading nullRead
  intervals : s.intervals = (w.poller? nullRead s.runs).toList
  timer : s.timerRef = (w.poller? nullRead s.runs).map (·.run)
  active : s.active = if w.mounted then some s.runs else none
  runs : ∀ poller ∈ s.requests, poller.run ≤ s.runs
  jobs : ∀ poller ∈ s.waiting, w.jobId = some poller.jobId
  sent : s.inFlightRef → s.waiting ≠ []
  overlap : w.ended nullRead = false → s.waiting.length ≤ w.superseded + s.inFlightRef.toNat
  late : w.ended nullRead = true →
    (w.late nullRead).length + s.waiting.length ≤ w.superseded

theorem JobPolling.clearTimer_eq {poller : Option Poller} (hi : s.intervals = poller.toList)
    (ht : s.timerRef = poller.map (·.run)) :
    s.clearTimer = { s with intervals := [], timerRef := none } := by
  unfold JobPolling.clearTimer
  cases poller with
  | none =>
    rw [Option.map_none] at ht
    rw [ht]
    cases s
    simp_all
  | some poller =>
    rw [Option.map_some] at ht
    rw [ht, hi]
    simp

/-- What an answer makes of a run that is active. -/
theorem JobPolling.received_eq {poller : Option Poller} (hi : s.intervals = poller.toList)
    (ht : s.timerRef = poller.map (·.run)) (answer : PollAnswer) :
    s.received nullRead answer =
      { s with
        status := answer.data?.getD s.status
        error := (answer.error? nullRead).or s.error
        loading := s.loading && !answer.ends nullRead
        intervals := if answer.ends nullRead then [] else s.intervals
        timerRef := if answer.ends nullRead then none else s.timerRef } := by
  have hfailed : ∀ status error, { s with status }.failed error =
      { s with
        status, error := some (formatApiErrorMessage error), loading := false, intervals := [],
        timerRef := none } := by
    intro status error
    exact JobPolling.clearTimer_eq hi ht
  cases answer with
  | error error =>
    have := hfailed s.status error
    simpa [JobPolling.received, PollAnswer.data?, PollAnswer.error?, PollAnswer.ends] using this
  | ok data =>
    have hclear : { s with status := data }.clearTimer =
        { s with status := data, intervals := [], timerRef := none } :=
      JobPolling.clearTimer_eq hi ht
    cases hterminal : isTerminalJob nullRead data with
    | error error =>
      simp [JobPolling.received, PollAnswer.data?, PollAnswer.error?, PollAnswer.ends, hterminal,
        hfailed]
    | ok terminal =>
      cases terminal <;>
        simp [JobPolling.received, PollAnswer.data?, PollAnswer.error?, PollAnswer.ends, hterminal,
          hclear]

/-! ## What a step keeps -/

theorem JobPolling.waiting_eq_nil (h : s.active = none) : s.waiting = [] := by
  simp [JobPolling.waiting, h]

theorem Follows.not_sending (h : Follows nullRead s w) (hactive : s.active = none) :
    s.inFlightRef = false := by
  cases hsent : s.inFlightRef with
  | false => rfl
  | true => exact absurd (JobPolling.waiting_eq_nil hactive) (h.sent hsent)

theorem Follows.cleanUp (h : Follows nullRead s w) :
    Follows nullRead s.cleanUp { w with mounted := false } := by
  have hpoller : Watch.poller? nullRead { w with mounted := false } s.runs = none := by
    simp [Watch.poller?]
  cases hactive : s.active with
  | none =>
    -- No run is active, so its cleanup has run before, or there was none.
    have hmounted : w.mounted = false := by
      cases hm : w.mounted with
      | false => rfl
      | true => rw [h.active, hm] at hactive; cases hactive
    have hsame : { w with mounted := false } = w := by rw [← hmounted]
    unfold JobPolling.cleanUp
    rw [hactive, hsame]
    exact h
  | some run =>
    have heq : s.cleanUp =
        { s with active := none, intervals := [], timerRef := none, inFlightRef := false } := by
      unfold JobPolling.cleanUp
      rw [hactive]
      exact congrArg (fun t : JobPolling => { t with inFlightRef := false })
        (JobPolling.clearTimer_eq (s := { s with active := none }) h.intervals h.timer)
    have hnone : s.cleanUp.waiting = [] := JobPolling.waiting_eq_nil (by rw [heq])
    exact
      { status := by rw [heq]; exact h.status
        error := by rw [heq]; exact h.error
        loading := by rw [heq]; exact h.loading
        intervals := by rw [heq, hpoller]; rfl
        timer := by rw [heq, hpoller]; rfl
        active := by rw [heq]; rfl
        runs := by rw [heq]; exact h.runs
        jobs := by rw [hnone]; intro poller hmem; cases hmem
        sent := by rw [heq]; intro hsent; cases hsent
        overlap := by intro hended; rw [hnone]; exact Nat.zero_le _
        late := by
          intro hended
          rw [hnone]
          exact Nat.le_trans (Nat.add_le_add_left (Nat.zero_le _) _) (h.late hended) }

theorem Follows.poll {jobId : String} (h : Follows nullRead s w) (hmounted : w.mounted = true)
    (hended : w.ended nullRead = false) (hjob : w.jobId = some jobId) :
    Follows nullRead (s.poll ⟨s.runs, jobId⟩).1 w := by
  have hactive : s.active = some s.runs := by rw [h.active, if_pos hmounted]
  cases hsent : s.inFlightRef with
  | true =>
    rw [JobPolling.poll, if_pos (Or.inr hsent)]
    exact h
  | false =>
    have heq : s.poll ⟨s.runs, jobId⟩ =
        ({ s with inFlightRef := true, requests := s.requests ++ [⟨s.runs, jobId⟩] },
          [Poller.path ⟨s.runs, jobId⟩]) := by
      rw [JobPolling.poll, if_neg (by simp [hactive, hsent])]
    have hwaiting : (s.poll ⟨s.runs, jobId⟩).1.waiting = s.waiting ++ [⟨s.runs, jobId⟩] := by
      rw [heq]
      simp [JobPolling.waiting, hactive]
    exact
      { status := by rw [heq]; exact h.status
        error := by rw [heq]; exact h.error
        loading := by rw [heq]; exact h.loading
        intervals := by rw [heq]; exact h.intervals
        timer := by rw [heq]; exact h.timer
        active := by rw [heq]; exact h.active
        runs := by
          rw [heq]
          intro poller hmem
          rcases List.mem_append.mp hmem with hmem | hmem
          · exact h.runs poller hmem
          · rw [List.mem_singleton.mp hmem]
        jobs := by
          rw [hwaiting]
          intro poller hmem
          rcases List.mem_append.mp hmem with hmem | hmem
          · exact h.jobs poller hmem
          · rw [List.mem_singleton.mp hmem]; exact hjob
        sent := by rw [hwaiting]; intro _; simp
        overlap := by
          intro _
          -- With the flag down, the bound leaves room for the request that is sent.
          have hbefore := h.overlap hended
          rw [hsent] at hbefore
          rw [hwaiting, heq, List.length_append]
          exact Nat.add_le_add_right hbefore 1
        late := by intro hends; rw [hended] at hends; cases hends }

section

variable {jobId : Option String} (hclear : s.clearTimer = s)

include hclear

theorem JobPolling.effect_none (hjob : truthyText jobId = none) :
    s.effect jobId =
      ({ s with status := .none, error := none, loading := false, inFlightRef := false }, []) := by
  simp [JobPolling.effect, hclear, hjob]

theorem JobPolling.effect_some {job : String} (hjob : truthyText jobId = some job)
    (hsent : s.inFlightRef = false) :
    s.effect jobId =
      ({ s with
          status := .none, error := none, loading := true, inFlightRef := true,
          active := some (s.runs + 1), runs := s.runs + 1, timerRef := some (s.runs + 1),
          intervals := s.intervals ++ [⟨s.runs + 1, job⟩],
          requests := s.requests ++ [⟨s.runs + 1, job⟩] },
        [Poller.path ⟨s.runs + 1, job⟩]) := by
  simp [JobPolling.effect, hclear, hjob, JobPolling.poll, hsent, JobPolling.setInterval]

end

/-- The effect begins a new watch, where the run before it was cleaned up. -/
theorem Follows.effect (h : Follows nullRead s w) (hmounted : w.mounted = false)
    (jobId : Option String) :
    Follows nullRead (s.effect jobId).1
      { jobId := truthyText jobId, mounted := (truthyText jobId).isSome } := by
  have hactive : s.active = none := by rw [h.active, hmounted]; rfl
  have hidle : w.poller? nullRead s.runs = none := by simp [Watch.poller?, hmounted]
  have hintervals : s.intervals = [] := by rw [h.intervals, hidle]; rfl
  have htimer : s.timerRef = none := by rw [h.timer, hidle]; rfl
  have hclear : s.clearTimer = s := by rw [JobPolling.clearTimer, htimer]
  have hsent := h.not_sending hactive
  cases hjob : truthyText jobId with
  | none =>
    rw [JobPolling.effect_none hclear hjob]
    generalize ht : JobPolling.mk .. = t
    have hnone : t.waiting = [] := JobPolling.waiting_eq_nil (by rw [← ht]; exact hactive)
    exact
      { status := by rw [← ht]; rfl
        error := by rw [← ht]; rfl
        loading := by rw [← ht]; rfl
        intervals := by rw [← ht]; exact hintervals
        timer := by rw [← ht]; exact htimer
        active := by rw [← ht]; exact hactive
        runs := by rw [← ht]; exact h.runs
        jobs := by rw [hnone]; intro poller hmem; cases hmem
        sent := by rw [← ht]; intro hsent; cases hsent
        overlap := by intro _; rw [hnone]; exact Nat.zero_le _
        late := by intro hends; cases hends }
  | some job =>
    rw [JobPolling.effect_some hclear hjob hsent]
    generalize ht : JobPolling.mk .. = t
    -- Requests of earlier runs still wait, but none has the number of the new run.
    have hold : ∀ poller ∈ s.requests, ¬poller.run = s.runs + 1 := by
      intro poller hmem heq
      have := h.runs poller hmem
      omega
    have hwaiting : t.waiting = [⟨s.runs + 1, job⟩] := by
      have hnone : s.requests.filter (fun poller => some (s.runs + 1) = some poller.run) = [] := by
        rw [List.filter_eq_nil_iff]
        intro poller hmem heq
        exact hold poller hmem (Option.some.inj (of_decide_eq_true heq)).symm
      rw [← ht, JobPolling.waiting, List.filter_append, hnone]
      simp
    have hruns : t.runs = s.runs + 1 := by rw [← ht]
    exact
      { status := by rw [← ht]; rfl
        error := by rw [← ht]; rfl
        loading := by rw [← ht]; rfl
        intervals := by rw [hruns, ← ht, hintervals]; rfl
        timer := by rw [hruns, ← ht]; rfl
        active := by rw [hruns, ← ht]; rfl
        runs := by
          rw [hruns, ← ht]
          intro poller hmem
          rcases List.mem_append.mp hmem with hmem | hmem
          · exact Nat.le_succ_of_le (h.runs poller hmem)
          · rw [List.mem_singleton.mp hmem]
        jobs := by
          rw [hwaiting]
          intro poller hmem
          rw [List.mem_singleton.mp hmem]
        sent := by rw [hwaiting]; intro _; simp
        overlap := by intro _; rw [hwaiting, ← ht]; exact Nat.le_refl _
        late := by intro hends; cases hends }

/-- A request that is answered waits no more; the others still do. -/
theorem length_filter_eraseIdx {q : Poller → Bool} {requests : List Poller} {request : ℕ}
    {poller : Poller} (hget : requests[request]? = some poller) :
    ((requests.eraseIdx request).filter q).length + (if q poller then 1 else 0) =
      (requests.filter q).length := by
  obtain ⟨hlt, rfl⟩ := List.getElem?_eq_some_iff.mp hget
  have hperm := (List.getElem_cons_eraseIdx_perm hlt).filter q
  rw [← hperm.length_eq, List.filter_cons]
  split <;> rfl

/-- Nor does any request wait that did not before. -/
theorem JobPolling.waiting_of_answered {t : JobPolling} {request : ℕ}
    (hrequests : t.requests = s.requests.eraseIdx request) (hactive : t.active = s.active) :
    ∀ other ∈ t.waiting, other ∈ s.waiting := by
  rw [JobPolling.waiting, hrequests, hactive]
  exact ((List.eraseIdx_sublist _ _).filter _).subset

theorem Follows.runs_of_answered (h : Follows nullRead s w) {request : ℕ} {other : Poller}
    (hmem : other ∈ s.requests.eraseIdx request) : other.run ≤ s.runs :=
  h.runs other ((List.eraseIdx_sublist _ _).subset hmem)

theorem Watch.poller?_taking (answer : PollAnswer) (run : ℕ) :
    (w.taking answer).poller? nullRead run =
      if answer.ends nullRead then none else w.poller? nullRead run := by
  unfold Watch.poller?
  rw [Watch.ended_taking]
  cases answer.ends nullRead <;> simp [Watch.taking]

section

variable {request : ℕ} {poller : Poller} (h : Follows nullRead s w)
  (hget : s.requests[request]? = some poller)

include h hget

/-- A request of the active run is answered. -/
theorem Follows.answered (hactive : s.active = some poller.run) (answer : PollAnswer) :
    Follows nullRead
      ({ s with requests := s.requests.eraseIdx request }.settled nullRead poller answer)
      (w.taking answer) := by
  have heq : { s with requests := s.requests.eraseIdx request }.settled nullRead poller answer =
      { s with
        requests := s.requests.eraseIdx request
        status := answer.data?.getD s.status
        error := (answer.error? nullRead).or s.error
        loading := s.loading && !answer.ends nullRead
        intervals := if answer.ends nullRead then [] else s.intervals
        timerRef := if answer.ends nullRead then none else s.timerRef
        inFlightRef := false } := by
    unfold JobPolling.settled
    rw [if_pos hactive]
    exact congrArg (fun t : JobPolling => { t with inFlightRef := false })
      (JobPolling.received_eq (s := { s with requests := s.requests.eraseIdx request }) h.intervals
        h.timer answer)
  rw [heq]
  generalize ht : JobPolling.mk .. = t
  have hruns : t.runs = s.runs := by rw [← ht]
  have hlength : t.waiting.length + 1 = s.waiting.length := by
    have := length_filter_eraseIdx (q := fun poller => s.active = some poller.run) hget
    rw [if_pos (decide_eq_true hactive)] at this
    rw [← ht]
    exact this
  have hsub : ∀ other ∈ t.waiting, other ∈ s.waiting :=
    @JobPolling.waiting_of_answered s t request (by rw [← ht]) (by rw [← ht])
  exact
    { status := by rw [← ht, Watch.status_taking, ← h.status]
      error := by rw [← ht, Watch.error_taking, ← h.error]
      loading := by rw [← ht, Watch.loading_taking, ← h.loading]
      intervals := by
        rw [hruns, ← ht, Watch.poller?_taking, h.intervals]
        split <;> rfl
      timer := by
        rw [hruns, ← ht, Watch.poller?_taking, h.timer]
        split <;> rfl
      active := by rw [hruns, ← ht]; exact h.active
      runs := by
        rw [hruns, ← ht]
        exact fun other => h.runs_of_answered
      jobs := by
        intro other hmem
        exact h.jobs other (hsub other hmem)
      sent := by rw [← ht]; intro hsent; cases hsent
      overlap := by
        intro hended
        rw [Watch.ended_taking, Bool.or_eq_false_iff] at hended
        have hbefore := h.overlap hended.1
        have hone := Bool.toNat_le s.inFlightRef
        show t.waiting.length ≤ w.superseded + _
        omega
      late := by
        intro _
        show _ ≤ w.superseded
        cases hended : w.ended nullRead with
        -- This answer ends the polling: what waits besides it was let out by superseded ones.
        | false =>
          have hbefore := h.overlap hended
          have hone := Bool.toNat_le s.inFlightRef
          rw [Watch.late_taking_of_not_ended hended, List.length_nil]
          omega
        | true =>
          have hbefore := h.late hended
          rw [Watch.length_late_taking hended]
          omega }

/-- A request of an earlier run is answered. -/
theorem Follows.superseded (hactive : ¬s.active = some poller.run) (answer : PollAnswer) :
    Follows nullRead
      ({ s with requests := s.requests.eraseIdx request }.settled nullRead poller answer)
      { w with superseded := w.superseded + 1 } := by
  unfold JobPolling.settled
  rw [if_neg hactive]
  generalize ht : JobPolling.mk .. = t
  have hlength : t.waiting.length = s.waiting.length := by
    have := length_filter_eraseIdx (q := fun poller => s.active = some poller.run) hget
    rw [if_neg (by simpa using hactive)] at this
    rw [← ht]
    exact this
  have hsub : ∀ other ∈ t.waiting, other ∈ s.waiting :=
    @JobPolling.waiting_of_answered s t request (by rw [← ht]) (by rw [← ht])
  exact
    { status := by rw [← ht]; exact h.status
      error := by rw [← ht]; exact h.error
      loading := by rw [← ht]; exact h.loading
      intervals := by rw [← ht]; exact h.intervals
      timer := by rw [← ht]; exact h.timer
      active := by rw [← ht]; exact h.active
      runs := by
        rw [← ht]
        exact fun other => h.runs_of_answered
      jobs := by
        intro other hmem
        exact h.jobs other (hsub other hmem)
      sent := by rw [← ht]; intro hsent; cases hsent
      overlap := by
        -- The flag goes down while a request of this run may wait; the answer is counted for it.
        intro hended
        have hbefore := h.overlap hended
        have hone := Bool.toNat_le s.inFlightRef
        show t.waiting.length ≤ w.superseded + 1 + _
        omega
      late := by
        intro hended
        have hbefore := h.late hended
        show (w.late nullRead).length + _ ≤ w.superseded + 1
        omega }

end

/-! ## What a run keeps -/

theorem follows_step (event : PollingEvent) (h : Follows nullRead s w) :
    Follows nullRead (pollingStep nullRead s event).1
      (w.next ⟨s, event, (pollingStep nullRead s event).2⟩) := by
  cases event with
  | changed jobId => exact h.cleanUp.effect rfl jobId
  | unmounted => exact h.cleanUp
  | tick run =>
    simp only [pollingStep]
    cases hfind : s.intervals.find? (·.run = run) with
    | none => exact h
    | some poller =>
      -- The interval that fires is the one the invariant allows: that of the active run.
      have hmem := List.mem_of_find?_eq_some hfind
      rw [h.intervals, Option.mem_toList, Watch.poller?] at hmem
      split at hmem
      · rename_i hopen
        obtain ⟨jobId, hjob, rfl⟩ := Option.map_eq_some_iff.mp hmem
        rw [Bool.and_eq_true, Bool.not_eq_true'] at hopen
        exact h.poll hopen.1 hopen.2 hjob
      · cases hmem
  | answered request answer =>
    simp only [pollingStep, Watch.next]
    cases hget : s.requests[request]? with
    | none => exact h
    | some poller =>
      dsimp only
      split
      · rename_i hactive
        exact h.answered hget hactive answer
      · rename_i hactive
        exact h.superseded hget hactive answer

theorem follows_initial : Follows nullRead {} {} where
  status := rfl
  error := rfl
  loading := rfl
  intervals := rfl
  timer := rfl
  active := rfl
  runs := by intro poller hmem; cases hmem
  jobs := by intro poller hmem; cases hmem
  sent := by intro hsent; cases hsent
  overlap := by intro _; exact Nat.le_refl 0
  late := by intro hends; cases hends

theorem follows_final (events : List PollingEvent) :
    Follows nullRead (Runs.final (pollingStep nullRead) {} events)
      (watched (Runs.trace (pollingStep nullRead) {} events)) :=
  Runs.related_final (R := Follows nullRead) (fun _ _ event h => follows_step event h)
    follows_initial

/-! ## What the page sees -/

variable (nullRead s w) in
/-- The page shows what the requests for the watched job were answered; requests for it alone are
    waiting. Until an answer has ended the polling, an interval runs for it, and no other interval
    does; when it fires it sends a request, unless one waits already. -/
structure ShowsWatched : Prop where
  status : s.status = w.status
  error : s.error = w.error nullRead
  loading : s.loading = w.loading nullRead
  asks : ∀ poller ∈ s.waiting, w.jobId = some poller.jobId
  intervals : s.intervals = (w.poller? nullRead s.runs).toList
  polls : ∀ poller ∈ s.intervals,
    (pollingStep nullRead s (.tick poller.run)).2 = [poller.path] ∨ s.waiting ≠ []

theorem Follows.polls (h : Follows nullRead s w) {poller : Poller} (hmem : poller ∈ s.intervals) :
    (pollingStep nullRead s (.tick poller.run)).2 = [poller.path] ∨ s.waiting ≠ [] := by
  cases hsent : s.inFlightRef with
  | true => exact Or.inr (h.sent hsent)
  | false =>
    left
    have hone : w.poller? nullRead s.runs = some poller := by
      rw [h.intervals, Option.mem_toList] at hmem
      exact hmem
    have hintervals : s.intervals = [poller] := by rw [h.intervals, hone]; rfl
    have hactive : s.active = some poller.run := by
      rw [Watch.poller?] at hone
      split at hone
      · rename_i hopen
        obtain ⟨jobId, hjob, rfl⟩ := Option.map_eq_some_iff.mp hone
        rw [h.active, if_pos (Bool.and_eq_true_iff.mp hopen).1]
      · cases hone
    simp [pollingStep, hintervals, JobPolling.poll, hactive, hsent]

/-- **A page shows the job it watches.** In every run of the hook, whatever its requests and those of
    earlier watches were answered, and in whatever order. -/
theorem polling_shows_watched (nullRead : String) (events : List PollingEvent) :
    ShowsWatched nullRead (Runs.final (pollingStep nullRead) {} events)
      (watched (Runs.trace (pollingStep nullRead) {} events)) := by
  have h := @follows_final nullRead events
  exact
    { status := h.status
      error := h.error
      loading := h.loading
      asks := h.jobs
      intervals := h.intervals
      polls := fun _ hmem => h.polls hmem }

/-- Where nothing came late, no answer but the last has ended the polling. -/
theorem Watch.ends_only_last (h : w.late nullRead = []) :
    ∀ answer ∈ w.answers.dropLast, answer.ends nullRead = false := by
  unfold Watch.late at h
  generalize w.answers = answers at h ⊢
  induction answers with
  | nil => intro answer hmem; cases hmem
  | cons first rest ih =>
    intro answer hmem
    cases hfirst : first.ends nullRead with
    | true =>
      rw [List.dropWhile_cons_of_neg (by simp [hfirst]), List.tail_cons] at h
      rw [h] at hmem
      cases hmem
    | false =>
      rw [List.dropWhile_cons_of_pos (by simp [hfirst])] at h
      cases rest with
      | nil => cases hmem
      | cons second rest =>
        rcases List.mem_cons.mp hmem with rfl | hmem
        · exact hfirst
        · exact ih h answer hmem

/-- **Requests overlap as often as superseded ones are answered.** In every run of the hook, while the
    polling goes on, at most one request for the watched job waits besides one for each request of an
    earlier watch that was answered meanwhile; after it has ended, those that wait and those answered
    since are at most as many. So where none was, one request waits at a time, and the answer that
    ended the polling stays what the page shows. -/
theorem polling_overlaps_at_most (nullRead : String) (events : List PollingEvent) :
    let s := Runs.final (pollingStep nullRead) {} events
    let w := watched (Runs.trace (pollingStep nullRead) {} events)
    (w.ended nullRead = false → s.waiting.length ≤ w.superseded + 1) ∧
      (w.ended nullRead = true →
        (w.late nullRead).length + s.waiting.length ≤ w.superseded) ∧
      (w.superseded = 0 → ∀ answer ∈ w.answers.dropLast, answer.ends nullRead = false) := by
  have h := @follows_final nullRead events
  refine ⟨?_, h.late, ?_⟩
  · intro hended
    have hopen := h.overlap hended
    have hone := Bool.toNat_le (Runs.final (pollingStep nullRead) {} events).inFlightRef
    omega
  · intro hnone
    apply Watch.ends_only_last
    cases hended : (watched (Runs.trace (pollingStep nullRead) {} events)).ended nullRead with
    | false => exact Watch.late_of_not_ended hended
    | true =>
      have hlate := h.late hended
      exact List.length_eq_zero_iff.mp (by omega)

def jobAt (status : String) : Val := .dict [("status", .str status)]

-- An answer for the job watched before lets a second request out; answered last, it takes the page
-- back to a job that runs, and nothing asks again.
example :
    let s := Runs.final (pollingStep "") {}
      [.changed "old", .changed "new", .answered 0 (.ok (jobAt "running")), .tick 2,
        .answered 1 (.ok (jobAt "completed")), .answered 0 (.ok (jobAt "running"))]
    s.status = jobAt "running" ∧ s.loading = false ∧ s.intervals = [] := by
  exact ⟨rfl, rfl, rfl⟩

end

end A5cCell.Spa
