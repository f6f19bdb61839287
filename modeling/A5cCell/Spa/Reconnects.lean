import A5cCell.Spa.AgUiSession

/-!
# How often a session is opened again

A reconnect is to be given up after `maxReconnectAttempts` attempts. But each stream that is opened takes
the count of attempts back to nothing, so the count is at most what was open at once: a session with no
more streams than the limit goes on for as long as its streams fail (`reconnects_go_on`), and one with a
single stream does so any number of times (`reconnects_without_limit`).
-/

namespace A5cCell.Spa

open Py

variable (jsonParse : Text → Option Val) (agentName : Option String) {s : AgUiSession}

/-! ## What a step does to the count -/

theorem AgUiSession.startFailed_counts (error : SessionThrown) :
    (s.startFailed error).reconnectAttemptRef = s.reconnectAttemptRef ∧
      (s.startFailed error).streams = s.streams := by
  cases error with
  | error name message =>
    by_cases hname : name = "AbortError"
    · rw [AgUiSession.startFailed, if_pos hname]
      exact ⟨rfl, rfl⟩
    · rw [AgUiSession.startFailed, if_neg hname]
      exact ⟨rfl, rfl⟩
  | other => exact ⟨rfl, rfl⟩

/-- A stream that fails is taken out; it may be counted as one attempt. -/
theorem AgUiSession.streamFailed_counts (failed : AgUiStream) (error : SessionThrown) :
    (s.streamFailed failed error).1.reconnectAttemptRef ≤ s.reconnectAttemptRef + 1 ∧
      (s.streamFailed failed error).1.streams = s.streams := by
  unfold AgUiSession.streamFailed
  cases failed.resumes with
  | none =>
    obtain ⟨hattempts, hstreams⟩ := AgUiSession.startFailed_counts (s := s) error
    exact ⟨hattempts ▸ Nat.le_succ _, hstreams⟩
  | some bootstrap =>
    dsimp only
    split
    · exact ⟨Nat.le_succ _, rfl⟩
    · unfold AgUiSession.attemptReconnect
      split
      · exact ⟨Nat.le_succ _, rfl⟩
      · exact ⟨Nat.le_refl _, rfl⟩

/-- A step takes the count back to nothing, or counts no more than the streams it takes out. -/
theorem counts_step (event : SessionEvent) :
    (sessionStep jsonParse agentName s event).1.reconnectAttemptRef = 0 ∨
      (sessionStep jsonParse agentName s event).1.reconnectAttemptRef +
          (sessionStep jsonParse agentName s event).1.streams.length ≤
        s.reconnectAttemptRef + s.streams.length := by
  cases event with
  | start input =>
    simp only [sessionStep, AgUiSession.start]
    cases truthyText agentName with
    | none => exact .inr (Nat.le_refl _)
    | some name => exact .inl rfl
  | bootstrapped answer =>
    simp only [sessionStep]
    split
    · exact .inr (Nat.le_refl _)
    · cases answer with
      | ok bootstrap => exact .inl rfl
      | error error =>
        obtain ⟨hattempts, hstreams⟩ :=
          AgUiSession.startFailed_counts (s := { s with starting := s.starting - 1 }) error
        right
        simp only [AgUiSession.bootstrapped, hattempts, hstreams, Nat.le_refl]
  | received stream event now =>
    simp only [sessionStep]
    cases s.streams[stream]? with
    | none => exact .inr (Nat.le_refl _)
    | some stream' =>
      right
      simp only [AgUiSession.received]
      split
      · exact Nat.add_le_add_left (List.length_eraseIdx_le _ _) _
      · exact Nat.le_refl _
  | streamEnded stream =>
    simp only [sessionStep]
    cases s.streams[stream]? with
    | none => exact .inr (Nat.le_refl _)
    | some ended => exact .inr (Nat.add_le_add_left (List.length_eraseIdx_le _ _) _)
  | streamFailed stream error =>
    simp only [sessionStep]
    cases hfailed : s.streams[stream]? with
    | none => exact .inr (Nat.le_refl _)
    | some failed =>
      obtain ⟨hlt, -⟩ := List.getElem?_eq_some_iff.mp hfailed
      obtain ⟨hattempts, hstreams⟩ := AgUiSession.streamFailed_counts
        (s := { s with streams := s.streams.eraseIdx stream }) failed error
      have hlength := List.length_eraseIdx_of_lt hlt
      right
      simp only [hstreams] at hattempts ⊢
      omega
  | delayed delay =>
    simp only [sessionStep]
    cases s.delays[delay]? with
    | none => exact .inr (Nat.le_refl _)
    | some bootstrap =>
      simp only [AgUiSession.delayed]
      split
      · exact .inr (Nat.le_refl _)
      · exact .inl rfl
  | disconnect => exact .inr (Nat.le_refl _)
  | reconnect =>
    simp only [sessionStep, AgUiSession.reconnect]
    cases s.bootstrap with
    | none => exact .inr (Nat.le_refl _)
    | some bootstrap => exact .inl rfl
  | unmounted => exact .inr (Nat.le_refl _)

/-- The attempts counted and the streams that are open are together no more than were open at once. -/
def CountsWithin (limit : ℕ) (s : AgUiSession) : Prop :=
  s.reconnectAttemptRef + s.streams.length ≤ limit

theorem CountsWithin.step {limit : ℕ} (h : CountsWithin limit s) {event : SessionEvent}
    (hopen : (sessionStep jsonParse agentName s event).1.streams.length ≤ limit) :
    CountsWithin limit (sessionStep jsonParse agentName s event).1 := by
  unfold CountsWithin at h ⊢
  rcases counts_step jsonParse agentName (s := s) event with
    hzero | hcounts
  · omega
  · omega

/-! ## The limit -/

/-- Wherever a stream that a reconnect opened fails and was not aborted, it is to be opened again. -/
def GoesOn (trace : List (Runs.Moment AgUiSession SessionEvent (List SessionCall))) : Prop :=
  ∀ m ∈ trace, ∀ stream error controller bootstrap, m.event = .streamFailed stream error →
    m.before.streams[stream]? = some ⟨controller, some bootstrap⟩ → error.isAbort = false →
    m.response = [.setTimeout reconnectDelayMs]

/-- The stream fails, and is opened again after the delay. -/
def losing (lost : SessionThrown) : ℕ → List SessionEvent
  | 0 => []
  | n + 1 => .streamFailed 0 lost :: .delayed 0 :: losing lost n

/-- A session is made, its stream is lost, and the page has it opened again. -/
def reopening (bootstrap : Bootstrap) (lost : SessionThrown) : List SessionEvent :=
  [.start "", .bootstrapped (.ok bootstrap), .streamFailed 0 lost, .reconnect]

/-- **A session goes on.** In every run in which no more streams are open at once than the limit of
    attempts, whatever they bring and however often they fail, the limit gives up no reconnect. -/
theorem reconnects_go_on (jsonParse : Text → Option Val) (agentName : Option String)
    (events : List SessionEvent)
    (hopen : ∀ m ∈ Runs.trace (sessionStep jsonParse agentName) {} events,
      (sessionStep jsonParse agentName m.before m.event).1.streams.length ≤ maxReconnectAttempts) :
    GoesOn (Runs.trace (sessionStep jsonParse agentName) {} events) := by
  have hcounts : ∀ m ∈ Runs.trace (sessionStep jsonParse agentName) {} events,
      CountsWithin maxReconnectAttempts m.before := by
    refine Runs.inv_of_mem_trace (fun s event h hnext => h.step jsonParse agentName hnext) ?_ hopen
    exact Nat.zero_le _
  intro m hm stream error controller bootstrap hevent hstream habort
  have hwithin := hcounts m hm
  rw [Runs.response_of_mem_trace hm, hevent]
  obtain ⟨hlt, -⟩ := List.getElem?_eq_some_iff.mp hstream
  -- The stream that fails is still open itself, so fewer attempts are counted than the limit.
  have hbelow : ¬maxReconnectAttempts ≤ m.before.reconnectAttemptRef := by
    unfold CountsWithin at hwithin
    omega
  simp [sessionStep, hstream, AgUiSession.streamFailed, habort, AgUiSession.attemptReconnect, hbelow]

def echoBootstrap : Bootstrap := ⟨"session-1", "/v1/agents/echo-agent/stream"⟩

def failedToFetch : SessionThrown := .error "TypeError" "Failed to fetch"

theorem echo_goes_on :
    GoesOn (Runs.trace (sessionStep (fun _ => none) (some "echo-agent")) {}
      (reopening echoBootstrap failedToFetch ++ losing failedToFetch 4)) :=
  reconnects_go_on (fun _ => none) (some "echo-agent") _ (by decide +kernel)

/-! ## A stream that is lost again and again -/

/-- One stream is open, which is opened again where it fails. -/
structure Resuming (bootstrap : Bootstrap) (s : AgUiSession) : Prop where
  status : s.status = .connected
  attempts : s.reconnectAttemptRef = 0
  aborted : s.aborted = []
  streams : ∃ controller, s.streams = [⟨controller, some bootstrap⟩]
  delays : s.delays = []

/-- The delays that a run asks for. -/
def delaysOf (trace : List (Runs.Moment AgUiSession SessionEvent (List SessionCall))) : ℕ :=
  (trace.flatMap fun m => m.response).count (.setTimeout reconnectDelayMs)

section

variable {bootstrap : Bootstrap} {lost : SessionThrown}

/-- A stream that is lost is waited for, and opened again as it was. -/
theorem Resuming.lost_again (h : Resuming bootstrap s) (hlost : lost.isAbort = false) :
    ∃ t, sessionStep jsonParse agentName s (.streamFailed 0 lost) =
        (t, [.setTimeout reconnectDelayMs]) ∧ t.streams = [] ∧
      ∃ t', sessionStep jsonParse agentName t (.delayed 0) = (t', [.stream bootstrap.connectUrl]) ∧
        t'.streams.length = 1 ∧ Resuming bootstrap t' := by
  obtain ⟨controller, hstreams⟩ := h.streams
  refine ⟨{ s with
    streams := [], status := .reconnecting, reconnectAttemptRef := 1, delays := [bootstrap] },
    ?_, rfl, ?_⟩
  · simp [sessionStep, hstreams, AgUiSession.streamFailed, hlost, AgUiSession.attemptReconnect,
      h.attempts, h.delays, maxReconnectAttempts]
  · refine ⟨{ s with
      status := .connected, abortRef := some (s.controllers + 1), reconnectAttemptRef := 0
      controllers := s.controllers + 1, delays := []
      streams := [⟨s.controllers + 1, some bootstrap⟩] }, ?_, rfl, ?_⟩
    · simp [sessionStep, AgUiSession.delayed, h.aborted, AgUiSession.openStream]
    · exact
        { status := rfl
          attempts := rfl
          aborted := h.aborted
          streams := ⟨_, rfl⟩
          delays := rfl }

theorem Resuming.lost_often (h : Resuming bootstrap s) (hlost : lost.isAbort = false) (n : ℕ) :
    delaysOf (Runs.trace (sessionStep jsonParse agentName) s (losing lost n)) = n ∧
      (∀ m ∈ Runs.trace (sessionStep jsonParse agentName) s (losing lost n),
        (sessionStep jsonParse agentName m.before m.event).1.streams.length ≤ 1) ∧
      Resuming bootstrap
        (Runs.final (sessionStep jsonParse agentName) s (losing lost n)) := by
  induction n generalizing s with
  | zero => exact ⟨rfl, fun m hm => absurd hm List.not_mem_nil, h⟩
  | succ n ih =>
    obtain ⟨t, hlostStep, hnone, t', hopened, hone, hresuming⟩ :=
      h.lost_again jsonParse agentName hlost
    obtain ⟨hdelays, hopen, hfinal⟩ := ih hresuming
    have htrace : Runs.trace (sessionStep jsonParse agentName) s (losing lost (n + 1)) =
        ⟨s, .streamFailed 0 lost, [.setTimeout reconnectDelayMs]⟩ ::
          ⟨t, .delayed 0, [.stream bootstrap.connectUrl]⟩ ::
            Runs.trace (sessionStep jsonParse agentName) t' (losing lost n) := by
      simp only [losing, Runs.trace_cons, hlostStep, hopened]
    rw [htrace]
    refine ⟨?_, ?_, ?_⟩
    · have hcount : ∀ rest, delaysOf
          (⟨s, .streamFailed 0 lost, [.setTimeout reconnectDelayMs]⟩ ::
            ⟨t, .delayed 0, [.stream bootstrap.connectUrl]⟩ :: rest) = 1 + delaysOf rest := by
        intro rest
        simp [delaysOf, Nat.add_comm]
      rw [hcount, hdelays, Nat.add_comm]
    · rw [List.forall_mem_cons, List.forall_mem_cons]
      refine ⟨?_, ?_, hopen⟩
      · rw [hlostStep, hnone]
        exact Nat.zero_le _
      · rw [hopened, hone]
    · simp only [losing, Runs.final_cons, hlostStep, hopened]
      exact hfinal

/-- What `start` makes of an error that is no abort. -/
theorem AgUiSession.startFailed_eq (hlost : lost.isAbort = false) :
    ∃ message, s.startFailed lost = { s with status := .error, error := some message } := by
  cases lost with
  | other => exact ⟨_, rfl⟩
  | error name message =>
    have hname : ¬name = "AbortError" := by simpa [SessionThrown.isAbort] using hlost
    exact ⟨message, if_neg hname⟩

theorem resuming_reopening {name : String} (hname : truthyText agentName = some name)
    (hlost : lost.isAbort = false) :
    delaysOf (Runs.trace (sessionStep jsonParse agentName) {} (reopening bootstrap lost)) = 0 ∧
      (∀ m ∈ Runs.trace (sessionStep jsonParse agentName) {} (reopening bootstrap lost),
        (sessionStep jsonParse agentName m.before m.event).1.streams.length ≤ 1) ∧
      Resuming bootstrap
        (Runs.final (sessionStep jsonParse agentName) {} (reopening bootstrap lost)) := by
  let made : AgUiSession :=
    { status := .connected, bootstrap := some bootstrap, sessionId := some bootstrap.sessionId
      abortRef := some 1, controllers := 1 }
  obtain ⟨message, hlostOnce⟩ := AgUiSession.startFailed_eq (s := made) hlost
  have hstart : sessionStep jsonParse agentName {} (.start "") =
      ({ status := .bootstrapping, starting := 1 }, [.bootstrapAgUiSession name none]) := by
    rw [sessionStep, AgUiSession.start, hname]
    rfl
  have hmade : sessionStep jsonParse agentName { status := .bootstrapping, starting := 1 }
      (.bootstrapped (.ok bootstrap)) =
        ({ made with streams := [⟨1, none⟩] }, [.stream bootstrap.connectUrl]) := rfl
  have hfailed : sessionStep jsonParse agentName { made with streams := [⟨1, none⟩] }
      (.streamFailed 0 lost) = ({ made with status := .error, error := some message }, []) :=
    congrArg (·, []) hlostOnce
  have hreopened : sessionStep jsonParse agentName
      { made with status := .error, error := some message } .reconnect =
        ({ made with abortRef := some 2, controllers := 2, streams := [⟨2, some bootstrap⟩] },
          [.stream bootstrap.connectUrl]) := rfl
  simp only [reopening, Runs.trace_cons, Runs.trace_nil, Runs.final_cons, Runs.final_nil, hstart,
    hmade, hfailed, hreopened]
  refine ⟨rfl, ?_, ⟨rfl, rfl, rfl, ⟨2, rfl⟩, rfl⟩⟩
  simp only [List.forall_mem_cons, hstart, hmade, hfailed, hreopened, List.not_mem_nil,
    false_imp_iff, implies_true, and_true, List.length_nil, List.length_singleton]
  exact ⟨Nat.zero_le _, Nat.le_refl _, Nat.zero_le _, Nat.le_refl _⟩

end

/-- **A session goes on without a limit.** A page has a session made, loses its stream and has it opened
    again: however often it is lost then, it is waited for and opened once more, one stream at a time. -/
theorem reconnects_without_limit (jsonParse : Text → Option Val) (agentName : String)
    (bootstrap : Bootstrap) (lost : SessionThrown) (n : ℕ) (hname : agentName ≠ "")
    (hlost : lost.isAbort = false) :
    let step := sessionStep jsonParse (some agentName)
    let events := reopening bootstrap lost ++ losing lost n
    delaysOf (Runs.trace step {} events) = n ∧
      (∀ m ∈ Runs.trace step {} events, (step m.before m.event).1.streams.length ≤ 1) ∧
      (Runs.final step {} events).status = .connected := by
  have htext : truthyText (some agentName) = some agentName := by simp [truthyText, hname]
  obtain ⟨hbefore, hopenBefore, hresuming⟩ :=
    @resuming_reopening jsonParse (some agentName) bootstrap lost agentName htext hlost
  obtain ⟨hafter, hopenAfter, hfinal⟩ :=
    hresuming.lost_often jsonParse (some agentName) hlost n
  refine ⟨?_, ?_, ?_⟩
  · rw [Runs.trace_append, delaysOf, List.flatMap_append, List.count_append]
    exact (congrArg₂ (· + ·) hbefore hafter).trans (Nat.zero_add n)
  · rw [Runs.trace_append, List.forall_mem_append]
    exact ⟨hopenBefore, hopenAfter⟩
  · rw [Runs.final_append]
    exact hfinal.status

theorem echo_reconnects_often :
    delaysOf (Runs.trace (sessionStep (fun _ => none) (some "echo-agent")) {}
      (reopening echoBootstrap failedToFetch ++ losing failedToFetch 100)) = 100 :=
  (reconnects_without_limit (fun _ => none) "echo-agent" echoBootstrap failedToFetch 100 (by decide)
    rfl).1

end A5cCell.Spa
