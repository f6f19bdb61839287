import A5cCell.Bridge.AuditedOnce

/-!
# One preamble for each streamed response

What is written on a response stream should be one preamble and then body bytes. A response that
came back whole is written so by the handler. The lines of the mock runtime are written as they
come, under a preamble of status 200, and there the two ways to fail are both wrong: what fails
before the stream has begun is raised, and nothing is written, and what fails after is returned,
and the handler writes it with a preamble of its own.
-/

namespace A5cCell.Bridge.RouteAdapter

open Py (Val Items Dict truthyText)
open DataAccess RuntimeCalls

/-- The answer of the real runtime: its status and its text, where nothing fails. -/
def realAnswer? (env : Surroundings) (inv : AgentInvocation) : Option (Int × String) := do
  let (runtimeArn, qualifier) ← (resolveRuntime env inv).toOption
  let roleArn ← (resolveExecutionRole env inv).toOption
  let credentials ← (env.assumeRole roleArn).toOption
  let answer ← (runtimeAnswer env inv runtimeArn qualifier credentials).toOption
  let statusCode ← (answeredStatus env answer.fields).toOption
  pure (statusCode, answer.bodyText)

/-- The call of the mock runtime fails before there is a line to read. -/
def MockRefuses (env : Surroundings) (inv : AgentInvocation) (url : String) : Prop :=
  match env.post (Py.rstripChar '/' url) (buildRuntimePayload inv) with
  | .error _ => True
  | .ok answer => answer.ok = false

/-- Reading its lines fails. -/
def MockBreaks (env : Surroundings) (inv : AgentInvocation) (url : String) : Prop :=
  match env.post (Py.rstripChar '/' url) (buildRuntimePayload inv) with
  | .error _ => False
  | .ok answer => answer.ok = true ∧ answer.broken.isSome = true

/-- The upstream fails before the first byte is written. -/
def FailsBeforeFirstByte (env : Surroundings) (inv : AgentInvocation) : Prop :=
  match env.mockRuntimeUrl.strOrNone with
  | some mockUrl => MockRefuses env inv mockUrl
  | none => realAnswer? env inv = none

/-- What is written is one preamble and then body bytes; a failure before the first byte is one error
    preamble with its body. -/
structure OnePreamble (env : Surroundings) (inv : AgentInvocation) (chunks : List Chunk) : Prop where
  one : ∃ statusCode headers, ∃ bodies : List Body,
    chunks = .preamble statusCode headers :: bodies.map .body
  error : FailsBeforeFirstByte env inv → ∃ statusCode headers code message requestId,
    chunks = [.preamble statusCode headers, .body (.error code message requestId)] ∧
      300 ≤ statusCode

/-- The stream is one the mock runtime does not fail. -/
def PreambleWhen (env : Surroundings) (inv : AgentInvocation) : Prop :=
  ∀ mockUrl, env.mockRuntimeUrl.strOrNone = some mockUrl →
    ¬ MockRefuses env inv mockUrl ∧ ¬ MockBreaks env inv mockUrl

theorem written_respond {inv : AgentInvocation} (hstream : inv.responseStream = true)
    (response : HttpResponse) :
    written (respond inv (some response)) =
      chunksOf response.statusCode response.body response.headers := by
  obtain ⟨hchunks, -⟩ := respond_streamed hstream response
  rw [written, hchunks, chunks_write]

theorem chunksOf_one (statusCode : Int) (body : Body) (headers : Headers) :
    ∃ bodies : List Body,
      chunksOf statusCode body headers = .preamble statusCode headers :: bodies.map .body := by
  unfold chunksOf
  split
  · exact ⟨[body], rfl⟩
  · exact ⟨[], rfl⟩

theorem IsError.chunksOf {response : HttpResponse} {statusCode : Int}
    (h : IsError response statusCode) :
    ∃ code message requestId, RouteAdapter.chunksOf response.statusCode response.body
      response.headers = [.preamble statusCode response.headers,
        .body (.error code message requestId)] := by
  obtain ⟨rfl, code, message, requestId, hbody⟩ := h
  rw [hbody]
  exact ⟨code, message, requestId, rfl⟩

theorem le_raisedStatus (exc : BridgeExc) : 300 ≤ raisedStatus exc := by
  unfold raisedStatus
  split
  · decide
  · exact le_failureStatus exc

/-- Of a streaming agent, an invocation of the real runtime that does not end in an error is an
    answer. -/
theorem RealEnd.error_or_answered {env : Surroundings} {inv : AgentInvocation}
    {statuses : List InvocationStatus} {response : HttpResponse}
    (hmode : inv.agent.invocationMode = .streaming) (h : RealEnd env inv statuses response) :
    (∃ statusCode, 300 ≤ statusCode ∧ IsError response statusCode) ∨
      realAnswer? env inv ≠ none := by
  cases h with
  | invalid _ herror => exact Or.inl ⟨500, by decide, herror⟩
  | malformed _ herror => exact Or.inl ⟨_, le_raisedStatus _, herror⟩
  | noRole _ _ herror =>
    rcases herror with herror | herror
    · exact Or.inl ⟨404, by decide, herror⟩
    · exact Or.inl ⟨500, by decide, herror⟩
  | denied _ _ _ herror => exact Or.inl ⟨_, le_raisedStatus _, herror⟩
  | failed _ _ herror => exact Or.inl ⟨_, le_failureStatus _, herror⟩
  | unread _ _ _ herror => exact Or.inl ⟨502, by decide, herror⟩
  | uncorrected _ _ _ hraised _ => simp [raisedByCorrection, hmode] at hraised
  | answered hresolved hanswer hstatus _ =>
    obtain ⟨roleArn, hruntime, hrole, hassume⟩ := hresolved
    right
    simp [realAnswer?, hruntime, hrole, hassume, hanswer, hstatus, Except.toOption]

/-- The response of the real runtime is written whole, under one preamble. -/
theorem real_onePreamble {env : Surroundings} {inv : AgentInvocation}
    (hstream : inv.responseStream = true) (hmode : inv.agent.invocationMode = .streaming)
    (hreal : env.mockRuntimeUrl.strOrNone = none) :
    OnePreamble env inv (written ((invokeRealRuntime env inv >>= corrected env inv).tryExcept
      (answerFailure env inv) >>= respond inv)) := by
  obtain ⟨statuses, response, hend, hlogged⟩ := real_ends env inv
  obtain ⟨records, hsaid, -⟩ := hlogged.said
  have hwritten : written ((invokeRealRuntime env inv >>= corrected env inv).tryExcept
      (answerFailure env inv) >>= respond inv) =
        chunksOf response.statusCode response.body response.headers := by
    rw [← written_respond hstream, written, Prog.said_bind_ok hlogged.outcome, hsaid,
      List.filterMap_append, chunks_putItem, List.nil_append, written]
  rw [hwritten]
  refine ⟨⟨_, _, chunksOf_one _ _ _⟩, fun hfails => ?_⟩
  rw [FailsBeforeFirstByte, hreal] at hfails
  rcases hend.error_or_answered hmode with ⟨statusCode, hle, herror⟩ | hanswered
  · obtain ⟨code, message, requestId, hchunks⟩ := herror.chunksOf
    exact ⟨statusCode, _, code, message, requestId, hchunks, hle⟩
  · exact absurd hfails hanswered

/-- A stream that has begun holds what is written of it, and then what its response is written as. -/
theorem written_stream {env : Surroundings} {inv : AgentInvocation} {url : String}
    {answer : MockAnswer}
    (hpost : env.post (Py.rstripChar '/' url) (buildRuntimePayload inv) = .ok answer)
    (hok : answer.ok = true) :
    ∃ headers, written (handleStreamingInvocation env inv url >>= respond inv) =
      .preamble 200 headers :: (lineChunks answer.lines ++
        written (respond inv (answer.broken.map (failureResponse inv)))) := by
  obtain ⟨headers, record, hsaid, houtcome, -⟩ := stream_spec hpost hok
  refine ⟨headers, ?_⟩
  rw [written, Prog.said_bind_ok houtcome, hsaid, List.filterMap_append, List.filterMap_append,
    chunks_write, written]
  simp [Act.chunk?]

theorem stream_onePreamble_iff {env : Surroundings} {inv : AgentInvocation} {url : String}
    (hstream : inv.responseStream = true) (hmock : env.mockRuntimeUrl.strOrNone = some url) :
    OnePreamble env inv (written (handleStreamingInvocation env inv url >>= respond inv)) ↔
      ¬ MockRefuses env inv url ∧ ¬ MockBreaks env inv url := by
  -- what raises writes nothing
  have hraised (exc : BridgeExc) : ¬ OnePreamble env inv
      (written ((Prog.raise exc : Handling (Option HttpResponse)) >>= respond inv)) := by
    rintro ⟨⟨statusCode, headers, bodies, hnone⟩, -⟩
    exact absurd hnone (by simp [written, Prog.said_bind_error (Prog.outcome_raise exc)])
  cases hpost : env.post (Py.rstripChar '/' url) (buildRuntimePayload inv) with
  | error exc =>
    have hrefuses : MockRefuses env inv url := by
      rw [MockRefuses, hpost]
      trivial
    unfold handleStreamingInvocation
    rw [hpost]
    exact iff_of_false (hraised exc) fun h => h.1 hrefuses
  | ok answer =>
    cases hok : answer.ok with
    | false =>
      have hrefuses : MockRefuses env inv url := by
        rw [MockRefuses, hpost]
        exact hok
      unfold handleStreamingInvocation
      simp only [hpost, hok]
      exact iff_of_false (hraised _) fun h => h.1 hrefuses
    | true =>
      have haccepts : ¬ MockRefuses env inv url := by
        rw [MockRefuses, hpost]
        simp [hok]
      have hbreaks : MockBreaks env inv url ↔ answer.broken.isSome = true := by
        rw [MockBreaks, hpost]
        simp [hok]
      obtain ⟨headers, hwritten⟩ := written_stream hpost hok
      rw [hwritten, hbreaks]
      cases hbroken : answer.broken with
      | none =>
        refine iff_of_true ⟨⟨200, headers, ?_⟩, fun hfails => ?_⟩ ⟨haccepts, by simp⟩
        · exact ⟨(answer.lines.filter (!·.isEmpty)).map .line, by simp [lineChunks, respond, written]⟩
        · rw [FailsBeforeFirstByte, hmock] at hfails
          exact absurd hfails haccepts
      | some exc =>
        -- the failure is written with a preamble of its own
        refine iff_of_false (fun h => ?_) fun h => h.2 rfl
        obtain ⟨statusCode, headers', bodies, hchunks⟩ := h.one
        rw [Option.map_some, written_respond hstream] at hchunks
        have hmem : Chunk.preamble (failureResponse inv exc).statusCode
            (failureResponse inv exc).headers ∈ bodies.map Chunk.body := by
          rw [← (List.cons.inj hchunks).2]
          exact List.mem_append_right _ List.mem_cons_self
        simp at hmem

/-- **One preamble.** A streaming invocation writes exactly one preamble, and then body bytes only,
    with an error preamble where it fails before the first byte, if and only if the mock runtime, where
    that is called, does not fail. -/
theorem one_preamble_iff {env : Surroundings} {inv : AgentInvocation}
    (hstream : inv.responseStream = true) (hmode : inv.agent.invocationMode = .streaming) :
    OnePreamble env inv (written (handleInvocation env inv)) ↔ PreambleWhen env inv := by
  unfold handleInvocation invokeAgent PreambleWhen
  rw [if_neg (by simp [hmode])]
  cases hmock : env.mockRuntimeUrl.strOrNone with
  | none =>
    refine iff_of_true (real_onePreamble hstream hmode hmock) fun mockUrl hmock' => ?_
    exact absurd hmock' (by simp)
  | some mockUrl =>
    simp only [hstream, hmode, and_self, if_true, Option.some.injEq, forall_eq']
    exact stream_onePreamble_iff hstream hmock

/-- A mock runtime that streams one line, and may break after it. -/
def mockStream (broken : Option BridgeExc) : Surroundings :=
  { answeringRuntime none with
    mockRuntimeUrl := .str "http://mock"
    post := fun _ _ => .ok ⟨200, none, "", [[100, 97, 116, 97]], broken⟩ }

theorem one_preamble_mockStream :
    OnePreamble (mockStream none) (echoInvocation .streaming true)
      (written (handleInvocation (mockStream none) (echoInvocation .streaming true))) := by
  refine (one_preamble_iff rfl rfl).mpr fun mockUrl _ => ⟨?_, ?_⟩
  · intro hrefuses
    exact absurd hrefuses (by decide : ¬ (true = false))
  · rintro ⟨-, hbroken⟩
    exact absurd hbroken (by decide)

/-- Where reading the lines fails, the failure is written with a second preamble. -/
theorem brokenStream_two_preambles :
    ¬ ∀ env inv, inv.responseStream = true → inv.agent.invocationMode = .streaming →
      OnePreamble env inv (written (handleInvocation env inv)) := by
  intro h
  have hone : OnePreamble (mockStream (some (.other "Connection broken")))
      (echoInvocation .streaming true) (written (handleStreamingInvocation
        (mockStream (some (.other "Connection broken"))) (echoInvocation .streaming true)
        "http://mock" >>= respond (echoInvocation .streaming true))) := h _ _ rfl rfl
  have hwhole := (stream_onePreamble_iff rfl rfl).mp hone
  exact hwhole.2 ⟨rfl, rfl⟩

end A5cCell.Bridge.RouteAdapter
