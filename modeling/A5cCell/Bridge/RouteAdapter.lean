import A5cCell.Bridge.RuntimeCalls

/-!
# The route adapter

`route_adapter.invoke_agent`, with the streaming of the mock runtime's lines, and the end of the
bridge's handler, which answers on the response stream. The preamble of a streamed answer is
written here by `handle_streaming_invocation`, and by the handler for a response that came back
whole.

`trigger_failover` is left out: it only logs that failover is disabled.
-/

namespace A5cCell.Bridge.RouteAdapter

open Py (Val Items Dict truthyText)
open DataAccess RuntimeCalls

/-- Whether a body has bytes. -/
def hasBytes : Body → Bool
  | .text text => text ≠ ""
  | _ => true

/-- `send_streaming_response`. -/
def sendStreamingResponse (statusCode : Int) (body : Body) (headers : Headers) : Handling Unit := do
  Handling.write (.preamble statusCode headers)
  if hasBytes body then Handling.write (.body body)

/-- The loop over `response.iter_lines()`, which leaves out the empty lines. -/
def writeLines : List (List UInt8) → Handling Unit
  | [] => pure ()
  | raw :: rest => do
      if !raw.isEmpty then Handling.write (.body (.line raw))
      writeLines rest

/-- What `handle_streaming_invocation` does once it has begun to stream. -/
def streamLines (env : Surroundings) (inv : AgentInvocation) (answer : MockAnswer) :
    Handling (Option HttpResponse) := do
  writeLines answer.lines
  match answer.broken with
  | some exc => .raise exc
  | none =>
      let _ ← Telemetry.logInvocation env inv .success (some ((truthyText inv.sessionId).getD
        "mock-session-id")) "mock-runtime" noUsage 0 none
      pure none

/-- How a stream that has begun is ended by an exception. -/
def endStream (env : Surroundings) (inv : AgentInvocation) (exc : BridgeExc) :
    Handling (Option HttpResponse) := do
  let response ← runtimeFailureResponse env inv "mock-runtime" exc 0
  pure (some response)

/-- `handle_streaming_invocation`, with a response stream. An exception is answered once streaming
    has begun, and is raised before. -/
def handleStreamingInvocation (env : Surroundings) (inv : AgentInvocation) (url : String) :
    Handling (Option HttpResponse) :=
  match env.post (Py.rstripChar '/' url) (buildRuntimePayload inv) with
  | .error exc => .raise exc
  | .ok answer =>
      if !answer.ok then .raise (.other "HTTPError")
      else do
        let preambleHeaders := (Dict.ofItems [("Content-Type", "text/event-stream")]).update
          (buildRateLimitHeaders none env.startTime)
        sendStreamingResponse 200 (.text "") preambleHeaders
        (streamLines env inv answer).tryExcept (endStream env inv)

/-- The usage `_perform_tpm_correction` reads in a body; an error's body has none. -/
def bodyUsage (env : Surroundings) : Body → Except BridgeExc TokenUsage
  | .text bodyText => tokenUsageOf env bodyText
  | _ => .ok noUsage

/-- What correcting an estimate by this usage raises: `correct_usage` raises what making its client
    raises, and nothing else. -/
def correctionError (env : Surroundings) (estimate : Nat) (tokenUsage : TokenUsage) :
    Option String :=
  if tokenUsage.totalTokens > 0 ∨ estimate > 0 then env.counterClientError else none

/-- `_perform_tpm_correction`, without what it does to the counter, which is modelled with the
    limiter. -/
def performTpmCorrection (env : Surroundings) (inv : AgentInvocation) (response : HttpResponse) :
    Except BridgeExc Unit :=
  if inv.agent.invocationMode = .streaming then .ok ()
  else do
    let tokenUsage ← bodyUsage env response.body
    match correctionError env inv.estimate tokenUsage with
    | some text => .error (.other text)
    | none => .ok ()

/-- A response of status 200 is corrected before it is returned. -/
def corrected (env : Surroundings) (inv : AgentInvocation) (response : HttpResponse) :
    Handling (Option HttpResponse) :=
  if response.statusCode = 200 then do
    Handling.ofExcept (performTpmCorrection env inv response)
    pure (some response)
  else pure (some response)

/-- How `invoke_agent` answers what a call of the real runtime raised. -/
def answerFailure (env : Surroundings) (inv : AgentInvocation) (exc : BridgeExc) :
    Handling (Option HttpResponse) :=
  if exc.code = "ThrottlingException" then do
    let throttleTpmResult ← Telemetry.logInvocation env inv .error inv.sessionId env.runtimeRegion
      noUsage inv.estimate (some "THROTTLED")
    let response := errorResponse 429 "THROTTLED" "Agent runtime throttled" inv.requestId
    pure (some ((response.updateHeaders [("Retry-After", "1")]).updateHeaders
      (buildRateLimitHeaders throttleTpmResult env.startTime)))
  else do
    let response ← runtimeFailureResponse env inv env.runtimeRegion exc inv.estimate
    pure (some response)

/-- `invoke_agent`. -/
def invokeAgent (env : Surroundings) (inv : AgentInvocation) : Handling (Option HttpResponse) :=
  if inv.agent.invocationMode = .async then
    pure (some (errorResponse 422 "UNSUPPORTED_INVOCATION_MODE"
      "Async invocation is not supported by the v0.2 platform contract" inv.requestId))
  else match env.mockRuntimeUrl.strOrNone with
    | some mockUrl =>
        if inv.responseStream ∧ inv.agent.invocationMode = .streaming then
          handleStreamingInvocation env inv mockUrl
        else invokeMockRuntime env inv mockUrl >>= corrected env inv
    | none => (invokeRealRuntime env inv >>= corrected env inv).tryExcept (answerFailure env inv)

/-- The end of `handler`: a response that came back whole is written to the stream, if there is
    one. -/
def respond (inv : AgentInvocation) : Option HttpResponse → Handling (Option HttpResponse)
  | some response =>
      if inv.responseStream then do
        sendStreamingResponse response.statusCode response.body response.headers
        pure none
      else pure (some response)
  | none => pure none

/-- The part of the bridge's `handler` that an invocation goes through. -/
def handleInvocation (env : Surroundings) (inv : AgentInvocation) : Handling (Option HttpResponse) :=
  invokeAgent env inv >>= respond inv

/-! ## What each part says and comes to -/

/-- What the response of `send_streaming_response` is written as. -/
def chunksOf (statusCode : Int) (body : Body) (headers : Headers) : List Chunk :=
  .preamble statusCode headers :: if hasBytes body then [.body body] else []

theorem said_sendStreamingResponse (statusCode : Int) (body : Body) (headers : Headers) :
    (sendStreamingResponse statusCode body headers).said =
      (chunksOf statusCode body headers).map .write := by
  by_cases hbytes : hasBytes body = true
  · simp only [sendStreamingResponse, chunksOf, hbytes, if_true]
    rfl
  · simp only [sendStreamingResponse, chunksOf, hbytes]
    rfl

theorem outcome_sendStreamingResponse (statusCode : Int) (body : Body) (headers : Headers) :
    (sendStreamingResponse statusCode body headers).outcome = .ok () := by
  by_cases hbytes : hasBytes body = true
  · simp only [sendStreamingResponse, hbytes, if_true]
    rfl
  · simp only [sendStreamingResponse, hbytes]
    rfl

theorem respond_streamed {inv : AgentInvocation} (h : inv.responseStream = true)
    (response : HttpResponse) :
    (respond inv (some response)).said =
        (chunksOf response.statusCode response.body response.headers).map .write ∧
      (respond inv (some response)).outcome = .ok none := by
  have hsent := outcome_sendStreamingResponse response.statusCode response.body response.headers
  simp only [respond, h, if_true]
  rw [Prog.said_bind_ok hsent, Prog.outcome_bind_ok hsent, said_sendStreamingResponse]
  exact ⟨List.append_nil _, rfl⟩

theorem respond_whole {inv : AgentInvocation} (h : inv.responseStream = false)
    (response : HttpResponse) : respond inv (some response) = pure (some response) := by
  simp [respond, h]

/-- What the lines of a stream are written as. -/
def lineChunks (lines : List (List UInt8)) : List Chunk :=
  (lines.filter (!·.isEmpty)).map fun raw => .body (.line raw)

theorem writeLines_spec (lines : List (List UInt8)) :
    (writeLines lines).said = (lineChunks lines).map .write ∧
      (writeLines lines).outcome = .ok () := by
  induction lines with
  | nil => exact ⟨rfl, rfl⟩
  | cons raw lines ih =>
    unfold writeLines
    cases hempty : raw.isEmpty with
    | true => simpa [lineChunks, hempty] using ih
    | false =>
      have hchunks : lineChunks (raw :: lines) = .body (.line raw) :: lineChunks lines := by
        simp [lineChunks, hempty]
      rw [hchunks]
      exact ⟨congrArg (_ :: ·) ih.1, ih.2⟩

/-- A stream that is read to its end is logged as a success. -/
theorem streamLines_whole (env : Surroundings) (inv : AgentInvocation) {answer : MockAnswer}
    (h : answer.broken = none) :
    ∃ record, record.status = .success ∧
      (streamLines env inv answer).said =
        (lineChunks answer.lines).map .write ++ [.putItem record] ∧
      (streamLines env inv answer).outcome = .ok none := by
  obtain ⟨hlines, hdone⟩ := writeLines_spec answer.lines
  unfold streamLines
  rw [h, Prog.said_bind_ok hdone, Prog.outcome_bind_ok hdone, hlines,
    Telemetry.logInvocation_noUsage]
  exact ⟨_, rfl, rfl, rfl⟩

theorem streamLines_broken (env : Surroundings) (inv : AgentInvocation) {answer : MockAnswer}
    {exc : BridgeExc} (h : answer.broken = some exc) :
    (streamLines env inv answer).said = (lineChunks answer.lines).map .write ∧
      (streamLines env inv answer).outcome = .error exc := by
  obtain ⟨hlines, hdone⟩ := writeLines_spec answer.lines
  unfold streamLines
  rw [h, Prog.said_bind_ok hdone, Prog.outcome_bind_ok hdone, hlines]
  exact ⟨List.append_nil _, rfl⟩

/-- What a failure is answered with. -/
def failureResponse (inv : AgentInvocation) (exc : BridgeExc) : HttpResponse :=
  errorResponse (failure exc).1 (failure exc).2.1 (failure exc).2.2 inv.requestId

theorem endStream_spec (env : Surroundings) (inv : AgentInvocation) (exc : BridgeExc) :
    ∃ record, record.status = .error ∧ (endStream env inv exc).said = [.putItem record] ∧
      (endStream env inv exc).outcome = .ok (some (failureResponse inv exc)) := by
  unfold endStream runtimeFailureResponse
  simp only [Telemetry.logInvocation_noUsage]
  exact ⟨_, rfl, rfl, rfl⟩

/-- A stream that has begun is a preamble of status 200, the lines, and one record; where reading the
    lines raised, the record is of the failure, and so is the response. -/
theorem stream_spec {env : Surroundings} {inv : AgentInvocation} {url : String}
    {answer : MockAnswer}
    (hpost : env.post (Py.rstripChar '/' url) (buildRuntimePayload inv) = .ok answer)
    (hok : answer.ok = true) :
    ∃ headers record, (handleStreamingInvocation env inv url).said =
        (Chunk.preamble 200 headers :: lineChunks answer.lines).map .write ++ [.putItem record] ∧
      (handleStreamingInvocation env inv url).outcome =
        .ok (answer.broken.map (failureResponse inv)) ∧
      (record.status = .success ↔ answer.broken = none) := by
  unfold handleStreamingInvocation
  simp only [hpost, hok, Bool.not_true, Bool.false_eq_true, if_false]
  cases hbroken : answer.broken with
  | none =>
    obtain ⟨record, hstatus, hsaid, houtcome⟩ := streamLines_whole env inv hbroken
    obtain ⟨htry, hend⟩ := Prog.tryExcept_ok (endStream env inv) houtcome
    refine ⟨_, record, congrArg (_ :: ·) (htry.trans hsaid), hend, by simp [hstatus]⟩
  | some exc =>
    obtain ⟨hlines, hraised⟩ := streamLines_broken env inv hbroken
    obtain ⟨record, hstatus, hsaid, houtcome⟩ := endStream_spec env inv exc
    obtain ⟨htry, hend⟩ := Prog.tryExcept_error (endStream env inv) hraised
    rw [hlines, hsaid] at htry
    exact ⟨_, record, congrArg (_ :: ·) htry, hend.trans houtcome, by simp [hstatus]⟩

end A5cCell.Bridge.RouteAdapter
