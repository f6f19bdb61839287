import A5cCell.Bridge.InvocationEnds

/-!
# One audit record for each invocation

An invocation should leave exactly one audit record, and the record should say that it succeeded
exactly when its caller was told so. `AuditedWhen` is when it does.

Most failures are recorded where they are answered. The exceptions are: what is wrong with the
agent's runtime, the tenant's record or the role is answered without a record; a record can be too
large to keep; the success is recorded before the status is read and the usage corrected, which can
still raise; and a stream of the mock runtime records its failure under a status 200 already sent,
or raises before it has sent any.
-/

namespace A5cCell.Bridge.RouteAdapter

open Py (Val Items Dict truthyText)
open DataAccess RuntimeCalls

/-- The status the caller is told: the first one sent on the stream, or the one returned. -/
def httpStatus (p : Handling (Option HttpResponse)) : Option Int :=
  match written p, p.outcome with
  | .preamble statusCode _ :: _, _ => some statusCode
  | _, .ok (some response) => some response.statusCode
  | _, _ => none

/-- Exactly one record is written, of the status the caller is told. -/
def AuditedOnce (p : Handling (Option HttpResponse)) : Prop :=
  ∃ record, auditRecords p = [record] ∧
    (record.status = .success ↔ ∃ statusCode, httpStatus p = some statusCode ∧ statusCode < 400)

/-! ## When it holds -/

def StreamAuditedWhen (env : Surroundings) (inv : AgentInvocation) (url : String) : Prop :=
  match env.post (Py.rstripChar '/' url) (buildRuntimePayload inv) with
  | .error _ => False
  | .ok answer => answer.ok = true ∧ answer.broken.isNone = true

def MockAuditedWhen (env : Surroundings) (inv : AgentInvocation) (url : String) : Prop :=
  match mockAnswer env inv url with
  | .error exc => 400 ≤ failureStatus exc
  | .ok (answer, usage) => TokenUsage.Kept usage ∧ answer.statusCode < 600 ∧
      raisedByCorrection env inv answer.statusCode usage = none

/-- Of an answer of the runtime: the success is recorded, unless it is too large, and what raises
    after that is recorded as well. -/
def AnswerAuditedWhen (env : Surroundings) (inv : AgentInvocation) (answer : ReadAnswer) : Prop :=
  match answeredStatus env answer.fields with
  | .error _ => ¬ TokenUsage.Kept answer.tokenUsage
  | .ok statusCode =>
      match raisedByCorrection env inv statusCode answer.tokenUsage with
      | some _ => ¬ TokenUsage.Kept answer.tokenUsage
      | none => TokenUsage.Kept answer.tokenUsage ∧ statusCode < 400

def RealAuditedWhen (env : Surroundings) (inv : AgentInvocation) : Prop :=
  match resolveRuntime env inv with
  | .error (.respond _) => False
  | .error (.raised exc) => 400 ≤ raisedStatus exc
  | .ok (runtimeArn, qualifier) =>
      match resolveExecutionRole env inv with
      | .error _ => False
      | .ok roleArn =>
          match env.assumeRole roleArn with
          | .error exc => 400 ≤ raisedStatus exc
          | .ok credentials =>
              match runtimeAnswer env inv runtimeArn qualifier credentials with
              | .error exc => 400 ≤ failureStatus exc
              | .ok answer => AnswerAuditedWhen env inv answer

/-- When an invocation is audited once. -/
def AuditedWhen (env : Surroundings) (inv : AgentInvocation) : Prop :=
  match env.mockRuntimeUrl.strOrNone with
  | some mockUrl =>
      if inv.responseStream ∧ inv.agent.invocationMode = .streaming then
        StreamAuditedWhen env inv mockUrl
      else MockAuditedWhen env inv mockUrl
  | none => RealAuditedWhen env inv

/-! ## What is seen of an end -/

theorem auditedOnce_iff_of_seen {p : Handling (Option HttpResponse)}
    {statuses : List InvocationStatus} {statusCode : Option Int}
    (hstatuses : (auditRecords p).map (·.status) = statuses) (hstatus : httpStatus p = statusCode) :
    AuditedOnce p ↔ ∃ status, statuses = [status] ∧
      (status = .success ↔ ∃ n, statusCode = some n ∧ n < 400) := by
  subst hstatuses hstatus
  constructor
  · rintro ⟨record, hrecord, hstatus⟩
    exact ⟨record.status, by rw [hrecord]; rfl, hstatus⟩
  · rintro ⟨status, hstatuses, hstatus⟩
    obtain ⟨record, hrecord, rfl⟩ := List.map_eq_singleton_iff.mp hstatuses
    exact ⟨record, hrecord, hstatus⟩

section

variable {q : Handling (Option HttpResponse)} {statuses : List InvocationStatus}

/-- Answering a response writes no record, and tells the caller its status. -/
theorem Logs.answered {response : HttpResponse} (h : Logs q statuses (.ok (some response)))
    (inv : AgentInvocation) :
    AuditedOnce (q >>= respond inv) ↔
      ∃ status, statuses = [status] ∧ (status = .success ↔ response.statusCode < 400) := by
  obtain ⟨records, hsaid, hstatuses⟩ := h.said
  have hseen : (auditRecords (q >>= respond inv)).map (·.status) = statuses ∧
      httpStatus (q >>= respond inv) = some response.statusCode := by
    simp only [auditRecords, httpStatus, written, Prog.said_bind_ok h.outcome,
      Prog.outcome_bind_ok h.outcome, hsaid, List.filterMap_append, records_putItem,
      chunks_putItem, List.nil_append]
    cases hstream : inv.responseStream with
    | true =>
      obtain ⟨hchunks, -⟩ := respond_streamed hstream response
      rw [hchunks, records_write, chunks_write]
      exact ⟨by rw [List.append_nil, hstatuses], rfl⟩
    | false =>
      rw [respond_whole hstream]
      exact ⟨by rw [Prog.said_pure, List.filterMap_nil, List.append_nil, hstatuses], rfl⟩
  rw [auditedOnce_iff_of_seen hseen.1 hseen.2]
  simp

theorem Logs.unanswered {exc : BridgeExc} (h : Logs q statuses (.error exc))
    (inv : AgentInvocation) :
    AuditedOnce (q >>= respond inv) ↔ ∃ status, statuses = [status] ∧ status ≠ .success := by
  obtain ⟨records, hsaid, hstatuses⟩ := h.said
  have hseen : (auditRecords (q >>= respond inv)).map (·.status) = statuses ∧
      httpStatus (q >>= respond inv) = none := by
    simp only [auditRecords, httpStatus, written, Prog.said_bind_error h.outcome,
      Prog.outcome_bind_error h.outcome, hsaid, records_putItem, chunks_putItem]
    exact ⟨hstatuses, trivial⟩
  rw [auditedOnce_iff_of_seen hseen.1 hseen.2]
  simp

end

/-- One error is right where the caller is told of an error. -/
theorem error_iff {statusCode : Int} :
    (∃ status, [InvocationStatus.error] = [status] ∧ (status = .success ↔ statusCode < 400)) ↔
      400 ≤ statusCode := by
  constructor
  · rintro ⟨status, hstatus, hiff⟩
    cases hstatus
    exact Int.not_lt.mp fun hlt => absurd (hiff.mpr hlt) (by simp)
  · intro hle
    exact ⟨.error, rfl, ⟨fun h => absurd h (by simp), fun hlt => absurd hlt (Int.not_lt.mpr hle)⟩⟩

/-- One record of this status is right where the record is kept, and it is a success exactly when
    the caller is told of one. -/
theorem kept_iff {usage : TokenUsage} {status : InvocationStatus} {P : InvocationStatus → Prop} :
    (∃ status', keptStatus usage status = [status'] ∧ P status') ↔
      TokenUsage.Kept usage ∧ P status := by
  unfold keptStatus
  constructor
  · rintro ⟨status', hkept, hP⟩
    split at hkept
    · rename_i hk
      cases hkept
      exact ⟨hk, hP⟩
    · cases hkept
  · rintro ⟨hkept, hP⟩
    exact ⟨status, if_pos hkept, hP⟩

theorem statusCode_of_raisedByCorrection {env : Surroundings} {inv : AgentInvocation}
    {statusCode : Int} {usage : TokenUsage} {text : String}
    (h : raisedByCorrection env inv statusCode usage = some text) : statusCode = 200 := by
  unfold raisedByCorrection at h
  split at h
  · rename_i hcorrected
    exact hcorrected.1
  · cases h

/-- The mock runtime's `ok` tells the caller of a success below 400, and from 600 on. -/
theorem mockStatus_iff (answer : MockAnswer) :
    ((if answer.ok then InvocationStatus.success else .error) = .success ↔
      answer.statusCode < 400) ↔ answer.statusCode < 600 := by
  have hok : answer.ok = true ↔ ¬ (400 ≤ answer.statusCode ∧ answer.statusCode < 600) := by
    simp only [MockAnswer.ok, Bool.not_eq_true', decide_eq_false_iff_not]
  have hstatus : (if answer.ok then InvocationStatus.success else .error) = .success ↔
      answer.ok = true := by
    split <;> simp [*]
  rw [hstatus, hok]
  constructor
  · intro h
    by_contra hge
    have := h.mp (by omega)
    omega
  · intro h
    omega

theorem mock_audited_iff (env : Surroundings) (inv : AgentInvocation) (url : String) :
    AuditedOnce ((invokeMockRuntime env inv url >>= corrected env inv) >>= respond inv) ↔
      MockAuditedWhen env inv url := by
  unfold MockAuditedWhen invokeMockRuntime
  cases hanswer : mockAnswer env inv url with
  | error exc =>
    obtain ⟨response, herror, hlogged⟩ := logs_failedCall env inv "mock-runtime" exc
    have hcall := (logs_callMockRuntime_error hanswer).tryExcept_error hlogged
    have hwhole := hcall.before (f := corrected env inv)
      (corrected_of_failed herror ▸ Logs.pure (some response))
    rw [hwhole.answered, herror.1]
    exact error_iff
  | ok answered =>
    obtain ⟨answer, usage⟩ := answered
    obtain ⟨headers, hlogged⟩ := logs_callMockRuntime hanswer
    have hcall := hlogged.tryExcept_ok (failedCall env inv "mock-runtime")
    have hcorrected := logs_corrected inv ⟨answer.statusCode, headers, .text answer.text⟩ rfl
      (mockAnswer_eq_ok hanswer)
    cases hraised : raisedByCorrection env inv answer.statusCode usage with
    | some text =>
      simp only [hraised] at hcorrected
      have hwhole := hcall.before hcorrected
      have hok : answer.ok = true := by
        simp [MockAnswer.ok, statusCode_of_raisedByCorrection hraised]
      rw [hwhole.unanswered, kept_iff, hok]
      simp [hraised]
    | none =>
      simp only [hraised] at hcorrected
      have hwhole := hcall.before hcorrected
      rw [hwhole.answered, kept_iff, mockStatus_iff]
      simp [hraised]

/-- After a success, an error is one record too many, unless the success could not be kept. -/
theorem kept_error_iff {usage : TokenUsage} {statusCode : Int} (h : 400 ≤ statusCode) :
    (∃ status, keptStatus usage .success ++ [InvocationStatus.error] = [status] ∧
      (status = .success ↔ statusCode < 400)) ↔ ¬ TokenUsage.Kept usage := by
  by_cases hkept : TokenUsage.Kept usage
  · simp [keptStatus, hkept]
  · rw [keptStatus, if_neg hkept, List.nil_append, error_iff]
    simp [h, hkept]

/-- What the ways an invocation of the real runtime ends are audited as. -/
theorem real_audited_iff (env : Surroundings) (inv : AgentInvocation) :
    AuditedOnce ((invokeRealRuntime env inv >>= corrected env inv).tryExcept
        (answerFailure env inv) >>= respond inv) ↔ RealAuditedWhen env inv := by
  obtain ⟨statuses, response, hend, hlogged⟩ := real_ends env inv
  rw [hlogged.answered]
  unfold RealAuditedWhen
  cases hend with
  | invalid hruntime _ => simp [hruntime]
  | malformed hruntime herror =>
    rw [error_iff, herror.1]
    simp only [hruntime]
  | noRole hruntime hrole _ => simp [hruntime, hrole]
  | denied hruntime hrole hassume herror =>
    rw [error_iff, herror.1]
    simp only [hruntime, hrole, hassume]
  | failed hresolved hanswer herror =>
    obtain ⟨roleArn, hruntime, hrole, hassume⟩ := hresolved
    rw [error_iff, herror.1]
    simp only [hruntime, hrole, hassume, hanswer]
  | unread hresolved hanswer hstatus herror =>
    obtain ⟨roleArn, hruntime, hrole, hassume⟩ := hresolved
    rw [herror.1, kept_error_iff (by decide)]
    simp only [hruntime, hrole, hassume, hanswer, AnswerAuditedWhen, hstatus]
  | uncorrected hresolved hanswer hstatus hraised herror =>
    obtain ⟨roleArn, hruntime, hrole, hassume⟩ := hresolved
    rw [herror.1, kept_error_iff (by decide)]
    simp only [hruntime, hrole, hassume, hanswer, AnswerAuditedWhen, hstatus, hraised]
  | answered hresolved hanswer hstatus hraised =>
    obtain ⟨roleArn, hruntime, hrole, hassume⟩ := hresolved
    rw [kept_iff]
    simp [hruntime, hrole, hassume, hanswer, AnswerAuditedWhen, hstatus, hraised]

/-! ## The stream of the mock runtime -/

/-- Nothing but writing answers a response. -/
theorem respond_writes (inv : AgentInvocation) (response : Option HttpResponse) :
    ∃ chunks : List Chunk, (respond inv response).said = chunks.map .write := by
  cases response with
  | none => exact ⟨[], rfl⟩
  | some response =>
    cases hstream : inv.responseStream with
    | true => exact ⟨_, (respond_streamed hstream response).1⟩
    | false =>
      rw [respond_whole hstream]
      exact ⟨[], rfl⟩

/-- A stream tells the caller of a success before it is one. -/
theorem stream_audited_iff (env : Surroundings) (inv : AgentInvocation) (url : String) :
    AuditedOnce (handleStreamingInvocation env inv url >>= respond inv) ↔
      StreamAuditedWhen env inv url := by
  have hraised (exc : BridgeExc) :
      ¬ AuditedOnce ((Prog.raise exc : Handling (Option HttpResponse)) >>= respond inv) := by
    rw [(Logs.raise exc).unanswered]
    rintro ⟨status, hnone, -⟩
    exact absurd hnone (by simp)
  unfold StreamAuditedWhen
  cases hpost : env.post (Py.rstripChar '/' url) (buildRuntimePayload inv) with
  | error exc =>
    unfold handleStreamingInvocation
    rw [hpost]
    exact iff_of_false (hraised exc) id
  | ok answer =>
    cases hok : answer.ok with
    | false =>
      unfold handleStreamingInvocation
      simp only [hpost, hok]
      exact iff_of_false (hraised _) (by simp)
    | true =>
      obtain ⟨headers, record, hsaid, houtcome, hstatus⟩ := stream_spec hpost hok
      obtain ⟨chunks, hchunks⟩ := respond_writes inv (answer.broken.map (failureResponse inv))
      have hrecords :
          auditRecords (handleStreamingInvocation env inv url >>= respond inv) = [record] := by
        rw [auditRecords, Prog.said_bind_ok houtcome, hsaid, hchunks]
        simp only [List.filterMap_append, records_write]
        rfl
      have htold :
          httpStatus (handleStreamingInvocation env inv url >>= respond inv) = some 200 := by
        rw [httpStatus, written, Prog.said_bind_ok houtcome, hsaid]
        rfl
      rw [auditedOnce_iff_of_seen rfl htold, hrecords]
      simp [hstatus, hok]

/-- **Audit.** Of an invocation handed to the runtime, exactly one record is written, and it is a
    success exactly when the caller is told of one, if and only if `AuditedWhen`. -/
theorem audited_once_iff {env : Surroundings} {inv : AgentInvocation}
    (hmode : inv.agent.invocationMode ≠ .async) :
    AuditedOnce (handleInvocation env inv) ↔ AuditedWhen env inv := by
  unfold handleInvocation invokeAgent AuditedWhen
  rw [if_neg hmode]
  cases env.mockRuntimeUrl.strOrNone with
  | none => exact real_audited_iff env inv
  | some mockUrl =>
    by_cases hstream : inv.responseStream ∧ inv.agent.invocationMode = .streaming
    · simp only [hstream, and_self, if_true]
      exact stream_audited_iff env inv mockUrl
    · simp only [hstream, if_false]
      exact mock_audited_iff env inv mockUrl

/-! ## An agent of the sample tenant -/

/-- A runtime that answers "ok", to a tenant with this record. -/
def answeringRuntime (tenantRecord : Option Items) : Surroundings where
  jsonLoads _ := none
  fullmatch _ _ := some [("region", "eu-west-2"), ("account_id", "111122223333")]
  intError _ := ""
  mockRuntimeUrl := .none
  runtimeRegion := "eu-west-2"
  invocationId := "inv-1"
  startTime := 0
  tenantRecord := tenantRecord
  executionRole := some "arn:aws:iam::111122223333:role/acme"
  assumeRole _ := .ok []
  runtimeClient _ _ := .ok ()
  invokeAgentRuntime _ := .ok ⟨[("statusCode", .int 200)], .ok "ok"⟩
  post _ _ := .error (.other "Connection refused")
  recordLogOnlyTpm _ _ _ := ⟨0, 0, 0, 0, "echo", true⟩
  counterClientError := none

/-- An invocation of the agent `echo`, of this mode. -/
def echoInvocation (invocationMode : InvocationMode) (responseStream : Bool) : AgentInvocation where
  agent :=
    { agentName := "echo", tierMinimum := .basic, invocationMode := invocationMode, modelId := none,
      version := "1.0.0", ownerTeam := "unknown", layerHash := "", layerS3Key := "",
      scriptS3Key := "", deployedAt := "", streamingEnabled := responseStream, status := .promoted,
      runtimeArn := some "arn:aws:bedrock-agentcore:eu-west-2:111122223333:runtime/echo",
      runtimeEndpointArn := none, runtimeEndpointName := none, runtimeEndpointVersion := none,
      estimatedDurationSeconds := .none, agUi := ⟨false, .sse, none⟩ }
  tenantContext := ⟨"acme", "app", .basic, "user"⟩
  prompt := "hello"
  sessionId := none
  requestId := "req-1"
  responseStream := responseStream
  estimate := 1

theorem audited_once_echo :
    AuditedOnce (handleInvocation (answeringRuntime (some [("accountId", .str "111122223333")]))
      (echoInvocation .sync false)) := by
  refine (audited_once_iff (by decide)).mpr ?_
  have hruntime : resolveRuntime (answeringRuntime (some [("accountId", .str "111122223333")]))
      (echoInvocation .sync false) =
        .ok ("arn:aws:bedrock-agentcore:eu-west-2:111122223333:runtime/echo", none) := rfl
  have hrole : resolveExecutionRole (answeringRuntime (some [("accountId", .str "111122223333")]))
      (echoInvocation .sync false) = .ok "arn:aws:iam::111122223333:role/acme" := rfl
  simp only [AuditedWhen, RealAuditedWhen, hruntime, hrole]
  exact ⟨by decide, by decide⟩

/-- A tenant without a record is answered with status 404, and leaves no audit record. -/
theorem unrecorded_tenant_not_audited :
    ¬ ∀ env inv, inv.agent.invocationMode ≠ .async → AuditedOnce (handleInvocation env inv) := by
  intro h
  obtain ⟨record, hrecord, -⟩ := h (answeringRuntime none) (echoInvocation .sync false) (by decide)
  have hnone : auditRecords (handleInvocation (answeringRuntime none)
      (echoInvocation .sync false)) = [] := rfl
  rw [hnone] at hrecord
  exact absurd hrecord (by simp)

end A5cCell.Bridge.RouteAdapter
