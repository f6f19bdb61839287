import A5cCell.Bridge.RouteAdapter

/-!
# How an invocation ends

What each part of an invocation logs, and what it comes to. Every part that calls a runtime only
logs, so that it is described by the statuses it logs and its outcome, and those of a sequence
follow from those of its parts. `RealEnd` has one case for each way an invocation of the real
runtime ends.
-/

namespace A5cCell.Bridge.RouteAdapter

open Py (Val Items Dict truthyText)
open DataAccess RuntimeCalls

/-- The status a failure is answered with. -/
def failureStatus (exc : BridgeExc) : Int := (failure exc).1

/-- The status a failure outside the call of the runtime is answered with. -/
def raisedStatus (exc : BridgeExc) : Int :=
  if exc.code = "ThrottlingException" then 429 else failureStatus exc

/-- The token counts can be kept. -/
def TokenUsage.Kept (usage : TokenUsage) : Prop :=
  usage.inputTokens < 10 ^ 38 ∧ usage.outputTokens < 10 ^ 38

instance (usage : TokenUsage) : Decidable (TokenUsage.Kept usage) := by
  unfold TokenUsage.Kept
  infer_instance

/-- What correcting the usage of an answer raises. A streamed answer is not corrected. -/
def raisedByCorrection (env : Surroundings) (inv : AgentInvocation) (statusCode : Int)
    (usage : TokenUsage) : Option String :=
  if statusCode = 200 ∧ inv.agent.invocationMode ≠ .streaming then
    correctionError env inv.estimate usage
  else none

/-- An error response of this status. -/
def IsError (response : HttpResponse) (statusCode : Int) : Prop :=
  response.statusCode = statusCode ∧
    ∃ code message requestId, response.body = .error code message requestId

/-! ## Programs that only log -/

/-- The program writes records of these statuses and nothing else, and comes to this. -/
structure Logs {α : Type} (p : Handling α) (statuses : List InvocationStatus)
    (outcome : Except BridgeExc α) : Prop where
  said : ∃ records : List InvocationRecord,
    p.said = records.map .putItem ∧ records.map (·.status) = statuses
  outcome : p.outcome = outcome

namespace Logs

variable {α β : Type} {p : Handling α} {f : α → Handling β} {handler : BridgeExc → Handling α}
  {statuses statuses' : List InvocationStatus} {a : α} {x : BridgeExc}

theorem pure (a : α) : Logs (Pure.pure a : Handling α) [] (.ok a) := ⟨⟨[], rfl, rfl⟩, rfl⟩

theorem raise (x : BridgeExc) : Logs (.raise x : Handling α) [] (.error x) := ⟨⟨[], rfl, rfl⟩, rfl⟩

theorem ofExcept (e : Except BridgeExc α) : Logs (Handling.ofExcept e) [] e :=
  ⟨⟨[], said_ofExcept e, rfl⟩, outcome_ofExcept e⟩

theorem bind {e : Except BridgeExc β} (hp : Logs p statuses (.ok a)) (hf : Logs (f a) statuses' e) :
    Logs (p >>= f) (statuses ++ statuses') e := by
  obtain ⟨records, hsaid, hstatuses⟩ := hp.said
  obtain ⟨records', hsaid', hstatuses'⟩ := hf.said
  refine ⟨⟨records ++ records', ?_, ?_⟩, ?_⟩
  · rw [Prog.said_bind_ok hp.outcome, hsaid, hsaid', List.map_append]
  · rw [List.map_append, hstatuses, hstatuses']
  · rw [Prog.outcome_bind_ok hp.outcome, hf.outcome]

/-- Sequencing, where only the second part logs. -/
theorem after {e : Except BridgeExc β} (hp : Logs p [] (.ok a)) (hf : Logs (f a) statuses e) :
    Logs (p >>= f) statuses e := hp.bind hf

/-- Sequencing, where only the first part logs. -/
theorem before {e : Except BridgeExc β} (hp : Logs p statuses (.ok a)) (hf : Logs (f a) [] e) :
    Logs (p >>= f) statuses e := List.append_nil statuses ▸ hp.bind hf

theorem bind_error (hp : Logs p statuses (.error x)) : Logs (p >>= f) statuses (.error x) := by
  obtain ⟨records, hsaid, hstatuses⟩ := hp.said
  refine ⟨⟨records, ?_, hstatuses⟩, Prog.outcome_bind_error hp.outcome⟩
  rw [Prog.said_bind_error hp.outcome, hsaid]

theorem tryExcept_ok (hp : Logs p statuses (.ok a)) (handler : BridgeExc → Handling α) :
    Logs (p.tryExcept handler) statuses (.ok a) := by
  obtain ⟨records, hsaid, hstatuses⟩ := hp.said
  obtain ⟨hsaid', houtcome⟩ := Prog.tryExcept_ok handler hp.outcome
  exact ⟨⟨records, hsaid'.trans hsaid, hstatuses⟩, houtcome⟩

theorem tryExcept_error {e : Except BridgeExc α} (hp : Logs p statuses (.error x))
    (hhandler : Logs (handler x) statuses' e) :
    Logs (p.tryExcept handler) (statuses ++ statuses') e := by
  obtain ⟨records, hsaid, hstatuses⟩ := hp.said
  obtain ⟨records', hsaid', hstatuses'⟩ := hhandler.said
  obtain ⟨htry, houtcome⟩ := Prog.tryExcept_error handler hp.outcome
  refine ⟨⟨records ++ records', ?_, ?_⟩, ?_⟩
  · rw [htry, hsaid, hsaid', List.map_append]
  · rw [List.map_append, hstatuses, hstatuses']
  · rw [houtcome, hhandler.outcome]

end Logs

theorem records_putItem (records : List InvocationRecord) :
    (records.map Act.putItem).filterMap Act.record? = records := by
  induction records with
  | nil => rfl
  | cons record records ih => simp [Act.record?, ih]

theorem chunks_putItem (records : List InvocationRecord) :
    (records.map Act.putItem).filterMap Act.chunk? = [] := by
  simp [List.filterMap_map, Function.comp_def, Act.chunk?]

theorem records_write (chunks : List Chunk) :
    (chunks.map Act.write).filterMap Act.record? = [] := by
  simp [List.filterMap_map, Function.comp_def, Act.record?]

theorem chunks_write (chunks : List Chunk) :
    (chunks.map Act.write).filterMap Act.chunk? = chunks := by
  induction chunks with
  | nil => rfl
  | cons chunk chunks ih => simp [Act.chunk?, ih]

/-! ## What each part logs -/

/-- The record of a call that reports this usage, if it can be kept. -/
def keptStatus (usage : TokenUsage) (status : InvocationStatus) : List InvocationStatus :=
  if TokenUsage.Kept usage then [status] else []

theorem logs_logInvocation (env : Surroundings) (inv : AgentInvocation) (status : InvocationStatus)
    (sessionId : Option String) (region : String) (usage : TokenUsage) (estimated : Nat)
    (errorCode : Option String) :
    ∃ tpmResult, Logs (Telemetry.logInvocation env inv status sessionId region usage estimated
      errorCode) (keptStatus usage status) (.ok tpmResult) := by
  have hkept : (Telemetry.invocationRecord env inv status sessionId region usage
      errorCode).serialisable = true ↔ TokenUsage.Kept usage := by
    simp only [InvocationRecord.serialisable, decide_eq_true_eq]
    exact Iff.rfl
  unfold Telemetry.logInvocation keptStatus
  simp only [hkept]
  split
  · exact ⟨_, ⟨[_], rfl, rfl⟩, rfl⟩
  · exact ⟨_, ⟨[], rfl, rfl⟩, rfl⟩

/-- A record without usage can always be kept. -/
theorem keptStatus_noUsage (status : InvocationStatus) : keptStatus noUsage status = [status] :=
  if_pos (by decide)

theorem logs_runtimeFailureResponse (env : Surroundings) (inv : AgentInvocation) (region : String)
    (exc : BridgeExc) (estimated : Nat) :
    ∃ response : HttpResponse, IsError response (failureStatus exc) ∧
      Logs (runtimeFailureResponse env inv region exc estimated) [.error] (.ok response) := by
  obtain ⟨tpmResult, hlogged⟩ := logs_logInvocation env inv .error inv.sessionId region noUsage
    estimated (some (failure exc).2.1)
  rw [keptStatus_noUsage] at hlogged
  exact ⟨_, ⟨rfl, _, _, _, rfl⟩, hlogged.before (Logs.pure _)⟩

theorem logs_failedCall (env : Surroundings) (inv : AgentInvocation) (region : String)
    (exc : BridgeExc) :
    ∃ response : HttpResponse, IsError response (failureStatus exc) ∧
      Logs (failedCall env inv region exc) [.error] (.ok response) := by
  obtain ⟨response, hstatus, hlogged⟩ := logs_runtimeFailureResponse env inv region exc 0
  exact ⟨response.updateHeaders _, hstatus, hlogged.before (Logs.pure _)⟩

theorem logs_answerFailure (env : Surroundings) (inv : AgentInvocation) (exc : BridgeExc) :
    ∃ response : HttpResponse, IsError response (raisedStatus exc) ∧
      Logs (answerFailure env inv exc) [.error] (.ok (some response)) := by
  unfold answerFailure raisedStatus
  split
  · obtain ⟨tpmResult, hlogged⟩ := logs_logInvocation env inv .error inv.sessionId
      env.runtimeRegion noUsage inv.estimate (some "THROTTLED")
    rw [keptStatus_noUsage] at hlogged
    exact ⟨_, ⟨rfl, _, _, _, rfl⟩, hlogged.before (Logs.pure _)⟩
  · obtain ⟨response, hstatus, hlogged⟩ :=
      logs_runtimeFailureResponse env inv env.runtimeRegion _ inv.estimate
    exact ⟨response, hstatus, hlogged.before (Logs.pure _)⟩

theorem runtimeAnswer_eq_ok {env : Surroundings} {inv : AgentInvocation} {runtimeArn : String}
    {qualifier : Option String} {credentials : Items} {answer : ReadAnswer}
    (h : runtimeAnswer env inv runtimeArn qualifier credentials = .ok answer) :
    tokenUsageOf env answer.bodyText = .ok answer.tokenUsage := by
  simp only [runtimeAnswer, bind, Except.bind, pure, Except.pure] at h
  split at h
  · cases h
  · split at h
    · cases h
    · split at h
      · cases h
      · split at h
        · cases h
        · rename_i husage
          cases h
          exact husage

/-- A call of the runtime that is not answered logs nothing, and raises. -/
theorem logs_callRuntime_error {env : Surroundings} {inv : AgentInvocation} {runtimeArn : String}
    {qualifier : Option String} {credentials : Items} {exc : BridgeExc}
    (h : runtimeAnswer env inv runtimeArn qualifier credentials = .error exc) :
    Logs (callRuntime env inv runtimeArn qualifier credentials) [] (.error exc) := by
  unfold callRuntime
  rw [h]
  exact (Logs.ofExcept _).bind_error

/-- The call of the runtime logs a success, then reads the status. -/
theorem logs_callRuntime {env : Surroundings} {inv : AgentInvocation} {runtimeArn : String}
    {qualifier : Option String} {credentials : Items} {answer : ReadAnswer}
    (h : runtimeAnswer env inv runtimeArn qualifier credentials = .ok answer) :
    ∃ headers, Logs (callRuntime env inv runtimeArn qualifier credentials)
      (keptStatus answer.tokenUsage .success)
      ((answeredStatus env answer.fields).map fun statusCode =>
        ⟨statusCode, headers, .text answer.bodyText⟩) := by
  obtain ⟨tpmResult, hlogged⟩ := logs_logInvocation env inv .success inv.sessionId
    env.runtimeRegion answer.tokenUsage inv.estimate none
  unfold callRuntime
  rw [h]
  refine ⟨answerHeaders env answer.fields tpmResult,
    (Logs.ofExcept _).after (hlogged.before ?_)⟩
  cases hstatus : answeredStatus env answer.fields with
  | error exc => exact (Logs.ofExcept _).bind_error
  | ok statusCode => exact (Logs.ofExcept _).after (Logs.pure _)

theorem mockAnswer_eq_ok {env : Surroundings} {inv : AgentInvocation} {url : String}
    {answer : MockAnswer} {usage : TokenUsage} (h : mockAnswer env inv url = .ok (answer, usage)) :
    tokenUsageOf env answer.text = .ok usage := by
  simp only [mockAnswer, bind, Except.bind, pure, Except.pure] at h
  split at h
  · cases h
  · split at h
    · cases h
    · rename_i husage
      cases h
      exact husage

theorem logs_callMockRuntime_error {env : Surroundings} {inv : AgentInvocation} {url : String}
    {exc : BridgeExc} (h : mockAnswer env inv url = .error exc) :
    Logs (callMockRuntime env inv url) [] (.error exc) := by
  unfold callMockRuntime
  rw [h]
  exact (Logs.ofExcept _).bind_error

/-- The call of the mock runtime logs the status of the answer, and passes it on. -/
theorem logs_callMockRuntime {env : Surroundings} {inv : AgentInvocation} {url : String}
    {answer : MockAnswer} {usage : TokenUsage} (h : mockAnswer env inv url = .ok (answer, usage)) :
    ∃ headers, Logs (callMockRuntime env inv url)
      (keptStatus usage (if answer.ok then .success else .error))
      (.ok ⟨answer.statusCode, headers, .text answer.text⟩) := by
  obtain ⟨tpmResult, hlogged⟩ := logs_logInvocation env inv
    (if answer.ok then .success else .error) inv.sessionId "mock-runtime" usage inv.estimate none
  unfold callMockRuntime
  rw [h]
  exact ⟨_, (Logs.ofExcept _).after (hlogged.before (Logs.pure _))⟩

/-- An answer whose usage has been read is passed on, unless correcting the usage raises. -/
theorem logs_corrected {env : Surroundings} (inv : AgentInvocation) (response : HttpResponse)
    {usage : TokenUsage} {bodyText : String} (hbody : response.body = .text bodyText)
    (husage : tokenUsageOf env bodyText = .ok usage) :
    Logs (corrected env inv response) []
      (match raisedByCorrection env inv response.statusCode usage with
        | some text => .error (.other text)
        | none => .ok (some response)) := by
  have hread : bodyUsage env response.body = .ok usage := by
    rw [hbody]
    exact husage
  unfold corrected performTpmCorrection raisedByCorrection
  by_cases hstatus : response.statusCode = 200
  · by_cases hmode : inv.agent.invocationMode = .streaming
    · simp only [hstatus, hmode, if_true, ne_eq, not_true_eq_false, and_false, if_false]
      exact (Logs.ofExcept (.ok ())).after (Logs.pure _)
    · simp only [hstatus, hmode, if_true, if_false, ne_eq, not_false_eq_true, and_self, hread]
      cases herror : correctionError env inv.estimate usage with
      | some text =>
        simp only [bind, Except.bind, herror]
        exact (Logs.ofExcept _).bind_error
      | none =>
        simp only [bind, Except.bind, herror]
        exact (Logs.ofExcept (.ok ())).after (Logs.pure _)
  · simp only [hstatus, if_false, false_and]
    exact Logs.pure _

/-! ## Failures -/

theorem le_failureStatus (exc : BridgeExc) : 300 ≤ failureStatus exc := by
  cases exc with
  | clientError code message httpStatusCode =>
    cases httpStatusCode with
    | none => exact (by decide : (300 : Int) ≤ 502)
    | some status => exact status.code_ge
  | other text => exact (by decide : (300 : Int) ≤ 502)

/-- A response that is no success is not corrected. -/
theorem corrected_of_failed {env : Surroundings} {inv : AgentInvocation} {response : HttpResponse}
    {exc : BridgeExc} (h : IsError response (failureStatus exc)) :
    corrected env inv response = pure (some response) := by
  have hstatus : response.statusCode ≠ 200 := by
    have hle := le_failureStatus exc
    rw [h.1]
    omega
  exact if_neg hstatus

theorem failureStatus_answeredStatus {env : Surroundings} {fields : Items} {exc : BridgeExc}
    (h : answeredStatus env fields = .error exc) : failureStatus exc = 502 := by
  unfold answeredStatus at h
  simp only at h
  split at h
  · cases h
  · cases h
    rfl
  · cases h
    rfl

theorem mapError_eq_error {ε ε' α : Type} {f : ε → ε'} {x : Except ε α} {e' : ε'}
    (h : x.mapError f = .error e') : ∃ e, e' = f e := by
  cases x with
  | error e =>
    cases h
    exact ⟨e, rfl⟩
  | ok a => cases h

theorem isError_invalidRuntime (inv : AgentInvocation) (message : String) :
    IsError (invalidRuntime inv message) 500 := ⟨rfl, _, _, _, rfl⟩

/-- What is wrong with an agent's runtime is answered with status 500. -/
theorem resolveRuntime_respond {env : Surroundings} {inv : AgentInvocation}
    {response : HttpResponse} (h : resolveRuntime env inv = .error (.respond response)) :
    IsError response 500 := by
  -- the two kinds of check: one raises, and one is answered
  have hraises {α : Type} {x : Except BridgeExc α} {stop : Stop}
      (hx : x.mapError .raised = .error stop) (hstop : stop = .respond response) :
      IsError response 500 := by
    obtain ⟨exc, rfl⟩ := mapError_eq_error hx
    cases hstop
  have hanswers {α : Type} {x : Except String α} {stop : Stop}
      (hx : x.mapError (fun message => Stop.respond (invalidRuntime inv message)) = .error stop)
      (hstop : stop = .respond response) : IsError response 500 := by
    obtain ⟨message, rfl⟩ := mapError_eq_error hx
    cases hstop
    exact isError_invalidRuntime inv message
  unfold resolveRuntime at h
  split at h
  · cases h
    exact isError_invalidRuntime inv _
  · simp only [bind, Except.bind, pure, Except.pure] at h
    split at h
    · rename_i hmalformed
      exact hraises hmalformed (Except.error.inj h)
    · split at h
      · split at h
        · cases h
          exact isError_invalidRuntime inv _
        · split at h
          · rename_i hmalformed
            exact hraises hmalformed (Except.error.inj h)
          · split at h
            · rename_i hendpoint
              exact hanswers hendpoint (Except.error.inj h)
            · cases h
      · split at h
        · rename_i hendpoint
          exact hanswers hendpoint (Except.error.inj h)
        · cases h

theorem resolveExecutionRole_error {env : Surroundings} {inv : AgentInvocation}
    {response : HttpResponse} (h : resolveExecutionRole env inv = .error response) :
    IsError response 404 ∨ IsError response 500 := by
  unfold resolveExecutionRole at h
  simp only at h
  split at h
  · cases h
    exact Or.inl ⟨rfl, _, _, _, rfl⟩
  · split at h
    · cases h
      exact Or.inr (isError_invalidRuntime inv _)
    · split at h
      · cases h
      · rename_i roleArn _ _ expectedAccountId _
        cases hvalid : validateExecutionRoleArn env roleArn expectedAccountId with
        | ok _ =>
          rw [hvalid] at h
          cases h
        | error message =>
          rw [hvalid] at h
          cases h
          exact Or.inr (isError_invalidRuntime inv _)

/-! ## The real runtime -/

/-- The runtime, its qualifier and the credentials the real runtime is called with. -/
def Resolved (env : Surroundings) (inv : AgentInvocation) (runtimeArn : String)
    (qualifier : Option String) (credentials : Items) : Prop :=
  ∃ roleArn, resolveRuntime env inv = .ok (runtimeArn, qualifier) ∧
    resolveExecutionRole env inv = .ok roleArn ∧ env.assumeRole roleArn = .ok credentials

/-- How an invocation of the real runtime ends: the statuses it logs, and the response. -/
inductive RealEnd (env : Surroundings) (inv : AgentInvocation) :
    List InvocationStatus → HttpResponse → Prop
  | invalid {response : HttpResponse} (hruntime : resolveRuntime env inv = .error (.respond response))
      (herror : IsError response 500) : RealEnd env inv [] response
  | malformed {exc : BridgeExc} {response : HttpResponse}
      (hruntime : resolveRuntime env inv = .error (.raised exc))
      (herror : IsError response (raisedStatus exc)) : RealEnd env inv [.error] response
  | noRole {runtime : String × Option String} {response : HttpResponse}
      (hruntime : resolveRuntime env inv = .ok runtime)
      (hrole : resolveExecutionRole env inv = .error response)
      (herror : IsError response 404 ∨ IsError response 500) : RealEnd env inv [] response
  | denied {runtime : String × Option String} {roleArn : String} {exc : BridgeExc}
      {response : HttpResponse} (hruntime : resolveRuntime env inv = .ok runtime)
      (hrole : resolveExecutionRole env inv = .ok roleArn)
      (hassume : env.assumeRole roleArn = .error exc)
      (herror : IsError response (raisedStatus exc)) : RealEnd env inv [.error] response
  | failed {runtimeArn : String} {qualifier : Option String} {credentials : Items}
      {exc : BridgeExc} {response : HttpResponse}
      (hresolved : Resolved env inv runtimeArn qualifier credentials)
      (hanswer : runtimeAnswer env inv runtimeArn qualifier credentials = .error exc)
      (herror : IsError response (failureStatus exc)) : RealEnd env inv [.error] response
  | unread {runtimeArn : String} {qualifier : Option String} {credentials : Items}
      {answer : ReadAnswer} {exc : BridgeExc} {response : HttpResponse}
      (hresolved : Resolved env inv runtimeArn qualifier credentials)
      (hanswer : runtimeAnswer env inv runtimeArn qualifier credentials = .ok answer)
      (hstatus : answeredStatus env answer.fields = .error exc) (herror : IsError response 502) :
      RealEnd env inv (keptStatus answer.tokenUsage .success ++ [.error]) response
  | uncorrected {runtimeArn : String} {qualifier : Option String} {credentials : Items}
      {answer : ReadAnswer} {statusCode : Int} {text : String} {response : HttpResponse}
      (hresolved : Resolved env inv runtimeArn qualifier credentials)
      (hanswer : runtimeAnswer env inv runtimeArn qualifier credentials = .ok answer)
      (hstatus : answeredStatus env answer.fields = .ok statusCode)
      (hraised : raisedByCorrection env inv statusCode answer.tokenUsage = some text)
      (herror : IsError response 502) :
      RealEnd env inv (keptStatus answer.tokenUsage .success ++ [.error]) response
  | answered {runtimeArn : String} {qualifier : Option String} {credentials : Items}
      {answer : ReadAnswer} {statusCode : Int} {headers : Headers}
      (hresolved : Resolved env inv runtimeArn qualifier credentials)
      (hanswer : runtimeAnswer env inv runtimeArn qualifier credentials = .ok answer)
      (hstatus : answeredStatus env answer.fields = .ok statusCode)
      (hraised : raisedByCorrection env inv statusCode answer.tokenUsage = none) :
      RealEnd env inv (keptStatus answer.tokenUsage .success)
        ⟨statusCode, headers, .text answer.bodyText⟩

/-- The end of an invocation whose runtime is called. -/
theorem call_ends {env : Surroundings} {inv : AgentInvocation} {runtimeArn : String}
    {qualifier : Option String} {credentials : Items}
    (hresolved : Resolved env inv runtimeArn qualifier credentials) :
    ∃ statuses response, RealEnd env inv statuses response ∧
      Logs (((callRuntime env inv runtimeArn qualifier credentials).tryExcept
        (failedCall env inv env.runtimeRegion) >>= corrected env inv).tryExcept
        (answerFailure env inv)) statuses (.ok (some response)) := by
  cases hanswer : runtimeAnswer env inv runtimeArn qualifier credentials with
  | error exc =>
    obtain ⟨response, herror, hfailed⟩ := logs_failedCall env inv env.runtimeRegion exc
    have hcall := (logs_callRuntime_error hanswer).tryExcept_error hfailed
    have hcorrected := hcall.before (f := corrected env inv)
      (corrected_of_failed herror ▸ Logs.pure (some response))
    exact ⟨_, response, .failed hresolved hanswer herror, hcorrected.tryExcept_ok _⟩
  | ok answer =>
    obtain ⟨headers, hlogged⟩ := logs_callRuntime hanswer
    cases hstatus : answeredStatus env answer.fields with
    | error exc =>
      -- the success is logged, and then the failure to read the status
      rw [hstatus] at hlogged
      obtain ⟨response, herror, hfailed⟩ := logs_failedCall env inv env.runtimeRegion exc
      have hcall := hlogged.tryExcept_error hfailed
      have hcorrected := hcall.before (f := corrected env inv)
        (corrected_of_failed herror ▸ Logs.pure (some response))
      rw [failureStatus_answeredStatus hstatus] at herror
      exact ⟨_, response, .unread hresolved hanswer hstatus herror, hcorrected.tryExcept_ok _⟩
    | ok statusCode =>
      rw [hstatus] at hlogged
      have hcall := hlogged.tryExcept_ok (failedCall env inv env.runtimeRegion)
      have hcorrected := logs_corrected inv ⟨statusCode, headers, .text answer.bodyText⟩ rfl
        (runtimeAnswer_eq_ok hanswer)
      cases hraised : raisedByCorrection env inv statusCode answer.tokenUsage with
      | some text =>
        simp only [hraised] at hcorrected
        obtain ⟨response, herror, hfailed⟩ := logs_answerFailure env inv (.other text)
        exact ⟨_, response, .uncorrected hresolved hanswer hstatus hraised herror,
          (hcall.before hcorrected).tryExcept_error hfailed⟩
      | none =>
        simp only [hraised] at hcorrected
        exact ⟨_, _, .answered hresolved hanswer hstatus hraised,
          (hcall.before hcorrected).tryExcept_ok _⟩

/-- An invocation of the real runtime ends in one of the ways of `RealEnd`. -/
theorem real_ends (env : Surroundings) (inv : AgentInvocation) :
    ∃ statuses response, RealEnd env inv statuses response ∧
      Logs ((invokeRealRuntime env inv >>= corrected env inv).tryExcept (answerFailure env inv))
        statuses (.ok (some response)) := by
  -- what is answered without a record
  have hrefused {response : HttpResponse} (hstatus : response.statusCode ≠ 200) :
      Logs ((pure response >>= corrected env inv).tryExcept (answerFailure env inv)) []
        (.ok (some response)) := by
    have hcorrected : Logs (corrected env inv response) [] (.ok (some response)) := by
      rw [corrected, if_neg hstatus]
      exact Logs.pure _
    exact ((Logs.pure response).after hcorrected).tryExcept_ok _
  unfold invokeRealRuntime
  cases hruntime : resolveRuntime env inv with
  | error stop =>
    cases stop with
    | respond response =>
      have herror := resolveRuntime_respond hruntime
      exact ⟨_, _, .invalid hruntime herror, hrefused (by rw [herror.1]; decide)⟩
    | raised exc =>
      obtain ⟨response, herror, hfailed⟩ := logs_answerFailure env inv exc
      exact ⟨_, response, .malformed hruntime herror,
        (Logs.raise exc).bind_error.tryExcept_error hfailed⟩
  | ok runtime =>
    obtain ⟨runtimeArn, qualifier⟩ := runtime
    cases hrole : resolveExecutionRole env inv with
    | error response =>
      have herror := resolveExecutionRole_error hrole
      refine ⟨_, _, .noRole hruntime hrole herror, hrefused ?_⟩
      rcases herror with herror | herror <;> (rw [herror.1]; decide)
    | ok roleArn =>
      simp only
      cases hassume : env.assumeRole roleArn with
      | error exc =>
        obtain ⟨response, herror, hfailed⟩ := logs_answerFailure env inv exc
        exact ⟨_, response, .denied hruntime hrole hassume herror,
          (Logs.ofExcept _).bind_error.bind_error.tryExcept_error hfailed⟩
      | ok credentials => exact call_ends ⟨roleArn, hruntime, hrole, hassume⟩

end A5cCell.Bridge.RouteAdapter
