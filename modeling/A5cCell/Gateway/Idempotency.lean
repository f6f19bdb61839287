import A5cCell.Lib.Runs
import A5cCell.Gateway.RequestPipeline

/-!
# Idempotency in front of authentication

`request_interceptor.handler` with `request_idempotency.py`: a request is answered with what was
stored under its idempotency key, and only a request whose key has nothing stored is processed. The
key is the client's session id and the JSON-RPC id as texts, so requests that share it need not
have anything else in common, a bearer token least of all.

The Powertools layer is `idempotent`: within its window, the stored result of the first call that
returned. `answered_alone` says when that does not show: when requests of one key are one request.
-/

namespace A5cCell.Gateway

open Py (Val Items Dict truthyText)
open Runs

/-- `build_idempotency_key`. -/
def buildIdempotencyKey (headers : Headers) (body : Items) : Option String :=
  match truthyText (getHeader headers "Mcp-Session-Id") with
  | none => none
  | some sessionId =>
      let requestId := body.get "id"
      if requestId.isNone then none else some (sessionId ++ ":" ++ requestId.toStr)

/-- A call of an idempotent function: what is stored under the key, or the result of calling it,
    which is stored unless it raises. -/
def idempotent {κ ε ρ : Type} [DecidableEq κ] (stored : Dict κ ρ) (key : κ) (call : Except ε ρ) :
    Dict κ ρ × Except ε ρ :=
  match stored.get? key with
  | some result => (stored, .ok result)
  | none => match call with
    | .ok result => (stored.set key result, .ok result)
    | .error raised => (stored, .error raised)

/-- With nothing stored, the answer is the call's own. -/
theorem idempotent_of_none {κ ε ρ : Type} [DecidableEq κ] {stored : Dict κ ρ} {key : κ}
    {call : Except ε ρ} (h : stored.get? key = none) : (idempotent stored key call).2 = call := by
  simp only [idempotent, h]
  cases call <;> rfl

theorem idempotent_of_some {κ ε ρ : Type} [DecidableEq κ] {stored : Dict κ ρ} {key : κ}
    {call : Except ε ρ} {result : ρ} (h : stored.get? key = some result) :
    idempotent stored key call = (stored, .ok result) := by
  simp only [idempotent, h]

/-- One request to the interceptor: its surroundings at that time, whether `IDEMPOTENCY_TABLE` is
    set, and the event. -/
structure GatewayCall where
  env : RequestEnv
  idempotencyTable : Bool
  event : Items

/-- The refusal of an event that is not an interceptor's input, if it is not. -/
def malformedError (event : Items) : Option JsonRpcError :=
  match (event.get "mcp" (.dict [])).asDict? with
  | none => some ⟨400, -32600, "Invalid interceptor input"⟩
  | some mcp => match (mcp.get "gatewayRequest" (.dict [])).asDict? with
    | none => some ⟨400, -32600, "Invalid gateway request"⟩
    | some _ => none

/-- The key a request is stored under, if it is stored. -/
def GatewayCall.key (call : GatewayCall) : Option String :=
  if call.idempotencyTable then
    buildIdempotencyKey (requestHeadersOf call.event)
      (requestBodyOf call.env.jsonLoads call.event)
  else none

/-- `handler`. -/
def handler (stored : Dict String Outcome) (call : GatewayCall) :
    Dict String Outcome × Except Raised Outcome :=
  match malformedError call.event with
  | some error => (stored, .ok (.rejected (errorResponse call.env.jsonLoads [] .none error)))
  | none => match call.key with
    | some key => idempotent stored key (processRequest call.env call.event)
    | none => (stored, processRequest call.env call.event)

/-- What the interceptor answers to an event alone, with nothing stored. -/
def answerAlone (env : RequestEnv) (event : Items) : Except Raised Outcome :=
  match malformedError event with
  | some error => .ok (.rejected (errorResponse env.jsonLoads [] .none error))
  | none => processRequest env event

/-- An answer that the event itself could be given, in the surroundings of some call of the run;
    and an accepted one only where the event's own bearer token is accepted there. -/
def AnsweredAlone (calls : List GatewayCall) (event : Items)
    (answer : Except Raised Outcome) : Prop :=
  ∃ call ∈ calls, answer = answerAlone call.env event ∧
    ∀ claims response, answer = .ok (.accepted claims response) →
      ∃ identity, authenticate call.env (requestHeadersOf event) = .ok identity

/-! ## The store over a run -/

/-- Whatever is stored under a key is what some request of that key was processed to. -/
def StoredByKey (calls : List GatewayCall) (stored : Dict String Outcome) : Prop :=
  ∀ key outcome, stored.get? key = some outcome →
    ∃ call ∈ calls, call.key = some key ∧ malformedError call.event = none ∧
      processRequest call.env call.event = .ok outcome

/-- **One request** keeps the store. -/
theorem handler_storedByKey {calls : List GatewayCall} {stored : Dict String Outcome}
    {call : GatewayCall} (hinv : StoredByKey calls stored) (hcall : call ∈ calls) :
    StoredByKey calls (handler stored call).1 := by
  rw [handler]
  cases hmalformed : malformedError call.event with
  | some error => exact hinv
  | none =>
    cases hkey : call.key with
    | none => exact hinv
    | some key =>
      simp only [idempotent]
      cases hstored : stored.get? key with
      | some result => exact hinv
      | none =>
        cases hprocess : processRequest call.env call.event with
        | error raised => exact hinv
        | ok result =>
          intro key' outcome houtcome
          simp only [Dict.get?_set] at houtcome
          split at houtcome
          · rename_i heq
            cases houtcome
            exact ⟨call, hcall, heq ▸ hkey, hmalformed, hprocess⟩
          · exact hinv key' outcome houtcome

/-- Processing reads an event through its gateway request only. -/
theorem processRequest_congr (env : RequestEnv) {event event' : Items}
    (h : gatewayRequestOf event = gatewayRequestOf event') :
    processRequest env event = processRequest env event' := by
  simp only [processRequest, requestBodyOf, requestHeadersOf, h]

theorem answeredAlone_self {calls : List GatewayCall} {call : GatewayCall} (hcall : call ∈ calls) :
    AnsweredAlone calls call.event (answerAlone call.env call.event) := by
  refine ⟨call, hcall, rfl, fun claims response haccepted => ?_⟩
  rw [answerAlone] at haccepted
  cases hmalformed : malformedError call.event with
  | some error => simp [hmalformed] at haccepted
  | none =>
    simp only [hmalformed] at haccepted
    obtain ⟨identity, _, _, _, hidentity, _⟩ := processRequest_accepted.mp haccepted
    exact ⟨identity, hidentity⟩

/-- **A run of requests.** Where requests of one idempotency key carry one gateway request, every
    request is answered as it would be alone, and is accepted only on its own bearer token. -/
theorem answered_alone {calls : List GatewayCall}
    (hsame : ∀ call ∈ calls, ∀ call' ∈ calls, ∀ key, call.key = some key → call'.key = some key →
      gatewayRequestOf call.event = gatewayRequestOf call'.event) :
    ∀ m ∈ trace handler Dict.empty calls, AnsweredAlone calls m.event.event m.response := by
  intro m hm
  have hcall := event_of_mem_trace hm
  have hinv : StoredByKey calls m.before := by
    refine inv_of_mem_trace (G := fun _ call => call ∈ calls)
      (fun stored call => handler_storedByKey) ?_ (fun m hm => event_of_mem_trace hm) m hm
    intro key outcome houtcome
    exact absurd houtcome (by simp)
  rw [response_of_mem_trace hm, handler]
  have hself := answeredAlone_self hcall
  rw [answerAlone] at hself
  cases hmalformed : malformedError m.event.event with
  | some error =>
    simp only [hmalformed] at hself
    exact hself
  | none =>
    simp only [hmalformed] at hself
    cases hkey : m.event.key with
    | none => exact hself
    | some key =>
      cases hstored : m.before.get? key with
      | none =>
        simp only [idempotent_of_none hstored]
        exact hself
      | some outcome =>
        -- the answer was stored for a request of the same key, which is this same request
        obtain ⟨call, hcall', hkey', -, hprocess⟩ := hinv key outcome hstored
        have hcongr := hsame call hcall' m.event hcall key hkey' hkey
        rw [processRequest_congr call.env hcongr] at hprocess
        simp only [idempotent_of_some hstored]
        refine ⟨call, hcall', ?_, fun claims response haccepted => ?_⟩
        · rw [answerAlone, hmalformed]
          exact hprocess.symm
        · rw [haccepted] at hprocess
          obtain ⟨identity, _, _, _, hidentity, _⟩ := processRequest_accepted.mp hprocess
          exact ⟨identity, hidentity⟩

/-- A request of the sample deployment's user, in session `s` under id 1. -/
def withBearer : GatewayCall where
  env := sampleEnv
  idempotencyTable := true
  event := sampleEvent [("Authorization", .str ("Bearer " ++ sampleUserToken)),
    ("Mcp-Session-Id", .str "s")] [("id", .int 1), ("method", .str "tools/list")]

/-- A request in that session under that id, without a token. -/
def withoutBearer : GatewayCall where
  env := sampleEnv
  idempotencyTable := true
  event := sampleEvent [("Mcp-Session-Id", .str "s")] [("id", .str "1")]

/-- Sent again, a request is answered as it was. -/
theorem withBearer_answered_alone :
    (trace handler Dict.empty [withBearer, withBearer]).Forall fun m =>
      AnsweredAlone [withBearer, withBearer] m.event.event m.response := by
  rw [List.forall_iff_forall_mem]
  refine answered_alone fun call hcall call' hcall' key _ _ => ?_
  simp only [List.mem_cons, List.not_mem_nil, or_false, or_self] at hcall hcall'
  rw [hcall, hcall']

/-- Without a token, the session and the id are enough to be answered with the user's scoped
    token. -/
theorem withoutBearer_not_answered_alone :
    ¬ ∀ m ∈ trace handler Dict.empty [withBearer, withoutBearer],
      AnsweredAlone [withBearer, withoutBearer] m.event.event m.response := by
  intro h
  obtain ⟨claims, response, hstored⟩ : ∃ claims response,
      (handler (handler Dict.empty withBearer).1 withoutBearer).2 =
        .ok (.accepted claims response) := ⟨_, _, rfl⟩
  simp only [trace_cons, trace_nil, List.forall_mem_cons] at h
  obtain ⟨call, hcall, -, hidentity⟩ := h.2.1
  obtain ⟨identity, hauthenticated⟩ := hidentity claims response hstored
  have henv : call.env = sampleEnv := by
    simp only [List.mem_cons, List.not_mem_nil, or_false] at hcall
    rcases hcall with rfl | rfl <;> rfl
  have hmissing : authenticate sampleEnv (requestHeadersOf withoutBearer.event) =
      .error ⟨401, -32001, "Missing or invalid Bearer token"⟩ := rfl
  rw [henv] at hauthenticated
  exact absurd (hmissing.symm.trans hauthenticated) (by simp)

end A5cCell.Gateway
