import A5cCell.Lib.Runs
import A5cCell.Lib.Value
import A5cCell.Spa.Sse

/-!
# A session with an agent

`useAgUiSession` of `hooks/useAgUiSession.ts`: a page has a session made, reads its stream, and opens
the stream again after it failed. Calls of `start` and of `reconnect` do not wait for each other, so
several streams may be open at once, and all of them count their attempts in one ref.
-/

namespace A5cCell.Spa

open Py

/-! ## What the session is answered -/

/-- What the hook reads of the answer that makes a session. -/
structure Bootstrap where
  sessionId : String
  connectUrl : String
  deriving DecidableEq

/-- What a call or a stream may throw: an error, by its name and message, or something else. -/
inductive SessionThrown where
  | error (name message : String)
  | other

def SessionThrown.isAbort : SessionThrown → Bool
  | .error name _ => name == "AbortError"
  | .other => false

/-! ## The hook -/

inductive AgUiSessionStatus where
  | idle | bootstrapping | connecting | connected | reconnecting | error | closed
  deriving DecidableEq

structure AgUiMessage where
  id : Option Text
  event : Text
  data : Text
  timestamp : ℕ

/-- A stream that is open: its controller, and the session that is opened again where it fails. A stream
    of `start` is not. -/
structure AgUiStream where
  controller : ℕ
  resumes : Option Bootstrap
  deriving DecidableEq

/-- The hook's state and refs, the controllers made so far and those aborted, and what waits: the
    sessions that are being made, the streams, and the delays before a stream is opened again. -/
structure AgUiSession where
  status : AgUiSessionStatus := .idle
  bootstrap : Option Bootstrap := none
  messages : List AgUiMessage := []
  accumulatedText : Text := []
  sessionId : Option String := none
  error : Option String := none
  abortRef : Option ℕ := none
  reconnectAttemptRef : ℕ := 0
  lastInputRef : String := ""
  controllers : ℕ := 0
  aborted : List ℕ := []
  starting : ℕ := 0
  streams : List AgUiStream := []
  delays : List Bootstrap := []

/-- What the hook asks for. -/
inductive SessionCall where
  | bootstrapAgUiSession (agentName : String) (sessionId : Option String)
  | stream (connectUrl : String)
  | setTimeout (milliseconds : ℕ)
  deriving DecidableEq

def maxReconnectAttempts : ℕ := 3

def reconnectDelayMs : ℕ := 2000

def connectionLost : String :=
  "AG-UI connection lost after " ++ toString maxReconnectAttempts ++ " reconnect attempts. " ++
    "You can retry the request using the standard invoke path."

section

/- `JSON.parse`, where it does not throw. -/
variable (jsonParse : Text → Option Val)

/-- What a message adds to the text. A `null` throws where its fields are read. -/
def textOfMessage (message : AgUiMessage) : Text :=
  match jsonParse message.data with
  | none | some .none =>
    if message.event = "message".toList ∨ message.event = "text".toList then message.data else []
  | some (.dict payload) =>
    match Items.get payload "content", Items.get payload "output" with
    | .str content, _ => content.toList
    | _, .str output => output.toList
    | _, _ => []
  | some _ => []

namespace AgUiSession

/-- `abortRef.current?.abort()`. -/
def abort (s : AgUiSession) : AgUiSession :=
  { s with aborted := s.abortRef.toList ++ s.aborted }

/-- A new controller, and the head of `consumeSseStream` with it. -/
def openStream (s : AgUiSession) (bootstrap : Bootstrap) (resumes : Option Bootstrap) :
    AgUiSession × List SessionCall :=
  let controller := s.controllers + 1
  ({ s with
      status := .connected, abortRef := some controller, reconnectAttemptRef := 0
      controllers := controller, streams := s.streams ++ [⟨controller, resumes⟩] },
    [.stream bootstrap.connectUrl])

/-- The head of `attemptReconnect`. -/
def attemptReconnect (s : AgUiSession) (bootstrap : Bootstrap) : AgUiSession × List SessionCall :=
  if maxReconnectAttempts ≤ s.reconnectAttemptRef then
    ({ s with status := .error, error := some connectionLost }, [])
  else
    ({ s with
        status := .reconnecting, reconnectAttemptRef := s.reconnectAttemptRef + 1
        delays := s.delays ++ [bootstrap] },
      [.setTimeout reconnectDelayMs])

/-- The `catch` of `start`. -/
def startFailed (s : AgUiSession) : SessionThrown → AgUiSession
  | .error name message =>
    if name = "AbortError" then s else { s with status := .error, error := some message }
  | .other => { s with status := .error, error := some "AG-UI session failed to start" }

/-- `start`, up to the call that makes the session. -/
def start (s : AgUiSession) (agentName : Option String) (input : String) :
    AgUiSession × List SessionCall :=
  match truthyText agentName with
  | none => (s, [])
  | some agentName =>
    ({ s.abort with
        messages := [], accumulatedText := [], error := none, reconnectAttemptRef := 0
        lastInputRef := input, status := .bootstrapping, starting := s.starting + 1 },
      [.bootstrapAgUiSession agentName s.sessionId])

/-- The rest of `start`, up to its stream. -/
def bootstrapped (s : AgUiSession) :
    Except SessionThrown Bootstrap → AgUiSession × List SessionCall
  | .ok bootstrap =>
    { s with bootstrap := some bootstrap, sessionId := some bootstrap.sessionId }.openStream
      bootstrap none
  | .error error => (s.startFailed error, [])

/-- `reconnect`, up to its stream. -/
def reconnect (s : AgUiSession) : AgUiSession × List SessionCall :=
  match s.bootstrap with
  | none => ({ s with error := some "No active session to reconnect" }, [])
  | some bootstrap =>
    { s with reconnectAttemptRef := 0, error := none }.openStream bootstrap (some bootstrap)

/-- A stream brings a message; the one that says it is done ends it. -/
def received (s : AgUiSession) (stream : ℕ) (message : AgUiMessage) : AgUiSession :=
  let s := { s with messages := s.messages ++ [message] }
  if message.data = "[DONE]".toList then
    { s with status := .closed, streams := s.streams.eraseIdx stream }
  else { s with accumulatedText := s.accumulatedText ++ textOfMessage jsonParse message }

/-- A stream throws: the `catch` of the function that opened it. -/
def streamFailed (s : AgUiSession) (stream : AgUiStream) (error : SessionThrown) :
    AgUiSession × List SessionCall :=
  match stream.resumes with
  | none => (s.startFailed error, [])
  | some bootstrap => if error.isAbort then (s, []) else s.attemptReconnect bootstrap

/-- The rest of `attemptReconnect`, after its delay. -/
def delayed (s : AgUiSession) (bootstrap : Bootstrap) : AgUiSession × List SessionCall :=
  if s.abortRef.any (s.aborted.contains ·) then (s, [])
  else s.openStream bootstrap (some bootstrap)

end AgUiSession

/-- What happens to the session. Streams and delays are told by their place among those that wait. -/
inductive SessionEvent where
  | start (input : String)
  | bootstrapped (answer : Except SessionThrown Bootstrap)
  | received (stream : ℕ) (event : SseEvent) (now : ℕ)
  | streamEnded (stream : ℕ)
  | streamFailed (stream : ℕ) (error : SessionThrown)
  | delayed (delay : ℕ)
  | disconnect
  | reconnect
  | unmounted

/-- The hook takes an event, with what it asks for. -/
def sessionStep (agentName : Option String) (s : AgUiSession) :
    SessionEvent → AgUiSession × List SessionCall
  | .start input => s.start agentName input
  | .bootstrapped answer =>
    if s.starting = 0 then (s, []) else { s with starting := s.starting - 1 }.bootstrapped answer
  | .received stream event now =>
    match s.streams[stream]? with
    | some _ => (s.received jsonParse stream ⟨event.id, event.event, event.data, now⟩, [])
    | none => (s, [])
  | .streamEnded stream =>
    match s.streams[stream]? with
    | some _ => ({ s with status := .closed, streams := s.streams.eraseIdx stream }, [])
    | none => (s, [])
  | .streamFailed stream error =>
    match s.streams[stream]? with
    | some failed => { s with streams := s.streams.eraseIdx stream }.streamFailed failed error
    | none => (s, [])
  | .delayed delay =>
    match s.delays[delay]? with
    | some bootstrap => { s with delays := s.delays.eraseIdx delay }.delayed bootstrap
    | none => (s, [])
  | .disconnect => ({ s.abort with status := .closed }, [])
  | .reconnect => s.reconnect
  | .unmounted => (s.abort, [])

/-! ## The text that is shown -/

/-- What a message adds to the text; the one that says the stream is done adds nothing. -/
def shownText (message : AgUiMessage) : Text :=
  if message.data = "[DONE]".toList then [] else textOfMessage jsonParse message

/-- The text is that of the messages. -/
def ShowsMessages (s : AgUiSession) : Prop :=
  s.accumulatedText = s.messages.flatMap (shownText jsonParse)

variable {jsonParse} {s t : AgUiSession}

/-- What leaves the messages and the text leaves them so. -/
theorem ShowsMessages.of_eq (h : ShowsMessages jsonParse s) (hmessages : t.messages = s.messages)
    (htext : t.accumulatedText = s.accumulatedText) : ShowsMessages jsonParse t := by
  rw [ShowsMessages, htext, hmessages]
  exact h

theorem ShowsMessages.startFailed (h : ShowsMessages jsonParse s) (error : SessionThrown) :
    ShowsMessages jsonParse (s.startFailed error) := by
  cases error with
  | error name message =>
    rw [AgUiSession.startFailed]
    split
    · exact h
    · exact h.of_eq rfl rfl
  | other => exact h.of_eq rfl rfl

theorem ShowsMessages.attemptReconnect (h : ShowsMessages jsonParse s) (bootstrap : Bootstrap) :
    ShowsMessages jsonParse (s.attemptReconnect bootstrap).1 := by
  rw [AgUiSession.attemptReconnect]
  split
  · exact h.of_eq rfl rfl
  · exact h.of_eq rfl rfl

theorem ShowsMessages.received (h : ShowsMessages jsonParse s) (stream : ℕ) (message : AgUiMessage) :
    ShowsMessages jsonParse (s.received jsonParse stream message) := by
  have hone : (s.messages ++ [message]).flatMap (shownText jsonParse) =
      s.accumulatedText ++ shownText jsonParse message := by
    rw [h, List.flatMap_append, List.flatMap_singleton]
  by_cases hdone : message.data = "[DONE]".toList
  · rw [AgUiSession.received, if_pos hdone, ShowsMessages, hone, shownText, if_pos hdone]
    exact (List.append_nil _).symm
  · rw [AgUiSession.received, if_neg hdone, ShowsMessages, hone, shownText, if_neg hdone]

theorem ShowsMessages.step (h : ShowsMessages jsonParse s) (agentName : Option String)
    (event : SessionEvent) : ShowsMessages jsonParse (sessionStep jsonParse agentName s event).1 := by
  cases event with
  | start input =>
    simp only [sessionStep, AgUiSession.start]
    split
    · exact h
    · rfl
  | bootstrapped answer =>
    simp only [sessionStep]
    split
    · exact h
    · cases answer with
      | ok bootstrap => exact h.of_eq rfl rfl
      | error error =>
        exact ShowsMessages.startFailed (s := { s with starting := s.starting - 1 }) (h.of_eq rfl rfl)
          error
  | received stream event now =>
    simp only [sessionStep]
    split
    · exact h.received stream _
    · exact h
  | streamEnded stream =>
    simp only [sessionStep]
    split
    · exact h.of_eq rfl rfl
    · exact h
  | streamFailed stream error =>
    simp only [sessionStep]
    split
    · rename_i failed _
      have hopen : ShowsMessages jsonParse { s with streams := s.streams.eraseIdx stream } :=
        h.of_eq rfl rfl
      rw [AgUiSession.streamFailed]
      split
      · exact hopen.startFailed error
      · split
        · exact hopen
        · exact hopen.attemptReconnect _
    · exact h
  | delayed delay =>
    simp only [sessionStep]
    split
    · simp only [AgUiSession.delayed]
      split
      · exact h.of_eq rfl rfl
      · exact h.of_eq rfl rfl
    · exact h
  | disconnect => exact h.of_eq rfl rfl
  | reconnect =>
    simp only [sessionStep, AgUiSession.reconnect]
    split
    · exact h.of_eq rfl rfl
    · exact h.of_eq rfl rfl
  | unmounted => exact h.of_eq rfl rfl

variable (jsonParse) in
/-- **The text is that of the messages**, in every run of the session: whatever is started, lost, opened
    again or let go meanwhile, none is lost and none is shown twice. -/
theorem text_shows_messages (agentName : Option String) (events : List SessionEvent) :
    ShowsMessages jsonParse (Runs.final (sessionStep jsonParse agentName) {} events) :=
  Runs.inv_final (G := fun _ _ => True) (fun _ event h _ => h.step agentName event) rfl
    (fun _ _ => trivial)

end

end A5cCell.Spa
