import A5cCell.Lib.Runs
import A5cCell.Lib.Value

/-!
# Polling a job

`useJobPolling` of `hooks/useJobPolling.ts`: a page asks for a job again and again, until the job has
ended or a request failed. Its effect runs when the job changes; a request of an earlier run may still
be waiting then, and its answer comes to the refs that all runs share.
-/

namespace A5cCell.Spa

open Py

/-! ## What a poll is answered -/

structure ErrorDetail where
  code : Option String
  message : Option String

/-- `ApiErrorBody`: the body of an error, at the type it is read at. Left out are `retryAfterSeconds`,
    which a poll does not read, and fields that are there with another type. -/
structure ErrorBody where
  error : Option ErrorDetail
  message : Option String

/-- What a poll may throw. -/
inductive Thrown where
  | apiError (status : ℕ) (body : ErrorBody)
  | error (message : String)
  | other

def formatApiErrorMessage : Thrown → String
  | .apiError status body =>
    let message := (body.error.bind (·.message)).or body.message
    let code := body.error.bind (·.code)
    match truthyText message, truthyText code with
    | some message, some code => code ++ ": " ++ message
    | some message, none => message
    | none, _ => "Request failed with HTTP " ++ toString status
  | .error message => if message ≠ "" then message else "Request failed"
  | .other => "Request failed"

abbrev PollAnswer : Type := Except Thrown Val

/-- A run of the effect that has a job. -/
structure Poller where
  run : ℕ
  jobId : String
  deriving DecidableEq

def Poller.path (poller : Poller) : String := "/v1/jobs/" ++ poller.jobId

section

/- What the engine says of a field that is read from `null`. -/
variable (nullRead : String)

/-- `job.status` is read from whatever the answer holds. -/
def isTerminalJob : Val → Except Thrown Bool
  | .none => .error (.error nullRead)
  | .dict job => .ok (match Items.get job "status" with
    | .str status => status == "completed" || status == "failed"
    | _ => false)
  | _ => .ok false

/-! ## The hook -/

/-- The hook's state and refs, the intervals that are running, the run whose `active` is up, and the
    requests that wait for their answer. -/
structure JobPolling where
  status : Val := .none
  loading : Bool := false
  error : Option String := none
  timerRef : Option ℕ := none
  inFlightRef : Bool := false
  intervals : List Poller := []
  active : Option ℕ := none
  runs : ℕ := 0
  requests : List Poller := []

namespace JobPolling

def clearTimer (s : JobPolling) : JobPolling :=
  match s.timerRef with
  | some timer =>
    { s with intervals := s.intervals.filter (·.run ≠ timer), timerRef := none }
  | none => s

/-- `poll` of a run: the paths it requests. -/
def poll (s : JobPolling) (poller : Poller) : JobPolling × List String :=
  if s.active ≠ some poller.run ∨ s.inFlightRef then (s, [])
  else ({ s with inFlightRef := true, requests := s.requests ++ [poller] }, [poller.path])

/-- The `catch` of `poll`. -/
def failed (s : JobPolling) (error : Thrown) : JobPolling :=
  { s with error := some (formatApiErrorMessage error), loading := false }.clearTimer

/-- The rest of `poll`, in a run that is still active. -/
def received (s : JobPolling) : PollAnswer → JobPolling
  | .error error => s.failed error
  | .ok data =>
    let shown := { s with status := data }
    match isTerminalJob nullRead data with
    | .error error => shown.failed error
    | .ok true => { shown.clearTimer with loading := false }
    | .ok false => shown

/-- A request is answered: the rest of `poll`, and its `finally`. -/
def settled (s : JobPolling) (poller : Poller) (answer : PollAnswer) : JobPolling :=
  let s := if s.active = some poller.run then s.received nullRead answer else s
  { s with inFlightRef := false }

/-- The cleanup of the run that is active. -/
def cleanUp (s : JobPolling) : JobPolling :=
  match s.active with
  | some _ => { { s with active := none }.clearTimer with inFlightRef := false }
  | none => s

/-- The interval of a run is set, after its first poll. -/
def setInterval (s : JobPolling) (poller : Poller) : JobPolling :=
  { s with intervals := s.intervals ++ [poller], timerRef := some poller.run }

/-- The effect. -/
def effect (s : JobPolling) (jobId : Option String) : JobPolling × List String :=
  let s := { s.clearTimer with status := .none, error := none }
  match truthyText jobId with
  | none => ({ s with loading := false, inFlightRef := false }, [])
  | some jobId =>
    let poller : Poller := ⟨s.runs + 1, jobId⟩
    let (s, sent) :=
      { s with active := some poller.run, runs := poller.run, loading := true }.poll poller
    (s.setInterval poller, sent)

end JobPolling

/-- What happens to the hook. -/
inductive PollingEvent where
  /-- The effect runs again, for the job it is given now. -/
  | changed (jobId : Option String)
  | unmounted
  /-- The interval of a run fires. -/
  | tick (run : ℕ)
  /-- A waiting request is answered. -/
  | answered (request : ℕ) (answer : PollAnswer)

/-- The hook takes an event, with the paths it requests. -/
def pollingStep (s : JobPolling) : PollingEvent → JobPolling × List String
  | .changed jobId => s.cleanUp.effect jobId
  | .unmounted => (s.cleanUp, [])
  | .tick run =>
    match s.intervals.find? (·.run = run) with
    | some poller => s.poll poller
    | none => (s, [])
  | .answered request answer =>
    match s.requests[request]? with
    | some poller =>
      ({ s with requests := s.requests.eraseIdx request }.settled nullRead poller answer, [])
    | none => (s, [])

end

end A5cCell.Spa
