import A5cCell.Lib.Runs
import A5cCell.DataAccess.PolicyLaws

/-!
# The last known good policy

A `TenantCapabilityClient` keeps the last policy it could read, and answers it where a fetch fails
(`client_keeps_lastKnownGood`). The bridge makes a client for every invocation
(`get_capability_client`), which has read nothing yet, so what a process has read before is not there
when a fetch fails.
-/

namespace A5cCell.Bridge

open Py (Val Obj)
open DataAccess
open Runs

/-- The policies `handler` decides an invocation with: for what it lists, and for what it invokes. -/
structure Policies where
  discovery : TenantCapabilityPolicy
  invoke : Option TenantCapabilityPolicy

/-- `get_capability_client`. -/
def getCapabilityClient (configured : Bool) : TenantCapabilityClient := .new configured

section

variable (number : Obj → Option ℚ)

/-- The policies of one invocation, by what its fetch from AppConfig comes to. -/
def handlerPolicies (configured : Bool) (fetched : Except Exc Val) : Policies :=
  let capabilityClient := getCapabilityClient configured
  let discoveryCapabilityPolicy := (capabilityClient.fetchPolicy number fetched).1
  { discovery := discoveryCapabilityPolicy
    invoke := if configured then some discoveryCapabilityPolicy else none }

/-- The last policy that could be read, of fetches from the last to the first; the fallback where none
    could. -/
def lastKnownGood : List (Except Exc Val) → TenantCapabilityPolicy
  | [] => .safeFallback
  | fetched :: earlier => (parsed? number fetched).getD (lastKnownGood earlier)

/-- A warm process, with what its fetches came to, the last first: an invocation adds its own. -/
def invocation (fetches : List (Except Exc Val)) (fetched : Except Exc Val) :
    List (Except Exc Val) × Policies :=
  (fetched :: fetches, handlerPolicies number true fetched)

/-- One client, which fetches again and again, next to what its fetches came to. -/
def clientFetch (state : List (Except Exc Val) × TenantCapabilityClient) (fetched : Except Exc Val) :
    (List (Except Exc Val) × TenantCapabilityClient) × TenantCapabilityPolicy :=
  let answered := state.2.fetchPolicy number fetched
  ((fetched :: state.1, answered.2), answered.1)

end

variable {number : Obj → Option ℚ}

/-- A client holds the last policy that could be read. -/
def HoldsLastGood (number : Obj → Option ℚ)
    (state : List (Except Exc Val) × TenantCapabilityClient) : Prop :=
  state.2 = ⟨true, lastKnownGood number state.1⟩

theorem HoldsLastGood.fetch {state : List (Except Exc Val) × TenantCapabilityClient}
    (h : HoldsLastGood number state) (fetched : Except Exc Val) :
    HoldsLastGood number (clientFetch number state fetched).1 ∧
      (clientFetch number state fetched).2 = lastKnownGood number (fetched :: state.1) := by
  obtain ⟨fetches, client⟩ := state
  obtain rfl : client = ⟨true, lastKnownGood number fetches⟩ := h
  simp only [HoldsLastGood, clientFetch, TenantCapabilityClient.fetchPolicy_eq, lastKnownGood]
  cases parsed? number fetched with
  | none => exact ⟨rfl, rfl⟩
  | some policy => exact ⟨rfl, rfl⟩

/-- A client that is kept answers the last policy it could read. -/
theorem client_keeps_lastKnownGood (outcomes : List (Except Exc Val)) :
    ∀ m ∈ trace (clientFetch number) ([], .new true) outcomes,
      m.response = lastKnownGood number (m.event :: m.before.1) := by
  have hstep : ∀ state fetched, HoldsLastGood number state → True →
      HoldsLastGood number (clientFetch number state fetched).1 :=
    fun _ fetched h _ => (h.fetch fetched).1
  have hstart : HoldsLastGood number ([], .new true) := rfl
  intro m hm
  have hinv := inv_of_mem_trace hstep hstart (fun _ _ => trivial) m hm
  rw [response_of_mem_trace hm]
  exact (hinv.fetch m.event).2

/-- An invocation is decided by its own fetch alone. -/
theorem handlerPolicies_eq (fetched : Except Exc Val) :
    handlerPolicies number true fetched =
      let policy := (parsed? number fetched).getD .safeFallback
      ⟨policy, some policy⟩ := by
  simp only [handlerPolicies, getCapabilityClient, TenantCapabilityClient.new,
    TenantCapabilityClient.fetchPolicy_eq, if_true]
  cases parsed? number fetched <;> rfl

/-- **Every invocation of a process is decided by the last policy the process could read** exactly
    when, whenever a fetch fails, that is the empty policy. -/
theorem uses_lastKnownGood_iff (outcomes : List (Except Exc Val)) :
    (∀ m ∈ trace (invocation number) [] outcomes,
      m.response.discovery = lastKnownGood number (m.event :: m.before) ∧
        m.response.invoke = some (lastKnownGood number (m.event :: m.before))) ↔
    ∀ m ∈ trace (invocation number) [] outcomes, parsed? number m.event = none →
      lastKnownGood number m.before = .safeFallback := by
  apply forall₂_congr
  intro m hm
  have hresponse : m.response = handlerPolicies number true m.event := response_of_mem_trace hm
  rw [hresponse, handlerPolicies_eq, lastKnownGood]
  cases parsed? number m.event with
  | none =>
    simp only [Option.getD_none, Option.some.injEq, and_self, true_implies]
    exact eq_comm
  | some policy => simp

/-- A process that reads a policy and then fails to fetch it. -/
def readThenFailed : List (Except Exc Val) :=
  [.ok (.dict (invokeDocument "")), .error (.other "TimeoutError")]

/-- The second invocation is decided by the empty policy, which enables nothing. -/
theorem failedFetch_forgets :
    ¬ ∀ m ∈ trace (invocation noNumber) [] readThenFailed,
      m.response.discovery = lastKnownGood noNumber (m.event :: m.before) ∧
        m.response.invoke = some (lastKnownGood noNumber (m.event :: m.before)) := by
  intro h
  have hsecond := (h _ (List.mem_of_getElem? (rfl :
    (trace (invocation noNumber) [] readThenFailed)[1]? = some _))).1
  have henabled := congrArg
    (fun policy => policy.isEnabledWith Py.lower noDigest "agents.invoke" "acme" "basic") hsecond
  exact absurd henabled (by decide)

end A5cCell.Bridge
