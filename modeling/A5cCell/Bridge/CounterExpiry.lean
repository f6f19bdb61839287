import Mathlib.Algebra.Order.BigOperators.Group.List
import A5cCell.Lib.Runs
import A5cCell.Bridge.TpmLimiter

/-!
# Counters expire

The whole life of the counter store: admissions, completions of what was admitted, and the
record-only increments of telemetry, in any order, for any tenants, models and windows.

A completion corrects the counter of the window it happens in, by `INCRBY` alone. In the window
of its admission that counter is there, with a deadline after the window's end, and holds at
least the estimates still outstanding; so the correction leaves it non-negative. In a later
window it may not be there, and `INCRBY` then creates a counter that never expires.
`Inv` is the invariant this takes, and `counters_expire` what it gives for runs.
-/

namespace A5cCell.Bridge

open Counter Runs

/-- An invocation that was let through and has not completed. -/
structure Admission where
  tenantId : String
  modelId : String
  estimate : ℕ
  window : Int
  deriving DecidableEq

/-- The counter the estimate was added to. -/
def Admission.key (a : Admission) : String := counterKey a.tenantId a.modelId "tpm" a.window

/-- The counter store, the admissions outstanding, and the server's clock. -/
structure LimiterState where
  store : Valkey
  pending : List Admission
  clock : ℚ

inductive LimiterOp where
  | admission (tenantId modelId : String) (limit : Int) (estimate : ℕ)
  | complete (admission : Admission) (actual : ℕ)
  | record (tenantContext : TenantContext) (agent : AgentRecord)
      (actualTokens estimatedTokens : Int) (modelId : Option String)

/-- An operation with the client's clock at its start and the server's clock at its command. -/
structure LimiterEvent where
  now : ℚ
  served : ℚ
  op : LimiterOp

/-- One operation. An admission that is let through becomes outstanding, and its completion
    takes it off. -/
def limiterStep (s : LimiterState) (e : LimiterEvent) : LimiterState × Unit :=
  match e.op with
  | .admission tenantId modelId limit estimate =>
      let (result, store) :=
        TokenLimiter.checkAndIncrement .up s.store e.now e.served tenantId modelId limit estimate
      let pending := if result.allowed then
        ⟨tenantId, modelId, estimate, windowExpiry e.now⟩ :: s.pending else s.pending
      (⟨store, pending, e.served⟩, ())
  | .complete a actual =>
      let store := (TokenLimiter.correctUsage .up s.store e.now e.served a.tenantId a.modelId
        a.estimate actual).2
      (⟨store, s.pending.erase a, e.served⟩, ())
  | .record tenantContext agent actualTokens estimatedTokens modelId =>
      let store := (recordLogOnlyTpm .up s.store e.now e.served tenantContext agent actualTokens
        estimatedTokens modelId).2
      (⟨store, s.pending, e.served⟩, ())

/-- The empty store. -/
def LimiterState.initial (clock : ℚ) : LimiterState := ⟨Store.empty, [], clock⟩

/-- What a run is: the server's clock never goes back, a command is served after its operation
    read the clock, and a completion is of an admission outstanding. -/
structure Legal (s : LimiterState) (e : LimiterEvent) : Prop where
  forward : s.clock ≤ e.served
  started : e.now ≤ e.served
  admitted : match e.op with
    | .complete a _ => a ∈ s.pending
    | _ => True

/-- Every counter in the store has a deadline and is not negative. -/
def CountersExpire (store : Valkey) : Prop :=
  ∀ key cell, store key = some cell → cell.deadline.isSome ∧ 0 ≤ cell.value

/-- A completion takes effect in the window of its admission, or has nothing to correct, or adds
    to a counter that is there. An admission asks for fewer than `2 ^ 53` tokens and leaves the
    counter within 64 bits. -/
def Timely (s : LimiterState) (e : LimiterEvent) : Prop :=
  match e.op with
  | .admission tenantId modelId _ estimate =>
      estimate < 2 ^ 53 ∧
      (s.store.get? e.served (counterKey tenantId modelId "tpm" (windowExpiry e.now))).getD 0 +
        estimate < 2 ^ 63
  | .complete a actual =>
      (windowExpiry e.now = a.window ∧ windowExpiry e.served = a.window) ∨
      actual = a.estimate ∨
      (a.estimate ≤ actual ∧ (s.store.get? e.served
        (counterKey a.tenantId a.modelId "tpm" (windowExpiry e.now))).isSome)
  | .record .. => True

/-! ## Estimates outstanding on a counter -/

/-- What an admission still counts for on `key`: its estimate, while its window lasts. -/
def Admission.weight (key : String) (clock : ℚ) (a : Admission) : Int :=
  if a.key = key ∧ clock < a.window then a.estimate else 0

def outstanding (pending : List Admission) (clock : ℚ) (key : String) : Int :=
  (pending.map (Admission.weight key clock)).sum

theorem Admission.weight_nonneg (key : String) (clock : ℚ) (a : Admission) :
    0 ≤ a.weight key clock := by
  rw [Admission.weight]
  split <;> omega

theorem Admission.weight_le_estimate (key : String) (clock : ℚ) (a : Admission) :
    a.weight key clock ≤ if a.key = key then (a.estimate : Int) else 0 := by
  rw [Admission.weight]
  by_cases hkey : a.key = key
  · rw [if_pos hkey]
    split <;> omega
  · rw [if_neg hkey, if_neg fun hboth => hkey hboth.1]

theorem Admission.weight_le {clock clock' : ℚ} (h : clock ≤ clock') (key : String)
    (a : Admission) : a.weight key clock' ≤ a.weight key clock := by
  rw [Admission.weight, Admission.weight]
  by_cases hlater : a.key = key ∧ clock' < a.window
  · rw [if_pos hlater, if_pos ⟨hlater.1, lt_of_le_of_lt h hlater.2⟩]
  · rw [if_neg hlater]
    split <;> omega

theorem outstanding_nonneg (pending : List Admission) (clock : ℚ) (key : String) :
    0 ≤ outstanding pending clock key := by
  refine List.sum_nonneg fun x hx => ?_
  obtain ⟨a, -, rfl⟩ := List.mem_map.mp hx
  exact a.weight_nonneg key clock

theorem outstanding_mono {clock clock' : ℚ} (h : clock ≤ clock') (pending : List Admission)
    (key : String) : outstanding pending clock' key ≤ outstanding pending clock key :=
  List.sum_le_sum fun a _ => a.weight_le h key

/-- With no admission of a key in its window, nothing is outstanding on it. -/
theorem outstanding_eq_zero {pending : List Admission} {clock : ℚ} {key : String}
    (h : ∀ a ∈ pending, ¬ (a.key = key ∧ clock < a.window)) : outstanding pending clock key = 0 := by
  refine List.sum_eq_zero fun x hx => ?_
  obtain ⟨a, ha, rfl⟩ := List.mem_map.mp hx
  rw [Admission.weight, if_neg (h a ha)]

theorem outstanding_erase {pending : List Admission} {a : Admission} (h : a ∈ pending)
    (clock : ℚ) (key : String) :
    outstanding pending clock key = a.weight key clock + outstanding (pending.erase a) clock key := by
  rw [outstanding, ((List.perm_cons_erase h).map _).sum_eq, List.map_cons, List.sum_cons,
    outstanding]

theorem outstanding_erase_le (pending : List Admission) (a : Admission) (clock : ℚ)
    (key : String) : outstanding (pending.erase a) clock key ≤ outstanding pending clock key := by
  by_cases h : a ∈ pending
  · rw [outstanding_erase h]
    have := a.weight_nonneg key clock
    omega
  · rw [List.erase_of_not_mem h]

/-! ## The invariant -/

/-- Every counter has a deadline, at least half a minute after the end of its window; it holds at
    least what is outstanding on it; and an admission in its window still has its counter. -/
structure Inv (store : Valkey) (pending : List Admission) (clock : ℚ) : Prop where
  expire : CountersExpire store
  lasting : ∀ tenantId modelId name w cell, store (counterKey tenantId modelId name w) = some cell →
    ∀ d, cell.deadline = some d → (w : ℚ) + 30 ≤ d
  counted : ∀ a ∈ pending, clock < a.window → (store a.key).isSome
  covered : ∀ key cell, store key = some cell → outstanding pending clock key ≤ cell.value

theorem Inv.initial (clock : ℚ) : Inv Store.empty [] clock where
  expire := fun key cell h => absurd h (by simp [Store.empty])
  lasting := fun _ _ _ _ cell h => absurd h (by simp [Store.empty])
  counted := fun a ha => absurd ha (by simp)
  covered := fun key cell h => absurd h (by simp [Store.empty])

/-- Time passing changes nothing. -/
theorem Inv.advance {store : Valkey} {pending : List Admission} {clock clock' : ℚ}
    (h : Inv store pending clock) (hclock : clock ≤ clock') : Inv store pending clock' where
  expire := h.expire
  lasting := h.lasting
  counted := fun a ha hlt => h.counted a ha (lt_of_le_of_lt hclock hlt)
  covered := fun key cell hcell =>
    le_trans (outstanding_mono hclock pending key) (h.covered key cell hcell)

/-- An admission taken off leaves less outstanding. -/
theorem Inv.erase {store : Valkey} {pending : List Admission} {clock : ℚ}
    (h : Inv store pending clock) (a : Admission) : Inv store (pending.erase a) clock where
  expire := h.expire
  lasting := h.lasting
  counted := fun b hb => h.counted b (List.mem_of_mem_erase hb)
  covered := fun key cell hcell =>
    le_trans (outstanding_erase_le pending a clock key) (h.covered key cell hcell)

/-- While its window lasts, an admission's counter is live. -/
theorem Inv.live {store : Valkey} {pending : List Admission} {clock : ℚ}
    (h : Inv store pending clock) {a : Admission} (ha : a ∈ pending) (hlt : clock < a.window) :
    ∃ cell, store.live clock a.key = some cell := by
  obtain ⟨cell, hcell⟩ := Option.isSome_iff_exists.mp (h.counted a ha hlt)
  obtain ⟨d, hd⟩ := Option.isSome_iff_exists.mp (h.expire a.key cell hcell).1
  have hlong := h.lasting _ _ _ _ cell hcell d hd
  refine ⟨cell, Store.live_eq_some.mpr ⟨hcell, ?_⟩⟩
  simp only [Cell.aliveAt, hd, Option.all_some, decide_eq_true_eq]
  linarith

/-- **Writing a counter.** A new value that covers what is outstanding, with a deadline that is
    far enough away or the old one, keeps the invariant. -/
theorem Inv.put {store : Valkey} {pending : List Admission} {clock : ℚ}
    (h : Inv store pending clock) {tenantId modelId name : String} {w value : Int}
    {deadline : Option ℚ} (hvalue : 0 ≤ value)
    (hcovers : outstanding pending clock (counterKey tenantId modelId name w) ≤ value)
    (hwindow : (w : ℚ) ≤ clock + 60)
    (hdeadline : deadline = some (clock + counterTtlSeconds) ∨
      ∃ old, store.live clock (counterKey tenantId modelId name w) = some old ∧
        deadline = old.deadline) :
    Inv (store.put (counterKey tenantId modelId name w) ⟨value, deadline⟩) pending clock where
  expire := by
    intro key cell hcell
    rw [Store.put_apply] at hcell
    split at hcell
    · cases hcell
      refine ⟨?_, hvalue⟩
      rcases hdeadline with rfl | ⟨old, hold, rfl⟩
      · rfl
      · exact (h.expire _ old (Store.live_eq_some.mp hold).1).1
    · exact h.expire key cell hcell
  lasting := by
    intro tenantId' modelId' name' w' cell hcell d hd
    rw [Store.put_apply] at hcell
    split at hcell
    · rename_i hkey
      cases hcell
      -- one key, one window
      have hw := (counterKey_inj hkey).2
      subst hw
      rcases hdeadline with rfl | ⟨old, hold, rfl⟩
      · simp only [Option.some.injEq] at hd
        rw [← hd]
        norm_num [counterTtlSeconds]
        linarith
      · exact h.lasting _ _ _ _ old (Store.live_eq_some.mp hold).1 d hd
    · exact h.lasting _ _ _ _ cell hcell d hd
  counted := by
    intro a ha hlt
    rw [Store.put_apply]
    split
    · rfl
    · exact h.counted a ha hlt
  covered := by
    intro key cell hcell
    rw [Store.put_apply] at hcell
    split at hcell
    · rename_i hkey
      cases hcell
      rw [hkey]
      exact hcovers
    · exact h.covered key cell hcell

/-- What is outstanding on a counter is covered by its live value, or is nothing. -/
theorem Inv.outstanding_le {store : Valkey} {pending : List Admission} {clock : ℚ}
    (h : Inv store pending clock) (key : String) :
    outstanding pending clock key ≤ ((store.live clock key).getD ⟨0, none⟩).value ∧
      0 ≤ ((store.live clock key).getD ⟨0, none⟩).value := by
  cases hlive : store.live clock key with
  | none =>
    refine ⟨le_of_eq (outstanding_eq_zero ?_), le_refl _⟩
    rintro a ha ⟨rfl, hlt⟩
    obtain ⟨cell, hcell⟩ := h.live ha hlt
    exact absurd (hlive.symm.trans hcell) (by simp)
  | some cell =>
    have hcell := (Store.live_eq_some.mp hlive).1
    exact ⟨h.covered key cell hcell, (h.expire key cell hcell).2⟩

/-! ## What each operation preserves -/

theorem Inv.incrExpire {store : Valkey} {pending : List Admission} {clock : ℚ}
    (h : Inv store pending clock) {tenantId modelId name : String} {w amount : Int}
    (hamount : 0 ≤ amount) (hwindow : (w : ℚ) ≤ clock + 60) :
    Inv (incrExpire store clock (counterKey tenantId modelId name w) amount counterTtlSeconds).2
      pending clock := by
  obtain ⟨hcovers, hnonneg⟩ := h.outstanding_le (counterKey tenantId modelId name w)
  rcases incrExpire_cases store clock (counterKey tenantId modelId name w) amount counterTtlSeconds
    with hsame | ⟨value, hput, hvalue⟩
  · rw [hsame]
    exact h
  · rw [hput]
    have hgrown : ((store.live clock (counterKey tenantId modelId name w)).getD ⟨0, none⟩).value ≤
        value := by
      rcases hvalue with ⟨old, hold, rfl⟩ | rfl
      · rw [hold, Option.getD_some]
      · omega
    exact h.put (by omega) (by omega) hwindow (Or.inl rfl)

/-- Telemetry counts up, and sets the deadline of what it counts. -/
theorem Inv.record {store : Valkey} {pending : List Admission} {now clock : ℚ}
    (h : Inv store pending clock) (hnow : now ≤ clock) (tenantContext : TenantContext)
    (agent : AgentRecord) (actualTokens estimatedTokens : Int) (modelId : Option String) :
    Inv (recordLogOnlyTpm .up store now clock tenantContext agent actualTokens estimatedTokens
      modelId).2 pending clock := by
  have hwindow : (windowExpiry now : ℚ) ≤ clock + 60 := by
    have := windowExpiry_le now
    linarith
  rw [recordLogOnlyTpm_store, incrementWindows_store]
  exact (h.incrExpire (le_max_left 0 _) hwindow).incrExpire (le_max_left 0 _) hwindow

/-- A counted admission adds its estimate to the counter, and to what is outstanding on it. -/
theorem Inv.admission {store : Valkey} {pending : List Admission} {now clock : ℚ}
    (h : Inv store pending clock) (hnow : now ≤ clock) {tenantId modelId : String} {estimate : ℕ}
    {old : Cell} {deadline : Option ℚ}
    (hold : (store.live clock (counterKey tenantId modelId "tpm" (windowExpiry now))).getD
      ⟨0, none⟩ = old)
    (hdeadline : deadline = some (clock + counterTtlSeconds) ∨
      (store.live clock (counterKey tenantId modelId "tpm" (windowExpiry now)) = some old ∧
        deadline = old.deadline)) :
    Inv (store.put (counterKey tenantId modelId "tpm" (windowExpiry now))
        ⟨old.value + estimate, deadline⟩)
      (⟨tenantId, modelId, estimate, windowExpiry now⟩ :: pending) clock := by
  obtain ⟨hcovers, hnonneg⟩ := h.outstanding_le (counterKey tenantId modelId "tpm" (windowExpiry now))
  rw [hold] at hcovers hnonneg
  have hwindow : (windowExpiry now : ℚ) ≤ clock + 60 := by
    have := windowExpiry_le now
    linarith
  have hput := @Inv.put _ _ _ h _ _ _ _ (old.value + estimate) _ (by omega) (by omega) hwindow
    (hdeadline.imp id fun ⟨hlive, heq⟩ => ⟨old, hlive, heq⟩)
  have hweight (key : String) :
      Admission.weight key clock ⟨tenantId, modelId, estimate, windowExpiry now⟩ ≤
        if counterKey tenantId modelId "tpm" (windowExpiry now) = key then (estimate : Int) else 0 :=
    Admission.weight_le_estimate key clock ⟨tenantId, modelId, estimate, windowExpiry now⟩
  refine ⟨hput.expire, hput.lasting, ?_, ?_⟩
  · intro a ha hlt
    rw [List.mem_cons] at ha
    rcases ha with rfl | ha
    · simp [Admission.key]
    · exact hput.counted a ha hlt
  · intro key cell hcell
    have hkey := hweight key
    simp only [outstanding, List.map_cons, List.sum_cons]
    rw [Store.put_apply] at hcell
    split at hcell
    · rename_i heq
      cases hcell
      subst heq
      rw [if_pos rfl] at hkey
      simp only [outstanding] at hcovers ⊢
      omega
    · rename_i hne
      have hcov := h.covered key cell hcell
      rw [if_neg (Ne.symm hne)] at hkey
      simp only [outstanding] at hcov
      omega

/-- A completion in the window of its admission gives back at most what was outstanding. -/
theorem Inv.complete {store store' : Valkey} {pending : List Admission} {clock : ℚ}
    (h : Inv store pending clock) {a : Admission} (ha : a ∈ pending) (hlt : clock < a.window)
    (hwindow : (a.window : ℚ) ≤ clock + 60) {actual : ℕ} {value : Int}
    (hincr : store.incrBy clock a.key (actual - a.estimate) = .ok (value, store')) :
    Inv store' (pending.erase a) clock := by
  obtain ⟨old, hold, rfl, rfl⟩ := Store.incrBy_ok hincr
  obtain ⟨cell, hlive⟩ := h.live ha hlt
  rcases hold with hold | ⟨hnone, _⟩
  · have hcovers := h.covered a.key old (Store.live_eq_some.mp hold).1
    rw [outstanding_erase ha clock a.key, Admission.weight, if_pos ⟨rfl, hlt⟩] at hcovers
    have hrest := outstanding_nonneg (pending.erase a) clock a.key
    exact (h.erase a).put (by omega) (by rw [Admission.key] at hcovers; omega) hwindow
      (Or.inr ⟨old, hold, rfl⟩)
  · exact absurd (hnone.symm.trans hlive) (by simp)

/-- Adding to a counter that is there keeps its deadline. -/
theorem Inv.increase {store store' : Valkey} {pending : List Admission} {clock : ℚ}
    (h : Inv store pending clock) {tenantId modelId name : String} {w amount value : Int}
    (hamount : 0 ≤ amount) (hwindow : (w : ℚ) ≤ clock + 60)
    (hthere : (store.get? clock (counterKey tenantId modelId name w)).isSome)
    (hincr : store.incrBy clock (counterKey tenantId modelId name w) amount = .ok (value, store')) :
    Inv store' pending clock := by
  obtain ⟨old, hold, rfl, rfl⟩ := Store.incrBy_ok hincr
  rcases hold with hold | ⟨hnone, _⟩
  · obtain ⟨hcovers, hnonneg⟩ := h.outstanding_le (counterKey tenantId modelId name w)
    rw [hold, Option.getD_some] at hcovers hnonneg
    exact h.put (by omega) (by omega) hwindow (Or.inr ⟨old, hold, rfl⟩)
  · rw [Store.get?, hnone] at hthere
    exact absurd hthere (by simp)

/-- **One operation.** -/
theorem limiterStep_inv {s : LimiterState} {e : LimiterEvent}
    (h : Inv s.store s.pending s.clock) (hlegal : Legal s e) (htimely : Timely s e) :
    Inv (limiterStep s e).1.store (limiterStep s e).1.pending (limiterStep s e).1.clock := by
  obtain ⟨now, served, op⟩ := e
  have hserved := h.advance hlegal.forward
  have hnow : now ≤ served := hlegal.started
  cases op with
  | admission tenantId modelId limit estimate =>
    obtain ⟨hsmall, hroom⟩ := htimely
    obtain ⟨old, hold⟩ : ∃ old, (s.store.live served (counterKey tenantId modelId "tpm"
      (windowExpiry now))).getD ⟨0, none⟩ = old := ⟨_, rfl⟩
    have hvalue : (s.store.get? served (counterKey tenantId modelId "tpm"
        (windowExpiry now))).getD 0 = old.value := by
      rw [← hold, Store.get?]
      cases s.store.live served (counterKey tenantId modelId "tpm" (windowExpiry now)) <;> rfl
    simp only [hvalue] at hroom
    have hnonneg := (hserved.outstanding_le (counterKey tenantId modelId "tpm"
      (windowExpiry now))).2
    rw [hold] at hnonneg
    rcases checkAndIncrement_cases limit hold hsmall hnonneg hroom with
      ⟨result, hrejected, hstep⟩ | ⟨result, deadline, hallowed, hstep, hdeadline⟩
    · simp only [limiterStep, hstep, hrejected]
      exact hserved
    · simp only [limiterStep, hstep, hallowed]
      exact hserved.admission hnow hold hdeadline
  | complete a actual =>
    have ha : a ∈ s.pending := hlegal.admitted
    have hwindow : (windowExpiry now : ℚ) ≤ served + 60 := by
      have := windowExpiry_le now
      linarith
    simp only [limiterStep]
    rcases correctUsage_cases s.store now served a.tenantId a.modelId a.estimate actual with
      hsame | ⟨value, store', hdiff, hincr, hstore⟩
    · rw [hsame]
      exact hserved.erase a
    · rw [hstore]
      rcases htimely with ⟨hw, hw'⟩ | heq | ⟨hle, hthere⟩
      · rw [hw] at hincr hwindow
        have hlt : served < a.window := hw' ▸ lt_windowExpiry served
        exact hserved.complete ha hlt hwindow hincr
      · exact absurd (congrArg Int.ofNat heq) hdiff
      · exact (hserved.increase (by omega) hwindow hthere hincr).erase a
  | record tenantContext agent actualTokens estimatedTokens modelId =>
    exact hserved.record hnow tenantContext agent actualTokens estimatedTokens modelId

/-- **Over a run.** From an empty store, when every completion is timely and no admission passes
    64 bits, every counter in every state reached has a deadline and is not negative. -/
theorem counters_expire {clock : ℚ} {events : List LimiterEvent}
    (hlegal : ∀ m ∈ trace limiterStep (LimiterState.initial clock) events,
      Legal m.before m.event)
    (htimely : ∀ m ∈ trace limiterStep (LimiterState.initial clock) events,
      Timely m.before m.event) :
    (∀ m ∈ trace limiterStep (LimiterState.initial clock) events,
        CountersExpire m.before.store) ∧
      CountersExpire (final limiterStep (LimiterState.initial clock) events).store := by
  let Good (s : LimiterState) : Prop := Inv s.store s.pending s.clock
  let Ok (s : LimiterState) (e : LimiterEvent) : Prop := Legal s e ∧ Timely s e
  have hstep : ∀ s e, Good s → Ok s e → Good (limiterStep s e).1 :=
    fun s e hs hok => limiterStep_inv hs hok.1 hok.2
  have hstart : Good (LimiterState.initial clock) := Inv.initial clock
  have hok : ∀ m ∈ trace limiterStep (LimiterState.initial clock) events, Ok m.before m.event :=
    fun m hm => ⟨hlegal m hm, htimely m hm⟩
  exact ⟨fun m hm => (inv_of_mem_trace hstep hstart hok m hm).expire,
    (inv_final hstep hstart hok).expire⟩

/-- An admission at second 0 and its completion at second 10. -/
def promptRun : List LimiterEvent :=
  [⟨0, 0, .admission "acme" "model" 10 5⟩, ⟨10, 10, .complete ⟨"acme", "model", 5, 60⟩ 2⟩]

/-- The same admission at second 59, completed at second 61. -/
def lateRun : List LimiterEvent :=
  [⟨59, 59, .admission "acme" "model" 10 5⟩, ⟨61, 61, .complete ⟨"acme", "model", 5, 60⟩ 2⟩]

theorem counters_expire_promptRun :
    (∀ m ∈ trace limiterStep (LimiterState.initial 0) promptRun, CountersExpire m.before.store) ∧
      CountersExpire (final limiterStep (LimiterState.initial 0) promptRun).store := by
  refine counters_expire ?_ ?_
  · rw [promptRun, trace_cons, trace_cons, trace_nil, List.forall_mem_cons, List.forall_mem_singleton]
    exact ⟨⟨by decide +kernel, by decide +kernel, trivial⟩,
      ⟨by decide +kernel, by decide +kernel, by decide +kernel⟩⟩
  · rw [promptRun, trace_cons, trace_cons, trace_nil, List.forall_mem_cons, List.forall_mem_singleton]
    exact ⟨⟨by decide +kernel, by decide +kernel⟩,
      Or.inl ⟨by decide +kernel, by decide +kernel⟩⟩

/-- A completion in the next window creates a negative counter that never expires. -/
theorem late_completion_never_expires :
    (∀ m ∈ trace limiterStep (LimiterState.initial 0) lateRun, Legal m.before m.event) ∧
      ¬ CountersExpire (final limiterStep (LimiterState.initial 0) lateRun).store := by
  constructor
  · rw [lateRun, trace_cons, trace_cons, trace_nil, List.forall_mem_cons, List.forall_mem_singleton]
    exact ⟨⟨by decide +kernel, by decide +kernel, trivial⟩,
      ⟨by decide +kernel, by decide +kernel, by decide +kernel⟩⟩
  · intro h
    have hcell : (final limiterStep (LimiterState.initial 0) lateRun).store
        "LIMITER/acme:model:tpm/120" = some ⟨-3, none⟩ := by decide +kernel
    exact absurd (h _ _ hcell).1 (by decide)

end A5cCell.Bridge
