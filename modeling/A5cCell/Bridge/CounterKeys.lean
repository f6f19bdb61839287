import A5cCell.Bridge.CounterExpiry
import A5cCell.Bridge.TokenAccounting
import A5cCell.TenantApi.Requests

/-!
# Counter keys

A key of the counter store joins a tenant, a model, a counter and a window with separators. The
tenant's id has none of them, the counter's name and the window's number have none of the one
before them, and so the model may have any.

An operation of the limiter writes the counters it names. No other counter can have one of their
keys, so whatever a run does leaves the counters that none of its operations names.
-/

namespace A5cCell.Bridge

open Py (Val)
open Counter Runs

/-- The counters the limiter keeps of a model in a window. -/
inductive CounterName where
  | tpm
  | tpmEstimated
  deriving DecidableEq

def CounterName.text : CounterName → String
  | .tpm => "tpm"
  | .tpmEstimated => "tpm_estimated"

/-- What a counter counts. -/
structure CounterSlot where
  tenantId : String
  modelId : String
  counterName : CounterName
  window : Int
  deriving DecidableEq

def CounterSlot.key (slot : CounterSlot) : String :=
  counterKey slot.tenantId slot.modelId slot.counterName.text slot.window

/-- An id that `canonical_tenant_id` gives. -/
def IsTenantId (tenantId : String) : Prop :=
  ∃ value allowReserved, TenantApi.canonicalTenantId value allowReserved = .ok tenantId

theorem IsTenantId.not_mem {tenantId : String} (h : IsTenantId tenantId) {c : Char}
    (hc : TenantApi.isTenantIdChar c = false) : c ∉ tenantId.toList := by
  obtain ⟨value, allowReserved, hcanonical⟩ := h
  intro hmem
  have hchar := TenantApi.isTenantIdChar_of_canonicalTenantId hcanonical c hmem
  exact absurd (hc.symm.trans hchar) (by decide)

theorem CounterName.text_injective {a b : CounterName} (h : a.text = b.text) : a = b := by
  cases a <;> cases b <;> first | rfl | exact absurd h (by decide)

theorem CounterName.not_mem (name : CounterName) : ':' ∉ name.text.toList := by
  cases name <;> decide

/-- **A key is of one counter.** -/
theorem CounterSlot.key_injective {a b : CounterSlot} (ha : IsTenantId a.tenantId)
    (hb : IsTenantId b.tenantId) (h : a.key = b.key) : a = b := by
  obtain ⟨hname, hwindow⟩ := counterKey_inj h
  have hlist (slot : CounterSlot) :
      (slot.tenantId ++ ":" ++ slot.modelId ++ ":" ++ slot.counterName.text).toList =
        slot.tenantId.toList ++ ':' :: (slot.modelId.toList ++ ':' :: slot.counterName.text.toList) := by
    simp
  have htext := congrArg String.toList hname
  rw [hlist, hlist] at htext
  -- the first colon ends the tenant's id, and the last one the model's
  obtain ⟨htenant, hrest⟩ :=
    Py.append_cons_inj_left (ha.not_mem (by decide)) (hb.not_mem (by decide)) htext
  obtain ⟨hmodel, hcounter⟩ := Py.append_cons_inj a.counterName.not_mem b.counterName.not_mem hrest
  cases a
  cases b
  simp only [CounterSlot.mk.injEq]
  exact ⟨String.toList_inj.mp htenant, String.toList_inj.mp hmodel,
    CounterName.text_injective (String.toList_inj.mp hcounter), hwindow⟩

/-! ## What an operation counts on -/

/-- The counters an operation names. -/
def LimiterEvent.slots (e : LimiterEvent) : List CounterSlot :=
  match e.op with
  | .admission tenantId modelId _ _ => [⟨tenantId, modelId, .tpm, windowExpiry e.now⟩]
  | .complete a _ => [⟨a.tenantId, a.modelId, .tpm, windowExpiry e.now⟩]
  | .record tenantContext agent _ _ modelId =>
      [⟨tenantContext.tenantId, metricModelId modelId agent, .tpm, windowExpiry e.now⟩,
        ⟨tenantContext.tenantId, metricModelId modelId agent, .tpmEstimated, windowExpiry e.now⟩]

/-- An operation leaves the keys that are not of a counter it names. -/
theorem limiterStep_frame (s : LimiterState) {e : LimiterEvent} {key : String}
    (h : ∀ slot ∈ e.slots, key ≠ slot.key) : (limiterStep s e).1.store key = s.store key := by
  obtain ⟨now, served, op⟩ := e
  cases op with
  | admission tenantId modelId limit estimate =>
    have hkey : key ≠ counterKey tenantId modelId "tpm" (windowExpiry now) :=
      h ⟨tenantId, modelId, .tpm, windowExpiry now⟩ (by simp [LimiterEvent.slots])
    exact checkAndIncrement_frame s.store served limit estimate hkey
  | complete a actual =>
    have hkey : key ≠ counterKey a.tenantId a.modelId "tpm" (windowExpiry now) :=
      h ⟨a.tenantId, a.modelId, .tpm, windowExpiry now⟩ (by simp [LimiterEvent.slots])
    exact correctUsage_frame _ _ hkey
  | record tenantContext agent actualTokens estimatedTokens modelId =>
    have hactual : key ≠ counterKey tenantContext.tenantId (metricModelId modelId agent) "tpm"
        (windowExpiry now) :=
      h ⟨tenantContext.tenantId, metricModelId modelId agent, .tpm, windowExpiry now⟩
        (by simp [LimiterEvent.slots])
    have hestimated : key ≠ counterKey tenantContext.tenantId (metricModelId modelId agent)
        "tpm_estimated" (windowExpiry now) :=
      h ⟨tenantContext.tenantId, metricModelId modelId agent, .tpmEstimated, windowExpiry now⟩
        (by simp [LimiterEvent.slots])
    show (recordLogOnlyTpm .up s.store now served tenantContext agent actualTokens estimatedTokens
      modelId).2 key = s.store key
    rw [recordLogOnlyTpm_store, incrementWindows_store, incrExpire_frame _ _ hestimated,
      incrExpire_frame _ _ hactual]

/-- **Keys do not collide.** The key of a counter is the key of no other, and what a run counts
    for other counters, of any tenants, models and windows, is not counted on it. -/
theorem counter_keys_distinct {slot : CounterSlot} (htenant : IsTenantId slot.tenantId) :
    (∀ other : CounterSlot, IsTenantId other.tenantId → other ≠ slot → other.key ≠ slot.key) ∧
      ∀ (s : LimiterState) (events : List LimiterEvent),
        (∀ e ∈ events, ∀ other ∈ e.slots, IsTenantId other.tenantId ∧ other ≠ slot) →
          (final limiterStep s events).store slot.key = s.store slot.key := by
  have hdistinct (other : CounterSlot) (hother : IsTenantId other.tenantId) (hne : other ≠ slot) :
      other.key ≠ slot.key := fun h => hne (CounterSlot.key_injective hother htenant h)
  refine ⟨hdistinct, fun s events hevents => ?_⟩
  induction events generalizing s with
  | nil => rfl
  | cons e events ih =>
    rw [List.forall_mem_cons] at hevents
    rw [final_cons, ih _ hevents.2]
    exact limiterStep_frame s fun other hother =>
      (hdistinct other (hevents.1 other hother).1 (hevents.1 other hother).2).symm

/-- A model whose id has the separators. -/
theorem counter_keys_distinct_separators :
    (∀ other : CounterSlot, IsTenantId other.tenantId → other ≠ ⟨"acme", "a:tpm/60", .tpm, 60⟩ →
      other.key ≠ "LIMITER/acme:a:tpm/60:tpm/60") ∧
      ∀ (s : LimiterState) (events : List LimiterEvent),
        (∀ e ∈ events, ∀ other ∈ e.slots,
          IsTenantId other.tenantId ∧ other ≠ ⟨"acme", "a:tpm/60", .tpm, 60⟩) →
          (final limiterStep s events).store "LIMITER/acme:a:tpm/60:tpm/60" =
            s.store "LIMITER/acme:a:tpm/60:tpm/60" := by
  have hid : IsTenantId (⟨"acme", "a:tpm/60", .tpm, 60⟩ : CounterSlot).tenantId :=
    ⟨.str "ACME", false, by rfl⟩
  exact counter_keys_distinct hid

end A5cCell.Bridge
