import Mathlib.Data.List.Basic

/-!
# Domain models

The records of `data_access.domains` that the modelled functions pass around, with the fields
those functions read.
-/

namespace A5cCell

/-- `TenantTier`. -/
inductive TenantTier where
  | basic
  | standard
  | premium
  deriving DecidableEq

/-- `TenantTier.value`. -/
def TenantTier.value : TenantTier → String
  | .basic => "basic"
  | .standard => "standard"
  | .premium => "premium"

/-- `TenantTier(text)`; `none` where it raises `ValueError`. -/
def TenantTier.ofValue? (text : String) : Option TenantTier :=
  if text = "basic" then some .basic
  else if text = "standard" then some .standard
  else if text = "premium" then some .premium
  else none

/-- The order of the tiers, `tier_order`. -/
def TenantTier.order : TenantTier → Nat
  | .basic => 0
  | .standard => 1
  | .premium => 2

theorem TenantTier.ofValue?_eq_some {text : String} {tier : TenantTier} :
    TenantTier.ofValue? text = some tier ↔ text = tier.value := by
  unfold ofValue?
  constructor
  · intro h
    split at h
    · cases h; assumption
    · split at h
      · cases h; assumption
      · split at h
        · cases h; assumption
        · exact absurd h (by simp)
  · rintro rfl
    cases tier <;> rfl

/-- `TenantContext`. -/
structure TenantContext where
  tenantId : String
  appId : String
  tier : TenantTier
  sub : String
  deriving DecidableEq

/-- `InvocationMode`. -/
inductive InvocationMode where
  | sync
  | streaming
  | async
  deriving DecidableEq

/-- `InvocationMode.value`. -/
def InvocationMode.value : InvocationMode → String
  | .sync => "sync"
  | .streaming => "streaming"
  | .async => "async"

/-- `InvocationMode(text)`; `none` where it raises `ValueError`. -/
def InvocationMode.ofValue? (text : String) : Option InvocationMode :=
  [InvocationMode.sync, .streaming, .async].find? (·.value = text)

/-- `AgentRecord`, as far as an invocation reads it. -/
structure AgentRecord where
  agentName : String
  tierMinimum : TenantTier
  invocationMode : InvocationMode
  modelId : Option String
  deriving DecidableEq

end A5cCell
