import Mathlib.Algebra.Order.Ring.Rat
import A5cCell.Lib.Str
import A5cCell.Lib.Dict
import A5cCell.DataAccess.Models

/-!
# Tenant capability policy

`data_access.domains.capability`: kill switches, rollouts by tier, tenant and percentage, and the
token limits of a model. `sha256` is the digest of a text's UTF-8 bytes, and stays a parameter:
nothing here depends on which bytes it answers.

`TenantTier` is a `StrEnum`: a caller may pass a tier or its text, and both compare with the allow
list alike, so a rollout takes the text. A percentage is any number a JSON document may have.
-/

namespace A5cCell

open Py (Dict)

/-- `CapabilityRollout`. `__post_init__` rejects a percentage that is not from 0 to 100. -/
structure CapabilityRollout where
  enabled : Bool
  rolloutPercentage : ℚ
  tierAllowList : List TenantTier
  tenantAllowList : List String
  percentage_nonneg : 0 ≤ rolloutPercentage
  percentage_le : rolloutPercentage ≤ 100

/-- `int.from_bytes(digest, byteorder="big")`. -/
def intFromBytes (bytes : List Nat) : Nat := bytes.foldl (fun n byte => n * 256 + byte) 0

/-- `text.strip().lower()`; `lower` is `str.lower`, on any text. -/
def normalized (lower : String → String) (text : String) : String := lower (Py.strip text)

/-- Where a tenant falls among a hundred. -/
def bucketOf (sha256 : String → List Nat) (normalizedTenantId : String) : Nat :=
  intFromBytes ((sha256 normalizedTenantId).take 4) % 100

/-- `CapabilityRollout.is_enabled_for`. -/
def CapabilityRollout.isEnabledForWith (lower : String → String) (sha256 : String → List Nat)
    (rollout : CapabilityRollout) (tenantId tenantTier : String) : Bool :=
  if !rollout.enabled then false
  else
    let normalizedTenantId := normalized lower tenantId
    if rollout.tenantAllowList.contains normalizedTenantId then true
    else if !rollout.tierAllowList.isEmpty &&
        !(rollout.tierAllowList.map TenantTier.value).contains tenantTier then false
    else if rollout.rolloutPercentage = 0 then false
    else if rollout.rolloutPercentage = 100 then true
    else bucketOf sha256 normalizedTenantId < rollout.rolloutPercentage

/-- `TenantCapabilityPolicy`. -/
structure TenantCapabilityPolicy where
  schemaVersion : String := "2026-03-21"
  capabilities : Dict String CapabilityRollout := Dict.empty
  killedCapabilities : List String := []
  tpmLimits : Dict String (Dict TenantTier Int) := Dict.empty

/-- `TenantCapabilityPolicy.safe_fallback`. -/
def TenantCapabilityPolicy.safeFallback : TenantCapabilityPolicy := {}

/-- `TenantCapabilityPolicy.is_enabled`, by what `str.lower` makes of a name. -/
def TenantCapabilityPolicy.isEnabledWith (lower : String → String) (sha256 : String → List Nat)
    (policy : TenantCapabilityPolicy) (capability tenantId tenantTier : String) : Bool :=
  let normalizedCapability := normalized lower capability
  if normalizedCapability = "" then false
  else if policy.killedCapabilities.contains normalizedCapability then false
  else match policy.capabilities.get? normalizedCapability with
    | none => false
    | some rollout => rollout.isEnabledForWith lower sha256 tenantId tenantTier

/-- `TenantCapabilityPolicy.get_tpm_limit`; 0 is unlimited. -/
def TenantCapabilityPolicy.getTpmLimit (policy : TenantCapabilityPolicy) (modelId : String)
    (tenantTier : TenantTier) : Int :=
  match policy.tpmLimits.get? modelId with
  | none => 0
  | some modelLimits => (modelLimits.get? tenantTier).getD 0

end A5cCell
