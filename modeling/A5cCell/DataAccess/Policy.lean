import A5cCell.Lib.Value
import A5cCell.DataAccess.Client
import A5cCell.DataAccess.Capability

/-!
# Fetching the capability policy

`TenantCapabilityClient` of `data_access.client`: the document AppConfig has, read into a policy. A
rule or the limits of a model that cannot be read are skipped; anything else that cannot be read
keeps the policy of before. A floating-point number of a document is an object; which number it is,
is a parameter, and infinities and NaN are none.
-/

namespace A5cCell.DataAccess

open Py (Val Items Dict Obj)

/-- `iter(value)`. -/
def iterate : Val → Except Exc (List Val)
  | .list xs => .ok xs
  | .dict kvs => .ok (kvs.map fun kv => .str kv.1)
  | .str s => .ok (s.toList.map fun c => .str (String.singleton c))
  | _ => .error (.typeError "object is not iterable")

def isHashable : Val → Bool
  | .list _ => false
  | .dict _ => false
  | _ => true

/-- `frozenset(value)`, as far as a text can be in it. -/
def textSet (value : Val) : Except Exc (List String) := do
  let xs ← iterate value
  if xs.all isHashable then pure (xs.filterMap Val.asStr?)
  else throw (.typeError "unhashable type")

/-- `TenantTier(value)`. -/
def tenantTierOf (value : Val) : Except Exc TenantTier :=
  match value.asStr?.bind TenantTier.ofValue? with
  | some tier => .ok tier
  | none => .error (.valueError "not a valid TenantTier")

/-- A number that is compared; a NaN or an infinity is in no range. -/
def comparable (number : Obj → Option ℚ) : Val → Except Exc ℚ
  | .int n => .ok n
  | .bool b => .ok (if b then 1 else 0)
  | .obj o => match number o with
    | some q => .ok q
    | none => .error (.valueError "rollout_percentage must be between 0 and 100")
  | _ => .error (.typeError "'<=' not supported")

/-- `int(limit)`. -/
def limitValue (limit : Val) : Except Exc Int :=
  match limit.toInt with
  | .ok n => .ok n
  | .overflow => .error (.other "OverflowError")
  | .invalid => .error (.valueError "invalid literal for int()")

/-- What `except (ValueError, TypeError)` catches. -/
def isMalformed : Exc → Bool
  | .valueError _ => true
  | .typeError _ => true
  | _ => false

section

variable (number : Obj → Option ℚ)

/-- `CapabilityRollout(...)` of a rule. -/
def rolloutOf (rolloutDict : Items) : Except Exc CapabilityRollout := do
  let rolloutPercentage ← comparable number (rolloutDict.get "rollout_percentage" (.int 100))
  let tiers ← iterate (rolloutDict.get "tier_allow_list" (.list []))
  let tierAllowList ← tiers.mapM tenantTierOf
  let tenantAllowList ← textSet (rolloutDict.get "tenant_allow_list" (.list []))
  if h : 0 ≤ rolloutPercentage ∧ rolloutPercentage ≤ 100 then
    pure {
      enabled := (rolloutDict.get "enabled" (.bool false)).truthy
      rolloutPercentage, tierAllowList, tenantAllowList
      percentage_nonneg := h.1
      percentage_le := h.2 }
  else throw (.valueError "rollout_percentage must be between 0 and 100")

/-- One step of the loop over the capabilities: a rule that cannot be read is skipped. -/
def addCapability (capabilities : Dict String CapabilityRollout) (rule : String × Val) :
    Except Exc (Dict String CapabilityRollout) :=
  match rule.2 with
  | .dict rolloutDict => match rolloutOf number rolloutDict with
    | .ok rollout => .ok (capabilities.set rule.1 rollout)
    | .error x => if isMalformed x then .ok capabilities else .error x
  | _ => .ok capabilities

/-- `value.items()`. -/
def itemsOf : Val → Except Exc Items
  | .dict kvs => .ok kvs
  | _ => .error (.other "AttributeError")

def capabilitiesOf (rawPolicy : Items) : Except Exc (Dict String CapabilityRollout) := do
  let rules ← itemsOf (rawPolicy.get "capabilities" (.dict []))
  rules.foldlM (addCapability number) Dict.empty

/-- The limits of a model by tier. -/
def tierLimitsOf (tierLimits : Items) : Except Exc (Dict TenantTier Int) :=
  tierLimits.foldlM (fun limits limit => do
    let tier ← tenantTierOf (.str limit.1)
    let value ← limitValue limit.2
    pure (limits.set tier value)) Dict.empty

/-- One step of the loop over the models. -/
def addLimits (tpmLimits : Dict String (Dict TenantTier Int)) (model : String × Val) :
    Except Exc (Dict String (Dict TenantTier Int)) :=
  match model.2 with
  | .dict tierLimits => match tierLimitsOf tierLimits with
    | .ok limits => .ok (tpmLimits.set model.1 limits)
    | .error x => if isMalformed x then .ok tpmLimits else .error x
  | _ => .ok tpmLimits

def tpmLimitsOf (rawPolicy : Items) : Except Exc (Dict String (Dict TenantTier Int)) := do
  let models ← itemsOf (rawPolicy.get "tpm_limits" (.dict []))
  models.foldlM addLimits Dict.empty

/-- What `fetch_policy` builds of a document. -/
def policyOf (rawPolicy : Items) : Except Exc TenantCapabilityPolicy := do
  let capabilities ← capabilitiesOf number rawPolicy
  let tpmLimits ← tpmLimitsOf rawPolicy
  let killedCapabilities ← textSet (rawPolicy.get "killed_capabilities" (.list []))
  pure {
    schemaVersion := (rawPolicy.get "schema_version" (.str "unknown")).toStr
    capabilities, killedCapabilities, tpmLimits }

/-- `TenantCapabilityClient`. -/
structure TenantCapabilityClient where
  /-- Whether the AppConfig application, environment and profile are configured. -/
  configured : Bool
  lastKnownGoodPolicy : TenantCapabilityPolicy

/-- `TenantCapabilityClient()`. -/
def TenantCapabilityClient.new (configured : Bool) : TenantCapabilityClient :=
  ⟨configured, .safeFallback⟩

/-- The policy of what the provider answered, where it can be read. -/
def parsed? (fetched : Except Exc Val) : Option TenantCapabilityPolicy :=
  match fetched with
  | .ok (.dict rawPolicy) => (policyOf number rawPolicy).toOption
  | _ => none

/-- `fetch_policy`, where the provider's `get` comes to `fetched`: the policy, and the client after. -/
def TenantCapabilityClient.fetchPolicy (client : TenantCapabilityClient) (fetched : Except Exc Val) :
    TenantCapabilityPolicy × TenantCapabilityClient :=
  if !client.configured then (client.lastKnownGoodPolicy, client)
  else match fetched with
    | .error _ => (client.lastKnownGoodPolicy, client)
    | .ok (.dict rawPolicy) => match policyOf number rawPolicy with
      | .ok policy => (policy, { client with lastKnownGoodPolicy := policy })
      | .error _ => (client.lastKnownGoodPolicy, client)
    | .ok _ => (client.lastKnownGoodPolicy, client)

variable {number} {client : TenantCapabilityClient} {fetched : Except Exc Val}

/-- A fetch that can be read answers its policy, and any other the policy of before. -/
theorem TenantCapabilityClient.fetchPolicy_eq (hconfigured : client.configured = true) :
    client.fetchPolicy number fetched =
      match parsed? number fetched with
      | some policy => (policy, { client with lastKnownGoodPolicy := policy })
      | none => (client.lastKnownGoodPolicy, client) := by
  simp only [fetchPolicy, hconfigured, Bool.not_true, Bool.false_eq_true, if_false]
  cases fetched with
  | error x => rfl
  | ok value =>
    cases value with
    | dict rawPolicy =>
      simp only [parsed?]
      cases policyOf number rawPolicy <;> rfl
    | _ => rfl

end

end A5cCell.DataAccess
