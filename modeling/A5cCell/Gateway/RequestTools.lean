import A5cCell.Lib.Value
import A5cCell.DataAccess.Capability
import A5cCell.Gateway.RequestAdapter

/-!
# Tool admission

`request_tools.py` and `request_tier.py`. A tool is a record of the tools table under
`TOOL#<name>`, one for a tenant or one for all of them; `validate_tool_access` lets a
`tools/call` through when the record in force is enabled, the capability `tools.<name>` is on, and
the caller's tier reaches the record's minimum.
-/

namespace A5cCell.Gateway

open Py (Val Items truthyText)

/-- The tools table: the item under a partition and a sort key. -/
abbrev ToolsTable := String → String → Option Items

/-- What the interceptor reads from its surroundings to admit a tool. `toolsReadable` is whether
    reads of the tools table succeed, and `capabilityPolicy` what `get_capability_policy`
    answers. -/
structure ToolEnv where
  jsonLoads : String → Option Val
  /-- `str.lower`, on all of Unicode. -/
  lower : String → String
  sha256 : String → List Nat
  tools : ToolsTable
  toolsReadable : Bool
  capabilityPolicy : Option TenantCapabilityPolicy

/-- `_TIER_ORDER`. -/
def tierOrder (tier : String) : Option Int :=
  if tier = "basic" then some 0
  else if tier = "standard" then some 1
  else if tier = "premium" then some 2
  else none

/-- `is_tier_allowed`. -/
def isTierAllowed (tenantTier minimumTier : String) : Bool :=
  let tenantRank := (tierOrder tenantTier).getD (-1)
  let minimumRank := (tierOrder minimumTier).getD 100
  tenantRank ≥ minimumRank

/-- `extract_minimum_tier`. -/
def extractMinimumTier (toolRecord : Items) : String :=
  let minimum := toolRecord.get "tierMinimum"
  let minimum := if minimum.isNone then toolRecord.get "tier_minimum" else minimum
  if minimum.isNone then "basic" else minimum.toStr

/-- `extract_tool_name`. -/
def extractToolName (method : String) (body : Items) : Option String :=
  if method ≠ "tools/call" then none
  else match (body.get "params" (.dict [])).asDict? with
    | some params =>
        let name := (params.get "name").or (params.get "toolName")
        if name.truthy then some name.toStr else none
    | none => none

/-- The record in force for a tenant: its own, or the one for all. An empty item counts as
    none. -/
def heldToolRecord (tools : ToolsTable) (toolName tenantId : String) : Option Items :=
  let getItem (sortKey : String) := (tools ("TOOL#" ++ toolName) sortKey).filter (!·.isEmpty)
  (getItem ("TENANT#" ++ tenantId)).or (getItem "GLOBAL")

/-- `bool(item.get("enabled", False))`. -/
def toolEnabled (toolRecord : Items) : Bool := (toolRecord.get "enabled" (.bool false)).truthy

/-- `get_tool_record`: the record in force, if it is enabled. -/
def getToolRecord (tools : ToolsTable) (toolName tenantId : String) : Option Items :=
  (heldToolRecord tools toolName tenantId).filter toolEnabled

/-- Whether the capability policy, where there is one, has `tools.<name>` on. -/
def toolCapable (env : ToolEnv) (toolName tenantId tier : String) : Bool :=
  env.capabilityPolicy.all
    (·.isEnabledWith env.lower env.sha256 ("tools." ++ toolName) tenantId tier)

/-- `validate_tool_access`: the tool's name, or why the call is refused. A method other than
    `tools/call` is not checked. -/
def validateToolAccess (env : ToolEnv) (method : String) (requestBody : Items)
    (tenantId tier : String) : Except JsonRpcError (Option String) :=
  let toolName := extractToolName method requestBody
  if method ≠ "tools/call" then .ok toolName
  else match truthyText toolName with
    | none => .error ⟨400, -32600, "tools/call missing params.name"⟩
    | some toolName =>
        if !env.toolsReadable then .error ⟨500, -32603, "Failed to resolve tool policy"⟩
        else match getToolRecord env.tools toolName tenantId with
          | none => .error ⟨403, -32003, "Tool is unavailable for this tenant"⟩
          | some toolRecord =>
              if !toolCapable env toolName tenantId tier then
                .error ⟨403, -32003, "Tool '" ++ toolName ++ "' is not enabled for this tenant"⟩
              else if !isTierAllowed tier (extractMinimumTier toolRecord) then
                .error ⟨403, -32003, "Tenant tier is insufficient for this tool"⟩
              else .ok (some toolName)

/-- What a record in force asks of a caller: it is enabled, the caller's tier reaches its
    minimum, and the tool's capability is on wherever there is a policy. -/
structure Admits (env : ToolEnv) (toolName tenantId tier : String) (toolRecord : Items) : Prop where
  enabled : toolEnabled toolRecord = true
  tier_le : isTierAllowed tier (extractMinimumTier toolRecord) = true
  capable : toolCapable env toolName tenantId tier = true

/-- **What a `tools/call` let through has passed**: the tool it names has a record in force, and
    that record admits the caller. -/
theorem validateToolAccess_ok_iff {env : ToolEnv} {requestBody : Items} {tenantId tier : String}
    {toolName : Option String} :
    validateToolAccess env "tools/call" requestBody tenantId tier = .ok toolName ↔
      ∃ name record, toolName = some name ∧
        truthyText (extractToolName "tools/call" requestBody) = some name ∧
        env.toolsReadable = true ∧ heldToolRecord env.tools name tenantId = some record ∧
        Admits env name tenantId tier record := by
  constructor
  · intro h
    simp only [validateToolAccess, ne_eq, not_true_eq_false, if_false] at h
    cases hname : truthyText (extractToolName "tools/call" requestBody) with
    | none => simp [hname] at h
    | some name =>
      simp only [hname] at h
      cases hread : env.toolsReadable with
      | false => simp [hread] at h
      | true =>
        cases hrecord : getToolRecord env.tools name tenantId with
        | none => simp [hread, hrecord] at h
        | some record =>
          obtain ⟨hheld, henabled⟩ := Option.filter_eq_some_iff.mp hrecord
          cases hcapable : toolCapable env name tenantId tier with
          | false => simp [hread, hrecord, hcapable] at h
          | true =>
            cases htier : isTierAllowed tier (extractMinimumTier record) with
            | false => simp [hread, hrecord, hcapable, htier] at h
            | true =>
              simp only [hread, hrecord, hcapable, htier, Bool.not_true, Bool.false_eq_true,
                if_false, Except.ok.injEq] at h
              exact ⟨name, record, h.symm, rfl, rfl, hheld, henabled, htier, hcapable⟩
  · rintro ⟨name, record, rfl, hname, hread, hheld, hadmits⟩
    have hrecord : getToolRecord env.tools name tenantId = some record :=
      Option.filter_eq_some_iff.mpr ⟨hheld, hadmits.enabled⟩
    simp [validateToolAccess, hname, hread, hrecord, hadmits.capable, hadmits.tier_le]

end A5cCell.Gateway
