import A5cCell.Gateway.RequestTools

/-!
# The tools a caller is shown

`response_tools.py`: the filter of a `tools/list` answer. It reads the same records as the
admission of a `tools/call`, on its own: with another field for the minimum tier, with tiers in any
case, with a default for every tier it does not know, and with the tool's own word where no record
is held.

`listing_agrees_iff` says exactly for which tools the filter and the admission agree.
-/

namespace A5cCell.Gateway

open Py (Val Items truthyText)

/-- `is_tier_sufficient`, by the rank of a tier. -/
def tierRank : TenantTier → Int
  | .basic => 0
  | .standard => 1
  | .premium => 2

def isTierSufficient (currentTier requiredTier : TenantTier) : Bool :=
  tierRank currentTier ≥ tierRank requiredTier

/-- `parse_tier`. -/
def parseTier (value : Val) : TenantTier :=
  (TenantTier.ofValue? (Py.lower value.toStr)).getD .basic

/-- What the filter reads: the tools table, whether a client for it could be made, and whether its
    reads succeed. -/
structure ListEnv where
  tools : ToolsTable
  clientAvailable : Bool
  toolsReadable : Bool

/-- The end of `resolve_tool_minimum_tier`: the tier the tool itself asks for. -/
def payloadTier (tool : Items) : TenantTier :=
  let tier := (tool.get "tierMinimum").or (tool.get "tier_minimum")
  if tier.isNone then .basic else parseTier tier

/-- `resolve_tool_minimum_tier`; `none` hides the tool. -/
def resolveToolMinimumTier (env : ListEnv) (tenantId : String) (tool : Items) :
    Option TenantTier :=
  let toolName := tool.get "name"
  if toolName.truthy ∧ env.clientAvailable ∧ env.toolsReadable then
    match heldToolRecord env.tools toolName.toStr tenantId with
    | some toolRecord =>
        if !toolEnabled toolRecord then none else some (parseTier (toolRecord.get "tier_minimum"))
    | none => some (payloadTier tool)
  else some (payloadTier tool)

/-- Whether `filter_tools` keeps an element of the list. -/
def keepsTool (env : ListEnv) (tenantId : String) (tier : TenantTier) (tool : Val) : Bool :=
  match tool.asDict? with
  | none => true
  | some tool => (resolveToolMinimumTier env tenantId tool).any (isTierSufficient tier)

/-- `filter_tools`. -/
def filterTools (env : ListEnv) (tenantId : String) (tier : TenantTier) (body : Items) : Items :=
  match (body.get "tools" (.list [])).asList? with
  | none => body
  | some tools => body.set "tools" (.list (tools.filter (keepsTool env tenantId tier)))

/-- The tools a body lists. -/
def toolsOf (body : Items) : List Val := ((body.get "tools" (.list [])).asList?).getD []

theorem toolsOf_filterTools (env : ListEnv) (tenantId : String) (tier : TenantTier)
    (body : Items) :
    toolsOf (filterTools env tenantId tier body) =
      (toolsOf body).filter (keepsTool env tenantId tier) := by
  rw [filterTools]
  cases hlist : (body.get "tools" (.list [])).asList? with
  | none => simp [toolsOf, hlist]
  | some tools =>
    simp only [toolsOf, hlist, Items.get_set_self, Val.asList?_list, Option.getD_some]

/-! ## Agreement with the admission -/

/-- The body of a `tools/call` of a listed tool. -/
def callBody (tool : Items) : Items := [("params", .dict [("name", tool.get "name")])]

/-- Whether `validate_tool_access` lets a call of a listed tool through, where no capability
    policy is in force. -/
def Callable (tools : ToolsTable) (tenantId tier : String) (tool : Items) : Prop :=
  ∃ toolName, validateToolAccess
    { jsonLoads := fun _ => none, lower := Py.lower, sha256 := fun _ => [], tools,
      toolsReadable := true, capabilityPolicy := none }
    "tools/call" (callBody tool) tenantId tier = .ok toolName

/-- A listed tool survives the filter for a caller whose tier header has this text. -/
def Listed (tools : ToolsTable) (tenantId tier : String) (body tool : Items) : Prop :=
  .dict tool ∈ toolsOf (filterTools ⟨tools, true, true⟩ tenantId (parseTier (.str tier)) body)

/-- The record in force for a listed tool, if it has a name to call it by. -/
def recordOf (tools : ToolsTable) (tenantId : String) (tool : Items) : Option Items :=
  let name := tool.get "name"
  if name.truthy then heldToolRecord tools name.toStr tenantId else none

/-- When a listed tool is shown exactly to those who may call it. Without a record, it must ask
    for more than the caller has. With an enabled one: if the caller's tier and the minimum the
    admission reads are both spelled as a tier is, the caller's rank must not be between that
    minimum and the one the filter reads; otherwise nobody may call it, and the minimum the
    filter reads must be out of the caller's reach. -/
def ShownAsCallable (tools : ToolsTable) (tenantId tier : String) (tool : Items) : Prop :=
  let shownRank := tierRank (parseTier (.str tier))
  match recordOf tools tenantId tool with
  | none => shownRank < tierRank (payloadTier tool)
  | some toolRecord => toolEnabled toolRecord = true →
      let shownMinimum := tierRank (parseTier (toolRecord.get "tier_minimum"))
      match tierOrder tier, tierOrder (extractMinimumTier toolRecord) with
      | some rank, some minimum =>
          ¬ (minimum ≤ rank ∧ rank < shownMinimum) ∧ ¬ (shownMinimum ≤ rank ∧ rank < minimum)
      | _, _ => shownRank < shownMinimum

/-- A tier spelled as a tier is has, in the filter, the rank it has in the admission. -/
theorem tierRank_of_tierOrder {tier : String} {rank : Int} (h : tierOrder tier = some rank) :
    tierRank (parseTier (.str tier)) = rank := by
  rw [tierOrder] at h
  split at h
  · rename_i heq; subst heq; cases h; rfl
  split at h
  · rename_i heq; subst heq; cases h; rfl
  split at h
  · rename_i heq; subst heq; cases h; rfl
  · exact absurd h (by simp)

theorem tierOrder_bounds {tier : String} {rank : Int} (h : tierOrder tier = some rank) :
    0 ≤ rank ∧ rank ≤ 2 := by
  rw [← tierRank_of_tierOrder h]
  cases parseTier (.str tier) <;> simp [tierRank]

/-- A tier the admission does not know reaches no minimum, and no tier reaches one it does not
    know. -/
theorem isTierAllowed_iff {tier minimumTier : String} :
    isTierAllowed tier minimumTier = true ↔
      ∃ rank minimum, tierOrder tier = some rank ∧ tierOrder minimumTier = some minimum ∧
        minimum ≤ rank := by
  rw [isTierAllowed]
  cases htier : tierOrder tier with
  | none =>
    cases hminimum : tierOrder minimumTier with
    | none => simp
    | some minimum =>
      have := tierOrder_bounds hminimum
      simp
      omega
  | some rank =>
    have := tierOrder_bounds htier
    cases hminimum : tierOrder minimumTier with
    | none =>
      simp
      omega
    | some minimum => simp

/-- The admission calls a tool by the name it is listed under. -/
theorem extractToolName_callBody (tool : Items) :
    truthyText (extractToolName "tools/call" (callBody tool)) =
      if (tool.get "name").truthy then some (tool.get "name").toStr else none := by
  have hname : ((callBody tool).get "params" (.dict [])).asDict? =
      some [("name", tool.get "name")] := rfl
  have hparams : (Items.get [("name", tool.get "name")] "name") = tool.get "name" := rfl
  have hother : (Items.get [("name", tool.get "name")] "toolName") = .none := rfl
  simp only [extractToolName, ne_eq, not_true_eq_false, if_false, hname, hparams, hother]
  by_cases htruthy : (tool.get "name").truthy = true
  · have hor : (tool.get "name").or .none = tool.get "name" := by rw [Val.or, if_pos htruthy]
    simp only [hor, htruthy, if_true]
    exact Py.truthyText_eq_some.mpr ⟨rfl, Val.toStr_ne_of_truthy htruthy⟩
  · have hor : (tool.get "name").or .none = .none := by rw [Val.or, if_neg htruthy]
    simp only [hor, htruthy]
    rfl

/-- **Who may call a listed tool**: those its record in force admits. -/
theorem callable_iff (tools : ToolsTable) (tenantId tier : String) (tool : Items) :
    Callable tools tenantId tier tool ↔
      ∃ toolRecord, recordOf tools tenantId tool = some toolRecord ∧
        toolEnabled toolRecord = true ∧
        isTierAllowed tier (extractMinimumTier toolRecord) = true := by
  simp only [Callable, validateToolAccess_ok_iff, extractToolName_callBody, recordOf]
  constructor
  · rintro ⟨_, name, toolRecord, rfl, hname, _, hheld, hadmits⟩
    split at hname
    · rename_i htruthy
      obtain rfl := Option.some.inj hname
      exact ⟨toolRecord, by rw [if_pos htruthy]; exact hheld, hadmits.enabled, hadmits.tier_le⟩
    · exact absurd hname (by simp)
  · rintro ⟨toolRecord, hrecord, henabled, htier⟩
    split at hrecord
    · rename_i htruthy
      exact ⟨_, _, toolRecord, rfl, by rw [if_pos htruthy], trivial, hrecord, henabled, htier, rfl⟩
    · exact absurd hrecord (by simp)

/-- **Who is shown a listed tool**: those whose tier reaches what its record in force asks, if it
    is enabled, and otherwise what the tool itself asks. -/
theorem listed_iff {tools : ToolsTable} {tenantId tier : String} {body tool : Items}
    (hmem : .dict tool ∈ toolsOf body) :
    Listed tools tenantId tier body tool ↔
      match recordOf tools tenantId tool with
      | none => tierRank (payloadTier tool) ≤ tierRank (parseTier (.str tier))
      | some toolRecord => toolEnabled toolRecord = true ∧
          tierRank (parseTier (toolRecord.get "tier_minimum")) ≤
            tierRank (parseTier (.str tier)) := by
  rw [Listed, toolsOf_filterTools, List.mem_filter, and_iff_right hmem, keepsTool, recordOf]
  simp only [Val.asDict?, resolveToolMinimumTier, and_self, and_true]
  by_cases htruthy : (tool.get "name").truthy = true
  · simp only [htruthy, if_true]
    cases hheld : heldToolRecord tools (tool.get "name").toStr tenantId with
    | none => simp [isTierSufficient]
    | some toolRecord =>
      cases henabled : toolEnabled toolRecord <;> simp [isTierSufficient, henabled]
  · simp [htruthy, isTierSufficient]

/-- **Exactly when the list agrees with the calls**: every listed tool is shown to a caller if and
    only if the caller may call it, when and only when each of them is `ShownAsCallable`. -/
theorem listing_agrees_iff (tools : ToolsTable) (tenantId tier : String) (body : Items) :
    (∀ tool, .dict tool ∈ toolsOf body →
        (Listed tools tenantId tier body tool ↔ Callable tools tenantId tier tool)) ↔
      ∀ tool, .dict tool ∈ toolsOf body → ShownAsCallable tools tenantId tier tool := by
  refine forall_congr' fun tool => imp_congr_right fun hmem => ?_
  rw [listed_iff hmem, callable_iff, ShownAsCallable]
  cases hrecord : recordOf tools tenantId tool with
  | none => simp
  | some toolRecord =>
    cases henabled : toolEnabled toolRecord with
    | false => simp [henabled]
    | true =>
      simp only [henabled, true_and, Option.some.injEq, exists_eq_left', isTierAllowed_iff,
        forall_const]
      cases htier : tierOrder tier with
      | none => simp
      | some rank =>
        cases hminimum : tierOrder (extractMinimumTier toolRecord) with
        | none => simp
        | some minimum =>
          have hrank := tierRank_of_tierOrder htier
          simp only [hrank, Option.some.injEq, exists_and_left, exists_eq_left']
          constructor
          · intro hagree; omega
          · intro hbetween; omega

/-- A table with one tool, for premium tenants by the field the admission reads. -/
def oneTool : ToolsTable := fun pk sk =>
  if pk = "TOOL#report" ∧ sk = "GLOBAL" then
    some [("enabled", .bool true), ("tierMinimum", .str "premium")] else none

/-- The tool is shown to a basic tenant, who may not call it. -/
theorem oneTool_listed_not_callable :
    Listed oneTool "acme" "basic" [("tools", .list [.dict [("name", .str "report")]])]
        [("name", .str "report")] ∧
      ¬ Callable oneTool "acme" "basic" [("name", .str "report")] := by
  constructor
  · exact (listed_iff (List.mem_singleton.mpr rfl)).mpr ⟨rfl, by decide⟩
  · rw [callable_iff]
    rintro ⟨toolRecord, hrecord, -, htier⟩
    obtain rfl := Option.some.inj hrecord
    exact absurd htier (by decide)

end A5cCell.Gateway
