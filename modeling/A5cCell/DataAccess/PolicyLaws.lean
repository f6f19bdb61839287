import Mathlib.Data.Rat.Floor
import A5cCell.DataAccess.Policy

/-!
# The laws of a deployable policy

A document that satisfies the JSON schema AppConfig checks it against before it is deployed, and the
policy that is built of it. A capability is looked up under its name without surrounding space and in
lower case, and so is a killed one; but the names of the document are kept as they are written, so a
killed name that is written otherwise kills nothing.
-/

namespace A5cCell.DataAccess

open Py (Val Items Dict Obj)

/-! ## The deployed schema -/

def isBoolean : Val → Bool
  | .bool _ => true
  | _ => false

def isString : Val → Bool
  | .str _ => true
  | _ => false

/-- `{type: 'array', items}`. -/
def isArrayOf (items : Val → Bool) : Val → Bool
  | .list xs => xs.all items
  | _ => false

/-- A property of an object, where the object has it. -/
def hasProperty (object : Items) (name : String) (schema : Val → Bool) : Bool :=
  (object.lookup name).all schema

/-- `{type: 'integer', minimum: 0, maximum: 100}`: a number without a fraction, however written. -/
def isPercentage (number : Obj → Option ℚ) : Val → Bool
  | .int n => 0 ≤ n && n ≤ 100
  | .obj o => (number o).any fun q => q.den = 1 && 0 ≤ q && q ≤ 100
  | _ => false

/-- `{enum: ['basic', 'standard', 'premium']}`. -/
def isTier (value : Val) : Bool := (value.asStr?.bind TenantTier.ofValue?).isSome

/-- The schema of a rule. -/
def ruleSchema (number : Obj → Option ℚ) : Val → Bool
  | .dict rule => isBoolean (Items.get rule "enabled") &&
      hasProperty rule "rollout_percentage" (isPercentage number) &&
      hasProperty rule "tier_allow_list" (isArrayOf isTier) &&
      hasProperty rule "tenant_allow_list" (isArrayOf isString)
  | _ => false

/-- An object of rules. An object of JSON has a name once. -/
def rulesSchema (number : Obj → Option ℚ) : Val → Bool
  | .dict rules => decide (rules.map Prod.fst).Nodup && rules.all fun rule => ruleSchema number rule.2
  | _ => false

/-- `JSON_SCHEMA` of the capability profile. -/
def documentSchema (number : Obj → Option ℚ) (document : Items) : Bool :=
  isString (document.get "schema_version") &&
    hasProperty document "capabilities" (rulesSchema number) &&
    hasProperty document "killed_capabilities" (isArrayOf isString)

/-! ## What a document says -/

/-- The elements of an array. -/
def elements : Val → List Val
  | .list xs => xs
  | _ => []

def killedValues (document : Items) : List Val :=
  elements (document.get "killed_capabilities" (.list []))

/-- The names of `killed_capabilities`. -/
def killedNames (document : Items) : List String := (killedValues document).filterMap Val.asStr?

/-- The rules of a document under their names. -/
def rulesOf (document : Items) : Items :=
  ((document.get "capabilities" (.dict [])).asDict?).getD []

/-- The rule under a name. -/
def ruleOf (document : Items) (name : String) : Option Items :=
  ((rulesOf document).lookup name).bind Val.asDict?

/-- The `rollout_percentage` of a rule; 100 where it has none. -/
def percentageOf (number : Obj → Option ℚ) (rule : Items) : ℚ :=
  ((comparable number (rule.get "rollout_percentage" (.int 100))).toOption).getD 0

def tierNames (rule : Items) : List String :=
  (elements (rule.get "tier_allow_list" (.list []))).filterMap Val.asStr?

def tenantNames (rule : Items) : List String :=
  (elements (rule.get "tenant_allow_list" (.list []))).filterMap Val.asStr?

/-- The document with another killed name. -/
def withKilled (name : String) (document : Items) : Items :=
  document.set "killed_capabilities" (.list (killedValues document ++ [.str name]))

/-- The document with another `rollout_percentage` of a rule. -/
def withPercentage (name : String) (rule : Items) (percentage : Val) (document : Items) : Items :=
  document.set "capabilities"
    (.dict ((rulesOf document).set name (.dict (rule.set "rollout_percentage" percentage))))

section

variable (lower : String → String) (sha256 : String → List Nat) (number : Obj → Option ℚ)

/-- Whether a rule lets a tenant of a tier in: it is enabled, and has the tenant in its list, or the
    tier (where it lists any) and the tenant among its percentage. -/
def Admits (rule : Items) (tenantId tenantTier : String) : Prop :=
  rule.get "enabled" = .bool true ∧
    (normalized lower tenantId ∈ tenantNames rule ∨
      (tierNames rule = [] ∨ tenantTier ∈ tierNames rule) ∧
        (bucketOf sha256 (normalized lower tenantId) : ℚ) < percentageOf number rule)

/-- The laws of a policy, for one capability and one tenant. -/
structure Lawful (document : Items) (policy : TenantCapabilityPolicy)
    (capability tenantId tenantTier : String) : Prop where
  /-- A killed capability is not enabled. -/
  killed : (∃ name ∈ killedNames document, normalized lower name = normalized lower capability) →
    policy.isEnabledWith lower sha256 capability tenantId tenantTier = false
  /-- An enabled capability has a rule that says so. -/
  ruled : policy.isEnabledWith lower sha256 capability tenantId tenantTier = true →
    ∃ rule, ruleOf document (normalized lower capability) = some rule ∧
      rule.get "enabled" = .bool true
  /-- With another killed name no more is enabled. -/
  killing : ∀ name, ∃ policy', policyOf number (withKilled name document) = .ok policy' ∧
    (policy'.isEnabledWith lower sha256 capability tenantId tenantTier = true →
      policy.isEnabledWith lower sha256 capability tenantId tenantTier = true)
  /-- With a greater percentage of a rule no less is enabled. -/
  raising : ∀ name rule percentage, ruleOf document name = some rule →
    isPercentage number percentage = true →
    percentageOf number rule ≤ percentageOf number (rule.set "rollout_percentage" percentage) →
    ∃ policy', policyOf number (withPercentage name rule percentage document) = .ok policy' ∧
      (policy.isEnabledWith lower sha256 capability tenantId tenantTier = true →
        policy'.isEnabledWith lower sha256 capability tenantId tenantTier = true)

/-- A killed name that the capability has, whatever its case and the space around it, is also listed
    in lower case without space, or the capability is enabled for the tenant anyway by no rule. -/
def KillsHold (document : Items) (capability tenantId tenantTier : String) : Prop :=
  (∃ name ∈ killedNames document, normalized lower name = normalized lower capability) →
    normalized lower capability = "" ∨ normalized lower capability ∈ killedNames document ∨
      ∀ rule, ruleOf document (normalized lower capability) = some rule →
        ¬ Admits lower sha256 number rule tenantId tenantTier

end

/-! ## A rule that satisfies the schema -/

section

variable {lower : String → String} {sha256 : String → List Nat} {number : Obj → Option ℚ}

theorem hasProperty_get {object : Items} {name : String} {schema : Val → Bool} (default : Val)
    (h : hasProperty object name schema = true) (hdefault : schema default = true) :
    schema (object.get name default) = true := by
  unfold hasProperty at h
  unfold Items.get
  cases hlookup : object.lookup name with
  | none => exact hdefault
  | some v =>
    rw [hlookup] at h
    exact h

theorem textSet_of_strings {value : Val} (h : isArrayOf isString value = true) :
    textSet value = .ok ((elements value).filterMap Val.asStr?) := by
  cases value with
  | list xs =>
    have hhashable : xs.all isHashable = true := by
      rw [List.all_eq_true]
      intro x hx
      have hstring := List.all_eq_true.mp h x hx
      cases x with
      | str s => rfl
      | _ => cases hstring
    show (if xs.all isHashable then (.ok (xs.filterMap Val.asStr?) : Except Exc (List String))
      else _) = _
    rw [if_pos hhashable]
    rfl
  | _ => cases h

theorem mapM_tenantTierOf {xs : List Val} (h : xs.all isTier = true) :
    ∃ tiers, xs.mapM tenantTierOf = .ok tiers ∧
      tiers.map TenantTier.value = xs.filterMap Val.asStr? := by
  induction xs with
  | nil => exact ⟨[], rfl, rfl⟩
  | cons x xs ih =>
    rw [List.all_cons, Bool.and_eq_true] at h
    obtain ⟨tiers, htiers, hvalues⟩ := ih h.2
    cases x with
    | str s =>
      obtain ⟨tier, htier⟩ := Option.isSome_iff_exists.mp h.1
      have hvalue : s = tier.value := TenantTier.ofValue?_eq_some.mp htier
      refine ⟨tier :: tiers, ?_, ?_⟩
      · rw [List.mapM_cons, tenantTierOf, htier, htiers]
        rfl
      · rw [List.map_cons, hvalues, hvalue]
        rfl
    | _ => cases h.1

theorem comparable_of_percentage {value : Val} (h : isPercentage number value = true) :
    ∃ q, comparable number value = .ok q ∧ 0 ≤ q ∧ q ≤ 100 := by
  cases value with
  | int n =>
    simp only [isPercentage, Bool.and_eq_true, decide_eq_true_eq] at h
    exact ⟨n, rfl, by exact_mod_cast h.1, by exact_mod_cast h.2⟩
  | obj o =>
    simp only [isPercentage, Option.any_eq_true, Bool.and_eq_true, decide_eq_true_eq] at h
    obtain ⟨q, hq, ⟨-, hnonneg⟩, hle⟩ := h
    exact ⟨q, by simp only [comparable, hq], hnonneg, hle⟩
  | _ => cases h

/-- A rule that satisfies the schema is read, as what it says. -/
theorem rolloutOf_of_schema {rule : Items} (h : ruleSchema number (.dict rule) = true) :
    ∃ rollout, rolloutOf number rule = .ok rollout ∧
      (rollout.enabled = true ↔ rule.get "enabled" = .bool true) ∧
      rollout.rolloutPercentage = percentageOf number rule ∧
      rollout.tierAllowList.map TenantTier.value = tierNames rule ∧
      rollout.tenantAllowList = tenantNames rule := by
  simp only [ruleSchema, Bool.and_eq_true] at h
  obtain ⟨⟨⟨henabled, hpercentage⟩, htiers⟩, htenants⟩ := h
  obtain ⟨q, hq, hnonneg, hle⟩ := comparable_of_percentage
    (hasProperty_get (.int 100) hpercentage rfl)
  have htenants := textSet_of_strings (hasProperty_get (.list []) htenants rfl)
  have htierArray := hasProperty_get (.list []) htiers rfl
  obtain ⟨xs, hxs, htierList⟩ : ∃ xs, rule.get "tier_allow_list" (.list []) = .list xs ∧
      xs.all isTier = true := by
    cases hvalue : rule.get "tier_allow_list" (.list []) with
    | list xs => exact ⟨xs, rfl, by rwa [hvalue] at htierArray⟩
    | _ => rw [hvalue] at htierArray; cases htierArray
  obtain ⟨tiers, htiers, htierValues⟩ := mapM_tenantTierOf htierList
  have hread : rolloutOf number rule = .ok {
      enabled := (rule.get "enabled" (.bool false)).truthy
      rolloutPercentage := q
      tierAllowList := tiers
      tenantAllowList := tenantNames rule
      percentage_nonneg := hnonneg
      percentage_le := hle } := by
    simp only [rolloutOf, hq, hxs, iterate, htiers, htenants, bind, Except.bind, tenantNames]
    rw [dif_pos ⟨hnonneg, hle⟩]
    rfl
  refine ⟨_, hread, ?_, ?_, ?_, rfl⟩
  · show (rule.get "enabled" (.bool false)).truthy = true ↔ _
    unfold Items.get at henabled ⊢
    cases hlookup : rule.lookup "enabled" with
    | none => rw [hlookup] at henabled; cases henabled
    | some v =>
      rw [hlookup] at henabled
      cases v with
      | bool b => cases b <;> simp [Val.truthy]
      | _ => cases henabled
  · simp only [percentageOf, hq]
    rfl
  · rw [htierValues, tierNames, hxs]
    rfl

/-- When a rollout is enabled for a tenant; a bucket is below a hundred. -/
theorem isEnabledForWith_iff {rollout : CapabilityRollout} {tenantId tenantTier : String} :
    rollout.isEnabledForWith lower sha256 tenantId tenantTier = true ↔
      rollout.enabled = true ∧
        (normalized lower tenantId ∈ rollout.tenantAllowList ∨
          (rollout.tierAllowList.map TenantTier.value = [] ∨
            tenantTier ∈ rollout.tierAllowList.map TenantTier.value) ∧
          (bucketOf sha256 (normalized lower tenantId) : ℚ) < rollout.rolloutPercentage) := by
  have hbucket : (bucketOf sha256 (normalized lower tenantId) : ℚ) < 100 := by
    have hmod : bucketOf sha256 (normalized lower tenantId) < 100 := Nat.mod_lt _ (by decide)
    exact_mod_cast hmod
  have hnonneg : (0 : ℚ) ≤ bucketOf sha256 (normalized lower tenantId) := Nat.cast_nonneg _
  have htiers : (!rollout.tierAllowList.isEmpty &&
      !(rollout.tierAllowList.map TenantTier.value).contains tenantTier) = true ↔
        ¬ (rollout.tierAllowList.map TenantTier.value = [] ∨
          tenantTier ∈ rollout.tierAllowList.map TenantTier.value) := by
    rw [not_or, Bool.and_eq_true, Bool.not_eq_true', Bool.not_eq_true', List.map_eq_nil_iff,
      ← Bool.not_eq_true, ← Bool.not_eq_true, List.isEmpty_iff, List.contains_iff_mem]
  simp only [CapabilityRollout.isEnabledForWith, List.contains_iff_mem, htiers]
  cases henabled : rollout.enabled with
  | false => simp
  | true =>
    simp only [Bool.not_true, Bool.false_eq_true, if_false, true_and]
    split_ifs with htenant htier hzero hfull
    · simp only [htenant, true_or]
    · -- no bucket is below zero
      simp only [htenant, htier, hzero, false_or, true_and, false_iff, not_lt]
      exact hnonneg
    · simp only [htenant, htier, hfull, hbucket, and_self, or_true]
    · simp only [htenant, htier, false_or, true_and, decide_eq_true_eq]
    · simp only [htenant, htier, false_and, or_false]

/-- So a rule that is read enables the capability for the tenants it lets in. -/
theorem rollout_admits {rule : Items} {rollout : CapabilityRollout} {tenantId tenantTier : String}
    (hschema : ruleSchema number (.dict rule) = true) (hread : rolloutOf number rule = .ok rollout) :
    rollout.isEnabledForWith lower sha256 tenantId tenantTier = true ↔
      Admits lower sha256 number rule tenantId tenantTier := by
  obtain ⟨rollout', hread', henabled, hpercentage, htiers, htenants⟩ := rolloutOf_of_schema hschema
  cases hread.symm.trans hread'
  rw [isEnabledForWith_iff, Admits, henabled, hpercentage, htiers, htenants]

/-! ## A document that satisfies the schema -/

/-- The rules are read one by one, each under its own name. -/
theorem foldlM_addCapability {rules : Items} (hnodup : (rules.map Prod.fst).Nodup)
    (hschema : ∀ rule ∈ rules, ruleSchema number rule.2 = true)
    (capabilities : Dict String CapabilityRollout) :
    ∃ all, rules.foldlM (addCapability number) capabilities = .ok all ∧ ∀ name,
      all.get? name = match (rules.lookup name).bind Val.asDict? with
        | some rule => (rolloutOf number rule).toOption
        | none => capabilities.get? name := by
  induction rules generalizing capabilities with
  | nil => exact ⟨capabilities, rfl, fun name => rfl⟩
  | cons rule rules ih =>
    obtain ⟨name, value⟩ := rule
    rw [List.map_cons, List.nodup_cons] at hnodup
    rw [List.forall_mem_cons] at hschema
    cases value with
    | dict rule =>
      obtain ⟨rollout, hread, -⟩ := rolloutOf_of_schema hschema.1
      obtain ⟨all, hall, hget⟩ := ih hnodup.2 hschema.2 (capabilities.set name rollout)
      refine ⟨all, ?_, fun other => ?_⟩
      · rw [List.foldlM_cons]
        simp only [addCapability, hread]
        exact hall
      · rw [hget other, List.lookup_cons]
        by_cases hother : other = name
        · -- the names are distinct, so no later rule replaces this one
          have hlater : rules.lookup name = none := by
            rw [List.lookup_eq_none_iff]
            intro later hlater
            have hmem := List.mem_map_of_mem (f := Prod.fst) hlater
            have hne : later.1 ≠ name := fun heq => hnodup.1 (heq ▸ hmem)
            simpa using Ne.symm hne
          subst hother
          simp [hlater, hread, Except.toOption]
        · have hne : (other == name) = false := by simpa using hother
          rw [hne]
          cases (rules.lookup other).bind Val.asDict? with
          | none => exact Dict.get?_set_ne _ _ hother
          | some rule => rfl
    | _ => cases hschema.1

/-- What the schema says of a document. -/
theorem documentSchema_iff {document : Items} :
    documentSchema number document = true ↔
      isString (document.get "schema_version") = true ∧
      hasProperty document "capabilities" (rulesSchema number) = true ∧
      hasProperty document "killed_capabilities" (isArrayOf isString) = true := by
  rw [documentSchema, Bool.and_eq_true, Bool.and_eq_true, and_assoc]

theorem rules_of_schema {document : Items}
    (h : hasProperty document "capabilities" (rulesSchema number) = true) :
    document.get "capabilities" (.dict []) = .dict (rulesOf document) ∧
      ((rulesOf document).map Prod.fst).Nodup ∧
      ∀ rule ∈ rulesOf document, ruleSchema number rule.2 = true := by
  have hrules := hasProperty_get (.dict []) h rfl
  unfold rulesOf
  cases hvalue : document.get "capabilities" (.dict []) with
  | dict rules =>
    rw [hvalue] at hrules
    simp only [rulesSchema, Bool.and_eq_true, decide_eq_true_eq, List.all_eq_true] at hrules
    exact ⟨rfl, hrules⟩
  | _ => rw [hvalue] at hrules; cases hrules

theorem mem_rulesOf {document : Items} {name : String} {rule : Items}
    (h : ruleOf document name = some rule) : (name, Val.dict rule) ∈ rulesOf document := by
  obtain ⟨value, hvalue, hrule⟩ := Option.bind_eq_some_iff.mp h
  obtain ⟨before, after, hsplit, -⟩ := List.lookup_eq_some_iff.mp hvalue
  cases value with
  | dict kvs =>
    cases hrule
    rw [hsplit]
    simp
  | _ => cases hrule

theorem ruleSchema_of_ruleOf {document : Items} (hschema : documentSchema number document = true)
    {name : String} {rule : Items} (h : ruleOf document name = some rule) :
    ruleSchema number (.dict rule) = true :=
  (rules_of_schema (documentSchema_iff.mp hschema).2.1).2.2 _ (mem_rulesOf h)

/-- The policy of a document has the rules and the killed names of the document. -/
theorem policyOf_of_schema {document : Items} (hschema : documentSchema number document = true)
    {limits : Dict String (Dict TenantTier Int)} (hlimits : tpmLimitsOf document = .ok limits) :
    ∃ policy, policyOf number document = .ok policy ∧
      policy.killedCapabilities = killedNames document ∧
      ∀ name, policy.capabilities.get? name =
        (ruleOf document name).bind fun rule => (rolloutOf number rule).toOption := by
  obtain ⟨-, hcapabilities, hkilled⟩ := documentSchema_iff.mp hschema
  obtain ⟨hvalue, hnodup, hrules⟩ := rules_of_schema hcapabilities
  obtain ⟨all, hall, hget⟩ := foldlM_addCapability hnodup hrules Dict.empty
  have hkilled := textSet_of_strings (hasProperty_get (.list []) hkilled rfl)
  refine ⟨_, by
    simp only [policyOf, capabilitiesOf, hvalue, itemsOf, hall, hlimits, hkilled, bind, Except.bind]
    rfl, rfl, fun name => ?_⟩
  show all.get? name = _
  rw [hget, ruleOf]
  cases ((rulesOf document).lookup name).bind Val.asDict? <;> rfl

theorem tpmLimitsOf_of_built {document : Items} {policy : TenantCapabilityPolicy}
    (h : policyOf number document = .ok policy) : ∃ limits, tpmLimitsOf document = .ok limits := by
  simp only [policyOf, bind, Except.bind] at h
  split at h
  · cases h
  · split at h
    · cases h
    · exact ⟨_, by assumption⟩

/-- **What is enabled**, in the words of the document. -/
theorem isEnabledWith_iff {document : Items} {policy : TenantCapabilityPolicy}
    {capability tenantId tenantTier : String} (hschema : documentSchema number document = true)
    (hbuilt : policyOf number document = .ok policy) :
    policy.isEnabledWith lower sha256 capability tenantId tenantTier = true ↔
      normalized lower capability ≠ "" ∧ normalized lower capability ∉ killedNames document ∧
        ∃ rule, ruleOf document (normalized lower capability) = some rule ∧
          Admits lower sha256 number rule tenantId tenantTier := by
  obtain ⟨limits, hlimits⟩ := tpmLimitsOf_of_built hbuilt
  obtain ⟨policy', hbuilt', hkilled, hget⟩ := policyOf_of_schema hschema hlimits
  cases hbuilt.symm.trans hbuilt'
  simp only [TenantCapabilityPolicy.isEnabledWith, hkilled, hget, List.contains_iff_mem]
  split_ifs with hblank hmem
  · simp [hblank]
  · simp [hmem]
  · cases hrule : ruleOf document (normalized lower capability) with
    | none => simp
    | some rule =>
      have hrule := ruleSchema_of_ruleOf hschema hrule
      obtain ⟨rollout, hread, -⟩ := rolloutOf_of_schema hrule
      simp only [Option.bind_some, hread, Except.toOption]
      rw [rollout_admits hrule hread]
      simp [hblank, hmem]

/-! ## Changed documents -/

theorem killedValues_withKilled (name : String) (document : Items) :
    killedValues (withKilled name document) = killedValues document ++ [.str name] := by
  rw [killedValues, withKilled, Items.get_set_self]
  rfl

theorem killedNames_withKilled (name : String) (document : Items) :
    killedNames (withKilled name document) = killedNames document ++ [name] := by
  rw [killedNames, killedValues_withKilled, List.filterMap_append]
  rfl

theorem ruleOf_withKilled (name : String) (document : Items) :
    ruleOf (withKilled name document) = ruleOf document := by
  funext other
  rw [ruleOf, ruleOf, rulesOf, rulesOf, withKilled, Items.get_set_ne _ _ _ (by decide)]

theorem hasProperty_set_self {object : Items} {name : String} {value : Val} {schema : Val → Bool}
    (h : schema value = true) : hasProperty (object.set name value) name schema = true := by
  rw [hasProperty, Items.set, Py.lookup_setItem_self]
  exact h

theorem hasProperty_set_ne {object : Items} {name other : String} (value : Val)
    {schema : Val → Bool} (hne : other ≠ name) :
    hasProperty (object.set name value) other schema = hasProperty object other schema := by
  rw [hasProperty, hasProperty, Items.set, Py.lookup_setItem_ne value hne]

theorem schema_withKilled (name : String) {document : Items}
    (h : documentSchema number document = true) :
    documentSchema number (withKilled name document) = true := by
  obtain ⟨hversion, hcapabilities, hkilled⟩ := documentSchema_iff.mp h
  refine documentSchema_iff.mpr ⟨?_, ?_, ?_⟩
  · rwa [withKilled, Items.get_set_ne _ _ _ (by decide)]
  · rwa [withKilled, hasProperty_set_ne _ (by decide)]
  · apply hasProperty_set_self
    have hvalues := hasProperty_get (.list []) hkilled rfl
    have hall : (killedValues document).all isString = true := by
      unfold killedValues
      cases hvalue : document.get "killed_capabilities" (.list []) with
      | list xs => rwa [hvalue] at hvalues
      | _ => rw [hvalue] at hvalues; cases hvalues
    show (killedValues document ++ [Val.str name]).all isString = true
    rw [List.all_append, hall]
    rfl

section

variable {document rule : Items} {name : String} {percentage : Val}

theorem rulesOf_withPercentage :
    rulesOf (withPercentage name rule percentage document) =
      (rulesOf document).set name (.dict (rule.set "rollout_percentage" percentage)) := by
  rw [rulesOf, withPercentage, Items.get_set_self]
  rfl

theorem ruleOf_withPercentage (other : String) :
    ruleOf (withPercentage name rule percentage document) other =
      if other = name then some (rule.set "rollout_percentage" percentage)
      else ruleOf document other := by
  rw [ruleOf, rulesOf_withPercentage]
  split_ifs with hother
  · rw [hother, Items.set, Py.lookup_setItem_self]
    rfl
  · rw [Items.set, Py.lookup_setItem_ne _ hother, ruleOf]

theorem killedNames_withPercentage :
    killedNames (withPercentage name rule percentage document) = killedNames document := by
  rw [killedNames, killedNames, killedValues, killedValues, withPercentage,
    Items.get_set_ne _ _ _ (by decide)]

theorem ruleSchema_set (hrule : ruleSchema number (.dict rule) = true)
    (hpercentage : isPercentage number percentage = true) :
    ruleSchema number (.dict (rule.set "rollout_percentage" percentage)) = true := by
  simp only [ruleSchema, Bool.and_eq_true] at hrule ⊢
  obtain ⟨⟨⟨henabled, -⟩, htiers⟩, htenants⟩ := hrule
  refine ⟨⟨⟨?_, hasProperty_set_self hpercentage⟩, ?_⟩, ?_⟩
  · rwa [Items.get_set_ne _ _ _ (by decide)]
  · rwa [hasProperty_set_ne _ (by decide)]
  · rwa [hasProperty_set_ne _ (by decide)]

theorem schema_withPercentage (h : documentSchema number document = true)
    (hrule : ruleOf document name = some rule) (hpercentage : isPercentage number percentage = true) :
    documentSchema number (withPercentage name rule percentage document) = true := by
  obtain ⟨hversion, hcapabilities, hkilled⟩ := documentSchema_iff.mp h
  obtain ⟨-, hnodup, hrules⟩ := rules_of_schema hcapabilities
  refine documentSchema_iff.mpr ⟨?_, ?_, ?_⟩
  · rwa [withPercentage, Items.get_set_ne _ _ _ (by decide)]
  · apply hasProperty_set_self
    simp only [rulesSchema, Bool.and_eq_true, decide_eq_true_eq, List.all_eq_true]
    refine ⟨Py.nodup_setItem _ _ hnodup, ?_⟩
    intro other hother
    rcases Py.mem_setItem hother with rfl | hother
    · exact ruleSchema_set (ruleSchema_of_ruleOf h hrule) hpercentage
    · exact hrules other hother
  · rwa [withPercentage, hasProperty_set_ne _ (by decide)]

/-- A rule with a greater percentage lets in whom it let in. -/
theorem Admits.raise {tenantId tenantTier : String}
    (hle : percentageOf number rule ≤
      percentageOf number (rule.set "rollout_percentage" percentage))
    (h : Admits lower sha256 number rule tenantId tenantTier) :
    Admits lower sha256 number (rule.set "rollout_percentage" percentage) tenantId tenantTier := by
  have htenants : tenantNames (rule.set "rollout_percentage" percentage) = tenantNames rule := by
    rw [tenantNames, tenantNames, Items.get_set_ne _ _ _ (by decide)]
  have htiers : tierNames (rule.set "rollout_percentage" percentage) = tierNames rule := by
    rw [tierNames, tierNames, Items.get_set_ne _ _ _ (by decide)]
  rw [Admits, Items.get_set_ne _ _ _ (by decide), htenants, htiers]
  obtain ⟨henabled, htenant | ⟨htier, hbucket⟩⟩ := h
  · exact ⟨henabled, .inl htenant⟩
  · exact ⟨henabled, .inr ⟨htier, hbucket.trans_le hle⟩⟩

end

/-- The limits are read from a part of the document that neither change touches. -/
theorem tpmLimitsOf_set {document : Items} {name : String} (value : Val)
    (hne : "tpm_limits" ≠ name) : tpmLimitsOf (document.set name value) = tpmLimitsOf document := by
  rw [tpmLimitsOf, tpmLimitsOf, Items.get_set_ne _ _ _ hne]

/-- **The policy of a deployable document is lawful** for a capability and a tenant exactly when the
    kills of that capability hold for that tenant. -/
theorem lawful_iff {document : Items} {policy : TenantCapabilityPolicy}
    {capability tenantId tenantTier : String} (hschema : documentSchema number document = true)
    (hbuilt : policyOf number document = .ok policy) :
    Lawful lower sha256 number document policy capability tenantId tenantTier ↔
      KillsHold lower sha256 number document capability tenantId tenantTier := by
  obtain ⟨limits, hlimits⟩ := tpmLimitsOf_of_built hbuilt
  constructor
  -- A kill that does not hold leaves the capability enabled, which the policy's law excludes.
  · intro h hkilled
    by_contra hnot
    rw [not_or, not_or, not_forall] at hnot
    obtain ⟨hblank, hmem, rule, hrule⟩ := hnot
    rw [Classical.not_imp, not_not] at hrule
    have htrue := (isEnabledWith_iff hschema hbuilt).mpr ⟨hblank, hmem, rule, hrule⟩
    exact absurd (htrue.symm.trans (h.killed hkilled)) (by decide)
  · intro hkills
    constructor
    case killed =>
      intro hkilled
      rw [← Bool.not_eq_true, isEnabledWith_iff hschema hbuilt]
      rintro ⟨hblank, hmem, rule, hrule, hadmits⟩
      rcases hkills hkilled with h | h | h
      · exact hblank h
      · exact hmem h
      · exact h rule hrule hadmits
    case ruled =>
      intro henabled
      obtain ⟨-, -, rule, hrule, hadmits⟩ := (isEnabledWith_iff hschema hbuilt).mp henabled
      exact ⟨rule, hrule, hadmits.1⟩
    case killing =>
      intro name
      have hschema' := schema_withKilled name hschema
      obtain ⟨policy', hbuilt', -⟩ := policyOf_of_schema hschema'
        ((tpmLimitsOf_set _ (by decide)).trans hlimits)
      refine ⟨policy', hbuilt', ?_⟩
      rw [isEnabledWith_iff hschema' hbuilt', isEnabledWith_iff hschema hbuilt,
        killedNames_withKilled, ruleOf_withKilled, List.mem_append, not_or]
      rintro ⟨hblank, ⟨hmem, -⟩, hrule⟩
      exact ⟨hblank, hmem, hrule⟩
    case raising =>
      intro name rule percentage hrule hpercentage hle
      have hschema' := schema_withPercentage hschema hrule hpercentage
      obtain ⟨policy', hbuilt', -⟩ := policyOf_of_schema hschema'
        ((tpmLimitsOf_set _ (by decide)).trans hlimits)
      refine ⟨policy', hbuilt', ?_⟩
      rw [isEnabledWith_iff hschema' hbuilt', isEnabledWith_iff hschema hbuilt,
        killedNames_withPercentage]
      rintro ⟨hblank, hmem, own, hown, hadmits⟩
      refine ⟨hblank, hmem, ?_⟩
      rw [ruleOf_withPercentage]
      split_ifs with hname
      · rw [hname, hrule] at hown
        cases hown
        exact ⟨_, rfl, hadmits.raise hle⟩
      · exact ⟨own, hown, hadmits⟩

end

/-- A document that enables `agents.invoke`, and kills what this names. -/
def invokeDocument (killed : String) : Items :=
  [("schema_version", .str "2026-03-21"),
    ("capabilities", .dict [("agents.invoke", .dict [("enabled", .bool true)])]),
    ("killed_capabilities", .list [.str killed])]

/-- No number is written as an object. -/
def noNumber : Obj → Option ℚ := fun _ => none

def noDigest : String → List Nat := fun _ => []

/-- A name killed as it is looked up. -/
theorem agentsInvoke_lawful :
    ∃ policy, policyOf noNumber (invokeDocument "agents.invoke") = .ok policy ∧
      Lawful Py.lower noDigest noNumber (invokeDocument "agents.invoke") policy " Agents.Invoke" "acme"
        "basic" := by
  have hschema : documentSchema noNumber (invokeDocument "agents.invoke") = true := by decide
  obtain ⟨policy, hbuilt, -⟩ := policyOf_of_schema hschema rfl
  refine ⟨policy, hbuilt, (lawful_iff hschema hbuilt).mpr fun _ => .inr (.inl ?_)⟩
  show "agents.invoke" ∈ ["agents.invoke"]
  exact List.mem_singleton.mpr rfl

/-- A name killed in the case it was announced in, which is enabled all the same. -/
theorem agentsInvoke_outlives_kill :
    documentSchema noNumber (invokeDocument "Agents.Invoke") = true ∧
      ∃ policy, policyOf noNumber (invokeDocument "Agents.Invoke") = .ok policy ∧
        policy.isEnabledWith Py.lower noDigest "Agents.Invoke" "acme" "basic" = true ∧
        ¬ Lawful Py.lower noDigest noNumber (invokeDocument "Agents.Invoke") policy "Agents.Invoke"
          "acme" "basic" := by
  have hschema : documentSchema noNumber (invokeDocument "Agents.Invoke") = true := by decide
  obtain ⟨policy, hbuilt, -⟩ := policyOf_of_schema hschema rfl
  have henabled : policy.isEnabledWith Py.lower noDigest "Agents.Invoke" "acme" "basic" = true := by
    apply (isEnabledWith_iff hschema hbuilt).mpr
    refine ⟨by decide, by decide, [("enabled", .bool true)], rfl, rfl, .inr ⟨.inl rfl, ?_⟩⟩
    show ((0 : Nat) : ℚ) < (100 : Int)
    norm_num
  refine ⟨hschema, policy, hbuilt, henabled, fun h => ?_⟩
  have hkilled := h.killed ⟨"Agents.Invoke", by decide, rfl⟩
  exact absurd (henabled.symm.trans hkilled) (by decide)

end A5cCell.DataAccess
