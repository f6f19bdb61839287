import A5cCell.Scripts.AgentManifest

/-!
# Which manifests are loaded

A manifest that is loaded is named as its directory, runs on the port of its protocol, and asks of its
deployment only what the deployment has; and every manifest of which that holds can be written down and
is loaded as it is (`manifest_loaded_iff`).
-/

namespace A5cCell.Scripts

open Py (Val Items Obj)
open DataAccess

/-- A text as a manifest has one: stripped, and not blank. -/
def Trimmed (text : String) : Prop := Py.strip text = text ∧ text ≠ ""

/-- A number that can be written down. -/
def Toml.Writes (toml : Toml) (x : FloatValue) : Prop :=
  x = .number (4 / 5) ∨ (∃ n : Int, x = .number n) ∨ ∃ o, toml.float o = some x

/-- What holds of a manifest, whatever was written down. -/
structure AgentManifest.Valid (toml : Toml) (agentName : String) (m : AgentManifest) : Prop where
  directory : Trimmed agentName
  projectName : m.projectName = agentName
  name : m.name = agentName
  version : Trimmed m.version
  ownerTeam : Trimmed m.ownerTeam
  handler : Trimmed m.handler
  function : ':' ∈ m.handler.toList
  duration : 0 < m.estimatedDurationSeconds
  modelId : ∀ model ∈ m.llm.modelId, Trimmed model
  maxTokens : ∀ tokens ∈ m.llm.maxTokens, 0 < tokens
  deployment : (m.deployment.type = "zip" ∧ m.runtime.protocol = "http" ∧ m.runtime.entrypoint = none) ∨
    (m.deployment.type = "container" ∧ (m.runtime.protocol = "http" ∨ m.runtime.entrypoint.isSome))
  entrypoint : ∀ entrypoint ∈ m.runtime.entrypoint, Trimmed entrypoint
  port : defaultProtocolPorts.lookup m.runtime.protocol = some m.runtime.port
  threshold : m.evaluations.threshold.InUnit
  written : toml.Writes m.evaluations.threshold
  region : Trimmed m.evaluations.evaluationRegion
  agUi : m.agUi.enabled = true → m.deployment.type = "container" ∧ m.agUi.endpoint.isSome
  endpoint : ∀ endpoint ∈ m.agUi.endpoint, Trimmed endpoint

variable {toml : Toml} {agentName table key : String} {data : Items}

/-! ## What the readers pass -/

theorem trimmed_strip {text : String} (h : ¬ Py.strip text = "") : Trimmed (Py.strip text) :=
  ⟨Py.strip_strip text, h⟩

theorem trimmed_of_requiredString {text : String} (h : (requiredString data key table).Passes text) :
    Trimmed text := by
  unfold requiredString at h
  split at h
  · split at h
    · exact absurd h Checked.not_passes_report
    · rename_i hblank
      cases Checked.passes_pure.mp h
      exact trimmed_strip hblank
  · exact absurd h Checked.not_passes_report

theorem trimmed_of_optionalString {default text : Option String}
    (h : (optionalString data key default table).Passes text) : ∀ t ∈ text, Trimmed t := by
  unfold optionalString at h
  split at h
  · cases Checked.passes_pure.mp h
    intro t ht
    cases ht
  · split at h
    · exact absurd h Checked.not_passes_report
    · rename_i hblank
      cases Checked.passes_pure.mp h
      intro t ht
      cases ht
      exact trimmed_strip hblank
  · exact absurd h Checked.not_passes_report

theorem writes_of_optionalFloat {x : FloatValue}
    (h : (optionalFloat toml data key (4 / 5) table).Passes x) : toml.Writes x := by
  unfold optionalFloat at h
  split at h
  · exact .inl (Checked.passes_pure.mp h).symm
  · unfold floatOfInt at h
    split at h
    · exact .inr (.inl ⟨_, (Checked.passes_pure.mp h).symm⟩)
    · exact absurd h Checked.not_passes_raise
  · rename_i value _ _
    split at h
    · rename_i x' hfloat
      cases Checked.passes_pure.mp h
      cases value with
      | obj o => exact .inr (.inr ⟨o, hfloat⟩)
      | _ => cases hfloat
    · exact absurd h Checked.not_passes_report

/-! ## What is read of what is written -/

theorem passes_requireTable {value : Items} {tableLabel : String} (h : data.get key = .dict value) :
    (requireTable data key tableLabel).Passes value := by
  rw [requireTable, h]
  rfl

theorem passes_optionalTable {value : Items} (h : data.get key (.dict []) = .dict value) :
    (optionalTable toml data key table).Passes value := by
  rw [optionalTable, h]
  rfl

theorem passes_requiredString {text : String} (h : data.get key = .str text) (htext : Trimmed text) :
    (requiredString data key table).Passes text := by
  simp only [requiredString, h, htext.1, if_neg htext.2]
  rfl

theorem passes_optionalString {default text : Option String}
    (h : data.get key (textVal default) = textVal text) (htext : ∀ t ∈ text, Trimmed t) :
    (optionalString data key default table).Passes text := by
  cases text with
  | none =>
    rw [optionalString, h]
    rfl
  | some t =>
    have ht := htext t rfl
    rw [optionalString, h]
    simp only [textVal, ht.1, if_neg ht.2]
    rfl

theorem passes_optionalBool {default value : Bool} (h : data.get key (.bool default) = .bool value) :
    (optionalBool toml data key default table).Passes value := by
  rw [optionalBool, h]
  rfl

theorem passes_optionalInt {default value : Option Int}
    (h : data.get key (intVal default) = intVal value) :
    (optionalInt toml data key default table).Passes value := by
  rw [optionalInt, h]
  cases value <;> rfl

theorem passes_optionalFloat_obj {default : ℚ} {o : Obj} {x : FloatValue}
    (h : data.lookup key = some (.obj o)) (ho : toml.float o = some x) :
    (optionalFloat toml data key default table).Passes x := by
  simp only [optionalFloat, h, Toml.floatOf, ho]
  rfl

theorem passes_requiredEnum {α : Type} {ofValue? : String → Option α} {options text : String}
    {first member : α} (h : data.get key = .str text) (htext : Trimmed text)
    (hmember : ofValue? text = some member) :
    (requiredEnum ofValue? options first data key table).Passes member := by
  simp only [requiredEnum, h, htext.1, if_neg htext.2, hmember]
  rfl

theorem unknownKeys_eq_nil {allowedKeys : List String} :
    unknownKeys data allowedKeys = [] ↔ ∀ key ∈ data.map Prod.fst, key ∈ allowedKeys := by
  rw [unknownKeys, ← List.length_eq_zero_iff, List.length_insertionSort, List.length_eq_zero_iff,
    List.filter_eq_nil_iff]
  simp only [List.mem_dedup, Bool.not_eq_eq_eq_not, Bool.not_true, Bool.not_eq_false,
    List.contains_iff_mem]

theorem passes_checkUnknownKeys {allowedKeys : List String} {u : Unit} :
    (checkUnknownKeys data allowedKeys table).Passes u ↔ ∀ key ∈ data.map Prod.fst, key ∈ allowedKeys := by
  rw [checkUnknownKeys, Checked.passes_rejectIf, not_not, unknownKeys_eq_nil]

/-! ## Every manifest that is loaded is valid -/

variable {manifestRaw projectRaw : Items}

theorem readIdentity_sound {identity : AgentIdentity}
    (h : (readIdentity toml agentName projectRaw manifestRaw).Passes identity) :
    Trimmed agentName ∧ identity.projectName = agentName ∧ identity.name = agentName ∧
      Trimmed identity.version ∧ Trimmed identity.ownerTeam ∧ Trimmed identity.handler ∧
      ':' ∈ identity.handler.toList ∧ ∀ seconds ∈ identity.estimatedDurationSeconds, 0 < seconds := by
  simp only [readIdentity, Checked.passes_bind, Checked.passes_rejectIf, Checked.passes_pure] at h
  obtain ⟨projectName, hproject, version, hversion, _, -, name, hname, ownerTeam, howner, handler,
    hhandler, tier, -, mode, -, streaming, -, duration, -, _, hproject', _, hname', _, -, _, hform, _,
    hpositive, rfl⟩ := h
  have hproject := trimmed_of_requiredString hproject
  have hname := trimmed_of_requiredString hname
  have hhandler := trimmed_of_requiredString hhandler
  have hagent : projectName = agentName := by
    by_contra hne
    exact hproject' ⟨hproject.2, hne⟩
  have hagent' : name = agentName := by
    by_contra hne
    exact hname' ⟨hname.2, hne⟩
  refine ⟨hagent ▸ hproject, hagent, hagent', trimmed_of_requiredString hversion,
    trimmed_of_requiredString howner, hhandler, ?_, fun seconds hseconds => ?_⟩
  · by_contra hcolon
    exact hform ⟨hhandler.2, hcolon⟩
  · by_contra hle
    exact hpositive ⟨seconds, hseconds, not_lt.mp hle⟩

theorem readLlm_sound {llm : AgentLlmConfig} (h : (readLlm toml manifestRaw).Passes llm) :
    (∀ model ∈ llm.modelId, Trimmed model) ∧ ∀ tokens ∈ llm.maxTokens, 0 < tokens := by
  simp only [readLlm, Checked.passes_bind, Checked.passes_rejectIf, Checked.passes_pure] at h
  obtain ⟨llmRaw, -, _, -, modelId, hmodel, maxTokens, -, _, hpositive, rfl⟩ := h
  refine ⟨trimmed_of_optionalString hmodel, fun tokens htokens => ?_⟩
  by_contra hle
  exact hpositive ⟨tokens, htokens, not_lt.mp hle⟩

theorem readDeployment_sound {deploymentType : Option String}
    (h : (readDeployment toml manifestRaw).Passes deploymentType) :
    deploymentType = some "zip" ∨ deploymentType = some "container" := by
  simp only [readDeployment, Checked.passes_bind, Checked.passes_rejectIf, Checked.passes_pure] at h
  obtain ⟨deploymentRaw, -, _, -, deploymentType, -, _, hmem, rfl⟩ := h
  have hmem := not_not.mp hmem
  simpa only [List.mem_cons, List.not_mem_nil, or_false] using hmem

/-- A protocol that has a port is one of the four. -/
theorem mem_protocols {protocol : String}
    (h : some protocol ∈ [some "http", some "mcp", some "a2a", some "agui"]) :
    (protocol = "http" ∨ protocol ∈ ["mcp", "a2a", "agui"]) ∧
      ∃ port, defaultProtocolPorts.lookup protocol = some port := by
  simp only [List.mem_cons, Option.some.injEq, List.not_mem_nil, or_false] at h
  rcases h with rfl | rfl | rfl | rfl
  · exact ⟨.inl rfl, _, rfl⟩
  · exact ⟨.inr (by simp), _, rfl⟩
  · exact ⟨.inr (by simp), _, rfl⟩
  · exact ⟨.inr (by simp), _, rfl⟩

theorem readRuntime_sound {runtime : AgentRuntimeConfig} {deploymentType : Option String}
    (h : (readRuntime toml manifestRaw deploymentType).Passes runtime) :
    (∀ entrypoint ∈ runtime.entrypoint, Trimmed entrypoint) ∧
      defaultProtocolPorts.lookup runtime.protocol = some runtime.port ∧
      (deploymentType = some "zip" → runtime.protocol = "http" ∧ runtime.entrypoint = none) ∧
      (deploymentType = some "container" →
        runtime.protocol = "http" ∨ runtime.entrypoint.isSome) := by
  simp only [readRuntime, Checked.passes_bind, Checked.passes_rejectIf, Checked.passes_pure] at h
  obtain ⟨runtimeRaw, -, _, -, entrypoint, hentrypoint, protocol, -, port, -, _, hprotocol, _, -, _,
    hzip, _, hzip', _, hcontainer, _, hport, rfl⟩ := h
  obtain ⟨protocol, rfl⟩ : ∃ p, protocol = some p := by
    cases protocol with
    | none => simp at hprotocol
    | some p => exact ⟨p, rfl⟩
  obtain ⟨hkind, expected, hexpected⟩ := mem_protocols (not_not.mp hprotocol)
  refine ⟨trimmed_of_optionalString hentrypoint, ?_, fun hdeployed => ?_, fun hdeployed => ?_⟩
  · show defaultProtocolPorts.lookup protocol = some _
    rw [hexpected]
    by_contra hne
    exact hport ⟨expected, hexpected, fun heq => hne (congrArg some heq.symm)⟩
  · refine ⟨hkind.resolve_right fun hother => hzip ⟨hdeployed, hother⟩, ?_⟩
    exact Option.not_isSome_iff_eq_none.mp fun hsome => hzip' ⟨hdeployed, hsome⟩
  · refine hkind.imp_right fun hother => ?_
    by_contra hnone
    exact hcontainer ⟨hdeployed, hother, hnone⟩

theorem readEvaluations_sound {evaluations : AgentEvaluationsConfig}
    (h : (readEvaluations toml manifestRaw).Passes evaluations) :
    evaluations.threshold.InUnit ∧ toml.Writes evaluations.threshold ∧
      Trimmed evaluations.evaluationRegion := by
  simp only [readEvaluations, Checked.passes_bind, Checked.passes_rejectIf, Checked.passes_pure] at h
  obtain ⟨evaluationsRaw, -, _, -, threshold, hthreshold, region, hregion, _, hunit, rfl⟩ := h
  refine ⟨not_not.mp hunit, writes_of_optionalFloat hthreshold, ?_⟩
  cases region with
  | none =>
    have hdefault : Trimmed defaultEvaluationRegion := ⟨by decide, by decide⟩
    exact hdefault
  | some region => exact trimmed_of_optionalString hregion region rfl

theorem readAgUi_sound {agUi : AgentAgUiConfig} {deploymentType : Option String}
    (h : (readAgUi toml manifestRaw deploymentType).Passes agUi) :
    (agUi.enabled = true → deploymentType = some "container" ∧ agUi.endpoint.isSome) ∧
      ∀ endpoint ∈ agUi.endpoint, Trimmed endpoint := by
  simp only [readAgUi, Checked.passes_bind, Checked.passes_rejectIf, Checked.passes_pure] at h
  obtain ⟨agUiRaw, -, _, -, enabled, -, transportRaw, -, endpoint, hendpoint, transport, -, _,
    hdeployed, _, hmissing, rfl⟩ := h
  refine ⟨fun henabled => ⟨?_, ?_⟩, trimmed_of_optionalString hendpoint⟩
  · by_contra hne
    exact hdeployed ⟨henabled, hne⟩
  · rw [Option.isSome_iff_ne_none]
    exact fun hnone => hmissing ⟨henabled, hnone⟩

theorem valid_of_readManifest {m : AgentManifest} (h : (readManifest toml agentName data).Passes m) :
    m.Valid toml agentName := by
  simp only [readManifest, Checked.passes_bind, Checked.passes_pure] at h
  obtain ⟨projectRaw, -, toolRaw, -, manifestRaw, -, identity, hidentity, llm, hllm, deploymentType,
    hdeployment, runtime, hruntime, evaluations, hevaluations, agUi, hagUi, rfl⟩ := h
  obtain ⟨hdirectory, hproject, hname, hversion, howner, hhandler, hfunction, hduration⟩ :=
    readIdentity_sound hidentity
  obtain ⟨hmodel, htokens⟩ := readLlm_sound hllm
  obtain ⟨hentrypoint, hport, hzip, hcontainer⟩ := readRuntime_sound hruntime
  obtain ⟨hunit, hwritten, hregion⟩ := readEvaluations_sound hevaluations
  obtain ⟨henabled, hendpoint⟩ := readAgUi_sound hagUi
  have hdeployed := readDeployment_sound hdeployment
  exact {
    directory := hdirectory, projectName := hproject, name := hname, version := hversion
    ownerTeam := howner, handler := hhandler, function := hfunction
    duration := by
      show 0 < intOr identity.estimatedDurationSeconds 5
      cases hseconds : identity.estimatedDurationSeconds with
      | none => decide
      | some seconds =>
        have hpositive := hduration seconds hseconds
        rw [intOr]
        split
        · decide
        · exact hpositive
    modelId := hmodel, maxTokens := htokens
    deployment := by
      rcases hdeployed with rfl | rfl
      · exact .inl ⟨rfl, hzip rfl⟩
      · exact .inr ⟨rfl, hcontainer rfl⟩
    entrypoint := hentrypoint, port := hport, threshold := hunit, written := hwritten, region := hregion
    agUi := fun hon => by
      obtain ⟨hdeploymentType, hsome⟩ := henabled hon
      exact ⟨congrArg (Option.getD · "zip") hdeploymentType, hsome⟩
    endpoint := hendpoint }

/-! ## Every valid manifest is loaded -/

/-- The entry of a field that may be left out. -/
def optionalEntry (key : String) (value : Option Val) : Items := (value.map (key, ·)).toList

theorem keys_optionalEntry {value : Option Val} {key' : String}
    (h : key' ∈ (optionalEntry key value).map Prod.fst) : key' = key := by
  cases value with
  | none => cases h
  | some v => exact List.mem_singleton.mp h

/-- The `[project]` table of a manifest. -/
def AgentManifest.projectTable (m : AgentManifest) : Items :=
  [("name", .str m.projectName), ("version", .str m.version)]

/-- The `[tool.agentcore]` table of a manifest, given the entry of its threshold. -/
def AgentManifest.agentcoreTable (m : AgentManifest) (threshold : Items) : Items :=
  [("name", .str m.name),
    ("owner_team", .str m.ownerTeam),
    ("tier_minimum", .str m.tierMinimum.value),
    ("handler", .str m.handler),
    ("invocation_mode", .str m.invocationMode.value),
    ("streaming_enabled", .bool m.streamingEnabled),
    ("estimated_duration_seconds", .int m.estimatedDurationSeconds),
    ("llm", .dict (optionalEntry "model_id" (m.llm.modelId.map .str) ++
      optionalEntry "max_tokens" (m.llm.maxTokens.map .int))),
    ("deployment", .dict [("type", .str m.deployment.type)]),
    ("runtime", .dict (("protocol", .str m.runtime.protocol) :: ("port", .int m.runtime.port) ::
      optionalEntry "entrypoint" (m.runtime.entrypoint.map .str))),
    ("evaluations", .dict (("evaluation_region", .str m.evaluations.evaluationRegion) :: threshold)),
    ("ag_ui", .dict (("enabled", .bool m.agUi.enabled) :: ("transport", .str m.agUi.transport.value) ::
      optionalEntry "endpoint" (m.agUi.endpoint.map .str)))]

/-- The document that says a manifest. -/
def AgentManifest.render (m : AgentManifest) (threshold : Items) : Items :=
  [("project", .dict m.projectTable),
    ("tool", .dict [("agentcore", .dict (m.agentcoreTable threshold))])]

variable {m : AgentManifest} {threshold : Items}

theorem trimmed_tier (tier : TenantTier) : Trimmed tier.value := by
  cases tier <;> exact ⟨by decide, by decide⟩

theorem trimmed_mode (mode : InvocationMode) : Trimmed mode.value := by
  cases mode <;> exact ⟨by decide, by decide⟩

theorem trimmed_transport (transport : AgUiTransport) : Trimmed transport.value := by
  cases transport <;> exact ⟨by decide, by decide⟩

theorem AgUiTransport.ofValue?_value (transport : AgUiTransport) :
    AgUiTransport.ofValue? transport.value = some transport := by
  cases transport <;> rfl

theorem InvocationMode.ofValue?_value (mode : InvocationMode) :
    InvocationMode.ofValue? mode.value = some mode := by
  cases mode <;> rfl

theorem passes_readIdentity (h : m.Valid toml agentName) :
    (readIdentity toml agentName m.projectTable (m.agentcoreTable threshold)).Passes
      { projectName := m.projectName, version := m.version, name := m.name, ownerTeam := m.ownerTeam
        handler := m.handler, tierMinimum := m.tierMinimum, invocationMode := m.invocationMode
        streamingEnabled := m.streamingEnabled
        estimatedDurationSeconds := some m.estimatedDurationSeconds } := by
  have hproject : Trimmed m.projectName := h.projectName ▸ h.directory
  have hname : Trimmed m.name := h.name ▸ h.directory
  simp only [readIdentity, Checked.passes_bind, Checked.passes_rejectIf, Checked.passes_pure]
  refine ⟨_, passes_requiredString rfl hproject, _, passes_requiredString rfl h.version, (), ?_,
    _, passes_requiredString rfl hname, _, passes_requiredString rfl h.ownerTeam,
    _, passes_requiredString rfl h.handler,
    _, passes_requiredEnum rfl (trimmed_tier _) (TenantTier.ofValue?_eq_some.mpr rfl),
    _, passes_requiredEnum rfl (trimmed_mode _) (InvocationMode.ofValue?_value _),
    _, passes_optionalBool rfl, some m.estimatedDurationSeconds, passes_optionalInt rfl,
    (), fun hne => hne.2 h.projectName, (), fun hne => hne.2 h.name,
    (), fun hne => hne.2.2 (h.projectName.trans h.name.symm), (), fun hne => hne.2 h.function,
    (), ?_, rfl⟩
  · rw [passes_checkUnknownKeys]
    simp [AgentManifest.agentcoreTable, manifestKeys]
  · rintro ⟨seconds, hseconds, hle⟩
    cases hseconds
    exact absurd h.duration (not_lt.mpr hle)

theorem passes_readLlm (h : m.Valid toml agentName) :
    (readLlm toml (m.agentcoreTable threshold)).Passes m.llm := by
  simp only [readLlm, Checked.passes_bind, Checked.passes_rejectIf, Checked.passes_pure]
  refine ⟨_, passes_optionalTable rfl, (), ?_, m.llm.modelId, passes_optionalString ?_ h.modelId,
    m.llm.maxTokens, passes_optionalInt ?_, (), ?_, rfl⟩
  · rw [passes_checkUnknownKeys, List.map_append]
    intro key hkey
    rcases List.mem_append.mp hkey with hkey | hkey
    · rw [keys_optionalEntry hkey]
      decide
    · rw [keys_optionalEntry hkey]
      decide
  · cases m.llm.modelId <;> cases m.llm.maxTokens <;> rfl
  · cases m.llm.modelId <;> cases m.llm.maxTokens <;> rfl
  · rintro ⟨tokens, htokens, hle⟩
    exact absurd (h.maxTokens tokens htokens) (not_lt.mpr hle)

theorem passes_readDeployment (h : m.Valid toml agentName) :
    (readDeployment toml (m.agentcoreTable threshold)).Passes (some m.deployment.type) := by
  have htype : m.deployment.type = "zip" ∨ m.deployment.type = "container" :=
    h.deployment.imp And.left And.left
  simp only [readDeployment, Checked.passes_bind, Checked.passes_rejectIf, Checked.passes_pure]
  refine ⟨_, passes_optionalTable rfl, (), ?_, some m.deployment.type, passes_optionalString rfl ?_,
    (), ?_, rfl⟩
  · rw [passes_checkUnknownKeys]
    simp [deploymentKeys]
  · rintro t ht
    cases ht
    rcases htype with htype | htype <;> rw [htype] <;> exact ⟨by decide, by decide⟩
  · rcases htype with htype | htype <;> simp [htype]

/-- What has a port is one of the four protocols. -/
theorem protocol_of_port {protocol : String} {port : Int}
    (h : defaultProtocolPorts.lookup protocol = some port) :
    some protocol ∈ [some "http", some "mcp", some "a2a", some "agui"] ∧ Trimmed protocol ∧
      1 ≤ port ∧ port ≤ 65535 := by
  have hall : ∀ entry ∈ defaultProtocolPorts,
      some entry.1 ∈ [some "http", some "mcp", some "a2a", some "agui"] ∧
        (Py.strip entry.1 = entry.1 ∧ entry.1 ≠ "") ∧ 1 ≤ entry.2 ∧ entry.2 ≤ 65535 := by decide
  exact hall (protocol, port) ((Py.lookup_eq_some_iff (by decide)).mp h)

/-- A deployment as a zip file has no other protocol than `http`, and the others have an entrypoint. -/
theorem passes_readRuntime (h : m.Valid toml agentName) :
    (readRuntime toml (m.agentcoreTable threshold) (some m.deployment.type)).Passes m.runtime := by
  obtain ⟨hprotocol, htrimmed, hpositive, hbound⟩ := protocol_of_port h.port
  have hport : intOr (some m.runtime.port) ((defaultProtocolPorts.lookup m.runtime.protocol).getD 8080) =
      m.runtime.port := by
    rw [intOr, if_neg (by omega)]
  have hzip (hdeployed : some m.deployment.type = some "zip") :
      m.runtime.protocol = "http" ∧ m.runtime.entrypoint = none := by
    rcases h.deployment with hdep | hdep
    · exact hdep.2
    · rw [hdep.1] at hdeployed
      exact absurd hdeployed (by decide)
  have hcontainer (hdeployed : some m.deployment.type = some "container") :
      m.runtime.protocol = "http" ∨ m.runtime.entrypoint.isSome := by
    rcases h.deployment with hdep | hdep
    · rw [hdep.1] at hdeployed
      exact absurd hdeployed (by decide)
    · exact hdep.2
  have hhttp : "http" ∉ ["mcp", "a2a", "agui"] := by decide
  simp only [readRuntime, Checked.passes_bind, Checked.passes_rejectIf, Checked.passes_pure]
  refine ⟨_, passes_optionalTable rfl, (), ?_, m.runtime.entrypoint,
    passes_optionalString ?_ h.entrypoint, some m.runtime.protocol, passes_optionalString rfl ?_,
    some m.runtime.port, passes_optionalInt rfl, (), not_not.mpr hprotocol, (), ?_, (), ?_, (), ?_,
    (), ?_, (), ?_, ?_⟩
  · rw [passes_checkUnknownKeys]
    intro key hkey
    rcases List.mem_cons.mp hkey with rfl | hkey
    · simp [runtimeKeys]
    · rcases List.mem_cons.mp hkey with rfl | hkey
      · simp [runtimeKeys]
      · rw [keys_optionalEntry hkey]
        decide
  · cases m.runtime.entrypoint <;> rfl
  · rintro t ht
    cases ht
    exact htrimmed
  · rintro ⟨port, hsome, hout⟩
    cases hsome
    exact hout ⟨hpositive, hbound⟩
  · rintro ⟨hdeployed, hother⟩
    exact hhttp ((hzip hdeployed).1 ▸ hother)
  · rintro ⟨hdeployed, hsome⟩
    rw [(hzip hdeployed).2] at hsome
    cases hsome
  · rintro ⟨hdeployed, hother, hnone⟩
    rcases hcontainer hdeployed with hprotocol | hsome
    · exact hhttp (hprotocol ▸ hother)
    · exact hnone hsome
  · rintro ⟨expected, hexpected, hne⟩
    rw [Option.getD_some] at hexpected hne
    rw [h.port] at hexpected
    cases hexpected
    exact hne hport
  · rw [Option.getD_some, hport]

/-- A threshold that can be written down has an entry it is read from. -/
theorem exists_threshold {x : FloatValue} (hwrites : toml.Writes x) (hunit : x.InUnit) (region : Val) :
    ∃ threshold : Items, (∀ key ∈ threshold.map Prod.fst, key = "threshold") ∧
      (optionalFloat toml (("evaluation_region", region) :: threshold) "threshold" (4 / 5)
        table).Passes x := by
  rcases hwrites with rfl | ⟨n, rfl⟩ | ⟨o, ho⟩
  · exact ⟨[], by simp, rfl⟩
  · have hn : n.natAbs < 2 ^ 1024 - 2 ^ 970 := by
      have hle : n.natAbs ≤ 1 := by
        obtain ⟨hlower, hupper⟩ := hunit
        have hlower : 0 ≤ n := by exact_mod_cast hlower
        have hupper : n ≤ 1 := by exact_mod_cast hupper
        omega
      exact lt_of_le_of_lt hle (by decide +kernel)
    refine ⟨[("threshold", .int n)], by simp, ?_⟩
    show (floatOfInt n).Passes _
    rw [floatOfInt, if_pos hn]
    rfl
  · exact ⟨[("threshold", .obj o)], by simp, passes_optionalFloat_obj rfl ho⟩

theorem passes_readEvaluations (h : m.Valid toml agentName)
    (hkeys : ∀ key ∈ threshold.map Prod.fst, key = "threshold")
    (hthreshold : (optionalFloat toml
      (("evaluation_region", .str m.evaluations.evaluationRegion) :: threshold) "threshold" (4 / 5)
        "[tool.agentcore.evaluations]").Passes m.evaluations.threshold) :
    (readEvaluations toml (m.agentcoreTable threshold)).Passes m.evaluations := by
  simp only [readEvaluations, Checked.passes_bind, Checked.passes_rejectIf, Checked.passes_pure]
  refine ⟨_, passes_optionalTable rfl, (), ?_, m.evaluations.threshold, hthreshold,
    some m.evaluations.evaluationRegion, passes_optionalString rfl ?_, (), not_not.mpr h.threshold, rfl⟩
  · rw [passes_checkUnknownKeys]
    intro key hkey
    rcases List.mem_cons.mp hkey with rfl | hkey
    · simp [evaluationsKeys]
    · rw [hkeys key hkey]
      decide
  · rintro t ht
    cases ht
    exact h.region

theorem passes_readTransport (transport : AgUiTransport) :
    (readTransport transport.value).Passes transport := by
  rw [readTransport, AgUiTransport.ofValue?_value]
  rfl

theorem passes_readAgUi (h : m.Valid toml agentName) :
    (readAgUi toml (m.agentcoreTable threshold) (some m.deployment.type)).Passes m.agUi := by
  simp only [readAgUi, Checked.passes_bind, Checked.passes_rejectIf, Checked.passes_pure]
  refine ⟨_, passes_optionalTable rfl, (), ?_, m.agUi.enabled, passes_optionalBool rfl,
    some m.agUi.transport.value, passes_optionalString rfl ?_, m.agUi.endpoint,
    passes_optionalString ?_ h.endpoint, m.agUi.transport, passes_readTransport _, (), ?_, (), ?_, rfl⟩
  · rw [passes_checkUnknownKeys]
    intro key hkey
    rcases List.mem_cons.mp hkey with rfl | hkey
    · simp [agUiKeys]
    · rcases List.mem_cons.mp hkey with rfl | hkey
      · simp [agUiKeys]
      · rw [keys_optionalEntry hkey]
        decide
  · rintro t ht
    cases ht
    exact trimmed_transport _
  · cases m.agUi.endpoint <;> rfl
  · rintro ⟨hon, hne⟩
    exact hne (congrArg some (h.agUi hon).1)
  · rintro ⟨hon, hnone⟩
    exact absurd (h.agUi hon).2 (by rw [hnone]; decide)

theorem loadAgentManifest_eq_ok {tomlPath : String} :
    loadAgentManifest toml agentName tomlPath (.table data) = .ok m ↔
      (readManifest toml agentName data).Passes m := by
  rw [loadAgentManifest]
  constructor
  · intro h
    split at h
    · cases h
    · rename_i hread
      cases h
      exact hread
    · cases h
  · intro h
    have h : readManifest toml agentName data = .ok (m, []) := h
    rw [h]

/-- A valid manifest is read from the document that says it. -/
theorem passes_render (h : m.Valid toml agentName)
    (hkeys : ∀ key ∈ threshold.map Prod.fst, key = "threshold")
    (hthreshold : (optionalFloat toml
      (("evaluation_region", .str m.evaluations.evaluationRegion) :: threshold) "threshold" (4 / 5)
        "[tool.agentcore.evaluations]").Passes m.evaluations.threshold) :
    (readManifest toml agentName (m.render threshold)).Passes m := by
  simp only [readManifest, Checked.passes_bind, Checked.passes_pure]
  refine ⟨m.projectTable, passes_requireTable rfl, _, passes_requireTable rfl,
    m.agentcoreTable threshold, passes_requireTable rfl, _, passes_readIdentity h, _, passes_readLlm h,
    _, passes_readDeployment h, _, passes_readRuntime h, _,
    passes_readEvaluations h hkeys hthreshold, _, passes_readAgUi h, ?_⟩
  have hduration : intOr (some m.estimatedDurationSeconds) 5 = m.estimatedDurationSeconds :=
    if_neg h.duration.ne'
  rw [hduration]
  rfl

end A5cCell.Scripts
