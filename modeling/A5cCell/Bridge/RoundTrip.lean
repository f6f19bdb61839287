import A5cCell.TenantApi.Registration
import A5cCell.TenantApi.World
import A5cCell.Bridge.NewestFirst

/-!
# From registration to resolution

The registry writes the item of a version, and the bridge decodes it once the version is promoted.
The two check it separately: the registry takes any text for a tier or a transport, takes a version
without a runtime and without layers, and keeps a model id the bridge never reads.
-/

namespace A5cCell.Bridge.Discovery

open Py (Val Items Dict)
open DataAccess TenantApi Newest

/-! ## What a body registers -/

def bodyTierMinimum (body : Items) : String := Py.strip (body.get "tierMinimum" (.str "basic")).toStr

def bodyScriptS3Key (body : Items) : String :=
  Py.strip (body.get "scriptS3Key" (body.get "script_s3_key" (.str ""))).toStr

/-- The nested AG-UI fields of a body. -/
def rawAgUi (body : Items) : Items := (body.get "agUi").asDict?.getD []

def bodyAgUiEnabled (body : Items) : Bool :=
  (body.get "agUiEnabled" ((rawAgUi body).get "enabled" (.bool false))).truthy

def bodyAgUiTransport (body : Items) : String :=
  Py.strip (body.get "agUiTransport" ((rawAgUi body).get "transport" (.str "sse"))).toStr

def bodyAgUiEndpoint (body : Items) : String :=
  Py.strip (body.get "agUiEndpoint" ((rawAgUi body).get "endpoint" (.str ""))).toStr

/-- A text that is there unless it is blank. -/
def unlessBlank (text : String) : Option String := Py.truthyText (some text)

theorem unlessBlank_eq_none {text : String} : unlessBlank text = none ↔ text = "" := by
  simp [unlessBlank, Py.truthyText, Option.filter_some]

/-- The record says what the body registered. -/
structure SaysRegistered (body : Items) (agent : AgentVersion) : Prop where
  tierMinimum : agent.tierMinimum.value = bodyTierMinimum body
  invocationMode : agent.invocationMode.value = bodyInvocationMode body
  streamingEnabled : agent.streamingEnabled = (body.get "streamingEnabled" (.bool false)).truthy
  modelId : agent.modelId = unlessBlank (fieldText body "modelId")
  runtimeArn : agent.runtimeArn = unlessBlank (fieldText body "runtimeArn")
  runtimeEndpointArn : agent.runtimeEndpointArn = unlessBlank (fieldText body "runtimeEndpointArn")
  runtimeEndpointName : agent.runtimeEndpointName = unlessBlank (fieldText body "runtimeEndpointName")
  runtimeEndpointVersion :
    agent.runtimeEndpointVersion = unlessBlank (fieldText body "runtimeEndpointVersion")
  agUiEnabled : agent.agUi.enabled = bodyAgUiEnabled body
  agUiTransport : agent.agUi.transport.value = bodyAgUiTransport body
  agUiEndpoint : agent.agUi.endpoint = unlessBlank (bodyAgUiEndpoint body)
  scriptS3Key : agent.scriptS3Key = bodyScriptS3Key body
  layerHash : agent.layerHash = fieldText body "layerHash"
  layerS3Key : agent.layerS3Key = fieldText body "layerS3Key"

/-! ## What the bridge reads of it -/

section

variable {py : Python} {event body item row : Items} {agentName nowIso : String}

theorem get_of_sameArtifact (h : SameArtifact item row) {field : String} (default : Val)
    (hfield : field ∉ releaseFields) : row.get field default = item.get field default := by
  rw [Items.get, Items.get, h field hfield]

theorem strOrNone_str_strip (text : Val) :
    (Val.str (Py.strip text.toStr)).strOrNone = unlessBlank (Py.strip text.toStr) := by
  rw [Val.strOrNone_eq (by simp), Val.toStr_str, Py.strip_strip]
  rfl

variable (hreg : IsRegistration py event body item agentName nowIso) (hsame : SameArtifact item row)

include hreg hsame

/-- A field every item has is read as it was registered. -/
theorem get_registered {field : String} {v : Val} (default : Val)
    (hbase : (registeredBase body agentName (fieldText body "version") nowIso
      (bodyInvocationMode body)).lookup field = some v)
    (hfield : field ∉ releaseFields) : row.get field default = v := by
  rw [get_of_sameArtifact hsame default hfield, Items.get,
    lookup_registeredBase hreg.readItem hbase, Option.getD_some]

/-- A runtime field is read as it was registered. -/
theorem optionalText_registered : ∀ names ∈ registeredRuntimeFields,
    optionalText row names.2 = unlessBlank (fieldText body names.1) := by
  intro names hnames
  have hfield : names.2 ∉ releaseFields := by
    revert names
    decide
  have hlookup := lookup_runtimeField hreg.readItem names hnames
  rw [optionalText, get_of_sameArtifact hsame _ hfield, Items.get, hlookup]
  split
  · exact strOrNone_str_strip _
  · rename_i hhas
    have hnone : body.lookup names.1 = none := Option.not_isSome_iff_eq_none.mp hhas
    rw [fieldText, Items.get, hnone]
    rfl

theorem agUiItem_registered : agUiItem row =
    [("enabled", .bool (bodyAgUiEnabled body)), ("transport", .str (bodyAgUiTransport body)),
      ("endpoint", optionVal (unlessBlank (bodyAgUiEndpoint body)))] := by
  have hget : row.get "ag_ui" (.dict []) = .dict
      [("enabled", .bool (bodyAgUiEnabled body)), ("transport", .str (bodyAgUiTransport body)),
        ("endpoint", optionVal (unlessBlank (bodyAgUiEndpoint body)))] := by
    rw [get_of_sameArtifact hsame _ (by decide), Items.get, lookup_agUi hreg.readItem]
    rfl
  rw [agUiItem, hget]
  rfl

omit hsame in
/-- The registry takes a layer that is named in full, or not at all. -/
theorem layer_registered : fieldText body "runtimeArn" ≠ "" ∨
    (fieldText body "layerHash" = "" ∧ fieldText body "layerS3Key" = "") ∨
    (fieldText body "layerHash" ≠ "" ∧ fieldText body "layerS3Key" ≠ "") := by
  have harn : fieldText item "runtime_arn" = fieldText body "runtimeArn" := by
    rw [fieldText, get_runtimeField hreg.readItem ("runtimeArn", "runtime_arn") (by decide),
      Val.toStr_str]
    exact Py.strip_strip _
  have hhash : fieldText item "layer_hash" = fieldText body "layerHash" := by
    rw [fieldText, Items.get, lookup_registeredBase hreg.readItem rfl]
    exact Py.strip_strip _
  have hkey : fieldText item "layer_s3_key" = fieldText body "layerS3Key" := by
    rw [fieldText, Items.get, lookup_registeredBase hreg.readItem rfl]
    exact Py.strip_strip _
  have hlayer := hreg.layer
  rw [validateLayerMetadataInvariants, harn, hhash, hkey] at hlayer
  by_cases hruntime : fieldText body "runtimeArn" = ""
  · by_cases hhashBlank : fieldText body "layerHash" = "" <;>
      by_cases hkeyBlank : fieldText body "layerS3Key" = ""
    · exact .inr (.inl ⟨hhashBlank, hkeyBlank⟩)
    · simp [hruntime, hhashBlank, hkeyBlank] at hlayer
    · simp [hruntime, hhashBlank, hkeyBlank] at hlayer
    · exact .inr (.inr ⟨hhashBlank, hkeyBlank⟩)
  · exact .inl hruntime

/-- The layer is complete exactly where there is a runtime or a layer hash. -/
theorem incompleteLayer_registered : incompleteLayer row = false ↔
    fieldText body "runtimeArn" ≠ "" ∨ fieldText body "layerHash" ≠ "" := by
  have harn := optionalText_registered hreg hsame ("runtimeArn", "runtime_arn") (by decide)
  have hhash : Py.strip (textOr row "layer_hash" "") = fieldText body "layerHash" := by
    rw [textOr, get_registered hreg hsame _ rfl (by decide)]
    exact Py.strip_strip _
  have hkey : Py.strip (textOr row "layer_s3_key" "") = fieldText body "layerS3Key" := by
    rw [textOr, get_registered hreg hsame _ rfl (by decide)]
    exact Py.strip_strip _
  have hincomplete : incompleteLayer row = true ↔ fieldText body "runtimeArn" = "" ∧
      (fieldText body "layerHash" = "" ∨ fieldText body "layerS3Key" = "") := by
    rw [incompleteLayer, harn, hhash, hkey, Bool.and_eq_true, Option.isNone_iff_eq_none,
      unlessBlank_eq_none, decide_eq_true_iff]
  rw [← Bool.not_eq_true, hincomplete]
  rcases layer_registered hreg with hruntime | ⟨hhashBlank, hkeyBlank⟩ | ⟨hhashThere, hkeyThere⟩
  · simp [hruntime]
  · simp [hhashBlank, hkeyBlank]
  · simp [hhashThere, hkeyThere]

variable (hpromoted : row.get "status" = .str "promoted")

omit hsame in
/-- The mode of a version is one an invocation supports. -/
theorem mode_registered : ∃ mode, InvocationMode.ofValue? (bodyInvocationMode body) = some mode ∧
    mode.value = bodyInvocationMode body := by
  rcases hreg.supportedMode with hmode | hmode
  · exact ⟨.sync, by rw [hmode]; rfl, hmode.symm⟩
  · exact ⟨.streaming, by rw [hmode]; rfl, hmode.symm⟩

include hpromoted

/-- **What is decoded**: a row is decoded where its layer is complete and its tier and its transport
    are spelled as their values, and the record says what was registered but for the model. -/
theorem agentRecordFromItem_registered {agent : AgentVersion} :
    agentRecordFromItem row = .ok agent ↔
      (fieldText body "runtimeArn" ≠ "" ∨ fieldText body "layerHash" ≠ "") ∧
      ∃ tierMinimum mode transport,
        TenantTier.ofValue? (bodyTierMinimum body) = some tierMinimum ∧
        InvocationMode.ofValue? (bodyInvocationMode body) = some mode ∧
        AgUiTransport.ofValue? (bodyAgUiTransport body) = some transport ∧
        agent = agentRecordOf row tierMinimum mode .promoted transport := by
  have htier : textOr row "tier_minimum" "basic" = bodyTierMinimum body := by
    rw [textOr, get_registered hreg hsame _ rfl (by decide)]
    rfl
  have hmode : textOr row "invocation_mode" "sync" = bodyInvocationMode body := by
    rw [textOr, get_registered hreg hsame _ rfl (by decide)]
    rfl
  have htransport : textOr (agUiItem row) "transport" "sse" = bodyAgUiTransport body := by
    rw [agUiItem_registered hreg hsame]
    rfl
  have hstatus : textOr row "status" "promoted" = "promoted" := by
    have hlookup : row.lookup "status" = some (.str "promoted") := by
      cases hrow : row.lookup "status" with
      | none =>
        rw [Items.get, hrow] at hpromoted
        cases hpromoted
      | some v =>
        rw [Items.get, hrow] at hpromoted
        exact congrArg some hpromoted
    rw [textOr, Items.get, hlookup]
    rfl
  have hknown : AgentStatus.all.find? (·.value = "promoted") = some .promoted := by decide
  rw [agentRecordFromItem_eq_ok, incompleteLayer_registered hreg hsame, htier, hmode, htransport,
    hstatus, hknown]
  refine and_congr_right fun _ => ?_
  constructor
  · rintro ⟨tierMinimum, mode, status, transport, ht, hm, hs, hu, rfl⟩
    cases hs
    exact ⟨tierMinimum, mode, transport, ht, hm, hu, rfl⟩
  · rintro ⟨tierMinimum, mode, transport, ht, hm, hu, rfl⟩
    exact ⟨tierMinimum, mode, .promoted, transport, ht, hm, rfl, hu, rfl⟩

omit hpromoted in
/-- A record that was decoded says what was registered exactly where there was no model. -/
theorem saysRegistered_iff {tierMinimum : TenantTier} {mode : InvocationMode}
    {transport : AgUiTransport}
    (htier : TenantTier.ofValue? (bodyTierMinimum body) = some tierMinimum)
    (hmode : InvocationMode.ofValue? (bodyInvocationMode body) = some mode)
    (htransport : AgUiTransport.ofValue? (bodyAgUiTransport body) = some transport) :
    SaysRegistered body (agentRecordOf row tierMinimum mode .promoted transport) ↔
      fieldText body "modelId" = "" := by
  constructor
  · intro h
    exact unlessBlank_eq_none.mp h.modelId.symm
  · intro hmodel
    have hagUi := agUiItem_registered hreg hsame
    have hruntime := optionalText_registered hreg hsame
    exact {
      tierMinimum := (TenantTier.ofValue?_eq_some.mp htier).symm
      invocationMode := by
        show mode.value = _
        simpa using List.find?_some hmode
      streamingEnabled := by
        show (row.get "streaming_enabled" (.bool false)).truthy = _
        rw [get_registered hreg hsame _ rfl (by decide)]
        rfl
      modelId := (unlessBlank_eq_none.mpr hmodel).symm
      runtimeArn := hruntime ("runtimeArn", "runtime_arn") (by decide)
      runtimeEndpointArn := hruntime ("runtimeEndpointArn", "runtime_endpoint_arn") (by decide)
      runtimeEndpointName := hruntime ("runtimeEndpointName", "runtime_endpoint_name") (by decide)
      runtimeEndpointVersion :=
        hruntime ("runtimeEndpointVersion", "runtime_endpoint_version") (by decide)
      agUiEnabled := by
        show ((agUiItem row).get "enabled" (.bool false)).truthy = _
        rw [hagUi]
        rfl
      agUiTransport := by
        show transport.value = _
        simpa using List.find?_some htransport
      agUiEndpoint := by
        show optionalText (agUiItem row) "endpoint" = _
        rw [hagUi, optionalText]
        show (optionVal (unlessBlank (bodyAgUiEndpoint body))).strOrNone = _
        cases hblank : unlessBlank (bodyAgUiEndpoint body) with
        | none => rfl
        | some text =>
          obtain rfl := Option.some.inj (Py.truthyText_eq_some.mp hblank).1
          exact (strOrNone_str_strip _).trans hblank
      scriptS3Key := by
        show textOr row "script_s3_key" "" = _
        rw [textOr, get_registered hreg hsame _ rfl (by decide)]
        rfl
      layerHash := by
        show Py.strip (textOr row "layer_hash" "") = _
        rw [textOr, get_registered hreg hsame _ rfl (by decide)]
        exact Py.strip_strip _
      layerS3Key := by
        show Py.strip (textOr row "layer_s3_key" "") = _
        rw [textOr, get_registered hreg hsame _ rfl (by decide)]
        exact Py.strip_strip _ }

end

/-! ## The round trip -/

/-- The tables hold the version as it was registered, now promoted, and no other promoted version of
    its agent. -/
structure OnlyPromoted (py : Python) (agentName version : String) (item : Items) (tables : Tables)
    (row : Items) : Prop where
  stored : ∃ attributes, tables.get? (versionKey py agentName version) = some attributes ∧
    (versionKey py agentName version).row attributes = row
  artifact : SameArtifact item row
  promoted : row.get "status" = .str "promoted"
  only : ∀ key attributes, tables.get? key = some attributes → key.table = agentsTableName py →
    key.pk = agentPk agentName → key ≠ versionKey py agentName version →
      isInvokableAgentStatus (optionalText (key.row attributes) "status") ≠ .ok true

/-- An invocation of the agent resolves to the version, to a record that says what was registered. -/
def Resolves (dynamo : Dynamo) (unicode : Unicode) (py : Python) (tables : Tables)
    (agentName : String) (body : Items) : Prop :=
  ∃ agent, (Prog.run dynamo.serve tables
      (resolveAgentRecord unicode (agentsTableName py) agentName)).outcome = .ok (some agent) ∧
    agent.agentName = agentName ∧ agent.version = fieldText body "version" ∧
    SaysRegistered body agent

/-- What the bridge takes of what the registry takes: a tier and a transport spelled as their values,
    a runtime or a layer, no model, and a version whose digits `int` reads; in a partition whose first
    page has the row, and whose statuses on it are all known. -/
structure Resolvable (dynamo : Dynamo) (unicode : Unicode) (py : Python) (tables : Tables)
    (agentName : String) (body row : Items) : Prop where
  tierMinimum : ∃ tier, TenantTier.ofValue? (bodyTierMinimum body) = some tier
  agUiTransport : ∃ transport, AgUiTransport.ofValue? (bodyAgUiTransport body) = some transport
  artifact : fieldText body "runtimeArn" ≠ "" ∨ fieldText body "layerHash" ≠ ""
  noModel : fieldText body "modelId" = ""
  version : ∃ key, semverSortKey unicode (fieldText body "version") = .ok key
  onFirstPage : row ∈ dynamo.firstPage tables (agentsTableName py) (agentPk agentName)
  recognised : ∀ other ∈ dynamo.firstPage tables (agentsTableName py) (agentPk agentName),
    Recognised other

section

variable {py : Python} {event body item row : Items} {agentName nowIso : String} {tables : Tables}
  {dynamo : Dynamo} {unicode : Unicode}

/-- The row is the only one of its agent that may be invoked. -/
theorem eq_of_promotable (honly : OnlyPromoted py agentName (fieldText body "version") item tables row)
    {other : Items}
    (hother : other ∈ dynamo.firstPage tables (agentsTableName py) (agentPk agentName))
    (hpromotable : promotable other = true) : other = row := by
  obtain ⟨⟨key, attributes⟩, hmem, rfl⟩ := List.mem_map.mp hother
  have hpartition : (key, attributes) ∈
      Dynamo.partition tables (agentsTableName py) (agentPk agentName) :=
    List.mem_of_mem_take hmem
  obtain ⟨hget, htable, hpk⟩ := Dynamo.mem_partition.mp hpartition
  obtain ⟨stored, hstored, hrow⟩ := honly.stored
  by_cases hkey : key = versionKey py agentName (fieldText body "version")
  · subst hkey
    cases hget.symm.trans hstored
    exact hrow
  · refine absurd ?_ (honly.only key attributes hget htable hpk hkey)
    unfold promotable isPromoted at hpromotable
    cases hstatus : isInvokableAgentStatus (optionalText (key.row attributes) "status") with
    | error exc =>
      rw [hstatus] at hpromotable
      cases hpromotable
    | ok invokable =>
      rw [hstatus] at hpromotable
      exact congrArg Except.ok (Bool.and_eq_true_iff.mp hpromotable).1

/-- The row may be invoked. -/
theorem promotable_registered (hreg : IsRegistration py event body item agentName nowIso)
    (honly : OnlyPromoted py agentName (fieldText body "version") item tables row) :
    isPromoted row = .ok true := by
  have hstatus : optionalText row "status" = some "promoted" := by
    rw [optionalText, honly.promoted]
    rfl
  have hmode : isSupportedInvocationMode row = true := by
    have htext : textOr row "invocation_mode" "sync" = bodyInvocationMode body := by
      rw [textOr, get_registered hreg honly.artifact _ rfl (by decide)]
      rfl
    rw [isSupportedInvocationMode, htext]
    rcases hreg.supportedMode with hmode | hmode <;> rw [hmode] <;> decide
  rw [isPromoted, hstatus, hmode]
  rfl

theorem comparable_registered (hreg : IsRegistration py event body item agentName nowIso)
    (hsame : SameArtifact item row) :
    Comparable unicode row ↔ ∃ key, semverSortKey unicode (fieldText body "version") = .ok key := by
  have hversion : textOr row "version" "" = fieldText body "version" := by
    rw [textOr, get_registered hreg hsame _ rfl (by decide)]
    rfl
  unfold Comparable agentRecordSortKey
  rw [hversion]
  cases semverSortKey unicode (fieldText body "version") with
  | ok key => exact ⟨fun _ => ⟨key, rfl⟩, fun _ => ⟨_, rfl⟩⟩
  | error exc =>
    constructor
    · rintro ⟨_, h⟩
      cases h
    · rintro ⟨_, h⟩
      cases h

/-- **Register, promote, resolve.** A version that was accepted and is the only promoted one of its
    agent is resolved to what was registered exactly where the bridge takes all of it. -/
theorem resolves_iff {caller : CallerIdentity} (haccepted : Accepted py event caller item)
    (hbody : requireJsonBody py event = .ok body)
    (hname : canonicalTenantId (body.get "agentName") = .ok agentName)
    (honly : OnlyPromoted py agentName (fieldText body "version") item tables row) :
    Resolves dynamo unicode py tables agentName body ↔
      Resolvable dynamo unicode py tables agentName body row := by
  obtain ⟨body', agentName', nowIso, hreg⟩ := haccepted.registers
  cases hbody.symm.trans hreg.readBody
  cases hname.symm.trans hreg.canonicalName
  have hsame := honly.artifact
  have hpromoted := promotable_registered hreg honly
  have hcomparable : Comparable unicode row ↔
      ∃ key, semverSortKey unicode (fieldText body "version") = .ok key :=
    comparable_registered hreg hsame
  unfold Resolves
  rw [outcome_resolveAgentRecord]
  constructor
  · rintro ⟨agent, houtcome, -, -, hsays⟩
    have hreadable := readable_of_resolveFrom houtcome
    rw [resolveFrom_ok hreadable, Except.ok.injEq, Option.bind_eq_some_iff] at houtcome
    obtain ⟨newest, hnewest, hagent⟩ := houtcome
    have hmem := mem_of_newest? hnewest
    rw [List.mem_filter, Bool.and_eq_true] at hmem
    obtain rfl := eq_of_promotable honly hmem.1 hmem.2.1
    obtain ⟨hartifact, tierMinimum, mode, transport, htier, hmode, htransport, rfl⟩ :=
      (agentRecordFromItem_registered hreg hsame honly.promoted).mp (toOption_eq_some.mp hagent)
    exact {
      tierMinimum := ⟨tierMinimum, htier⟩
      agUiTransport := ⟨transport, htransport⟩
      artifact := hartifact
      noModel := (saysRegistered_iff hreg hsame htier hmode htransport).mp hsays
      version := hcomparable.mp (hreadable.comparable _ hmem.1 hmem.2.1)
      onFirstPage := hmem.1
      recognised := hreadable.recognised }
  · intro h
    obtain ⟨tierMinimum, htier⟩ := h.tierMinimum
    obtain ⟨transport, htransport⟩ := h.agUiTransport
    obtain ⟨mode, hmode, -⟩ := mode_registered hreg
    have hdecoded := (agentRecordFromItem_registered hreg hsame honly.promoted).mpr
      ⟨h.artifact, tierMinimum, mode, transport, htier, hmode, htransport, rfl⟩
    have hreadable : Readable unicode
        (dynamo.firstPage tables (agentsTableName py) (agentPk agentName)) := {
      recognised := h.recognised
      comparable := fun other hother hpromotable => by
        rw [eq_of_promotable honly hother hpromotable]
        exact hcomparable.mpr h.version }
    have hmem : row ∈ (dynamo.firstPage tables (agentsTableName py) (agentPk agentName)).filter
        fun item => promotable item && decodable item := by
      rw [List.mem_filter, Bool.and_eq_true]
      refine ⟨h.onFirstPage, ?_, ?_⟩
      · rw [promotable, hpromoted]
      · rw [decodable, hdecoded]
        rfl
    -- there is a newest row, and every row it may be is this one
    obtain ⟨newest, hnewest⟩ : ∃ newest, newest? (sortKey unicode)
        ((dynamo.firstPage tables (agentsTableName py) (agentPk agentName)).filter
          fun item => promotable item && decodable item) = some newest := by
      rw [← Option.ne_none_iff_exists', Ne, newest?_eq_none]
      exact List.ne_nil_of_mem hmem
    have hnewestMem := List.mem_filter.mp (mem_of_newest? hnewest)
    have hrow := eq_of_promotable honly hnewestMem.1 (Bool.and_eq_true_iff.mp hnewestMem.2).1
    subst hrow
    refine ⟨_, ?_, ?_, ?_, (saysRegistered_iff hreg hsame htier hmode htransport).mpr h.noModel⟩
    · rw [resolveFrom_ok hreadable, hnewest, Option.bind_some, hdecoded]
      rfl
    · show textOr _ "agent_name" "" = _
      rw [textOr, get_registered hreg hsame _ rfl (by decide)]
      rfl
    · show textOr _ "version" "" = _
      rw [textOr, get_registered hreg hsame _ rfl (by decide)]
      rfl

end

/-! ## A body that makes the round trip, and one that does not -/

/-- The item the body registers. -/
def helperItem (model : Option String) : Items :=
  (registeredItem (helperBody model) "helper" "1.0.0" "0" "sync" .built).toOption.getD []

/-- Its row, promoted. -/
def helperRelease (model : Option String) : Items :=
  (helperItem model).merge [("status", .str "promoted")]

def helperVersionKey (model : Option String) : RowKey :=
  versionKey (readsBody (helperBody model)) "helper" "1.0.0"

/-- The version, promoted, alone in the tables. -/
def helperPromoted (model : Option String) : Tables :=
  Dict.empty.set (helperVersionKey model) (attributesOf (helperRelease model))

theorem helper_accepted {model : Option String} (h : model = none ∨ model = some "claude") :
    Accepted (readsBody (helperBody model)) registration platformAdmin (helperItem model) := by
  rcases h with rfl | rfl
  · exact ⟨_, (quiet Dynamo.rowByRow).serve, (Dict.empty, ()), _, rfl, rfl,
      List.mem_cons_of_mem _ List.mem_cons_self⟩
  · exact ⟨_, (quiet Dynamo.rowByRow).serve, (Dict.empty, ()), _, rfl, rfl,
      List.mem_cons_of_mem _ List.mem_cons_self⟩

theorem helper_onlyPromoted (model : Option String) :
    OnlyPromoted (readsBody (helperBody model)) "helper" "1.0.0" (helperItem model)
      (helperPromoted model) (helperRelease model) where
  stored := ⟨attributesOf (helperRelease model), Dict.get?_set_self _ _ _, by cases model <;> rfl⟩
  artifact := SameArtifact.merge (fun _ _ => rfl) (by simp [releaseFields])
  promoted := by cases model <;> rfl
  only := by
    intro key attributes hget _ _ hkey
    have hne : key ≠ helperVersionKey model := hkey
    rw [helperPromoted, Dict.get?_set_ne _ _ hne] at hget
    cases hget

/-- A version without a model makes the round trip. -/
theorem helper_resolves : Resolves Dynamo.rowByRow asciiDigits (readsBody (helperBody none))
    (helperPromoted none) "helper" (helperBody none) :=
  (resolves_iff (helper_accepted (.inl rfl)) rfl rfl (helper_onlyPromoted none)).mpr {
    tierMinimum := ⟨.basic, rfl⟩
    agUiTransport := ⟨.sse, rfl⟩
    artifact := .inr (by decide)
    noModel := by decide
    version := ⟨[1, 0, 0], by decide⟩
    onFirstPage := List.mem_cons_self
    recognised := fun other hother => List.mem_singleton.mp hother ▸ ⟨true, rfl⟩ }

/-- The model a version is registered with is lost. -/
theorem helper_model_lost :
    Accepted (readsBody (helperBody (some "claude"))) registration platformAdmin
      (helperItem (some "claude")) ∧
    OnlyPromoted (readsBody (helperBody (some "claude"))) "helper" "1.0.0"
      (helperItem (some "claude")) (helperPromoted (some "claude"))
      (helperRelease (some "claude")) ∧
    ¬ Resolves Dynamo.rowByRow asciiDigits (readsBody (helperBody (some "claude")))
      (helperPromoted (some "claude")) "helper" (helperBody (some "claude")) := by
  refine ⟨helper_accepted (.inr rfl), helper_onlyPromoted _, ?_⟩
  rintro ⟨agent, houtcome, -, -, hsays⟩
  have hresolved : (Prog.run Dynamo.rowByRow.serve (helperPromoted (some "claude"))
      (resolveAgentRecord asciiDigits "platform-agents" "helper")).outcome = .ok (some
        (agentRecordOf (helperRelease (some "claude")) .basic .sync .promoted .sse)) := rfl
  cases houtcome.symm.trans hresolved
  exact absurd hsays.modelId (by decide)

end A5cCell.Bridge.Discovery
