import A5cCell.TenantApi.AgentRegistry
import A5cCell.TenantApi.Calls

/-!
# The writes of the registry

A registration puts an item that has been checked, and a change of status sets attributes it worked
out from the row it read: `RegistryCall` says this of every call of every handler of the registry.
What a change of status sets is none of the fields a registration stores but the status.
-/

namespace A5cCell.TenantApi

open Py (Val Items Dict)
open DataAccess

/-- Where a version is stored. -/
def versionKey (py : Python) (agentName version : String) : RowKey :=
  ⟨agentsTableName py, "AGENT#" ++ agentName, "VERSION#" ++ version⟩

/-! ## The item -/

/-- The invocation mode of a body. -/
def bodyInvocationMode (body : Items) : String :=
  Py.lower (Py.strip (body.get "invocationMode" (.str "sync")).toStr)

/-- What was checked of an item before it is put. -/
structure IsRegistration (py : Python) (event body item : Items) (agentName nowIso : String) :
    Prop where
  readBody : requireJsonBody py event = .ok body
  canonicalName : canonicalTenantId (body.get "agentName") = .ok agentName
  hasVersion : fieldText body "version" ≠ ""
  supportedMode : bodyInvocationMode body = "sync" ∨ bodyInvocationMode body = "streaming"
  readItem : registeredItem body agentName (fieldText body "version") nowIso
    (bodyInvocationMode body) .built = .ok item
  layer : validateLayerMetadataInvariants item = .ok ()
  endpoint : validateRuntimeEndpointInvariants py item = .ok ()

/-- What was read and checked before the status of a version is set. -/
structure IsStatusWrite (py : Python) (past : Past) (key updates existing : Items)
    (current target : AgentStatus) : Prop where
  read : ⟨.db (getRequest (agentsTableName py) key), .ok (some existing)⟩ ∈ past
  readStatus : AgentStatus.normalize (existing.get "status") = .ok current
  transition : validateAgentStatusTransition current target = .ok ()
  updates : ∃ caller evidence nowIso,
    statusUpdates py caller existing target evidence nowIso = .ok updates

/-- A call of a handler of the registry, which may put these items. -/
inductive RegistryCall (py : Python) (Puts : Items → Prop) (past : Past) : Effect → Prop where
  | get (key : Items) : RegistryCall py Puts past (.db (getRequest (agentsTableName py) key))
  | put (item : Items) (h : Puts item) :
      RegistryCall py Puts past (.db (putRequest (agentsTableName py) item))
  | set {key updates existing : Items} {current target : AgentStatus}
      (h : IsStatusWrite py past key updates existing current target) :
      RegistryCall py Puts past (.db (setRequest (agentsTableName py) key updates))
  | now : RegistryCall py Puts past .now
  | service (client operation : String) (kwargs : Items) :
      RegistryCall py Puts past (.service client operation kwargs)

section

variable {py : Python} {event : Items} {caller : CallerIdentity}

theorem initialStatusOf_eq {body : Items} {status : AgentStatus}
    (h : initialStatusOf body = .ok status) : status = .built := by
  have hlast (initial : AgentStatus)
      (h : (if initial = .built then pure initial
        else throw (.valueError "Initial status for registration must be one of: built") :
          Except Exc AgentStatus) = .ok status) : status = .built := by
    split at h
    · rename_i hbuilt
      cases h
      exact hbuilt
    · cases h
  unfold initialStatusOf at h
  split at h
  · cases hstatus : normalizeAgentStatusVal (body.get "status") with
    | ok initial =>
      rw [hstatus] at h
      exact hlast initial h
    | error exc =>
      rw [hstatus] at h
      cases h
  · exact hlast .built h

/-- The items a registration of the event puts. -/
def Registers (py : Python) (event item : Items) : Prop :=
  ∃ body agentName nowIso, IsRegistration py event body item agentName nowIso

-- a program is taken apart by the rules from here on, never by running it
attribute [local irreducible] Prog.Traced

/-- A registration reads the clock, and is put once it has been checked. -/
theorem traced_registration {P : Past → Effect → Prop} {R : Past → Except Exc Response → Prop}
    {past : Past} (hraise : ∀ exc, R past (.error exc)) (hnow : P past .now)
    (hlate : ∀ now exc, R (⟨.now, now⟩ :: past) (.error exc))
    (hput : ∀ now item, Registers py event item →
      P (⟨.now, now⟩ :: past) (.db (putRequest (agentsTableName py) item)))
    (hanswer : ∀ now item answer result, Registers py event item →
      R (⟨.db (putRequest (agentsTableName py) item), answer⟩ :: ⟨.now, now⟩ :: past) result) :
    Prog.Traced P R past (handleRegisterAgent py event caller) := by
  unfold handleRegisterAgent
  refine traced_check hraise fun _ _ => ?_
  refine traced_check hraise fun _ _ => ?_
  refine traced_check hraise fun body hbody => ?_
  refine traced_check hraise fun agentName hname => ?_
  extract_lets version
  split
  · exact Prog.traced_raise.mpr (hraise _)
  rename_i hversion
  refine traced_check hraise fun initialStatus hstatus => ?_
  obtain rfl := initialStatusOf_eq hstatus
  refine traced_dbForTenant hraise ?_
  refine traced_now hnow fun now => ?_
  extract_lets nowIso
  split
  · exact Prog.traced_raise.mpr (hlate now _)
  rename_i hmode
  refine traced_check (hlate now) fun item hitem => ?_
  refine traced_check (hlate now) fun _ hlayer => ?_
  refine traced_check (hlate now) fun _ hendpoint => ?_
  have hregisters : Registers py event item := ⟨body, agentName, nowIso, hbody, hname, hversion,
    not_not.mp hmode, hitem, hlayer, hendpoint⟩
  refine traced_putItem (hlate now) (hput now item hregisters)
    (fun _ _ => hanswer now item _ _ hregisters) fun _ => ?_
  exact traced_response (fun _ _ => hanswer now item _ _ hregisters)
    (hanswer now item _ _ hregisters)

theorem traced_handleRegisterAgent {past : Past} :
    Prog.Traced (RegistryCall py (Registers py event)) (fun _ _ => True) past
      (handleRegisterAgent py event caller) := by
  apply traced_registration
  · exact fun _ => trivial
  · exact .now
  · exact fun _ _ => trivial
  · exact fun _ item hitem => .put item hitem
  · exact fun _ _ _ _ _ => trivial

/-- A status is set once the row was read and the transition was checked. -/
theorem traced_updateAgentStatus {Puts : Items → Prop} {past : Past} {agentName version : String}
    {targetStatus : AgentStatus} {evidence : ReleaseEvidence} :
    Prog.Traced (RegistryCall py Puts) (fun _ _ => True) past
      (updateAgentStatus py caller agentName version targetStatus evidence) := by
  have hraise : ∀ (exc : Exc), True := fun _ => trivial
  have hfault : ∀ (fault : Fault) (exc : Exc), True := fun _ _ => trivial
  unfold updateAgentStatus
  refine traced_check hraise fun _ _ => ?_
  refine traced_check hraise fun _ _ => ?_
  refine traced_dbForTenant hraise ?_
  extract_lets key
  refine traced_getItem hraise (.get key) hfault fun row => ?_
  cases hexisting : row.filter fun item => !item.isEmpty with
  | none => exact Prog.traced_pure.mpr trivial
  | some existing =>
    simp only
    refine traced_check hraise fun current hcurrent => ?_
    refine traced_check hraise fun _ htransition => ?_
    refine traced_now .now fun now => ?_
    refine traced_check hraise fun updates hupdates => ?_
    have hrow : row = some existing := (Option.filter_eq_some_iff.mp hexisting).1
    have hwrite : IsStatusWrite py
        (⟨.now, now⟩ :: ⟨.db (getRequest (agentsTableName py) key), .ok row⟩ :: past) key updates
        existing current targetStatus := by
      refine ⟨?_, hcurrent, htransition, ⟨caller, evidence, _, hupdates⟩⟩
      rw [hrow]
      exact List.mem_cons_of_mem _ List.mem_cons_self
    refine traced_setAttributes hraise (.set hwrite) hfault fun _ => ?_
    cases agentEventDetailType targetStatus with
    | none => exact traced_response (fun _ => hraise) trivial
    | some detailType =>
      refine traced_putEvent (fun _ => hraise) (.service _ _ _) hfault fun _ => ?_
      exact traced_response (fun _ => hraise) trivial

end

/-- Only an item that may be put is put. -/
theorem RegistryCall.puts {py : Python} {Puts : Items → Prop} {past : Past} {item : Items}
    (h : RegistryCall py Puts past (.db (putRequest (agentsTableName py) item))) : Puts item := by
  generalize hcall : Effect.db (putRequest (agentsTableName py) item) = e at h
  cases h with
  | put item' hputs =>
    rw [putRequest_inj (Effect.db.inj hcall)]
    exact hputs
  | get key => cases congrArg Request.operation (Effect.db.inj hcall)
  | set hset => cases congrArg Request.operation (Effect.db.inj hcall)
  | now => cases hcall
  | service client operation kwargs => cases hcall

/-- An event that was accepted: in some run it is answered 201, after the item was put. -/
def Accepted (py : Python) (event : Items) (caller : CallerIdentity) (item : Items) : Prop :=
  ∃ (σ : Type) (serve : σ → (e : Effect) → e.Reply × σ) (s : σ) (answer : Response),
    (Prog.run serve s (handleRegisterAgent py event caller)).outcome = .ok answer ∧
    answer.statusCode = 201 ∧ Effect.db (putRequest (agentsTableName py) item) ∈
      (Prog.run serve s (handleRegisterAgent py event caller)).calls

/-- What is accepted was checked. -/
theorem Accepted.registers {py : Python} {event item : Items} {caller : CallerIdentity}
    (h : Accepted py event caller item) : Registers py event item := by
  obtain ⟨σ, serve, s, answer, -, -, hput⟩ := h
  have htraced : Prog.Traced (RegistryCall py (Registers py event)) (fun _ _ => True) []
      (handleRegisterAgent py event caller) := traced_handleRegisterAgent
  have hsat : (handleRegisterAgent py event caller).Sat
      (fun e => ∃ past, RegistryCall py (Registers py event) past e) fun _ => True :=
    htraced.sat fun past e h => ⟨past, h⟩
  obtain ⟨past, hcall⟩ := Prog.run_calls hsat s _ hput
  exact hcall.puts

/-! ## The fields of an item -/

/-- The fields every item has, before the AG-UI fields. -/
def registeredBase (body : Items) (agentName version nowIso invocationMode : String) : Items :=
  let text (field default : String) : Val := .str (Py.strip (body.get field (.str default)).toStr)
  [("PK", .str ("AGENT#" ++ agentName)),
    ("SK", .str ("VERSION#" ++ version)),
    ("agent_name", .str agentName),
    ("version", .str version),
    ("status", .str "built"),
    ("owner_team", text "ownerTeam" "unknown"),
    ("tier_minimum", text "tierMinimum" "basic"),
    ("invocation_mode", .str invocationMode),
    ("streaming_enabled", .bool (body.get "streamingEnabled" (.bool false)).truthy),
    ("layer_hash", text "layerHash" ""),
    ("layer_s3_key", text "layerS3Key" ""),
    ("script_s3_key",
      .str (Py.strip (body.get "scriptS3Key" (body.get "script_s3_key" (.str ""))).toStr)),
    ("deployed_at", .str nowIso),
    ("created_at", .str nowIso),
    ("updated_at", .str nowIso)]

variable {py : Python} {event body item : Items} {agentName version nowIso mode : String}

/-- An item is its parts: the fields every item has, those the body has, and the AG-UI fields. -/
theorem registeredItem_eq
    (h : registeredItem body agentName version nowIso mode .built = .ok item) :
    ∃ duration : Items, (duration = [] ∨ ∃ n, duration = [("estimated_duration_seconds", .int n)]) ∧
      item = registeredBase body agentName version nowIso mode ++
        (copiedText body ("displayName", "display_name") ++ copiedText body ("modelId", "model_id") ++
          duration ++ registeredRuntimeFields.flatMap (copiedText body)) ++ agUiFields body := by
  unfold registeredItem at h
  by_cases hduration : body.has "estimatedDurationSeconds" = true
  · simp only [hduration, if_true] at h
    cases hseconds : intOf (body.get "estimatedDurationSeconds") with
    | error exc =>
      rw [hseconds] at h
      cases h
    | ok seconds =>
      rw [hseconds] at h
      cases h
      exact ⟨_, .inr ⟨seconds, rfl⟩, by simp [registeredBase, AgentStatus.value]⟩
  · simp only [hduration] at h
    cases h
    exact ⟨[], .inl rfl, by simp [registeredBase, AgentStatus.value]⟩

theorem lookup_copiedText (names : String × String) (field : String) :
    (copiedText body names).lookup field =
      if field = names.2 ∧ body.has names.1 = true then some (.str (fieldText body names.1))
      else none := by
  unfold copiedText
  by_cases hhas : body.has names.1 = true
  · by_cases hfield : field = names.2
    · simp [hhas, hfield]
    · have hne : (field == names.2) = false := by simpa using hfield
      simp [hhas, hfield, List.lookup_cons, hne]
  · simp [hhas]

/-- A field every item has. -/
theorem lookup_registeredBase {field : String} {v : Val}
    (h : registeredItem body agentName version nowIso mode .built = .ok item)
    (hbase : (registeredBase body agentName version nowIso mode).lookup field = some v) :
    item.lookup field = some v := by
  obtain ⟨duration, -, rfl⟩ := registeredItem_eq h
  rw [List.append_assoc, List.lookup_append, hbase, Option.some_or]

/-- A field only the middle part may have. -/
theorem lookup_registeredMiddle {field : String}
    (h : registeredItem body agentName version nowIso mode .built = .ok item)
    (hbase : (registeredBase body agentName version nowIso mode).lookup field = none)
    (hagUi : (agUiFields body).lookup field = none) (hdisplay : field ≠ "display_name")
    (hmodel : field ≠ "model_id") (hduration : field ≠ "estimated_duration_seconds") :
    item.lookup field = (registeredRuntimeFields.flatMap (copiedText body)).lookup field := by
  obtain ⟨duration, hseconds, rfl⟩ := registeredItem_eq h
  have hnone : duration.lookup field = none := by
    rcases hseconds with rfl | ⟨n, rfl⟩
    · rfl
    · have hne : (field == "estimated_duration_seconds") = false := by simpa using hduration
      simp [List.lookup_cons, hne]
  simp only [List.lookup_append, hbase, hagUi, hnone, lookup_copiedText, hdisplay, hmodel,
    false_and, if_false, Option.none_or, Option.or_none]

/-- A runtime field is kept where the body has it. -/
theorem lookup_runtimeField
    (h : registeredItem body agentName version nowIso mode .built = .ok item) :
    ∀ names ∈ registeredRuntimeFields, item.lookup names.2 =
      if body.has names.1 = true then some (.str (fieldText body names.1)) else none := by
  simp only [registeredRuntimeFields, List.forall_mem_cons]
  refine ⟨?_, ?_, ?_, ?_, by simp⟩
  all_goals
    rw [lookup_registeredMiddle h rfl rfl (by decide) (by decide) (by decide)]
    simp [registeredRuntimeFields, List.lookup_append, lookup_copiedText]

/-- The text of a runtime field is that of the body, and blank where the body has none. -/
theorem get_runtimeField
    (h : registeredItem body agentName version nowIso mode .built = .ok item) :
    ∀ names ∈ registeredRuntimeFields,
      item.get names.2 (.str "") = .str (fieldText body names.1) := by
  intro names hnames
  rw [Items.get, lookup_runtimeField h names hnames]
  split
  · rfl
  · rename_i hhas
    have hlookup : body.lookup names.1 = none :=
      Option.not_isSome_iff_eq_none.mp hhas
    rw [Option.getD_none, fieldText, Items.get, hlookup]
    rfl

theorem lookup_agUi
    (h : registeredItem body agentName version nowIso mode .built = .ok item) :
    item.lookup "ag_ui" = (agUiFields body).lookup "ag_ui" := by
  obtain ⟨duration, hseconds, rfl⟩ := registeredItem_eq h
  have hnone : duration.lookup "ag_ui" = none := by
    rcases hseconds with rfl | ⟨n, rfl⟩ <;> rfl
  have hbase : (registeredBase body agentName version nowIso mode).lookup "ag_ui" = none := rfl
  simp [List.lookup_append, hbase, hnone, lookup_copiedText, registeredRuntimeFields]

/-! ## Release -/

/-- The fields a change of status sets. -/
def releaseFields : List String :=
  ["status", "updatedAt", "approved_at", "approved_by", "release_notes", "evaluation_score",
    "evaluation_report_url", "rolled_back_at", "rolled_back_by"]

/-- A row that holds, besides those, what the item holds. -/
def SameArtifact (item row : Items) : Prop :=
  ∀ field, field ∉ releaseFields → row.lookup field = item.lookup field

/-- What a change of status sets after the status and its time: of a version that is approved, who
    approved it; of one that is promoted, which was approved, how it was evaluated. -/
inductive StatusDetails (caller : CallerIdentity) (existing : Items) (nowIso : String) :
    AgentStatus → Items → Prop where
  | approved (notes : Option String) : StatusDetails caller existing nowIso .approved
      ([("approved_at", .str nowIso), ("approved_by", optionVal caller.sub)] ++
        (notes.map fun notes => ("release_notes", Val.str notes)).toList)
  | promoted (score : Option Val) (url : Option String)
      (hby : (existing.get "approved_by").truthy = true)
      (hat : (existing.get "approved_at").truthy = true) :
      StatusDetails caller existing nowIso .promoted
        ((score.map fun score => ("evaluation_score", score)).toList ++
          (url.map fun url => ("evaluation_report_url", Val.str url)).toList)
  | rolledBack : StatusDetails caller existing nowIso .rolledBack
      [("rolled_back_at", .str nowIso), ("rolled_back_by", optionVal caller.sub)]
  | other {target : AgentStatus} (h : target ≠ .promoted) :
      StatusDetails caller existing nowIso target []

/-- What a promotion sets: it needs an approval, and its score is the float of the one given. -/
theorem statusUpdates_promoted {caller : CallerIdentity} {existing updates : Items}
    {evidence : ReleaseEvidence}
    (h : statusUpdates py caller existing .promoted evidence nowIso = .ok updates) :
    (existing.get "approved_by").truthy = true ∧ (existing.get "approved_at").truthy = true ∧
      ∃ score : Option Val,
        (∀ value, score = some value → py.float evidence.evaluationScore = .ok value) ∧
        updates = [("status", .str AgentStatus.promoted.value), ("updatedAt", .str nowIso)] ++
          ((score.map fun score => ("evaluation_score", score)).toList ++
            (evidence.evaluationReportUrl.map fun url => ("evaluation_report_url", Val.str url)).toList) := by
  unfold statusUpdates at h
  simp only at h
  split at h
  · cases h
  rename_i happroved
  have hboth : (existing.get "approved_by").truthy = true ∧
      (existing.get "approved_at").truthy = true := by simpa using happroved
  refine ⟨hboth.1, hboth.2, ?_⟩
  cases hscore : evidence.evaluationScore with
  | none =>
    rw [hscore] at h
    cases h
    refine ⟨none, ?_, by simp⟩
    intro value hvalue
    cases hvalue
  | _ =>
    rw [hscore] at h
    cases hfloat : py.float evidence.evaluationScore with
    | error exc =>
      rw [hscore] at hfloat
      simp only [hfloat] at h
      cases h
    | ok score =>
      rw [hscore] at hfloat
      simp only [hfloat] at h
      cases h
      refine ⟨some score, ?_, by simp⟩
      intro value hvalue
      cases hvalue
      exact hfloat

/-- **What a change of status sets.** -/
theorem statusUpdates_eq {caller : CallerIdentity} {existing updates : Items}
    {target : AgentStatus} {evidence : ReleaseEvidence}
    (h : statusUpdates py caller existing target evidence nowIso = .ok updates) :
    ∃ details, StatusDetails caller existing nowIso target details ∧
      updates = [("status", .str target.value), ("updatedAt", .str nowIso)] ++ details := by
  cases target with
  | approved =>
    cases h
    exact ⟨_, .approved evidence.releaseNotes, by simp⟩
  | rolledBack =>
    cases h
    exact ⟨_, .rolledBack, rfl⟩
  | promoted =>
    obtain ⟨hby, hat, score, -, rfl⟩ := statusUpdates_promoted h
    exact ⟨_, .promoted score evidence.evaluationReportUrl hby hat, rfl⟩
  | _ =>
    cases h
    exact ⟨[], .other (by decide), rfl⟩

theorem statusUpdates_nodup {caller : CallerIdentity} {existing updates : Items}
    {target : AgentStatus} {evidence : ReleaseEvidence}
    (h : statusUpdates py caller existing target evidence nowIso = .ok updates) :
    (updates.map Prod.fst).Nodup := by
  obtain ⟨details, hdetails, rfl⟩ := statusUpdates_eq h
  cases hdetails with
  | approved notes => cases notes <;> simp
  | promoted score url => cases score <;> cases url <;> simp
  | rolledBack => simp
  | other h => simp

theorem statusUpdates_fields {caller : CallerIdentity} {existing updates : Items}
    {target : AgentStatus} {evidence : ReleaseEvidence}
    (h : statusUpdates py caller existing target evidence nowIso = .ok updates) :
    ∀ kv ∈ updates, kv.1 ∈ releaseFields := by
  obtain ⟨details, hdetails, rfl⟩ := statusUpdates_eq h
  rw [List.forall_mem_append]
  refine ⟨by simp [releaseFields], ?_⟩
  cases hdetails with
  | approved notes => cases notes <;> simp [releaseFields]
  | promoted score url => cases score <;> cases url <;> simp [releaseFields]
  | rolledBack => simp [releaseFields]
  | other h => simp

/-- A change of status leaves the artifact as it was registered. -/
theorem SameArtifact.merge {row updates : Items} (h : SameArtifact item row)
    (hupdates : ∀ kv ∈ updates, kv.1 ∈ releaseFields) : SameArtifact item (row.merge updates) := by
  intro field hfield
  rw [Items.lookup_merge_of_not_mem row, h field hfield]
  intro kv hkv hname
  exact hfield (hname ▸ hupdates kv hkv)

/-! ## A version -/

/-- A version of the agent `helper`, of a model where there is one. -/
def helperBody (model : Option String) : Items :=
  [("agentName", .str "helper"), ("version", .str "1.0.0"), ("layerHash", .str "sha256:0"),
    ("layerS3Key", .str "layers/helper.zip")] ++
      (model.map fun model => ("modelId", .str model)).toList

/-- A library that reads the text of a request as the body. -/
def readsBody (body : Items) : Python :=
  KnownTexts.python { json := [("body", .dict body)] }

def registration : Items := [("body", .str "body")]

end A5cCell.TenantApi
