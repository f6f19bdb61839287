import A5cCell.Bridge.Discovery

/-!
# The AG-UI bootstrap

`bootstrap_agent_session` gives a caller a session and the connection details of an agent's AG-UI
endpoint. The listing shows an agent's AG-UI support to a caller whose tier is high enough, where
the policy enables it; the bootstrap asks for neither.
-/

namespace A5cCell.Bridge.Bootstrap

open Py (Val Items Dict)
open DataAccess Discovery

/-- What the bridge is configured with for a session. -/
structure SessionConfig where
  sessionsTable : String
  entraAudience : Option String
  agUiScopeName : String

/-- A request to bootstrap a session, with the identifiers and the time it is given. -/
structure BootstrapRequest where
  agentName : String
  viewer : Viewer
  requestId : String
  sessionId : String
  runtimeSessionId : String
  createdAt : String

/-- What is answered: an error, or the connection details. -/
inductive BootstrapAnswer where
  | error (response : HttpResponse)
  | connect (details : Items)

/-- The session's row. -/
def sessionItem (request : BootstrapRequest) : Items :=
  [("PK", .str ("TENANT#" ++ request.viewer.tenantContext.tenantId)),
    ("SK", .str ("SESSION#" ++ request.sessionId)),
    ("tenant_id", .str request.viewer.tenantContext.tenantId),
    ("app_id", .str request.viewer.tenantContext.appId),
    ("session_id", .str request.sessionId),
    ("runtime_session_id", .str request.runtimeSessionId),
    ("bootstrap_type", .str "ag_ui"),
    ("created_at", .str request.createdAt)]

/-- The details of a session with an agent's endpoint. -/
def connectionDetails (config : SessionConfig) (request : BootstrapRequest) (agent : AgentVersion)
    (endpoint : String) : Items :=
  let scope := match Py.truthyText config.entraAudience with
    | some audience => audience ++ "/" ++ config.agUiScopeName
    | none => config.agUiScopeName
  [("agentName", .str agent.agentName),
    ("sessionId", .str request.sessionId),
    ("runtimeSessionId", .str request.runtimeSessionId),
    ("transport", .str agent.agUi.transport.value),
    ("connectUrl", .str endpoint),
    ("tokenRefreshPath", .str "/v1/bff/token-refresh"),
    ("sessionKeepalivePath", .str "/v1/bff/session-keepalive"),
    ("auth", .dict [("scopes", .list [.str scope])])]

/-- The endpoint of an agent whose AG-UI support is enabled. -/
def agUiEndpoint? (agent : AgentVersion) : Option String :=
  if agent.agUi.enabled then Py.truthyText agent.agUi.endpoint else none

/-- `ControlPlaneDynamoDB.put_item` of the session's row. -/
def putSession (config : SessionConfig) (request : BootstrapRequest) : Db Unit :=
  Client.controlPlane.putItem config.sessionsTable (sessionItem request)

/-- `bootstrap_agent_session`, of the record the agent resolved to. -/
def bootstrapAgentSession (config : SessionConfig) (request : BootstrapRequest)
    (agent : Option AgentVersion) : Db BootstrapAnswer :=
  match agent with
  | none => pure (.error (errorResponse 404 "NOT_FOUND"
      ("Agent '" ++ request.agentName ++ "' not found") request.requestId))
  | some agent => match agUiEndpoint? agent with
    | none => pure (.error (errorResponse 404 "NOT_FOUND"
        ("Agent '" ++ request.agentName ++ "' is not AG-UI enabled") request.requestId))
    | some endpoint =>
        let connect : Db BootstrapAnswer := do
          putSession config request
          pure (.connect (connectionDetails config request agent endpoint))
        connect.tryExcept fun _ => pure (.error (errorResponse 500 "INTERNAL_ERROR"
          "Failed to persist AG-UI bootstrap session" request.requestId))

/-! ## The gates -/

/-- The gates of an agent's AG-UI support, for a caller. -/
structure Gated (viewer : Viewer) (agent : AgentVersion) : Prop where
  tier : agent.tierMinimum.order ≤ viewer.tenantContext.tier.order
  agUi : viewer.enables "agents.ag_ui" = true
  agentAgUi : viewer.enables ("agents." ++ agent.agentName ++ ".ag_ui") = true

/-- The listing, where it lists this row, shows AG-UI support to the caller. -/
def ShownAgUi (viewer : Viewer) (item : Items) : Prop :=
  (listedTierMinimum item).order ≤ viewer.tenantContext.tier.order ∧
    (withAgUiPolicy viewer (agentSummaryFromItem item)).agUiEnabled = true

/-- What is put of the session. -/
def sessionRequest (config : SessionConfig) (request : BootstrapRequest) : Request :=
  ⟨.putItem, config.sessionsTable, noKwargs.set "Item" (.val (.dict (sessionItem request)))⟩

variable {σ : Type} {serve : σ → (r : Request) → Answer r × σ} {s : σ}
  {config : SessionConfig} {request : BootstrapRequest} {item : Items} {agent : AgentVersion}

/-- A session is put and its connection details are answered only through the gates, and where the
    listing shows the agent's AG-UI support. -/
def GatedBootstrap (serve : σ → (r : Request) → Answer r × σ) (s : σ) (config : SessionConfig)
    (request : BootstrapRequest) (item : Items) (agent : AgentVersion) : Prop :=
  ∀ details, (Prog.run serve s (bootstrapAgentSession config request (some agent))).outcome =
      .ok (.connect details) → Gated request.viewer agent ∧ ShownAgUi request.viewer item

/-- The agent has no AG-UI endpoint, or its session is not taken, or the gates hold and the listing's
    own attribute says so too. -/
def BootstrapWhen (serve : σ → (r : Request) → Answer r × σ) (s : σ) (config : SessionConfig)
    (request : BootstrapRequest) (item : Items) (agent : AgentVersion) : Prop :=
  agUiEndpoint? agent = none ∨ (∃ fault, (serve s (sessionRequest config request)).1 = .error fault) ∨
    (Gated request.viewer agent ∧ (item.get "ag_ui_enabled" (.bool false)).truthy = true)

/-- Of an agent with an endpoint, the bootstrap is one call, answered as the session is taken. -/
theorem bootstrap_of_endpoint {endpoint : String} (hendpoint : agUiEndpoint? agent = some endpoint) :
    bootstrapAgentSession config request (some agent) =
      .call (sessionRequest config request) fun answer => match answer with
        | .ok _ => .ret (.connect (connectionDetails config request agent endpoint))
        | .error _ => .ret (.error (errorResponse 500 "INTERNAL_ERROR"
            "Failed to persist AG-UI bootstrap session" request.requestId)) := by
  unfold bootstrapAgentSession
  simp only [hendpoint]
  refine congrArg (Prog.call (sessionRequest config request)) (funext fun answer => ?_)
  cases answer <;> rfl

/-- Connection details are answered exactly where there is an endpoint and the session is taken. -/
theorem connected_iff :
    (∃ details, (Prog.run serve s (bootstrapAgentSession config request (some agent))).outcome =
      .ok (.connect details)) ↔
    agUiEndpoint? agent ≠ none ∧ (serve s (sessionRequest config request)).1 = .ok () := by
  cases hendpoint : agUiEndpoint? agent with
  | none =>
    have hrefused : ∃ response, bootstrapAgentSession config request (some agent) =
        .ret (.error response) := by
      unfold bootstrapAgentSession
      simp only [hendpoint]
      exact ⟨_, rfl⟩
    obtain ⟨response, hresponse⟩ := hrefused
    rw [hresponse]
    simp [Prog.run]
  | some endpoint =>
    rw [bootstrap_of_endpoint hendpoint, Prog.run]
    cases hserved : (serve s (sessionRequest config request)).1 with
    | ok done =>
      cases done
      simp [Prog.run]
    | error fault => simp [Prog.run]

/-- A row that is decoded is listed under the tier it is decoded with. -/
theorem listedTierMinimum_of_decoded (h : agentRecordFromItem item = .ok agent) :
    listedTierMinimum item = agent.tierMinimum ∧ agent.agentName = textOr item "agent_name" "" := by
  obtain ⟨-, tierMinimum, invocationMode, status, transport, htier, -, -, -, rfl⟩ :=
    agentRecordFromItem_eq_ok.mp h
  refine ⟨?_, rfl⟩
  have hlower : Py.lower tierMinimum.value = tierMinimum.value := by
    cases tierMinimum <;> decide
  have htext := TenantTier.ofValue?_eq_some.mp htier
  rw [listedTierMinimum, htext, hlower, TenantTier.ofValue?_eq_some.mpr rfl]
  rfl

/-- The listing shows the AG-UI support of an agent whose gates hold, where its own attribute does. -/
theorem shownAgUi_iff (hrecord : agentRecordFromItem item = .ok agent)
    (hgated : Gated request.viewer agent) :
    ShownAgUi request.viewer item ↔ (item.get "ag_ui_enabled" (.bool false)).truthy = true := by
  obtain ⟨htier, hname⟩ := listedTierMinimum_of_decoded hrecord
  have henables : request.viewer.enables
      ("agents." ++ textOr item "agent_name" "" ++ ".ag_ui") = true := hname ▸ hgated.agentAgUi
  have hpolicy : (withAgUiPolicy request.viewer (agentSummaryFromItem item)).agUiEnabled =
      (item.get "ag_ui_enabled" (.bool false)).truthy := by
    unfold withAgUiPolicy agentSummaryFromItem
    simp only [hgated.agUi, henables, Bool.and_self, Bool.not_true, Bool.and_false,
      Bool.false_eq_true, if_false]
  rw [ShownAgUi, htier, hpolicy]
  exact and_iff_right hgated.tier

/-- **The bootstrap boundary.** A session is issued only through the gates, and where the listing shows
    AG-UI support, if and only if `BootstrapWhen`. -/
theorem gated_bootstrap_iff (hrecord : agentRecordFromItem item = .ok agent) :
    GatedBootstrap serve s config request item agent ↔
      BootstrapWhen serve s config request item agent := by
  have hserved : (serve s (sessionRequest config request)).1 = .ok () ∨
      ∃ fault, (serve s (sessionRequest config request)).1 = .error fault := by
    cases (serve s (sessionRequest config request)).1 with
    | ok done => exact Or.inl rfl
    | error fault => exact Or.inr ⟨fault, rfl⟩
  constructor
  · intro h
    by_cases hendpoint : agUiEndpoint? agent = none
    · exact Or.inl hendpoint
    · rcases hserved with hserved | hfault
      · obtain ⟨details, hdetails⟩ := connected_iff.mpr ⟨hendpoint, hserved⟩
        obtain ⟨hgated, hshown⟩ := h details hdetails
        exact Or.inr (Or.inr ⟨hgated, (shownAgUi_iff hrecord hgated).mp hshown⟩)
      · exact Or.inr (Or.inl hfault)
  · intro h details hdetails
    obtain ⟨hendpoint, hok⟩ := connected_iff.mp ⟨details, hdetails⟩
    rcases h with hnone | ⟨fault, hfault⟩ | ⟨hgated, hattribute⟩
    · exact absurd hnone hendpoint
    · rw [hok] at hfault
      exact absurd hfault (by simp)
    · exact ⟨hgated, (shownAgUi_iff hrecord hgated).mpr hattribute⟩

/-! ## A premium agent -/

/-- A promoted version of a premium agent with AG-UI support. -/
def premiumItem : Items :=
  [("agent_name", .str "echo"), ("version", .str "1.0.0"), ("status", .str "promoted"),
    ("tier_minimum", .str "premium"), ("invocation_mode", .str "sync"),
    ("layer_hash", .str "h"), ("layer_s3_key", .str "k"),
    ("ag_ui", .dict [("enabled", .bool true), ("transport", .str "sse"),
      ("endpoint", .str "https://echo")]),
    ("ag_ui_enabled", .bool true)]

/-- A request by a tenant of this tier, where there is no capability policy. -/
def sampleRequest (tier : TenantTier) : BootstrapRequest where
  agentName := "echo"
  viewer := ⟨Py.lower, fun _ => [], ⟨"acme", "app", tier, "user"⟩, none⟩
  requestId := "req-1"
  sessionId := "s-1"
  runtimeSessionId := "r-1"
  createdAt := "2026-01-01T00:00:00+00:00"

def sampleConfig : SessionConfig := ⟨"sessions", none, "Agent.AgUi.Connect"⟩

/-- A store that takes every session. -/
def takesSessions : Unit → (r : Request) → Answer r × Unit
  | _, ⟨.putItem, _, _⟩ => (.ok (), ())
  | _, _ => (.error (.clientError "ResourceNotFoundException"), ())

def premiumRecord : AgentVersion := agentRecordOf premiumItem .premium .sync .promoted .sse

theorem premium_bootstrap_gated :
    GatedBootstrap takesSessions () sampleConfig (sampleRequest .premium) premiumItem
      premiumRecord :=
  (gated_bootstrap_iff rfl).mpr (Or.inr (Or.inr ⟨⟨by decide, rfl, rfl⟩, rfl⟩))

/-- A basic tenant is given a session with the premium agent, which is not listed to it. -/
theorem basic_bootstrap_not_gated :
    ¬ ∀ request item agent, agentRecordFromItem item = .ok agent →
      GatedBootstrap takesSessions () sampleConfig request item agent := by
  intro h
  have hgated := h (sampleRequest .basic) premiumItem premiumRecord rfl _ rfl
  exact absurd hgated.1.tier (by decide)

end A5cCell.Bridge.Bootstrap
