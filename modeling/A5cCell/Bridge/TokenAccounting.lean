import A5cCell.Lib.Runs
import A5cCell.Bridge.Invocation

/-!
# Token accounting

A tenant's synchronous invocations, interleaved as they may be: each is admitted, reported by
telemetry, and settled, and other invocations may do any of these in between. An invocation is
`Flight` from its admission to its end.

The counter that admitted an invocation holds its estimate while it is in flight, and should hold
what it used afterwards. `Ledger` is the invariant, for the counter of one model in one window:
the counter covers the estimates in flight, and outlives the window. A step then moves the counter
beyond these estimates by what the invocation it ends has used, so long as the invocation is
corrected where it was counted, and telemetry counts no tokens on that counter besides.
-/

namespace A5cCell.Bridge

open Py (Val Items truthyText)
open Counter Runs

/-- An invocation that was let through and has not ended: the window it was admitted in, and what
    became of the runtime call once telemetry was told. -/
structure Flight where
  tenantContext : TenantContext
  call : AgentCall
  window : Int
  upstream : Option Upstream
  deriving DecidableEq

/-- The counter an invocation was admitted on. -/
def Flight.key (f : Flight) : String :=
  counterKey f.tenantContext.tenantId (enforcementModel f.call.agent) "tpm" f.window

/-- The counter store, the invocations in flight, and the server's clock. -/
structure BridgeState where
  store : Valkey
  inFlight : List Flight
  clock : ℚ

inductive BridgeOp where
  | request (env : BridgeEnv) (tenantContext : TenantContext) (request : InvokeRequest)
  | report (flight : Flight) (upstream : Upstream) (audited : Bool)
  | finish (flight : Flight)

/-- An operation with the client's clock at its start and the server's clock at its command. -/
structure BridgeEvent where
  now : ℚ
  served : ℚ
  op : BridgeOp

/-- One operation of the bridge, with the counter store available. -/
def bridgeStep (jsonLoads : String → Option Val) (s : BridgeState) (e : BridgeEvent) :
    BridgeState × Unit :=
  match e.op with
  | .request env tenantContext request =>
      let (handled, store) :=
        handleInvokeRequest jsonLoads env .up s.store e.now e.served tenantContext request
      let inFlight := match handled with
        | .invoke call => ⟨tenantContext, call, windowExpiry e.now, none⟩ :: s.inFlight
        | _ => s.inFlight
      (⟨store, inFlight, e.served⟩, ())
  | .report f upstream audited =>
      let store := match reportOf jsonLoads f.call upstream with
        | none => s.store
        | some report => logInvocation .up s.store e.now e.served f.tenantContext f.call.agent
            audited report
      (⟨store, { f with upstream := some upstream } :: s.inFlight.erase f, e.served⟩, ())
  | .finish f =>
      let store := match f.upstream with
        | none => s.store
        | some upstream => settle jsonLoads .up s.store e.now e.served f.tenantContext f.call upstream
      (⟨store, s.inFlight.erase f, e.served⟩, ())

/-- The empty store. -/
def BridgeState.initial (clock : ℚ) : BridgeState := ⟨Store.empty, [], clock⟩

/-- What a run of a tenant's synchronous invocations is: the server's clock never goes back, every
    command falls in one window, and the operations of an invocation come in their order, in the
    window it was admitted in. -/
structure LegalBridge (tenantId : String) (s : BridgeState) (e : BridgeEvent) : Prop where
  forward : s.clock ≤ e.served
  window : windowExpiry e.now = windowExpiry e.served
  ordered : match e.op with
    | .request env tenantContext _ => tenantContext.tenantId = tenantId ∧
        ∀ name agent, env.getAgentRecord name = some agent → agent.invocationMode = .sync
    | .report f _ _ => f ∈ s.inFlight ∧ f.upstream = none ∧ f.window = windowExpiry e.now
    | .finish f => f ∈ s.inFlight ∧ f.upstream.isSome ∧ f.window = windowExpiry e.now

/-- The runtime answered with status 200, and its body says that this many tokens were used. -/
def AnsweredWith (jsonLoads : String → Option Val) (tokens : Nat) (upstream : Upstream) : Prop :=
  ∃ runtime body usage, upstream = .answered runtime 200 body ∧
    extractTokenUsage jsonLoads body = some usage ∧ usage.totalTokens = tokens

/-- The step keeps the account of a model. An invocation admitted on it is answered with status
    200, and its numbers fit in 64 bits; an invocation is corrected on the model if and only if it
    was admitted on it; and what telemetry is told names another model, or no tokens. -/
def Accounted (jsonLoads : String → Option Val) (tenantId model : String) (s : BridgeState)
    (e : BridgeEvent) : Prop :=
  match e.op with
  | .request env tenantContext request =>
      ∀ call, resolveInvocation jsonLoads env tenantContext request = .ok call →
        enforcementModel call.agent = model → call.estimate < 2 ^ 53 ∧
          (s.store.get? e.served (counterKey tenantId model "tpm" (windowExpiry e.now))).getD 0 +
            call.estimate < 2 ^ 63
  | .report f upstream audited =>
      audited = true → ∀ report, reportOf jsonLoads f.call upstream = some report →
        report.actualTokens = 0 ∨ metricModelId report.modelId f.call.agent ≠ model
  | .finish f =>
      (enforcementModel f.call.agent = model ↔ correctionModel f.call.agent = model) ∧
      (enforcementModel f.call.agent = model → ∀ upstream, f.upstream = some upstream →
        ∃ tokens, AnsweredWith jsonLoads tokens upstream ∧
          (s.store.get? e.served (counterKey tenantId model "tpm" (windowExpiry e.now))).getD 0 +
            tokens - f.call.estimate < 2 ^ 63)

/-- What the invocation that a moment ends has used, if it was admitted on `key`. -/
def tokensUsed (jsonLoads : String → Option Val) (key : String)
    (m : Moment BridgeState BridgeEvent Unit) : Int :=
  match m.event.op with
  | .finish f => if f.key = key then ((f.upstream.map (actualTokens jsonLoads)).getD 0 : Nat) else 0
  | _ => 0

/-! ## The account of one counter -/

/-- The estimates in flight on a counter. -/
def reserved (key : String) (inFlight : List Flight) : Int :=
  (inFlight.map fun f => if f.key = key then (f.call.estimate : Int) else 0).sum

/-- The counter of `key` outlives its window, covers what is in flight on it and fits in 64 bits;
    and the invocations in flight are synchronous ones of the tenant. -/
structure Ledger (tenantId key : String) (w : Int) (s : BridgeState) : Prop where
  lasting : ∀ cell, s.store key = some cell → ∃ d, cell.deadline = some d ∧ (w : ℚ) ≤ d
  counted : ∀ f ∈ s.inFlight, f.key = key → (s.store key).isSome
  covered : reserved key s.inFlight ≤ counterValue key s.store
  fits : counterValue key s.store < 2 ^ 63
  flights : ∀ f ∈ s.inFlight, f.tenantContext.tenantId = tenantId ∧
    f.call.agent.invocationMode = .sync

/-- What a counter holds beyond the estimates in flight. -/
def spent (key : String) (s : BridgeState) : Int :=
  counterValue key s.store - reserved key s.inFlight

theorem reserved_cons (key : String) (f : Flight) (inFlight : List Flight) :
    reserved key (f :: inFlight) =
      (if f.key = key then (f.call.estimate : Int) else 0) + reserved key inFlight := by
  rw [reserved, List.map_cons, List.sum_cons, reserved]

theorem reserved_erase {inFlight : List Flight} {f : Flight} (h : f ∈ inFlight) (key : String) :
    reserved key inFlight =
      (if f.key = key then (f.call.estimate : Int) else 0) + reserved key (inFlight.erase f) := by
  rw [← reserved_cons, reserved, ((List.perm_cons_erase h).map _).sum_eq, reserved]

theorem reserved_nonneg (key : String) (inFlight : List Flight) : 0 ≤ reserved key inFlight := by
  refine List.sum_nonneg fun x hx => ?_
  obtain ⟨f, -, rfl⟩ := List.mem_map.mp hx
  split <;> omega

/-- **Nothing moves** for a counter whose cell and estimates in flight stay as they are. -/
theorem Ledger.keep {tenantId key : String} {w : Int} {s s' : BridgeState}
    (h : Ledger tenantId key w s) (hstore : s'.store key = s.store key)
    (hreserved : reserved key s'.inFlight = reserved key s.inFlight)
    (hcounted : ∀ f ∈ s'.inFlight, f.key = key → ∃ g ∈ s.inFlight, g.key = key)
    (hflights : ∀ f ∈ s'.inFlight, f.tenantContext.tenantId = tenantId ∧
      f.call.agent.invocationMode = .sync) :
    Ledger tenantId key w s' ∧ spent key s' = spent key s := by
  have hvalue : counterValue key s'.store = counterValue key s.store := by
    rw [counterValue, hstore, counterValue]
  refine ⟨⟨?_, ?_, ?_, hvalue ▸ h.fits, hflights⟩, by rw [spent, hvalue, hreserved, spent]⟩
  · intro cell hcell
    exact h.lasting cell (hstore ▸ hcell)
  · intro f hf hkey
    obtain ⟨g, hg, hgkey⟩ := hcounted f hf hkey
    rw [hstore]
    exact h.counted g hg hgkey
  · rw [hvalue, hreserved]
    exact h.covered

/-- **Writing the counter**: a new value that covers what is then in flight, with a deadline past
    the window. -/
theorem Ledger.write {tenantId key : String} {w : Int} (s' : BridgeState) {value : Int}
    {deadline : Option ℚ} (hstore : s'.store key = some ⟨value, deadline⟩)
    (hdeadline : ∃ d, deadline = some d ∧ (w : ℚ) ≤ d)
    (hcovers : reserved key s'.inFlight ≤ value) (hfits : value < 2 ^ 63)
    (hflights : ∀ f ∈ s'.inFlight, f.tenantContext.tenantId = tenantId ∧
      f.call.agent.invocationMode = .sync) :
    Ledger tenantId key w s' ∧ spent key s' = value - reserved key s'.inFlight := by
  have hvalue : counterValue key s'.store = value := by
    rw [counterValue, hstore]
    rfl
  refine ⟨⟨?_, ?_, ?_, hvalue ▸ hfits, hflights⟩, by rw [spent, hvalue]⟩
  · intro cell hcell
    obtain rfl := Option.some.inj (hstore.symm.trans hcell)
    exact hdeadline
  · intro f _ _
    rw [hstore]
    rfl
  · rw [hvalue]
    exact hcovers

/-- Before its window ends, a counter is live, and holds no negative number. -/
theorem Ledger.live {tenantId key : String} {w : Int} {s : BridgeState}
    (h : Ledger tenantId key w s) {served : ℚ} (hserved : served < w) :
    s.store.live served key = s.store key := Store.live_of_lasting h.lasting hserved

theorem Ledger.value_nonneg {tenantId key : String} {w : Int} {s : BridgeState}
    (h : Ledger tenantId key w s) : 0 ≤ counterValue key s.store :=
  le_trans (reserved_nonneg key s.inFlight) h.covered

theorem Ledger.getD_live {tenantId key : String} {w : Int} {s : BridgeState}
    (h : Ledger tenantId key w s) {served : ℚ} (hserved : served < w) :
    ((s.store.live served key).getD ⟨0, none⟩).value = counterValue key s.store := by
  rw [h.live hserved, counterValue]
  cases s.store key <;> rfl

theorem Ledger.getD_get? {tenantId key : String} {w : Int} {s : BridgeState}
    (h : Ledger tenantId key w s) {served : ℚ} (hserved : served < w) :
    (s.store.get? served key).getD 0 = counterValue key s.store := by
  rw [Store.get?, h.live hserved, counterValue]

/-! ## What an operation does to one counter -/

/-- An invocation calls an agent of the registry. -/
theorem resolveInvocation_agent {jsonLoads : String → Option Val} {env : BridgeEnv}
    {tenantContext : TenantContext} {request : InvokeRequest} {call : AgentCall}
    (h : resolveInvocation jsonLoads env tenantContext request = .ok call) :
    ∃ name, env.getAgentRecord name = some call.agent := by
  simp only [resolveInvocation] at h
  repeat' split at h
  all_goals cases h
  rename_i hagent _ _ _
  exact ⟨_, hagent⟩

/-- A request that is not resolved goes nowhere near the counters. -/
theorem bridgeStep_request_error {jsonLoads : String → Option Val} {s : BridgeState}
    {now served : ℚ} {env : BridgeEnv} {tenantContext : TenantContext} {request : InvokeRequest}
    {refusal : Option ErrorResponse}
    (h : resolveInvocation jsonLoads env tenantContext request = .error refusal) :
    (bridgeStep jsonLoads s ⟨now, served, .request env tenantContext request⟩).1 =
      ⟨s.store, s.inFlight, served⟩ := by
  cases refusal <;> simp only [bridgeStep, handleInvokeRequest, h]

/-- A request that is resolved is admitted or throttled by the limiter. -/
theorem bridgeStep_request_ok {jsonLoads : String → Option Val} {s : BridgeState}
    {now served : ℚ} {env : BridgeEnv} {tenantContext : TenantContext} {request : InvokeRequest}
    {call : AgentCall} {result : RateLimitResult} {store' : Valkey}
    (h : resolveInvocation jsonLoads env tenantContext request = .ok call)
    (hcheck : TokenLimiter.checkAndIncrement .up s.store now served tenantContext.tenantId
      (enforcementModel call.agent)
      (tpmLimit env (enforcementModel call.agent) tenantContext.tier) call.estimate =
        (result, store')) :
    (bridgeStep jsonLoads s ⟨now, served, .request env tenantContext request⟩).1 =
      ⟨store', if result.allowed then ⟨tenantContext, call, windowExpiry now, none⟩ :: s.inFlight
        else s.inFlight, served⟩ := by
  simp only [bridgeStep, handleInvokeRequest, h, hcheck]
  cases result.allowed <;> simp

/-- The limiter's script touches the counter of its model and window only. -/
theorem checkAndIncrement_frame (store : Valkey) {now : ℚ} (served : ℚ)
    {tenantId modelId key : String} (limit : Int) (estimate : Nat)
    (hkey : key ≠ counterKey tenantId modelId "tpm" (windowExpiry now)) :
    (TokenLimiter.checkAndIncrement .up store now served tenantId modelId limit estimate).2 key =
      store key := by
  have hcount (estimate : Int) {value flag : Int} {store' : Valkey}
      (h : countEstimate store served (counterKey tenantId modelId "tpm" (windowExpiry now)) estimate
        counterTtlSeconds = .ok ((value, flag), store')) : store' key = store key := by
    rw [countEstimate] at h
    split at h
    · exact absurd h (by simp)
    · rename_i newVal counted hincr
      obtain ⟨old, -, -, rfl⟩ := Store.incrBy_ok hincr
      simp only [Except.ok.injEq, Prod.mk.injEq] at h
      rw [← h.2]
      split
      · rw [Store.expire_apply, if_neg hkey, Store.put_ne hkey]
      · rw [Store.put_ne hkey]
  rcases preRequestLua_cases store served (counterKey tenantId modelId "tpm" (windowExpiry now))
    limit estimate counterTtlSeconds with ⟨_, _, _, _, hlua⟩ | ⟨_, hlua⟩
  · rw [checkAndIncrement_of_ok hlua]
  · cases hcounted : countEstimate store served
        (counterKey tenantId modelId "tpm" (windowExpiry now)) (Lua.number estimate)
        counterTtlSeconds with
    | error refusal => rw [checkAndIncrement_of_error (hlua.trans hcounted)]
    | ok counted =>
      obtain ⟨⟨value, flag⟩, store'⟩ := counted
      rw [checkAndIncrement_of_ok (hlua.trans hcounted)]
      exact hcount _ hcounted

theorem incrExpire_frame {store : Valkey} {served : ℚ} {key key' : String} (amount : Int)
    (seconds : Nat) (hkey : key' ≠ key) :
    (incrExpire store served key amount seconds).2 key' = store key' := by
  rcases incrExpire_cases store served key amount seconds with hsame | ⟨value, hput, -⟩
  · rw [hsame]
  · rw [hput, Store.put_ne hkey]

theorem correctUsage_frame {store : Valkey} {now served : ℚ} {tenantId modelId key : String}
    (estimate actual : Int) (hkey : key ≠ counterKey tenantId modelId "tpm" (windowExpiry now)) :
    (TokenLimiter.correctUsage .up store now served tenantId modelId estimate actual).2 key =
      store key := by
  rcases correctUsage_cases store now served tenantId modelId estimate actual with
    hsame | ⟨value, store', -, hincr, hstore⟩
  · rw [hsame]
  · obtain ⟨old, -, -, rfl⟩ := Store.incrBy_ok hincr
    rw [hstore, Store.put_ne hkey]

/-- What telemetry does to an enforced counter: nothing, or it is the counter of the model it
    names, and gets a deadline and, at most, the tokens reported. -/
theorem logInvocation_key (store : Valkey) (now served : ℚ) (tenantContext : TenantContext)
    (agent : AgentRecord) (audited : Bool) (report : Report) (model : String) (w : Int) :
    (logInvocation .up store now served tenantContext agent audited report
        (counterKey tenantContext.tenantId model "tpm" w) =
      store (counterKey tenantContext.tenantId model "tpm" w)) ∨
    (audited = true ∧ metricModelId report.modelId agent = model ∧ windowExpiry now = w ∧ ∃ value,
      logInvocation .up store now served tenantContext agent audited report
          (counterKey tenantContext.tenantId model "tpm" w) =
        some ⟨value, some (served + counterTtlSeconds)⟩ ∧
      (report.actualTokens = 0 → value =
        ((store.live served (counterKey tenantContext.tenantId model "tpm" w)).getD
          ⟨0, none⟩).value)) := by
  cases audited with
  | false => exact Or.inl rfl
  | true =>
    have hstore := recordLogOnlyTpm_store store now served tenantContext agent report.actualTokens
      report.estimatedTokens report.modelId
    have hestimated : counterKey tenantContext.tenantId model "tpm" w ≠
        counterKey tenantContext.tenantId (metricModelId report.modelId agent) "tpm_estimated"
          (windowExpiry now) := fun h => counterKey_estimated_ne _ _ _ _ _ _ h.symm
    simp only [logInvocation, if_true, hstore, incrementWindows_store,
      incrExpire_frame _ _ hestimated]
    by_cases hkey : counterKey tenantContext.tenantId model "tpm" w =
        counterKey tenantContext.tenantId (metricModelId report.modelId agent) "tpm"
          (windowExpiry now)
    · obtain ⟨hmodel, hw⟩ := counterKey_tpm_inj hkey
      rw [hkey]
      rcases incrExpire_cases store served (counterKey tenantContext.tenantId
        (metricModelId report.modelId agent) "tpm" (windowExpiry now))
        (max 0 report.actualTokens) counterTtlSeconds with hsame | ⟨value, hput, hvalue⟩
      · exact Or.inl (by rw [hsame])
      · refine Or.inr ⟨trivial, hmodel.symm, hw.symm, value, by rw [hput, Store.put_self], fun hzero => ?_⟩
        rcases hvalue with ⟨old, hlive, rfl⟩ | rfl
        · rw [hlive, Option.getD_some]
        · rw [hzero, max_self, Int.add_zero]
    · exact Or.inl (incrExpire_frame _ _ hkey)

/-- An answer of status 200 is corrected. -/
theorem settle_of_answered {jsonLoads : String → Option Val} (store : Valkey) (now served : ℚ)
    (tenantContext : TenantContext) {call : AgentCall} {upstream : Upstream} {tokens : Nat}
    (hsync : call.agent.invocationMode = .sync) (h : AnsweredWith jsonLoads tokens upstream) :
    settle jsonLoads .up store now served tenantContext call upstream =
        (TokenLimiter.correctUsage .up store now served tenantContext.tenantId
          (correctionModel call.agent) call.estimate tokens).2 ∧
      actualTokens jsonLoads upstream = tokens := by
  obtain ⟨runtime, body, usage, rfl, husage, rfl⟩ := h
  constructor
  · simp only [settle, runtimeResponse, performTpmCorrection, hsync, husage, reduceCtorEq, if_false,
      if_true]
    split
    · rfl
    · rename_i hzero
      have hdiff : (usage.totalTokens : Int) - call.estimate = 0 := by omega
      simp only [TokenLimiter.correctUsage, SocketValkeyCounterClient.correctUsage, hdiff, if_true]
  · simp [actualTokens, husage]

/-- Settling touches the counter its correction names only. -/
theorem settle_frame {jsonLoads : String → Option Val} {store : Valkey} {now served : ℚ}
    {tenantContext : TenantContext} {call : AgentCall} {upstream : Upstream} {key : String}
    (hkey : key ≠ counterKey tenantContext.tenantId (correctionModel call.agent) "tpm"
      (windowExpiry now)) :
    settle jsonLoads .up store now served tenantContext call upstream key = store key := by
  have hcorrection (bodyText : String) :
      performTpmCorrection jsonLoads .up store now served call.agent tenantContext call.estimate
        bodyText key = store key := by
    unfold performTpmCorrection
    by_cases hstreaming : call.agent.invocationMode = .streaming
    · rw [if_pos hstreaming]
    · rw [if_neg hstreaming]
      cases extractTokenUsage jsonLoads bodyText with
      | none => rfl
      | some usage =>
        by_cases hsome : usage.totalTokens > 0 ∨ call.estimate > 0
        · simp only [if_pos hsome]
          exact correctUsage_frame _ _ hkey
        · simp only [if_neg hsome]
  unfold settle
  cases runtimeResponse jsonLoads call upstream with
  | error response => rfl
  | answer statusCode body =>
    by_cases hok : statusCode = 200
    · simp only [if_pos hok, hcorrection]
    · simp only [if_neg hok]

/-! ## What each step does to the account -/

section

variable {jsonLoads : String → Option Val} {tenantId model : String} {w : Int} {s : BridgeState}
  {now served : ℚ}

/-- The key of an invocation of the tenant names its model and window. -/
theorem Flight.key_eq_iff {f : Flight} (htenant : f.tenantContext.tenantId = tenantId) :
    f.key = counterKey tenantId model "tpm" w ↔
      enforcementModel f.call.agent = model ∧ f.window = w := by
  rw [Flight.key, htenant]
  constructor
  · exact counterKey_tpm_inj
  · rintro ⟨rfl, rfl⟩
    rfl

/-- **A request** adds an estimate to the counter and to what is in flight on it, or neither. -/
theorem request_step {env : BridgeEnv} {tenantContext : TenantContext} {request : InvokeRequest}
    (h : Ledger tenantId (counterKey tenantId model "tpm" w) w s) (hserved : served < w)
    (hlegal : LegalBridge tenantId s ⟨now, served, .request env tenantContext request⟩)
    (haccounted : Accounted jsonLoads tenantId model s
      ⟨now, served, .request env tenantContext request⟩) :
    Ledger tenantId (counterKey tenantId model "tpm" w) w
        (bridgeStep jsonLoads s ⟨now, served, .request env tenantContext request⟩).1 ∧
      spent (counterKey tenantId model "tpm" w)
          (bridgeStep jsonLoads s ⟨now, served, .request env tenantContext request⟩).1 =
        spent (counterKey tenantId model "tpm" w) s := by
  obtain ⟨htenant, hsync⟩ := hlegal.ordered
  cases hresolve : resolveInvocation jsonLoads env tenantContext request with
  | error refusal =>
    rw [bridgeStep_request_error hresolve]
    exact h.keep rfl rfl (fun f hf hkey => ⟨f, hf, hkey⟩) h.flights
  | ok call =>
    obtain ⟨name, hagent⟩ := resolveInvocation_agent hresolve
    have hnew : ∀ f ∈ (⟨tenantContext, call, windowExpiry now, none⟩ : Flight) :: s.inFlight,
        f.tenantContext.tenantId = tenantId ∧ f.call.agent.invocationMode = .sync := by
      rw [List.forall_mem_cons]
      exact ⟨⟨htenant, hsync name call.agent hagent⟩, h.flights⟩
    by_cases hkey : enforcementModel call.agent = model ∧ windowExpiry now = w
    · obtain ⟨rfl, rfl⟩ := hkey
      obtain ⟨hsmall, hroom⟩ := haccounted call hresolve rfl
      simp only [h.getD_get? hserved] at hroom
      have hvalue := h.getD_live hserved
      obtain ⟨old, hold⟩ : ∃ old, (s.store.live served (counterKey tenantId
        (enforcementModel call.agent) "tpm" (windowExpiry now))).getD ⟨0, none⟩ = old := ⟨_, rfl⟩
      rw [hold] at hvalue
      have hnonneg := h.value_nonneg
      rw [← htenant] at hold
      rcases checkAndIncrement_cases (tpmLimit env (enforcementModel call.agent) tenantContext.tier)
        hold hsmall (by omega) (by omega) with
        ⟨result, hrejected, hcheck⟩ | ⟨result, deadline, hallowed, hcheck, hdeadline⟩
      · rw [bridgeStep_request_ok hresolve hcheck, hrejected]
        exact h.keep rfl rfl (fun f hf hkey => ⟨f, hf, hkey⟩) h.flights
      · rw [bridgeStep_request_ok hresolve hcheck, hallowed]
        have hkey : Flight.key ⟨tenantContext, call, windowExpiry now, none⟩ =
            counterKey tenantId (enforcementModel call.agent) "tpm" (windowExpiry now) := by
          rw [Flight.key, htenant]
        have hreserved := reserved_cons (counterKey tenantId (enforcementModel call.agent) "tpm"
          (windowExpiry now)) ⟨tenantContext, call, windowExpiry now, none⟩ s.inFlight
        rw [if_pos hkey] at hreserved
        have hcovered := h.covered
        have hlasting : ∃ d, deadline = some d ∧ (windowExpiry now : ℚ) ≤ d := by
          rcases hdeadline with hset | ⟨hlive, hkept⟩
          · exact ⟨_, hset, hlegal.window ▸ windowExpiry_le_ttl served⟩
          · rw [hkept]
            rw [htenant, h.live hserved] at hlive
            exact h.lasting old hlive
        obtain ⟨hledger, hspent⟩ := Ledger.write
          ⟨s.store.put (counterKey tenantId (enforcementModel call.agent) "tpm"
            (windowExpiry now)) ⟨old.value + call.estimate, deadline⟩,
            ⟨tenantContext, call, windowExpiry now, none⟩ :: s.inFlight, served⟩
          (Store.put_self ..) hlasting (by simp only [hreserved]; omega) (by omega) hnew
        rw [htenant]
        refine ⟨hledger, hspent.trans ?_⟩
        simp only [hreserved, spent]
        omega
    · -- another counter
      have hne : counterKey tenantId model "tpm" w ≠ counterKey tenantContext.tenantId
          (enforcementModel call.agent) "tpm" (windowExpiry now) := by
        rw [htenant]
        intro heq
        obtain ⟨hmodel, hw⟩ := counterKey_tpm_inj heq
        exact hkey ⟨hmodel.symm, hw.symm⟩
      have hframe := checkAndIncrement_frame s.store served
        (tpmLimit env (enforcementModel call.agent) tenantContext.tier) call.estimate hne
      have hother : Flight.key ⟨tenantContext, call, windowExpiry now, none⟩ ≠
          counterKey tenantId model "tpm" w := Ne.symm hne
      cases hcheck : TokenLimiter.checkAndIncrement .up s.store now served tenantContext.tenantId
          (enforcementModel call.agent)
          (tpmLimit env (enforcementModel call.agent) tenantContext.tier) call.estimate with
      | mk result store' =>
        rw [hcheck] at hframe
        rw [bridgeStep_request_ok hresolve hcheck]
        cases result.allowed with
        | false => exact h.keep hframe rfl (fun f hf hkey => ⟨f, hf, hkey⟩) h.flights
        | true =>
          refine h.keep hframe ?_ ?_ hnew
          · simp only [if_true, reserved_cons, if_neg hother, Int.zero_add]
          · intro f hf hfkey
            simp only [if_true, List.mem_cons] at hf
            rcases hf with rfl | hf
            · exact absurd hfkey hother
            · exact ⟨f, hf, hfkey⟩

/-- **A report** moves nothing on the counter, unless it names its model and some tokens. -/
theorem report_step {f : Flight} {upstream : Upstream} {audited : Bool}
    (h : Ledger tenantId (counterKey tenantId model "tpm" w) w s) (hserved : served < w)
    (hlegal : LegalBridge tenantId s ⟨now, served, .report f upstream audited⟩)
    (haccounted : Accounted jsonLoads tenantId model s
      ⟨now, served, .report f upstream audited⟩) :
    Ledger tenantId (counterKey tenantId model "tpm" w) w
        (bridgeStep jsonLoads s ⟨now, served, .report f upstream audited⟩).1 ∧
      spent (counterKey tenantId model "tpm" w)
          (bridgeStep jsonLoads s ⟨now, served, .report f upstream audited⟩).1 =
        spent (counterKey tenantId model "tpm" w) s := by
  obtain ⟨hmem, -, -⟩ := hlegal.ordered
  obtain ⟨htenant, hsync⟩ := h.flights f hmem
  -- the invocation stays in flight, with its estimate
  have hkey : Flight.key { f with upstream := some upstream } = f.key := rfl
  have hreserved : reserved (counterKey tenantId model "tpm" w)
      ({ f with upstream := some upstream } :: s.inFlight.erase f) =
        reserved (counterKey tenantId model "tpm" w) s.inFlight := by
    rw [reserved_cons, reserved_erase hmem, hkey]
  have hcounted : ∀ g ∈ ({ f with upstream := some upstream } : Flight) :: s.inFlight.erase f,
      g.key = counterKey tenantId model "tpm" w →
        ∃ g' ∈ s.inFlight, g'.key = counterKey tenantId model "tpm" w := by
    rw [List.forall_mem_cons]
    exact ⟨fun hgkey => ⟨f, hmem, hgkey⟩, fun g hg hgkey => ⟨g, List.mem_of_mem_erase hg, hgkey⟩⟩
  have hflights : ∀ g ∈ ({ f with upstream := some upstream } : Flight) :: s.inFlight.erase f,
      g.tenantContext.tenantId = tenantId ∧ g.call.agent.invocationMode = .sync := by
    rw [List.forall_mem_cons]
    exact ⟨⟨htenant, hsync⟩, fun g hg => h.flights g (List.mem_of_mem_erase hg)⟩
  simp only [bridgeStep]
  cases hreport : reportOf jsonLoads f.call upstream with
  | none => exact h.keep rfl hreserved hcounted hflights
  | some report =>
    have heffect := logInvocation_key s.store now served f.tenantContext f.call.agent audited
      report model w
    rw [htenant] at heffect
    rcases heffect with hsame | ⟨haudited, hmodel, hw, value, hput, hvalue⟩
    · exact h.keep hsame hreserved hcounted hflights
    · have hzero : report.actualTokens = 0 :=
        (haccounted haudited report hreport).resolve_right (not_not.mpr hmodel)
      rw [hvalue hzero, h.getD_live hserved] at hput
      have hlasting : (w : ℚ) ≤ served + counterTtlSeconds := by
        rw [← hw, hlegal.window]
        exact windowExpiry_le_ttl served
      obtain ⟨hledger, hspent⟩ := Ledger.write
        ⟨_, { f with upstream := some upstream } :: s.inFlight.erase f, served⟩ hput
        ⟨_, rfl, hlasting⟩ (hreserved ▸ h.covered) h.fits hflights
      exact ⟨hledger, hspent.trans (by rw [spent, hreserved])⟩

/-- **An end** settles the estimate of the invocation on the counter it was admitted on, and
    leaves its tokens there. -/
theorem finish_step {f : Flight}
    (h : Ledger tenantId (counterKey tenantId model "tpm" w) w s) (hserved : served < w)
    (hlegal : LegalBridge tenantId s ⟨now, served, .finish f⟩)
    (haccounted : Accounted jsonLoads tenantId model s ⟨now, served, .finish f⟩) :
    Ledger tenantId (counterKey tenantId model "tpm" w) w
        (bridgeStep jsonLoads s ⟨now, served, .finish f⟩).1 ∧
      spent (counterKey tenantId model "tpm" w) (bridgeStep jsonLoads s ⟨now, served, .finish f⟩).1 =
        spent (counterKey tenantId model "tpm" w) s +
          tokensUsed jsonLoads (counterKey tenantId model "tpm" w)
            ⟨s, ⟨now, served, .finish f⟩, ()⟩ := by
  obtain ⟨hmem, hreported, hwindow⟩ := hlegal.ordered
  obtain ⟨htenant, hsync⟩ := h.flights f hmem
  obtain ⟨hsame, hanswered⟩ := haccounted
  obtain ⟨upstream, hupstream⟩ := Option.isSome_iff_exists.mp hreported
  have hflights : ∀ g ∈ s.inFlight.erase f,
      g.tenantContext.tenantId = tenantId ∧ g.call.agent.invocationMode = .sync :=
    fun g hg => h.flights g (List.mem_of_mem_erase hg)
  have hreserved := reserved_erase hmem (counterKey tenantId model "tpm" w)
  simp only [bridgeStep, hupstream, tokensUsed, Option.map_some, Option.getD_some]
  by_cases hkey : f.key = counterKey tenantId model "tpm" w
  -- Admitted on this counter: what it used beyond its estimate goes to the cell, which is live.
  · rw [if_pos hkey] at hreserved ⊢
    obtain ⟨hmodel, rfl⟩ := (Flight.key_eq_iff htenant).mp hkey
    have hcorrected : correctionModel f.call.agent = model := hsame.mp hmodel
    obtain ⟨tokens, hwith, hroom⟩ := hanswered hmodel upstream hupstream
    obtain ⟨hsettle, hactual⟩ := settle_of_answered s.store now served f.tenantContext
      hsync hwith
    simp only [← hwindow, h.getD_get? hserved] at hroom
    have hcovered := h.covered
    have hrest := reserved_nonneg (counterKey tenantId model "tpm" f.window) (s.inFlight.erase f)
    obtain ⟨cell, hcell⟩ := Option.isSome_iff_exists.mp (h.counted f hmem hkey)
    have hlive : s.store.live served (counterKey tenantId model "tpm" f.window) = some cell :=
      (h.live hserved).trans hcell
    have hvalue : counterValue (counterKey tenantId model "tpm" f.window) s.store = cell.value := by
      rw [counterValue, hcell]
      rfl
    have hcount : settle jsonLoads .up s.store now served f.tenantContext f.call upstream
        (counterKey tenantId model "tpm" f.window) =
          some ⟨cell.value + (tokens - f.call.estimate), cell.deadline⟩ := by
      have hfits := h.fits
      rw [hsettle, hcorrected, htenant, hwindow]
      rw [hwindow] at hlive
      exact correctUsage_of_live hlive (by simp only [inRange, decide_eq_true_eq]; omega)
        (by simp only [inRange, decide_eq_true_eq]; omega)
    obtain ⟨hledger, hspent⟩ := Ledger.write
      ⟨_, s.inFlight.erase f, served⟩ hcount (h.lasting cell hcell) (by simp only; omega)
      (by omega) hflights
    refine ⟨hledger, hspent.trans ?_⟩
    rw [hactual, spent]
    simp only
    omega
  -- Admitted on another one, which is then also the one that is corrected.
  · rw [if_neg hkey, Int.zero_add] at hreserved
    rw [if_neg hkey, Int.add_zero]
    have hne : counterKey tenantId model "tpm" w ≠ counterKey f.tenantContext.tenantId
        (correctionModel f.call.agent) "tpm" (windowExpiry now) := by
      intro heq
      rw [htenant] at heq
      obtain ⟨hmodel, hw⟩ := counterKey_tpm_inj heq
      exact hkey ((Flight.key_eq_iff htenant).mpr
        ⟨hsame.mpr hmodel.symm, hwindow.trans hw.symm⟩)
    exact h.keep (settle_frame hne) hreserved.symm
      (fun g hg hgkey => ⟨g, List.mem_of_mem_erase hg, hgkey⟩) hflights

/-- **One operation** moves a counter, beyond the estimates in flight on it, by what the invocation
    it ends has used. -/
theorem bridgeStep_ledger {e : BridgeEvent}
    (h : Ledger tenantId (counterKey tenantId model "tpm" w) w s)
    (hlegal : LegalBridge tenantId s e) (haccounted : Accounted jsonLoads tenantId model s e)
    (hserved : e.served < w) :
    Ledger tenantId (counterKey tenantId model "tpm" w) w (bridgeStep jsonLoads s e).1 ∧
      spent (counterKey tenantId model "tpm" w) (bridgeStep jsonLoads s e).1 =
        spent (counterKey tenantId model "tpm" w) s +
          tokensUsed jsonLoads (counterKey tenantId model "tpm" w)
            ⟨s, e, (bridgeStep jsonLoads s e).2⟩ := by
  obtain ⟨now, served, op⟩ := e
  cases op with
  | request env tenantContext request =>
    obtain ⟨hledger, hspent⟩ := request_step h hserved hlegal haccounted
    exact ⟨hledger, hspent.trans (Int.add_zero _).symm⟩
  | report f upstream audited =>
    obtain ⟨hledger, hspent⟩ := report_step h hserved hlegal haccounted
    exact ⟨hledger, hspent.trans (Int.add_zero _).symm⟩
  | finish f => exact finish_step h hserved hlegal haccounted

end

theorem Ledger.initial (tenantId key : String) (w : Int) (clock : ℚ) :
    Ledger tenantId key w (BridgeState.initial clock) where
  lasting := fun cell hcell => absurd hcell (by simp [BridgeState.initial, Store.empty])
  counted := fun f hf => absurd hf (by simp [BridgeState.initial])
  covered := le_refl _
  fits := show (0 : Int) < 2 ^ 63 by decide
  flights := fun f hf => absurd hf (by simp [BridgeState.initial])

theorem clock_bridgeStep (jsonLoads : String → Option Val) (s : BridgeState) (e : BridgeEvent) :
    (bridgeStep jsonLoads s e).1.clock = e.served := by
  obtain ⟨now, served, op⟩ := e
  cases op <;> rfl

/-- **Over a run.** From an empty store, when every step keeps the account of a model and no
    invocation is left in flight, the counter of the model in a window that has not ended holds
    exactly the tokens of the invocations admitted on it. -/
theorem tokens_accounted {jsonLoads : String → Option Val} {tenantId model : String} {clock : ℚ}
    {events : List BridgeEvent} {w : Int}
    (hlegal : ∀ m ∈ trace (bridgeStep jsonLoads) (BridgeState.initial clock) events,
      LegalBridge tenantId m.before m.event)
    (haccounted : ∀ m ∈ trace (bridgeStep jsonLoads) (BridgeState.initial clock) events,
      Accounted jsonLoads tenantId model m.before m.event)
    (hdone : (final (bridgeStep jsonLoads) (BridgeState.initial clock) events).inFlight = [])
    (hwindow : (final (bridgeStep jsonLoads) (BridgeState.initial clock) events).clock < w) :
    ((final (bridgeStep jsonLoads) (BridgeState.initial clock) events).store.get?
        (final (bridgeStep jsonLoads) (BridgeState.initial clock) events).clock
        (counterKey tenantId model "tpm" w)).getD 0 =
      ((trace (bridgeStep jsonLoads) (BridgeState.initial clock) events).map
        (tokensUsed jsonLoads (counterKey tenantId model "tpm" w))).sum := by
  let key := counterKey tenantId model "tpm" w
  let Ok (s : BridgeState) (e : BridgeEvent) : Prop :=
    LegalBridge tenantId s e ∧ Accounted jsonLoads tenantId model s e ∧ e.served < w
  -- no command is served after the run's last
  have hforward : ∀ s e, LegalBridge tenantId s e → s.clock ≤ (bridgeStep jsonLoads s e).1.clock :=
    fun s e hlegal => by rw [clock_bridgeStep]; exact hlegal.forward
  have hbefore := (le_final hforward hlegal).2
  have hok : ∀ m ∈ trace (bridgeStep jsonLoads) (BridgeState.initial clock) events,
      Ok m.before m.event := by
    intro m hm
    have hle := hbefore m hm
    rw [clock_bridgeStep] at hle
    exact ⟨hlegal m hm, haccounted m hm, lt_of_le_of_lt hle hwindow⟩
  have hstep : ∀ s e, Ledger tenantId key w s → Ok s e →
      Ledger tenantId key w (bridgeStep jsonLoads s e).1 ∧
        spent key (bridgeStep jsonLoads s e).1 =
          spent key s + tokensUsed jsonLoads key ⟨s, e, (bridgeStep jsonLoads s e).2⟩ :=
    fun s e hledger hok => bridgeStep_ledger hledger hok.1 hok.2.1 hok.2.2
  have hstart := Ledger.initial tenantId key w clock
  have hend := inv_final (fun s e hledger hok => (hstep s e hledger hok).1) hstart hok
  have hspent := measure_final hstep hstart hok
  have hzero : spent key (BridgeState.initial clock) = 0 := rfl
  rw [hzero, Int.zero_add] at hspent
  rw [hend.getD_get? hwindow, ← hspent, spent, hdone, reserved, List.map_nil, List.sum_nil,
    Int.sub_zero]

/-! ## Two runs -/

/-- What the two runs read: a request, and an answer of seven tokens. -/
def sampleJsonLoads (text : String) : Option Val :=
  if text = "\x7b\"input\": \"hello\"\x7d" then some (.dict [("input", .str "hello")])
  else if text = "\x7b\"usage\": \x7b\"inputTokens\": 3, \"outputTokens\": 4\x7d\x7d" then
    some (.dict [("usage", .dict [("inputTokens", .int 3), ("outputTokens", .int 4)])])
  else none

def sampleAgent : AgentRecord := ⟨"helper", .basic, .sync, some "claude"⟩

/-- A registry of one agent, with no policy. -/
def sampleBridgeEnv : BridgeEnv where
  lower := Py.lower
  sha256 _ := []
  getAgentRecord name := if name = "helper" then some sampleAgent else none
  capabilityPolicy := none

def sampleContext : TenantContext := ⟨"acme", "crm", .basic, "ann"⟩

def sampleCall : AgentCall := ⟨sampleAgent, "hello", none, 1⟩

/-- The agent invoked at second 0, and what comes of it at seconds 1 and 2. -/
def sampleInvocation (upstream : Upstream) : List BridgeEvent :=
  [⟨0, 0, .request sampleBridgeEnv sampleContext
      ⟨"/v1/agents/helper/invoke", [("agentName", .str "helper")],
        some "\x7b\"input\": \"hello\"\x7d"⟩⟩,
    ⟨1, 1, .report ⟨sampleContext, sampleCall, 60, none⟩ upstream true⟩,
    ⟨2, 2, .finish ⟨sampleContext, sampleCall, 60, some upstream⟩⟩]

def sampleAnswer : Upstream :=
  .answered .real 200 "\x7b\"usage\": \x7b\"inputTokens\": 3, \"outputTokens\": 4\x7d\x7d"

theorem badGateway_ge : (300 : Int) ≤ 502 := by decide

def sampleFailure : Upstream :=
  .failed ⟨502, "RUNTIME_INVOCATION_FAILED", "Agent runtime invocation failed", badGateway_ge⟩

theorem sampleInvocation_legal (upstream : Upstream) :
    ∀ m ∈ trace (bridgeStep sampleJsonLoads) (BridgeState.initial 0) (sampleInvocation upstream),
      LegalBridge "acme" m.before m.event := by
  simp only [sampleInvocation, trace_cons, trace_nil, List.forall_mem_cons]
  have hadmitted : (bridgeStep sampleJsonLoads (BridgeState.initial 0)
      ⟨0, 0, .request sampleBridgeEnv sampleContext
        ⟨"/v1/agents/helper/invoke", [("agentName", .str "helper")],
          some "\x7b\"input\": \"hello\"\x7d"⟩⟩).1.inFlight =
      [⟨sampleContext, sampleCall, 60, none⟩] := by decide +kernel
  have hone : 60 = windowExpiry 1 := by decide +kernel
  have htwo : 60 = windowExpiry 2 := by decide +kernel
  refine ⟨⟨le_refl _, rfl, rfl, ?_⟩, ⟨?_, rfl, ?_, rfl, hone⟩,
    ⟨?_, rfl, List.mem_cons_self, rfl, htwo⟩, by simp⟩
  · intro name agent hagent
    simp only [sampleBridgeEnv] at hagent
    split at hagent
    · obtain rfl := Option.some.inj hagent
      rfl
    · exact absurd hagent (by simp)
  · rw [clock_bridgeStep]
    norm_num
  · rw [hadmitted]
    exact List.mem_singleton.mpr rfl
  · rw [clock_bridgeStep]
    norm_num

theorem tokens_accounted_sampleAnswer :
    ((final (bridgeStep sampleJsonLoads) (BridgeState.initial 0)
        (sampleInvocation sampleAnswer)).store.get? 2 (counterKey "acme" "claude" "tpm" 60)).getD 0 =
      ((trace (bridgeStep sampleJsonLoads) (BridgeState.initial 0)
        (sampleInvocation sampleAnswer)).map
          (tokensUsed sampleJsonLoads (counterKey "acme" "claude" "tpm" 60))).sum := by
  refine tokens_accounted (sampleInvocation_legal sampleAnswer) ?_ (by decide +kernel)
    (by decide +kernel)
  simp only [sampleInvocation, trace_cons, trace_nil, List.forall_mem_cons]
  refine ⟨?_, ?_, ?_, by simp⟩
  · intro call hcall _
    have hresolved : resolveInvocation sampleJsonLoads sampleBridgeEnv sampleContext
        ⟨"/v1/agents/helper/invoke", [("agentName", .str "helper")],
          some "\x7b\"input\": \"hello\"\x7d"⟩ = .ok sampleCall := rfl
    obtain rfl := Except.ok.inj (hresolved.symm.trans hcall)
    exact ⟨by decide, by decide +kernel⟩
  · intro _ report hreport
    obtain rfl : ⟨7, 1, none⟩ = report := Option.some.inj hreport
    exact Or.inr (by decide)
  · refine ⟨⟨fun _ => rfl, fun _ => rfl⟩, fun _ upstream hupstream => ?_⟩
    obtain rfl := Option.some.inj hupstream
    exact ⟨7, ⟨.real, _, ⟨3, 4, none⟩, rfl, rfl, rfl⟩, by decide +kernel⟩

/-- An invocation that fails keeps its estimate on the counter. -/
theorem sampleFailure_not_accounted :
    (∀ m ∈ trace (bridgeStep sampleJsonLoads) (BridgeState.initial 0)
        (sampleInvocation sampleFailure), LegalBridge "acme" m.before m.event) ∧
      (final (bridgeStep sampleJsonLoads) (BridgeState.initial 0)
        (sampleInvocation sampleFailure)).inFlight = [] ∧
      ((final (bridgeStep sampleJsonLoads) (BridgeState.initial 0)
        (sampleInvocation sampleFailure)).store.get? 2
          (counterKey "acme" "claude" "tpm" 60)).getD 0 ≠
        ((trace (bridgeStep sampleJsonLoads) (BridgeState.initial 0)
          (sampleInvocation sampleFailure)).map
            (tokensUsed sampleJsonLoads (counterKey "acme" "claude" "tpm" 60))).sum :=
  ⟨sampleInvocation_legal sampleFailure, by decide +kernel, by decide +kernel⟩

end A5cCell.Bridge
