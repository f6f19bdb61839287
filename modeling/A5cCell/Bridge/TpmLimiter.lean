import Mathlib.Tactic.Linarith
import A5cCell.Lib.Str
import A5cCell.Lib.LuaNumber
import A5cCell.Lib.CounterStore
import A5cCell.DataAccess.Models

/-!
# The token limiter

`tpm_limiter.py` over the counter store. The tokens a tenant spends on a model in a one-minute
window are one counter, named by the window's end. `check_and_increment` runs one Lua script on
it before an invocation, `correct_usage` replaces the estimate by the actual usage after, and
`record_log_only_tpm` counts what telemetry reports.

Every call reads the client's clock for the window (`now`) and has its command executed at a
time of the server's clock (`served`). A command the server refuses raises in the client, and so
does a socket that is `down`; the limiter then fails open.
-/

namespace A5cCell.Bridge

open Counter

/-- The Valkey server's contents. -/
abbrev Valkey := Counter.Store String

/-- Whether a counter client is configured, and whether its server answers. -/
inductive Link where
  | absent
  | down
  | up
  deriving DecidableEq

def windowSeconds : Int := 60
def counterTtlSeconds : Nat := 90

/-- `_window_expiry`. The clock reads seconds since the epoch, where `int` rounds down. -/
def windowExpiry (now : ℚ) : Int := (⌊now⌋ / windowSeconds + 1) * windowSeconds

/-- `_counter_key`. -/
def counterKey (tenantId modelId counterName : String) (windowExpiry : Int) : String :=
  "LIMITER/" ++ tenantId ++ ":" ++ modelId ++ ":" ++ counterName ++ "/" ++ toString windowExpiry

/-- The value of a key, zero where there is none. -/
def counterValue (key : String) (store : Valkey) : Int := ((store key).map (·.value)).getD 0

/-! ## The counter client -/

/-- The end of `PRE_REQUEST_LUA`, reached when the request is let through. -/
def countEstimate (store : Valkey) (served : ℚ) (key : String) (estimate : Int) (expiry : Nat) :
    Except Refusal ((Int × Int) × Valkey) :=
  match store.incrBy served key estimate with
  | .error refusal => .error refusal
  | .ok (newVal, store) =>
      let newVal := Lua.number newVal
      .ok ((newVal, 1), if newVal = estimate then store.expire served key expiry else store)

/-- `PRE_REQUEST_LUA`. `GET` answers `false` for a missing key, and the limit is not looked at
    then. -/
def preRequestLua (store : Valkey) (served : ℚ) (key : String) (limit estimate : Int)
    (expiry : Nat) : Except Refusal ((Int × Int) × Valkey) :=
  let limit := Lua.number limit
  let estimate := Lua.number estimate
  match store.get? served key with
  | some current =>
      if 0 < limit ∧ limit < Lua.number (Lua.number current + estimate) then
        .ok ((Lua.number current, 0), store)
      else countEstimate store served key estimate expiry
  | none => countEstimate store served key estimate expiry

/-- `SocketValkeyCounterClient.check_and_increment`. -/
def SocketValkeyCounterClient.checkAndIncrement (store : Valkey) (served : ℚ) (key : String)
    (limit estimate : Int) (ttlSeconds : Nat) : Except Refusal ((Int × Bool) × Valkey) :=
  match preRequestLua store served key limit estimate ttlSeconds with
  | .error refusal => .error refusal
  | .ok ((value, flag), store) => .ok ((value, flag ≠ 0), store)

/-- `SocketValkeyCounterClient.correct_usage`. -/
def SocketValkeyCounterClient.correctUsage (store : Valkey) (served : ℚ) (key : String)
    (estimate actual : Int) : Except Refusal (Int × Valkey) :=
  let diff := actual - estimate
  if diff = 0 then .ok (0, store) else store.incrBy served key diff

/-- One `INCRBY` and `EXPIRE` of a transaction, which goes on after a refused command. -/
def incrExpire (store : Valkey) (served : ℚ) (key : String) (amount : Int) (seconds : Nat) :
    Except Refusal Int × Valkey :=
  match store.incrBy served key amount with
  | .ok (value, store) => (.ok value, store.expire served key seconds)
  | .error refusal => (.error refusal, store.expire served key seconds)

/-- `SocketValkeyCounterClient.increment_windows`. Reading the reply of `EXEC` raises when
    either increment was refused. -/
def SocketValkeyCounterClient.incrementWindows (store : Valkey) (served : ℚ)
    (actualKey : String) (actualTokens : Int) (estimatedKey : String) (estimatedTokens : Int)
    (ttlSeconds : Nat) : Except Refusal Int × Valkey :=
  let (actual, store) := incrExpire store served actualKey actualTokens ttlSeconds
  let (estimated, store) := incrExpire store served estimatedKey estimatedTokens ttlSeconds
  match actual, estimated with
  | .ok value, .ok _ => (.ok value, store)
  | .error refusal, _ => (.error refusal, store)
  | .ok _, .error refusal => (.error refusal, store)

/-! ## The limiter -/

/-- `RateLimitResult`. -/
structure RateLimitResult where
  allowed : Bool
  limit : Int
  used : Int
  resetSeconds : Int
  deriving DecidableEq

/-- `TokenLimiter.check_and_increment`. -/
def TokenLimiter.checkAndIncrement (link : Link) (store : Valkey) (now served : ℚ)
    (tenantId modelId : String) (limit estimate : Int) : RateLimitResult × Valkey :=
  let windowEnd := windowExpiry now
  let resetSeconds := windowEnd - ⌊now⌋
  let key := counterKey tenantId modelId "tpm" windowEnd
  let shown := if limit > 0 then limit else -1
  let failOpen : RateLimitResult := ⟨true, shown, estimate, resetSeconds⟩
  match link with
  | .absent => (failOpen, store)
  | .down => (failOpen, store)
  | .up =>
      match SocketValkeyCounterClient.checkAndIncrement store served key limit estimate
          counterTtlSeconds with
      | .ok ((used, success), store) => (⟨success, shown, used, resetSeconds⟩, store)
      | .error _ => (failOpen, store)

/-- `TokenLimiter.correct_usage`. -/
def TokenLimiter.correctUsage (link : Link) (store : Valkey) (now served : ℚ)
    (tenantId modelId : String) (estimate actual : Int) : Int × Valkey :=
  let key := counterKey tenantId modelId "tpm" (windowExpiry now)
  match link with
  | .absent => (actual, store)
  | .down => (actual, store)
  | .up =>
      match SocketValkeyCounterClient.correctUsage store served key estimate actual with
      | .ok (value, store) => (value, store)
      | .error _ => (actual, store)

/-- `_metric_model_id`. -/
def metricModelId (modelId : Option String) (agent : AgentRecord) : String :=
  match modelId with
  | some text => if Py.strip text ≠ "" then Py.strip text else agent.agentName
  | none => agent.agentName

/-- `TpmCounterResult`. -/
structure TpmCounterResult where
  actualTokens : Int
  estimatedTokens : Int
  windowExpiry : Int
  windowUsage : Int
  modelId : String
  skipped : Bool
  deriving DecidableEq

/-- `record_log_only_tpm`. -/
def recordLogOnlyTpm (link : Link) (store : Valkey) (now served : ℚ)
    (tenantContext : TenantContext) (agent : AgentRecord) (actualTokens estimatedTokens : Int)
    (modelId : Option String) : TpmCounterResult × Valkey :=
  let model := metricModelId modelId agent
  let actual := max 0 actualTokens
  let estimated := max 0 estimatedTokens
  let windowEnd := windowExpiry now
  let actualKey := counterKey tenantContext.tenantId model "tpm" windowEnd
  let estimatedKey := counterKey tenantContext.tenantId model "tpm_estimated" windowEnd
  let skipped : TpmCounterResult := ⟨actual, estimated, windowEnd, 0, model, true⟩
  match link with
  | .absent => (skipped, store)
  | .down => (skipped, store)
  | .up =>
      match SocketValkeyCounterClient.incrementWindows store served actualKey actual estimatedKey
          estimated counterTtlSeconds with
      | (.ok windowUsage, store) => (⟨actual, estimated, windowEnd, windowUsage, model, false⟩, store)
      | (.error _, store) => (skipped, store)

/-! ## Windows -/

theorem lt_windowExpiry (now : ℚ) : now < windowExpiry now := by
  have hfloor := Int.lt_floor_add_one now
  have hwindow : ⌊now⌋ + 1 ≤ windowExpiry now := by
    simp only [windowExpiry, windowSeconds]
    omega
  calc now < (⌊now⌋ + 1 : ℤ) := by exact_mod_cast hfloor
    _ ≤ windowExpiry now := by exact_mod_cast hwindow

theorem windowExpiry_le (now : ℚ) : (windowExpiry now : ℚ) ≤ now + 60 := by
  have hfloor := Int.floor_le now
  have hwindow : windowExpiry now ≤ ⌊now⌋ + 60 := by
    simp only [windowExpiry, windowSeconds]
    omega
  calc (windowExpiry now : ℚ) ≤ (⌊now⌋ + 60 : ℤ) := by exact_mod_cast hwindow
    _ ≤ now + 60 := by push_cast; linarith

/-- A counter whose deadline is set now outlives the current window. -/
theorem windowExpiry_le_ttl (served : ℚ) : (windowExpiry served : ℚ) ≤ served + counterTtlSeconds :=
  calc (windowExpiry served : ℚ) ≤ served + 60 := windowExpiry_le served
    _ ≤ served + counterTtlSeconds := by norm_num [counterTtlSeconds]

/-- A counter key names its window, and the rest of it is what stands before the last slash. -/
theorem counterKey_inj {tenantId modelId counterName tenantId' modelId' counterName' : String}
    {w w' : Int}
    (h : counterKey tenantId modelId counterName w = counterKey tenantId' modelId' counterName' w') :
    tenantId ++ ":" ++ modelId ++ ":" ++ counterName =
        tenantId' ++ ":" ++ modelId' ++ ":" ++ counterName' ∧ w = w' := by
  have hsplit (t m n : String) (v : Int) : (counterKey t m n v).toList =
      ("LIMITER/" ++ (t ++ ":" ++ m ++ ":" ++ n)).toList ++ '/' :: (toString v).toList := by
    simp [counterKey, String.toList_append]
  have hslash (v : Int) : '/' ∉ (toString v).toList := Py.not_mem_toString (by decide) (by decide) v
  have hlist := congrArg String.toList h
  rw [hsplit, hsplit] at hlist
  obtain ⟨hhead, htail⟩ := Py.append_cons_inj (hslash w) (hslash w') hlist
  exact ⟨String.append_right_inj _ |>.mp (String.toList_inj.mp hhead),
    Py.toString_injective (String.toList_inj.mp htail)⟩

/-- Within a tenant, a counter key names its model too. -/
theorem counterKey_tpm_inj {tenantId modelId modelId' : String} {w w' : Int}
    (h : counterKey tenantId modelId "tpm" w = counterKey tenantId modelId' "tpm" w') :
    modelId = modelId' ∧ w = w' := by
  obtain ⟨hname, hw⟩ := counterKey_inj h
  refine ⟨?_, hw⟩
  rw [String.append_left_inj, String.append_left_inj, String.append_right_inj] at hname
  exact hname

/-- The counters of the estimates telemetry keeps are none of those the limiter enforces. -/
theorem counterKey_estimated_ne (tenantId modelId tenantId' modelId' : String) (w w' : Int) :
    counterKey tenantId modelId "tpm_estimated" w ≠ counterKey tenantId' modelId' "tpm" w' := by
  intro h
  have hlast := congrArg (fun name : String => name.toList.reverse.head?) (counterKey_inj h).1
  simp [String.toList_append] at hlast

/-! ## What each command does to the store -/

/-- **What the script does.** It refuses, with the store as it was, only where the counter is
    there and the limit is passed; otherwise it counts, or the server refuses to. -/
theorem preRequestLua_cases (store : Valkey) (served : ℚ) (key : String) (limit estimate : Int)
    (expiry : Nat) :
    (∃ current, store.get? served key = some current ∧ 0 < Lua.number limit ∧
      Lua.number limit < Lua.number (Lua.number current + Lua.number estimate) ∧
      preRequestLua store served key limit estimate expiry =
        .ok ((Lua.number current, 0), store)) ∨
    ((∀ current, store.get? served key = some current → 0 < Lua.number limit →
        ¬ Lua.number limit < Lua.number (Lua.number current + Lua.number estimate)) ∧
      preRequestLua store served key limit estimate expiry =
        countEstimate store served key (Lua.number estimate) expiry) := by
  cases hget : store.get? served key with
  | none =>
    refine Or.inr ⟨fun current h => absurd h (by simp), ?_⟩
    simp only [preRequestLua, hget]
  | some current =>
    by_cases hlimit : 0 < Lua.number limit ∧
        Lua.number limit < Lua.number (Lua.number current + Lua.number estimate)
    · refine Or.inl ⟨current, rfl, hlimit.1, hlimit.2, ?_⟩
      simp only [preRequestLua, hget, hlimit, and_self, if_true]
    · refine Or.inr ⟨?_, ?_⟩
      · intro c hc hpos hlt
        cases hc
        exact hlimit ⟨hpos, hlt⟩
      · simp only [preRequestLua, hget, hlimit, if_false]

/-- Counting an estimate the numbers of the script hold exactly adds it to the counter. The
    counter's deadline is then the one it had, or, at the latest for a counter that was not
    there, `expiry` seconds away. -/
theorem countEstimate_eq {store : Valkey} {served : ℚ} {key : String} {estimate : Nat}
    (expiry : Nat) {old : Cell} (hold : (store.live served key).getD ⟨0, none⟩ = old)
    (hexact : Lua.number estimate = estimate) (hlo : 0 ≤ old.value)
    (hhi : old.value + estimate < 2 ^ 63) :
    ∃ deadline, countEstimate store served key (Lua.number estimate) expiry =
        .ok ((Lua.number (old.value + estimate), 1),
          store.put key ⟨old.value + estimate, deadline⟩) ∧
      (deadline = some (served + expiry) ∨
        (store.live served key = some old ∧ deadline = old.deadline)) := by
  have hincr := Store.incrBy_of_inRange estimate hold
    (by simp only [inRange, decide_eq_true_eq]; omega)
    (by simp only [inRange, decide_eq_true_eq]; omega)
  rw [hexact, countEstimate, hincr]
  simp only
  split
  · -- the value after is the estimate: the script sets the deadline
    refine ⟨some (served + expiry), ?_, Or.inl rfl⟩
    have halive : (⟨old.value + estimate, old.deadline⟩ : Cell).aliveAt served = true := by
      cases hlive : store.live served key with
      | none =>
        rw [hlive, Option.getD_none] at hold
        subst hold
        rfl
      | some c =>
        rw [hlive, Option.getD_some] at hold
        subst hold
        exact (Store.live_eq_some.mp hlive).2
    rw [Store.expire_of_live (Store.live_eq_some.mpr ⟨Store.put_self .., halive⟩), Store.put_put]
  · rename_i hne
    refine ⟨old.deadline, rfl, Or.inr ⟨?_, rfl⟩⟩
    cases hlive : store.live served key with
    | none =>
      rw [hlive, Option.getD_none] at hold
      subst hold
      exact absurd (by rw [Int.zero_add, hexact]) hne
    | some c =>
      rw [hlive, Option.getD_some] at hold
      rw [hold]

/-- The limiter answers what the script answered, and keeps its store. -/
theorem checkAndIncrement_of_ok {store store' : Valkey} {now served : ℚ}
    {tenantId modelId : String} {limit estimate value flag : Int}
    (h : preRequestLua store served (counterKey tenantId modelId "tpm" (windowExpiry now)) limit
      estimate counterTtlSeconds = .ok ((value, flag), store')) :
    TokenLimiter.checkAndIncrement .up store now served tenantId modelId limit estimate =
      (⟨flag ≠ 0, if limit > 0 then limit else -1, value, windowExpiry now - ⌊now⌋⟩, store') := by
  simp only [TokenLimiter.checkAndIncrement, SocketValkeyCounterClient.checkAndIncrement, h]

/-- The limiter lets a call through when the server refuses the script. -/
theorem checkAndIncrement_of_error {store : Valkey} {now served : ℚ}
    {tenantId modelId : String} {limit estimate : Int} {refusal : Refusal}
    (h : preRequestLua store served (counterKey tenantId modelId "tpm" (windowExpiry now)) limit
      estimate counterTtlSeconds = .error refusal) :
    TokenLimiter.checkAndIncrement .up store now served tenantId modelId limit estimate =
      (⟨true, if limit > 0 then limit else -1, estimate, windowExpiry now - ⌊now⌋⟩, store) := by
  simp only [TokenLimiter.checkAndIncrement, SocketValkeyCounterClient.checkAndIncrement, h]

/-- A call the script would count is let through, counted or not. -/
theorem checkAndIncrement_of_count {store : Valkey} {now served : ℚ}
    {tenantId modelId : String} {limit estimate : Int}
    (h : preRequestLua store served (counterKey tenantId modelId "tpm" (windowExpiry now)) limit
      estimate counterTtlSeconds = countEstimate store served
        (counterKey tenantId modelId "tpm" (windowExpiry now)) (Lua.number estimate)
        counterTtlSeconds) :
    (TokenLimiter.checkAndIncrement .up store now served tenantId modelId limit
      estimate).1.allowed = true := by
  rw [countEstimate] at h
  cases hincr : store.incrBy served (counterKey tenantId modelId "tpm" (windowExpiry now))
      (Lua.number estimate) with
  | error refusal =>
    rw [hincr] at h
    rw [checkAndIncrement_of_error h]
  | ok counted =>
    rw [hincr] at h
    rw [checkAndIncrement_of_ok h]
    rfl

/-- **An admission**, where the counter and the estimate are in range: the call is rejected and
    nothing moves, or it is let through and its estimate is on the counter. -/
theorem checkAndIncrement_cases {store : Valkey} {now served : ℚ} {tenantId modelId : String}
    {estimate : Nat} {old : Cell} (limit : Int)
    (hold : (store.live served (counterKey tenantId modelId "tpm" (windowExpiry now))).getD
      ⟨0, none⟩ = old)
    (hsmall : estimate < 2 ^ 53) (hnonneg : 0 ≤ old.value)
    (hroom : old.value + estimate < 2 ^ 63) :
    (∃ result : RateLimitResult, result.allowed = false ∧
      TokenLimiter.checkAndIncrement .up store now served tenantId modelId limit estimate =
        (result, store)) ∨
    ∃ (result : RateLimitResult) (deadline : Option ℚ), result.allowed = true ∧
      TokenLimiter.checkAndIncrement .up store now served tenantId modelId limit estimate =
        (result, store.put (counterKey tenantId modelId "tpm" (windowExpiry now))
          ⟨old.value + estimate, deadline⟩) ∧
      (deadline = some (served + counterTtlSeconds) ∨
        (store.live served (counterKey tenantId modelId "tpm" (windowExpiry now)) = some old ∧
          deadline = old.deadline)) := by
  rcases preRequestLua_cases store served (counterKey tenantId modelId "tpm" (windowExpiry now))
    limit estimate counterTtlSeconds with ⟨_, _, _, _, hlua⟩ | ⟨_, hlua⟩
  · exact Or.inl ⟨_, rfl, checkAndIncrement_of_ok hlua⟩
  · obtain ⟨deadline, hcount, hdeadline⟩ := countEstimate_eq counterTtlSeconds
      hold (Lua.number_of_lt (by omega) (by omega)) hnonneg hroom
    exact Or.inr ⟨_, deadline, rfl, checkAndIncrement_of_ok (hlua.trans hcount), hdeadline⟩

/-- A rejected call leaves the store as it was, whatever the link. -/
theorem checkAndIncrement_rejected {link : Link} {store : Valkey} {now served : ℚ}
    {tenantId modelId : String} {limit estimate : Int}
    (h : (TokenLimiter.checkAndIncrement link store now served tenantId modelId limit
      estimate).1.allowed = false) :
    (TokenLimiter.checkAndIncrement link store now served tenantId modelId limit estimate).2 =
      store := by
  cases link with
  | absent => rfl
  | down => rfl
  | up =>
    rcases preRequestLua_cases store served
      (counterKey tenantId modelId "tpm" (windowExpiry now)) limit estimate counterTtlSeconds with
      ⟨current, _, _, _, hlua⟩ | ⟨_, hlua⟩
    · rw [checkAndIncrement_of_ok hlua]
    · rw [checkAndIncrement_of_count hlua] at h
      exact absurd h (by simp)

/-- A correction that is applied adds the difference to the counter of the current window. -/
theorem correctUsage_cases (store : Valkey) (now served : ℚ) (tenantId modelId : String)
    (estimate actual : Int) :
    (TokenLimiter.correctUsage .up store now served tenantId modelId estimate actual).2 = store ∨
    ∃ value store', actual ≠ estimate ∧
      store.incrBy served (counterKey tenantId modelId "tpm" (windowExpiry now))
        (actual - estimate) = .ok (value, store') ∧
      (TokenLimiter.correctUsage .up store now served tenantId modelId estimate actual).2 =
        store' := by
  by_cases hdiff : actual - estimate = 0
  · left
    simp only [TokenLimiter.correctUsage, SocketValkeyCounterClient.correctUsage, hdiff, if_true]
  · cases hincr : store.incrBy served (counterKey tenantId modelId "tpm" (windowExpiry now))
        (actual - estimate) with
    | error refusal =>
      left
      simp only [TokenLimiter.correctUsage, SocketValkeyCounterClient.correctUsage, hdiff,
        if_false, hincr]
    | ok counted =>
      obtain ⟨value, store'⟩ := counted
      refine Or.inr ⟨value, store', by omega, rfl, ?_⟩
      simp only [TokenLimiter.correctUsage, SocketValkeyCounterClient.correctUsage, hdiff,
        if_false, hincr]

/-- A correction within the range of the server is applied to a counter that is there. -/
theorem correctUsage_of_live {store : Valkey} {now served : ℚ} {tenantId modelId : String}
    {estimate actual : Int} {cell : Cell}
    (hlive : store.live served (counterKey tenantId modelId "tpm" (windowExpiry now)) = some cell)
    (hdiff : inRange (actual - estimate) = true)
    (hvalue : inRange (cell.value + (actual - estimate)) = true) :
    (TokenLimiter.correctUsage .up store now served tenantId modelId estimate actual).2
        (counterKey tenantId modelId "tpm" (windowExpiry now)) =
      some ⟨cell.value + (actual - estimate), cell.deadline⟩ := by
  by_cases hzero : actual - estimate = 0
  · simp only [TokenLimiter.correctUsage, SocketValkeyCounterClient.correctUsage, hzero, if_true,
      Int.add_zero]
    exact (Store.live_eq_some.mp hlive).1
  · have hincr := Store.incrBy_of_inRange _ (by rw [hlive, Option.getD_some]) hdiff hvalue
    simp only [TokenLimiter.correctUsage, SocketValkeyCounterClient.correctUsage, hzero, if_false,
      hincr]
    exact Store.put_self ..

/-- `INCRBY` and `EXPIRE` leave the store alone, or leave the counter with its value, plus the
    amount where that was counted, and a deadline `seconds` away. -/
theorem incrExpire_cases (store : Valkey) (served : ℚ) (key : String) (amount : Int)
    (seconds : Nat) :
    (incrExpire store served key amount seconds).2 = store ∨
    ∃ value, (incrExpire store served key amount seconds).2 =
        store.put key ⟨value, some (served + seconds)⟩ ∧
      ((∃ old, store.live served key = some old ∧ value = old.value) ∨
        value = ((store.live served key).getD ⟨0, none⟩).value + amount) := by
  cases hincr : store.incrBy served key amount with
  | error refusal =>
    simp only [incrExpire, hincr]
    cases hlive : store.live served key with
    | none =>
      left
      rw [Store.expire, hlive]
    | some old =>
      right
      exact ⟨old.value, Store.expire_of_live hlive, Or.inl ⟨old, rfl, rfl⟩⟩
  | ok counted =>
    obtain ⟨value, store'⟩ := counted
    obtain ⟨old, hold, rfl, rfl⟩ := Store.incrBy_ok hincr
    simp only [incrExpire, hincr]
    have halive : (⟨old.value + amount, old.deadline⟩ : Cell).aliveAt served = true := by
      rcases hold with hold | ⟨_, rfl⟩
      · exact (Store.live_eq_some.mp hold).2
      · rfl
    rw [Store.expire_of_live (Store.live_eq_some.mpr ⟨Store.put_self .., halive⟩), Store.put_put]
    refine Or.inr ⟨_, rfl, Or.inr ?_⟩
    rcases hold with hold | ⟨hnone, rfl⟩
    · rw [hold, Option.getD_some]
    · rw [hnone, Option.getD_none]

/-- A transaction is its two increments, one after the other. -/
theorem incrementWindows_store (store : Valkey) (served : ℚ) (actualKey : String)
    (actualTokens : Int) (estimatedKey : String) (estimatedTokens : Int) (ttlSeconds : Nat) :
    (SocketValkeyCounterClient.incrementWindows store served actualKey actualTokens estimatedKey
      estimatedTokens ttlSeconds).2 =
      (incrExpire (incrExpire store served actualKey actualTokens ttlSeconds).2 served estimatedKey
        estimatedTokens ttlSeconds).2 := by
  simp only [SocketValkeyCounterClient.incrementWindows]
  split <;> rfl

theorem recordLogOnlyTpm_store (store : Valkey) (now served : ℚ) (tenantContext : TenantContext)
    (agent : AgentRecord) (actualTokens estimatedTokens : Int) (modelId : Option String) :
    (recordLogOnlyTpm .up store now served tenantContext agent actualTokens estimatedTokens
      modelId).2 =
      (SocketValkeyCounterClient.incrementWindows store served
        (counterKey tenantContext.tenantId (metricModelId modelId agent) "tpm" (windowExpiry now))
        (max 0 actualTokens)
        (counterKey tenantContext.tenantId (metricModelId modelId agent) "tpm_estimated"
          (windowExpiry now))
        (max 0 estimatedTokens) counterTtlSeconds).2 := by
  simp only [recordLogOnlyTpm]
  split <;> rename_i heq <;> rw [heq]

end A5cCell.Bridge
