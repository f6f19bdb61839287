import A5cCell.Lib.Runs
import A5cCell.Bridge.TpmLimiter

/-!
# The TPM limit over a window

What any number of clients do to one counter in one window is a sequence of `Call`s, since each
takes effect in one script. `admitCall` is one call as a step of the store, and a run of it is an
interleaving.

The script compares with the limit only where the counter is already there, so the call that
creates the counter is let through whatever it asks for. For a limit below `2 ^ 53` that call is
the whole story: the limit holds over a run exactly when no call that found the counter missing
asked for more than the limit. From there on the script's numbers are doubles that may lose what
they compare and count, and the limit holds over a run whose calls lose nothing (`Call.Sound`).
-/

namespace A5cCell.Bridge

open Counter Runs

/-- A client's `check_and_increment`: its clock, the server's clock when the script runs, and the
    estimate. -/
structure Call where
  now : ℚ
  served : ℚ
  estimate : ℕ

/-- Both clock readings fall in the window that ends at `w`. -/
def Call.InWindow (w : Int) (c : Call) : Prop := windowExpiry c.now = w ∧ windowExpiry c.served = w

instance (w : Int) (c : Call) : Decidable (c.InWindow w) :=
  inferInstanceAs (Decidable (_ ∧ _))

/-- One call on the counter of a tenant and model. -/
def admitCall (tenantId modelId : String) (limit : Int) (store : Valkey) (c : Call) :
    Valkey × RateLimitResult :=
  (TokenLimiter.checkAndIncrement .up store c.now c.served tenantId modelId limit c.estimate).swap

/-- The estimate of a call that was let through, and nothing for a rejected one. -/
def admittedEstimate (m : Moment Valkey Call RateLimitResult) : Int :=
  if m.response.allowed then m.event.estimate else 0

/-- The estimates a run admitted, summed. -/
def sumAdmitted (tenantId modelId : String) (limit : Int) (store : Valkey) (calls : List Call) :
    Int :=
  ((trace (admitCall tenantId modelId limit) store calls).map admittedEstimate).sum

/-- Every rejected call of a run left the store as it found it. -/
def RejectedUnchanged (tenantId modelId : String) (limit : Int) (store : Valkey)
    (calls : List Call) : Prop :=
  ∀ m ∈ trace (admitCall tenantId modelId limit) store calls, m.response.allowed = false →
    (admitCall tenantId modelId limit m.before m.event).1 = m.before

theorem rejected_unchanged (tenantId modelId : String) (limit : Int) (store : Valkey)
    (calls : List Call) : RejectedUnchanged tenantId modelId limit store calls := by
  intro m hm hrejected
  rw [response_of_mem_trace hm] at hrejected
  exact checkAndIncrement_rejected hrejected

/-! ## The counter over a window

`CounterWithin w limit` is the invariant: the counter, if it is there, holds between zero and the
limit and outlives the window. -/

structure Within (w limit : Int) (cell : Cell) : Prop where
  nonneg : 0 ≤ cell.value
  le : cell.value ≤ limit
  deadline : ∃ d, cell.deadline = some d ∧ (w : ℚ) ≤ d

def CounterWithin (key : String) (w limit : Int) (store : Valkey) : Prop :=
  ∀ cell, store key = some cell → Within w limit cell

/-- Inside the window, a counter within the invariant has not expired. -/
theorem CounterWithin.live {key : String} {w limit : Int} {store : Valkey} {served : ℚ}
    (h : CounterWithin key w limit store) (hserved : windowExpiry served = w) :
    store.live served key = store key := by
  exact Store.live_of_lasting (fun cell hcell => (h cell hcell).deadline)
    (hserved ▸ lt_windowExpiry served)

/-- An absent counter admits, whatever is asked for. -/
theorem admitCall_of_absent {tenantId modelId : String} {limit : Int} {store : Valkey} {c : Call}
    (h : store.get? c.served (counterKey tenantId modelId "tpm" (windowExpiry c.now)) = none) :
    (admitCall tenantId modelId limit store c).2.allowed = true := by
  rcases preRequestLua_cases store c.served
    (counterKey tenantId modelId "tpm" (windowExpiry c.now)) limit c.estimate counterTtlSeconds with
    ⟨current, hcurrent, _, _, _⟩ | ⟨_, hlua⟩
  · exact absurd (h.symm.trans hcurrent) (by simp)
  · exact checkAndIncrement_of_count hlua

/-- The script's comparison: the estimate does not fit on the counter. -/
def Exceeds (limit current estimate : Int) : Prop :=
  Lua.number limit < Lua.number (Lua.number current + Lua.number estimate)

/-- A call of which the script loses nothing: a missing counter is asked for no more than the
    limit, no rounding hides an excess, and what is let through is counted as it is. -/
structure Call.Sound (key : String) (limit : Int) (store : Valkey) (c : Call) : Prop where
  first : store.get? c.served key = none → (c.estimate : Int) ≤ limit
  compared : ∀ current, store.get? c.served key = some current →
    limit < current + c.estimate → Exceeds limit current c.estimate
  counted : (∀ current, store.get? c.served key = some current →
      ¬ Exceeds limit current c.estimate) →
    Lua.number c.estimate = c.estimate ∧
      (store.get? c.served key).getD 0 + c.estimate < 2 ^ 63

/-- **One call.** A sound call keeps the counter within the limit, and moves it by what it
    admits. -/
theorem admitCall_step {tenantId modelId : String} {limit w : Int} (hpos : 0 < limit)
    {store : Valkey} {c : Call} (hwindow : c.InWindow w)
    (hinv : CounterWithin (counterKey tenantId modelId "tpm" w) w limit store)
    (hsound : c.Sound (counterKey tenantId modelId "tpm" w) limit store) :
    CounterWithin (counterKey tenantId modelId "tpm" w) w limit
        (admitCall tenantId modelId limit store c).1 ∧
      counterValue (counterKey tenantId modelId "tpm" w) (admitCall tenantId modelId limit store c).1 =
        counterValue (counterKey tenantId modelId "tpm" w) store +
          admittedEstimate ⟨store, c, (admitCall tenantId modelId limit store c).2⟩ := by
  obtain ⟨hnow, hserved⟩ := hwindow
  have hlive := hinv.live hserved
  set key := counterKey tenantId modelId "tpm" w with hkey
  rcases preRequestLua_cases store c.served key limit c.estimate counterTtlSeconds with
    ⟨current, hcurrent, _, _, hlua⟩ | ⟨hfits, hlua⟩
  · -- rejected: nothing moves
    have hstep : admitCall tenantId modelId limit store c =
        (store, ⟨false, if limit > 0 then limit else -1, Lua.number current,
          w - ⌊c.now⌋⟩) := by
      subst hnow
      rw [admitCall, checkAndIncrement_of_ok hlua]
      rfl
    rw [hstep]
    exact ⟨hinv, by simp [admittedEstimate]⟩
  · -- let through: the counter, or zero where it is missing, takes the estimate
    obtain ⟨hexact, hrange⟩ := hsound.counted fun current hcurrent =>
      hfits current hcurrent (Lua.number_pos hpos)
    obtain ⟨old, hold⟩ : ∃ old, (store.live c.served key).getD ⟨0, none⟩ = old := ⟨_, rfl⟩
    have hvalue : counterValue key store = old.value := by
      rw [counterValue, ← hold, hlive]
      cases store key <;> rfl
    have hget : (store.get? c.served key).getD 0 = old.value := by
      rw [← hvalue, counterValue, Store.get?, hlive]
    rw [hget] at hrange
    have hroom : 0 ≤ old.value ∧ old.value + c.estimate ≤ limit := by
      cases hcell : store key with
      | none =>
        rw [hlive, hcell, Option.getD_none] at hold
        have hle := hsound.first (Store.get?_eq_none.mpr (hlive.trans hcell))
        subst hold
        simpa using hle
      | some cell =>
        rw [hlive, hcell, Option.getD_some] at hold
        subst hold
        have hcurrent : store.get? c.served key = some cell.value := by
          rw [Store.get?, hlive, hcell, Option.map_some]
        refine ⟨(hinv cell hcell).nonneg, not_lt.mp fun hexcess => ?_⟩
        exact hfits cell.value hcurrent (Lua.number_pos hpos)
          (hsound.compared cell.value hcurrent hexcess)
    obtain ⟨deadline, hcount, hdeadline⟩ := countEstimate_eq counterTtlSeconds
      hold hexact hroom.1 hrange
    have hstep : admitCall tenantId modelId limit store c =
        (store.put key ⟨old.value + c.estimate, deadline⟩,
          ⟨true, if limit > 0 then limit else -1, Lua.number (old.value + c.estimate),
            w - ⌊c.now⌋⟩) := by
      subst hnow
      rw [admitCall, checkAndIncrement_of_ok (hlua.trans hcount)]
      rfl
    rw [hstep]
    refine ⟨?_, by simp [counterValue, admittedEstimate, hvalue.symm]⟩
    intro cell hcell
    simp only [Store.put_self, Option.some.injEq] at hcell
    subst hcell
    refine ⟨by have := hroom.1; simp only; omega, hroom.2, ?_⟩
    rcases hdeadline with hset | ⟨hold', hkept⟩
    · exact ⟨c.served + counterTtlSeconds, hset, hserved ▸ windowExpiry_le_ttl c.served⟩
    · rw [hlive] at hold'
      simp only [hkept]
      exact (hinv old hold').deadline

/-- Against a limit the script's numbers hold, only a missing counter can be asked for too much. -/
theorem Call.sound_of_first {key : String} {limit w : Int} {store : Valkey} {c : Call}
    (hlimit : limit < 2 ^ 53) (hwindow : c.InWindow w) (hinv : CounterWithin key w limit store)
    (hfirst : store.get? c.served key = none → (c.estimate : Int) ≤ limit) :
    c.Sound key limit store := by
  have hwithin : ∀ current, store.get? c.served key = some current →
      0 ≤ current ∧ current ≤ limit := by
    intro current hcurrent
    rw [Store.get?, hinv.live hwindow.2, Option.map_eq_some_iff] at hcurrent
    obtain ⟨cell, hcell, rfl⟩ := hcurrent
    exact ⟨(hinv cell hcell).nonneg, (hinv cell hcell).le⟩
  have hexceeds : ∀ current, store.get? c.served key = some current →
      (Exceeds limit current c.estimate ↔ limit < current + c.estimate) := by
    intro current hcurrent
    obtain ⟨hnonneg, hle⟩ := hwithin current hcurrent
    have hexact : Lua.number limit = limit := Lua.number_of_lt (by omega) hlimit
    rw [Exceeds, hexact]
    exact Lua.lt_number_add_iff hlimit hnonneg (by omega) (by omega)
  refine ⟨hfirst, fun current hcurrent => (hexceeds current hcurrent).mpr, fun hadmits => ?_⟩
  have hsum : (store.get? c.served key).getD 0 + c.estimate ≤ limit ∧
      0 ≤ (store.get? c.served key).getD 0 := by
    cases hget : store.get? c.served key with
    | none => simpa using hfirst hget
    | some current =>
      have hfits := mt (hexceeds current hget).mpr (hadmits current hget)
      exact ⟨not_lt.mp hfits, (hwithin current hget).1⟩
  exact ⟨Lua.number_of_lt (by omega) (by omega), by omega⟩

/-! ## The limit over a window -/

section

variable {tenantId modelId : String} {limit w : Int} {store : Valkey} {calls : List Call}

variable (limit) in
theorem counterWithin_of_fresh (hfresh : store (counterKey tenantId modelId "tpm" w) = none) :
    CounterWithin (counterKey tenantId modelId "tpm" w) w limit store := by
  intro cell hcell
  exact absurd (hfresh.symm.trans hcell) (by simp)

/-- A run of sound calls admits no more than the limit. -/
theorem sumAdmitted_le (hpos : 0 < limit)
    (hfresh : store (counterKey tenantId modelId "tpm" w) = none)
    (hok : ∀ m ∈ trace (admitCall tenantId modelId limit) store calls, m.event.InWindow w ∧
      m.event.Sound (counterKey tenantId modelId "tpm" w) limit m.before) :
    sumAdmitted tenantId modelId limit store calls ≤ limit := by
  let Ok (s : Valkey) (c : Call) : Prop :=
    c.InWindow w ∧ c.Sound (counterKey tenantId modelId "tpm" w) limit s
  have hok : ∀ m ∈ trace (admitCall tenantId modelId limit) store calls, Ok m.before m.event := hok
  have hstep : ∀ s c, CounterWithin (counterKey tenantId modelId "tpm" w) w limit s → Ok s c → _ :=
    fun s c hinv hok => admitCall_step hpos hok.1 hinv hok.2
  have hstart := counterWithin_of_fresh limit hfresh
  have hfinal := inv_final (fun s c hinv hok => (hstep s c hinv hok).1) hstart hok
  have hmeasure := measure_final hstep hstart hok
  have hzero : counterValue (counterKey tenantId modelId "tpm" w) store = 0 := by
    rw [counterValue, hfresh]
    rfl
  rw [hzero, Int.zero_add] at hmeasure
  rw [sumAdmitted, ← hmeasure, counterValue]
  cases hcell : final (admitCall tenantId modelId limit) store calls
      (counterKey tenantId modelId "tpm" w) with
  | none => simpa using hpos.le
  | some cell => simpa using (hfinal cell hcell).le

/-- Against a limit below `2 ^ 53`, a run in which no missing counter is asked for too much is a
    run of sound calls. -/
theorem sound_of_first (hpos : 0 < limit) (hlimit : limit < 2 ^ 53)
    (hfresh : store (counterKey tenantId modelId "tpm" w) = none)
    (hfirst : ∀ m ∈ trace (admitCall tenantId modelId limit) store calls, m.event.InWindow w ∧
      (m.before.get? m.event.served (counterKey tenantId modelId "tpm" w) = none →
        (m.event.estimate : Int) ≤ limit)) :
    ∀ m ∈ trace (admitCall tenantId modelId limit) store calls, m.event.InWindow w ∧
      m.event.Sound (counterKey tenantId modelId "tpm" w) limit m.before := by
  let Ok (s : Valkey) (c : Call) : Prop := c.InWindow w ∧
    (s.get? c.served (counterKey tenantId modelId "tpm" w) = none → (c.estimate : Int) ≤ limit)
  have hinv := inv_of_mem_trace (G := Ok)
    (fun s c hinv hok => (admitCall_step hpos hok.1 hinv
      (Call.sound_of_first hlimit hok.1 hinv hok.2)).1)
    (counterWithin_of_fresh limit hfresh) hfirst
  intro m hm
  obtain ⟨hwindow, hle⟩ := hfirst m hm
  exact ⟨hwindow, Call.sound_of_first hlimit hwindow (hinv m hm) hle⟩

/-- An admission that sums to no more than the limit never asked a missing counter for more. -/
theorem first_of_sumAdmitted_le (hwindow : ∀ c ∈ calls, c.InWindow w)
    (hsum : sumAdmitted tenantId modelId limit store calls ≤ limit) :
    ∀ m ∈ trace (admitCall tenantId modelId limit) store calls,
      m.before.get? m.event.served (counterKey tenantId modelId "tpm" w) = none →
        (m.event.estimate : Int) ≤ limit := by
  intro m hm habsent
  -- the call was admitted, so its estimate is part of the sum
  have hnow := (hwindow m.event (event_of_mem_trace hm)).1
  have hallowed : m.response.allowed = true := by
    rw [response_of_mem_trace hm]
    exact admitCall_of_absent (by rw [hnow]; exact habsent)
  have hnonneg : ∀ x ∈ (trace (admitCall tenantId modelId limit) store calls).map admittedEstimate,
      0 ≤ x := by
    intro x hx
    obtain ⟨m', -, rfl⟩ := List.mem_map.mp hx
    rw [admittedEstimate]
    split <;> omega
  have hle := List.single_le_sum hnonneg (admittedEstimate m) (List.mem_map_of_mem hm)
  rw [admittedEstimate, if_pos hallowed] at hle
  exact le_trans hle hsum

end

/-- **The limit over a window.** From a store that holds no counter for the window, the admitted
    estimates of a run of sound calls sum to at most the limit, and every rejected call leaves the
    store alone; and where doubles hold the limit, that is so if and only if no call that found the
    counter missing asked for more. -/
theorem sum_admitted_le_iff {tenantId modelId : String} {limit w : Int} (hpos : 0 < limit)
    {store : Valkey} {calls : List Call}
    (hfresh : store (counterKey tenantId modelId "tpm" w) = none)
    (hwindow : ∀ c ∈ calls, c.InWindow w) :
    ((∀ m ∈ trace (admitCall tenantId modelId limit) store calls,
        m.event.Sound (counterKey tenantId modelId "tpm" w) limit m.before) →
      sumAdmitted tenantId modelId limit store calls ≤ limit ∧
        RejectedUnchanged tenantId modelId limit store calls) ∧
    (limit < 2 ^ 53 →
      ((sumAdmitted tenantId modelId limit store calls ≤ limit ∧
          RejectedUnchanged tenantId modelId limit store calls) ↔
        ∀ m ∈ trace (admitCall tenantId modelId limit) store calls,
          m.before.get? m.event.served (counterKey tenantId modelId "tpm" w) = none →
            (m.event.estimate : Int) ≤ limit)) := by
  have hevents : ∀ m ∈ trace (admitCall tenantId modelId limit) store calls, m.event.InWindow w :=
    fun m hm => hwindow m.event (event_of_mem_trace hm)
  have hrejected := rejected_unchanged tenantId modelId limit store calls
  refine ⟨fun hsound => ⟨?_, hrejected⟩, fun hlimit => ⟨?_, fun hfirst => ⟨?_, hrejected⟩⟩⟩
  · exact sumAdmitted_le hpos hfresh fun m hm => ⟨hevents m hm, hsound m hm⟩
  · rintro ⟨hsum, -⟩
    exact first_of_sumAdmitted_le hwindow hsum
  · exact sumAdmitted_le hpos hfresh
      (sound_of_first hpos hlimit hfresh fun m hm => ⟨hevents m hm, hfirst m hm⟩)

/-- Two calls of one window against a limit of 10: the second does not fit and is rejected. -/
theorem sum_admitted_le_two_calls :
    sumAdmitted "acme" "model" 10 Store.empty [⟨0, 0, 4⟩, ⟨1, 1, 7⟩] ≤ 10 ∧
      RejectedUnchanged "acme" "model" 10 Store.empty [⟨0, 0, 4⟩, ⟨1, 1, 7⟩] :=
  ((sum_admitted_le_iff (w := 60) (by decide) rfl (by decide +kernel)).2 (by decide)).mpr
    (by decide +kernel)

/-- The first call of a window is let through though it asks for more than the limit. -/
theorem first_call_passes_limit :
    (∀ c ∈ [(⟨0, 0, 11⟩ : Call)], c.InWindow 60) ∧
      ¬ (sumAdmitted "acme" "model" 10 Store.empty [⟨0, 0, 11⟩] ≤ 10 ∧
        RejectedUnchanged "acme" "model" 10 Store.empty [⟨0, 0, 11⟩]) :=
  ⟨by decide +kernel, fun h => absurd h.1 (by decide +kernel)⟩

end A5cCell.Bridge
