import A5cCell.Lib.History
import A5cCell.Lib.Runs

/-!
# Programs that share their services

Any number of programs run over the same services, one call at a time and in any order. What a
program may rely on is what its own calls were answered; what the services hold may have changed
since.

What a program does (`Prog.Traced`) is kept by every move (`WellTraced.step`), so what calls that meet
`P` preserve, under a condition on the moment they are made, holds at every moment of every
interleaving whose moments meet the condition (`inv_of_mem_trace`).
-/

namespace Interleaving

variable {ε : Type} {ρ : ε → Type} {χ α κ σ : Type}

/-- A request being handled: what its calls were answered, and what is left to do. -/
structure Thread (ε : Type) (ρ : ε → Type) (χ α κ : Type) where
  request : κ
  past : List (Answered ε ρ)
  rest : Prog ε ρ χ α

/-- The services, and the requests that were started. -/
structure Pool (σ ε : Type) (ρ : ε → Type) (χ α κ : Type) where
  services : σ
  threads : List (Thread ε ρ χ α κ)

/-- The scheduler starts a request, or lets one make its next call. -/
inductive Move (κ : Type) where
  | start (request : κ)
  | advance (thread : Nat)

variable (program : κ → Prog ε ρ χ α) (serve : σ → (e : ε) → ρ e × σ)

/-- The thread after its next call is answered. -/
def Thread.answered (thread : Thread ε ρ χ α κ) (e : ε) (next : ρ e → Prog ε ρ χ α)
    (answer : ρ e) : Thread ε ρ χ α κ :=
  { thread with past := ⟨e, answer⟩ :: thread.past, rest := next answer }

/-- One move, and the call that was made in it. -/
def step (pool : Pool σ ε ρ χ α κ) : Move κ → Pool σ ε ρ χ α κ × Option (Answered ε ρ)
  | .start request =>
      ({ pool with threads := pool.threads ++ [⟨request, [], program request⟩] }, none)
  | .advance i => match pool.threads[i]? with
    | none => (pool, none)
    | some thread => match thread.rest with
      | .ret _ => (pool, none)
      | .raise _ => (pool, none)
      | .call e next =>
          let served := serve pool.services e
          (⟨served.2, pool.threads.set i (thread.answered e next served.1)⟩, some ⟨e, served.1⟩)

/-- The pool before any request. -/
def Pool.initial (services : σ) : Pool σ ε ρ χ α κ := ⟨services, []⟩

/-- The thread's next call is `e`. -/
structure Calls (pool : Pool σ ε ρ χ α κ) (i : Nat) (thread : Thread ε ρ χ α κ) (e : ε)
    (next : ρ e → Prog ε ρ χ α) : Prop where
  running : pool.threads[i]? = some thread
  next_call : thread.rest = .call e next

/-- **What a move does**: nothing, or it starts a request, or a thread's call is answered. -/
theorem step_cases (pool : Pool σ ε ρ χ α κ) (move : Move κ) :
    step program serve pool move = (pool, none) ∨
    (∃ request, move = .start request ∧ step program serve pool move =
      ({ pool with threads := pool.threads ++ [⟨request, [], program request⟩] }, none)) ∨
    ∃ i thread e next, move = .advance i ∧ Calls pool i thread e next ∧
      step program serve pool move =
        (⟨(serve pool.services e).2,
          pool.threads.set i (thread.answered e next (serve pool.services e).1)⟩,
          some ⟨e, (serve pool.services e).1⟩) := by
  cases move with
  | start request => exact .inr (.inl ⟨request, rfl, rfl⟩)
  | advance i =>
    cases hthread : pool.threads[i]? with
    | none => exact .inl (by simp only [step, hthread])
    | some thread =>
      cases hrest : thread.rest with
      | ret a => exact .inl (by simp only [step, hthread, hrest])
      | raise x => exact .inl (by simp only [step, hthread, hrest])
      | call e next =>
        exact .inr (.inr ⟨i, thread, e, next, rfl, ⟨hthread, hrest⟩,
          by simp only [step, hthread, hrest]⟩)

section

variable {threads : List (Thread ε ρ χ α κ)} {i j : Nat} {new thread : Thread ε ρ χ α κ}

/-- A thread of those after a start is one there was, or the new one. -/
theorem getElem?_started (h : (threads ++ [new])[i]? = some thread) :
    threads[i]? = some thread ∨ thread = new := by
  rw [List.getElem?_append] at h
  split at h
  · exact .inl h
  · exact .inr (List.mem_singleton.mp (List.mem_of_getElem? h))

/-- A thread of those after a call is another, as it was, or the one that called. -/
theorem getElem?_answered (h : (threads.set i new)[j]? = some thread) :
    (j ≠ i ∧ threads[j]? = some thread) ∨ (j = i ∧ thread = new) := by
  by_cases hij : i = j
  · subst hij
    refine .inr ⟨rfl, ?_⟩
    rw [List.getElem?_set, if_pos rfl] at h
    split at h
    · exact (Option.some.inj h).symm
    · cases h
  · rw [List.getElem?_set_ne hij] at h
    exact .inl ⟨Ne.symm hij, h⟩

end

/-! ## What the threads keep -/

variable {program serve} {pool : Pool σ ε ρ χ α κ} {P : κ → List (Answered ε ρ) → ε → Prop}
  {Q : κ → List (Answered ε ρ) → Except χ α → Prop}

/-- Every thread does what its request's program does. -/
def WellTraced (P : κ → List (Answered ε ρ) → ε → Prop)
    (Q : κ → List (Answered ε ρ) → Except χ α → Prop) (pool : Pool σ ε ρ χ α κ) : Prop :=
  ∀ thread ∈ pool.threads, Prog.Traced (P thread.request) (Q thread.request) thread.past thread.rest

/-- What is asked of a move: of the request it starts, or of the call it makes. -/
def Meets (Starts : κ → Prop) (Cond : κ → List (Answered ε ρ) → ε → σ → Prop)
    (pool : Pool σ ε ρ χ α κ) : Move κ → Prop
  | .start request => Starts request
  | .advance i => ∀ thread e next, Calls pool i thread e next →
      Cond thread.request thread.past e pool.services

variable {Starts : κ → Prop} {Cond : κ → List (Answered ε ρ) → ε → σ → Prop}

theorem meets_trivial (pool : Pool σ ε ρ χ α κ) (move : Move κ) :
    Meets (fun _ => True) (fun _ _ _ _ => True) pool move := by
  cases move with
  | start request => trivial
  | advance i => exact fun _ _ _ _ => trivial

/-- A thread's next call meets what its program's calls meet. -/
theorem WellTraced.call (h : WellTraced P Q pool) {i : Nat} {thread : Thread ε ρ χ α κ} {e : ε}
    {next : ρ e → Prog ε ρ χ α} (hcalls : Calls pool i thread e next) :
    P thread.request thread.past e ∧ ∀ answer, Prog.Traced (P thread.request) (Q thread.request)
      (⟨e, answer⟩ :: thread.past) (next answer) := by
  have hthread := h thread (List.mem_of_getElem? hcalls.running)
  rwa [hcalls.next_call] at hthread

theorem wellTraced_initial (services : σ) :
    WellTraced P Q (Pool.initial services : Pool σ ε ρ χ α κ) := fun _ hmem => by cases hmem

/-- Every move keeps the threads at what their programs do. -/
theorem WellTraced.step (hprogram : ∀ request, Starts request →
      Prog.Traced (P request) (Q request) [] (program request))
    (h : WellTraced P Q pool) {move : Move κ} (hmove : Meets Starts Cond pool move) :
    WellTraced P Q (step program serve pool move).1 := by
  rcases step_cases program serve pool move with
    hstep | ⟨request, rfl, hstep⟩ | ⟨i, thread, e, next, rfl, hcalls, hstep⟩
  · rw [hstep]
    exact h
  · rw [hstep]
    intro thread hthread
    rcases List.mem_append.mp hthread with hold | hnew
    · exact h thread hold
    · rw [List.mem_singleton.mp hnew]
      exact hprogram request hmove
  · rw [hstep]
    intro other hother
    rcases List.mem_or_eq_of_mem_set hother with hold | rfl
    · exact h other hold
    · exact (h.call hcalls).2 _

/-- **The invariant rule.** What holds at the start, and what every move that meets the condition
    keeps, of pools whose threads do what their programs do, holds at every moment of a run whose
    moves all meet the condition. -/
theorem inv_of_mem_trace (Inv : Pool σ ε ρ χ α κ → Prop)
    (hprogram : ∀ request, Starts request →
      Prog.Traced (P request) (Q request) [] (program request))
    (hstart : ∀ pool request, WellTraced P Q pool → Starts request → Inv pool →
      Inv { pool with threads := pool.threads ++ [⟨request, [], program request⟩] })
    (hadvance : ∀ (pool : Pool σ ε ρ χ α κ) i thread e next, WellTraced P Q pool →
      Calls pool i thread e next → P thread.request thread.past e →
      Cond thread.request thread.past e pool.services → Inv pool →
      Inv ⟨(serve pool.services e).2,
        pool.threads.set i (thread.answered e next (serve pool.services e).1)⟩)
    {moves : List (Move κ)} (hpool : WellTraced P Q pool) (hinv : Inv pool)
    (hok : ∀ m ∈ Runs.trace (step program serve) pool moves, Meets Starts Cond m.before m.event) :
    (∀ m ∈ Runs.trace (step program serve) pool moves, WellTraced P Q m.before ∧ Inv m.before) ∧
      WellTraced P Q (Runs.final (step program serve) pool moves) ∧
      Inv (Runs.final (step program serve) pool moves) := by
  have hstep : ∀ pool move, WellTraced P Q pool ∧ Inv pool → Meets Starts Cond pool move →
      WellTraced P Q (step program serve pool move).1 ∧ Inv (step program serve pool move).1 := by
    intro pool move h hmove
    refine ⟨h.1.step hprogram hmove, ?_⟩
    rcases step_cases program serve pool move with
      hstep | ⟨request, rfl, hstep⟩ | ⟨i, thread, e, next, rfl, hcalls, hstep⟩
    · rw [hstep]
      exact h.2
    · rw [hstep]
      exact hstart pool request h.1 hmove h.2
    · rw [hstep]
      exact hadvance pool i thread e next h.1 hcalls (h.1.call hcalls).1
        (hmove thread e next hcalls) h.2
  exact ⟨Runs.inv_of_mem_trace hstep ⟨hpool, hinv⟩ hok, Runs.inv_final hstep ⟨hpool, hinv⟩ hok⟩

/-- The invariant rule, of runs nothing is asked of. -/
theorem inv_run (Inv : Pool σ ε ρ χ α κ → Prop)
    (hprogram : ∀ request, Prog.Traced (P request) (Q request) [] (program request))
    (hstart : ∀ pool request, WellTraced P Q pool → Inv pool →
      Inv { pool with threads := pool.threads ++ [⟨request, [], program request⟩] })
    (hadvance : ∀ (pool : Pool σ ε ρ χ α κ) i thread e next, WellTraced P Q pool →
      Calls pool i thread e next → P thread.request thread.past e → Inv pool →
      Inv ⟨(serve pool.services e).2,
        pool.threads.set i (thread.answered e next (serve pool.services e).1)⟩)
    (hpool : WellTraced P Q pool) (hinv : Inv pool) (moves : List (Move κ)) :
    (∀ m ∈ Runs.trace (step program serve) pool moves, WellTraced P Q m.before ∧ Inv m.before) ∧
      WellTraced P Q (Runs.final (step program serve) pool moves) ∧
      Inv (Runs.final (step program serve) pool moves) := by
  exact inv_of_mem_trace Inv (fun request _ => hprogram request)
    (fun pool request hpool _ => hstart pool request hpool)
    (fun pool i thread e next hpool hcalls hcall _ => hadvance pool i thread e next hpool hcalls hcall)
    hpool hinv fun m _ => meets_trivial m.before m.event

/-- Where every program does what it is to do, every thread of every run does, at every moment. -/
theorem wellTraced_run (hprogram : ∀ request, Prog.Traced (P request) (Q request) []
    (program request)) (services : σ) (moves : List (Move κ)) :
    (∀ m ∈ Runs.trace (step program serve) (Pool.initial services) moves, WellTraced P Q m.before) ∧
      WellTraced P Q (Runs.final (step program serve) (Pool.initial services) moves) := by
  have hrun : (∀ m ∈ Runs.trace (step program serve) (Pool.initial services) moves,
      WellTraced P Q m.before ∧ True) ∧
      WellTraced P Q (Runs.final (step program serve) (Pool.initial services) moves) ∧ True :=
    inv_run (fun _ => True) hprogram (fun _ _ _ _ => trivial)
      (fun _ _ _ _ _ _ _ _ _ => trivial) (wellTraced_initial services) trivial moves
  exact ⟨fun m hm => (hrun.1 m hm).1, hrun.2.1⟩

/-! ## What the services keep -/

/-- The services are as `Inv` says, and all that the threads were answered is as `K` says. -/
structure Kept (Inv : σ → Prop) (K : Answered ε ρ → Prop) (pool : Pool σ ε ρ χ α κ) : Prop where
  services : Inv pool.services
  past : ∀ thread ∈ pool.threads, ∀ answered ∈ thread.past, K answered

/-- **The rule of the services.** What every call keeps of the services, and what these then answer,
    holds of the services, and of all that was answered, at every moment of every run. -/
theorem kept_run (Inv : σ → Prop) (K : Answered ε ρ → Prop)
    (hprogram : ∀ request, Prog.Traced (P request) (Q request) [] (program request))
    (hcall : ∀ request past e services, P request past e → Inv services →
      Inv (serve services e).2 ∧ K ⟨e, (serve services e).1⟩)
    {services : σ} (hservices : Inv services) (moves : List (Move κ)) :
    (∀ m ∈ Runs.trace (step program serve) (Pool.initial services) moves,
      WellTraced P Q m.before ∧ Kept Inv K m.before) ∧
      WellTraced P Q (Runs.final (step program serve) (Pool.initial services) moves) ∧
      Kept Inv K (Runs.final (step program serve) (Pool.initial services) moves) := by
  refine inv_run (Kept Inv K) hprogram ?_ ?_ (wellTraced_initial services)
    ⟨hservices, fun _ hmem => nomatch hmem⟩ moves
  · intro pool request _ hkept
    refine ⟨hkept.services, fun thread hthread => ?_⟩
    rcases List.mem_append.mp hthread with hold | hnew
    · exact hkept.past thread hold
    · rw [List.mem_singleton.mp hnew]
      exact fun _ hmem => nomatch hmem
  · intro pool i thread e next _ hcalls hmeets hkept
    obtain ⟨hinv, hanswer⟩ := hcall _ _ e pool.services hmeets hkept.services
    refine ⟨hinv, fun other hother => ?_⟩
    rcases List.mem_or_eq_of_mem_set hother with hold | rfl
    · exact hkept.past other hold
    · rintro answered (_ | ⟨_, hearlier⟩)
      · exact hanswer
      · exact hkept.past thread (List.mem_of_getElem? hcalls.running) answered hearlier

/-- **The accounting rule of the services.** Where every call moves a measure of the services by what
    the call and its answer are charged, a run moves it by the sum of the charges. -/
theorem measure_run {M : Type} [AddMonoid M] (Inv : σ → Prop) (μ : σ → M) (charge : Answered ε ρ → M)
    (hprogram : ∀ request, Prog.Traced (P request) (Q request) [] (program request))
    (hcall : ∀ request past e services, P request past e → Inv services →
      Inv (serve services e).2 ∧ μ (serve services e).2 = μ services + charge ⟨e, (serve services e).1⟩)
    {services : σ} (hservices : Inv services) (moves : List (Move κ)) :
    Inv (Runs.final (step program serve) (Pool.initial services) moves).services ∧
    μ (Runs.final (step program serve) (Pool.initial services) moves).services = μ services +
      ((Runs.trace (step program serve) (Pool.initial services) moves).map fun m =>
        m.response.elim 0 charge).sum := by
  have hmove (pool : Pool σ ε ρ χ α κ) (move : Move κ)
      (h : WellTraced P Q pool ∧ Inv pool.services) (_ : True) :
      (WellTraced P Q (step program serve pool move).1 ∧
        Inv (step program serve pool move).1.services) ∧
      μ (step program serve pool move).1.services =
        μ pool.services + (step program serve pool move).2.elim 0 charge := by
    obtain ⟨hpool, hinv⟩ := h
    have hnext : WellTraced P Q (step program serve pool move).1 :=
      hpool.step (fun request _ => hprogram request) (meets_trivial pool move)
    rcases step_cases program serve pool move with
      hstep | ⟨request, rfl, hstep⟩ | ⟨i, thread, e, next, rfl, hcalls, hstep⟩
    · rw [hstep] at hnext ⊢
      exact ⟨⟨hnext, hinv⟩, (add_zero _).symm⟩
    · rw [hstep] at hnext ⊢
      exact ⟨⟨hnext, hinv⟩, (add_zero _).symm⟩
    · rw [hstep] at hnext ⊢
      obtain ⟨hinv', hμ⟩ := hcall _ _ e pool.services (hpool.call hcalls).1 hinv
      exact ⟨⟨hnext, hinv'⟩, hμ⟩
  have hinitial : WellTraced P Q (Pool.initial services : Pool σ ε ρ χ α κ) ∧ Inv services :=
    ⟨wellTraced_initial services, hservices⟩
  exact ⟨(Runs.inv_final (fun pool move h hG => (hmove pool move h hG).1) hinitial
      fun _ _ => trivial).2,
    @Runs.measure_final _ _ _ _ M _ _ _ (fun pool : Pool σ ε ρ χ α κ => μ pool.services) _ hmove _ _
      hinitial fun _ _ => trivial⟩

end Interleaving
