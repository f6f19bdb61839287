/-!
# Programs that call a service

A program that talks to services is a tree: it returns, raises, or makes a call and goes on with
the answer. What answers is not part of the tree, so a fact about a tree is a fact about every run
of it, whatever the services do.

`Sat P Q` is such a fact: every call meets `P`, and whatever is returned meets `Q`. Two rules carry
it to runs: the calls of a run meet `P` (`run_calls`), and two services that answer the calls that
meet `P` alike give the program the same run (`run_agree`).
-/

/-- A program over calls `ε`, the answers of a call `ρ`, exceptions `χ` and results `α`. -/
inductive Prog (ε : Type) (ρ : ε → Type) (χ α : Type) where
  | ret (a : α)
  | raise (x : χ)
  | call (e : ε) (next : ρ e → Prog ε ρ χ α)

namespace Prog

variable {ε : Type} {ρ : ε → Type} {χ α β : Type}

/-- Run `p`, and `f` on what it returns. -/
def bind (p : Prog ε ρ χ α) (f : α → Prog ε ρ χ β) : Prog ε ρ χ β :=
  match p with
  | ret a => f a
  | raise x => raise x
  | call e next => call e fun answer => (next answer).bind f

instance : Monad (Prog ε ρ χ) where
  pure := ret
  bind := bind

theorem bind_ret (p : Prog ε ρ χ α) : p.bind ret = p := by
  induction p with
  | ret a => rfl
  | raise x => rfl
  | call e next ih => exact congrArg (call e) (funext ih)

theorem bind_assoc {γ : Type} (p : Prog ε ρ χ α) (f : α → Prog ε ρ χ β) (g : β → Prog ε ρ χ γ) :
    (p.bind f).bind g = p.bind fun a => (f a).bind g := by
  induction p with
  | ret a => rfl
  | raise x => rfl
  | call e next ih => exact congrArg (call e) (funext ih)

instance : LawfulMonad (Prog ε ρ χ) :=
  LawfulMonad.mk' _ (fun p => bind_ret p) (fun _ _ => rfl) (fun p f g => bind_assoc p f g)

/-- `try: p except x: handler(x)`. -/
def tryExcept (p : Prog ε ρ χ α) (handler : χ → Prog ε ρ χ α) : Prog ε ρ χ α :=
  match p with
  | ret a => ret a
  | raise x => handler x
  | call e next => call e fun answer => (next answer).tryExcept handler

/-- Run `p`, and keep what it returns or raises as a value. -/
def attempt (p : Prog ε ρ χ α) : Prog ε ρ χ (Except χ α) :=
  (p >>= fun a => ret (.ok a)).tryExcept fun x => ret (.error x)

/-- The same program over other calls and exceptions. -/
def mapCalls {ε' : Type} {ρ' : ε' → Type} {χ' : Type} (f : ε → ε')
    (answer : ∀ e, ρ' (f e) → ρ e) (g : χ → χ') : Prog ε ρ χ α → Prog ε' ρ' χ' α
  | ret a => ret a
  | raise x => raise (g x)
  | call e next => call (f e) fun reply => (next (answer e reply)).mapCalls f answer g

/-! ## What holds of every run -/

/-- Every call meets `P`, and whatever is returned meets `Q`. -/
def Sat (P : ε → Prop) (Q : α → Prop) : Prog ε ρ χ α → Prop
  | ret a => Q a
  | raise _ => True
  | call e next => P e ∧ ∀ answer, (next answer).Sat P Q

section

variable {P : ε → Prop} {Q : α → Prop}

@[simp] theorem sat_ret {a : α} : (ret a : Prog ε ρ χ α).Sat P Q ↔ Q a := Iff.rfl

@[simp] theorem sat_pure {a : α} : (pure a : Prog ε ρ χ α).Sat P Q ↔ Q a := Iff.rfl

@[simp] theorem sat_raise {x : χ} : (raise x : Prog ε ρ χ α).Sat P Q := trivial

@[simp] theorem sat_call {e : ε} {next : ρ e → Prog ε ρ χ α} :
    (call e next).Sat P Q ↔ P e ∧ ∀ answer, (next answer).Sat P Q := Iff.rfl

/-- Nothing is asked of what is returned. -/
theorem Sat.done {a : α} : (pure a : Prog ε ρ χ α).Sat P fun _ => True := trivial

theorem Sat.mono {P' : ε → Prop} {Q' : α → Prop} {p : Prog ε ρ χ α} (hp : p.Sat P Q)
    (hP : ∀ e, P e → P' e) (hQ : ∀ a, Q a → Q' a) : p.Sat P' Q' := by
  induction p with
  | ret a => exact hQ a hp
  | raise x => trivial
  | call e next ih => exact ⟨hP e hp.1, fun answer => ih answer (hp.2 answer)⟩

/-- **Sequencing.** A sequence does what its first part does, and what that returns is what the
    second part goes on from. -/
@[simp] theorem sat_bind {R : β → Prop} {p : Prog ε ρ χ α} {f : α → Prog ε ρ χ β} :
    (p >>= f).Sat P R ↔ p.Sat P fun a => (f a).Sat P R := by
  induction p with
  | ret a => exact Iff.rfl
  | raise x => exact Iff.rfl
  | call e next ih => exact and_congr_right fun _ => forall_congr' fun answer => ih answer

theorem Sat.bind {R : β → Prop} {p : Prog ε ρ χ α} {f : α → Prog ε ρ χ β} (hp : p.Sat P Q)
    (hf : ∀ a, Q a → (f a).Sat P R) : (p >>= f).Sat P R :=
  sat_bind.mpr (hp.mono (fun _ => id) hf)

/-- Sequencing, where the second part goes on from anything. -/
theorem Sat.seq {R : β → Prop} {p : Prog ε ρ χ α} {f : α → Prog ε ρ χ β}
    (hp : p.Sat P fun _ => True) (hf : ∀ a, (f a).Sat P R) : (p >>= f).Sat P R :=
  hp.bind fun a _ => hf a

@[simp] theorem sat_map {R : β → Prop} {p : Prog ε ρ χ α} {f : α → β} :
    (f <$> p).Sat P R ↔ p.Sat P fun a => R (f a) :=
  sat_bind (f := fun a => ret (f a))

theorem Sat.tryExcept {p : Prog ε ρ χ α} {handler : χ → Prog ε ρ χ α} (hp : p.Sat P Q)
    (hhandler : ∀ x, (handler x).Sat P Q) : (p.tryExcept handler).Sat P Q := by
  induction p with
  | ret a => exact hp
  | raise x => exact hhandler x
  | call e next ih => exact ⟨hp.1, fun answer => ih answer (hp.2 answer)⟩

theorem Sat.attempt {p : Prog ε ρ χ α} (hp : p.Sat P Q) :
    p.attempt.Sat P fun result => ∀ a, result = .ok a → Q a := by
  refine Sat.tryExcept (hp.bind fun a ha => ?_) fun x => ?_
  · rintro b ⟨⟩
    exact ha
  · intro a h
    exact absurd h (by simp)

theorem Sat.mapCalls {ε' : Type} {ρ' : ε' → Type} {χ' : Type} {P' : ε' → Prop} {f : ε → ε'}
    {answer : ∀ e, ρ' (f e) → ρ e} {g : χ → χ'} {p : Prog ε ρ χ α}
    (hp : p.Sat (fun e => P' (f e)) Q) : (p.mapCalls f answer g).Sat P' Q := by
  induction p with
  | ret a => exact hp
  | raise x => trivial
  | call e next ih => exact ⟨hp.1, fun reply => ih _ (hp.2 _)⟩

end

/-! ## Runs -/

/-- What a run came to, the state it left the services in, and the calls it made. -/
structure Run (σ ε χ α : Type) where
  outcome : Except χ α
  final : σ
  calls : List ε

variable {σ : Type}

/-- A run of the program with the services in state `s`. -/
def run (serve : σ → (e : ε) → ρ e × σ) (s : σ) : Prog ε ρ χ α → Run σ ε χ α
  | ret a => ⟨.ok a, s, []⟩
  | raise x => ⟨.error x, s, []⟩
  | call e next =>
      let rest := run serve (serve s e).2 (next (serve s e).1)
      { rest with calls := e :: rest.calls }

variable {P : ε → Prop} {Q : α → Prop} {serve : σ → (e : ε) → ρ e × σ}

/-- A sequence goes on from what its first part returns, with the services as that leaves them. -/
theorem run_bind_ok {p : Prog ε ρ χ α} {f : α → Prog ε ρ χ β} {s : σ} {a : α}
    (h : (run serve s p).outcome = .ok a) :
    (run serve s (p >>= f)).outcome = (run serve (run serve s p).final (f a)).outcome ∧
      (run serve s (p >>= f)).final = (run serve (run serve s p).final (f a)).final := by
  induction p generalizing s with
  | ret b =>
    cases h
    exact ⟨rfl, rfl⟩
  | raise x => cases h
  | call e next ih => exact ih _ h

/-- A sequence whose first part raises ends there. -/
theorem run_bind_error {p : Prog ε ρ χ α} {f : α → Prog ε ρ χ β} {s : σ} {x : χ}
    (h : (run serve s p).outcome = .error x) :
    (run serve s (p >>= f)).outcome = .error x ∧
      (run serve s (p >>= f)).final = (run serve s p).final := by
  induction p generalizing s with
  | ret b => cases h
  | raise y =>
    cases h
    exact ⟨rfl, rfl⟩
  | call e next ih => exact ih _ h

/-- What is made of a result without calls is no matter of the services. -/
theorem final_bind_of_pure {p : Prog ε ρ χ α} {f : α → Prog ε ρ χ β} (hf : ∀ a, ∃ b, f a = pure b)
    (s : σ) : (run serve s (p >>= f)).final = (run serve s p).final := by
  induction p generalizing s with
  | ret a =>
    obtain ⟨b, hb⟩ := hf a
    show (run serve s (f a)).final = s
    rw [hb]
    rfl
  | raise x => rfl
  | call e next ih => exact ih _ _

theorem final_bind_pure (p : Prog ε ρ χ α) (f : α → β) (s : σ) :
    (run serve s (p >>= fun a => pure (f a))).final = (run serve s p).final :=
  final_bind_of_pure (fun a => ⟨f a, rfl⟩) s

theorem final_attempt (p : Prog ε ρ χ α) (s : σ) :
    (run serve s p.attempt).final = (run serve s p).final := by
  induction p generalizing s with
  | ret a => rfl
  | raise x => rfl
  | call e next ih => exact ih _ _

/-- What a program returns or raises is the value of its attempt. -/
theorem outcome_run_attempt (p : Prog ε ρ χ α) (s : σ) :
    (run serve s p.attempt).outcome = .ok (run serve s p).outcome := by
  induction p generalizing s with
  | ret a => rfl
  | raise x => rfl
  | call e next ih => exact ih _ _

/-- The calls of a run meet what every call of the program meets. -/
theorem run_calls {p : Prog ε ρ χ α} (hp : p.Sat P Q) (s : σ) : ∀ e ∈ (run serve s p).calls, P e := by
  induction p generalizing s with
  | ret a => intro e he; simp [run] at he
  | raise x => intro e he; simp [run] at he
  | call e next ih =>
    simp only [run, List.forall_mem_cons]
    exact ⟨hp.1, ih _ (hp.2 _) _⟩

/-- **The invariant rule.** What every call that meets `P` preserves, a program whose calls meet `P`
    preserves. -/
theorem run_inv {I : σ → Prop} (hserve : ∀ e, P e → ∀ s, I s → I (serve s e).2)
    {p : Prog ε ρ χ α} (hp : p.Sat P Q) {s : σ} (hs : I s) : I (run serve s p).final := by
  induction p generalizing s with
  | ret a => exact hs
  | raise x => exact hs
  | call e next ih => exact ih _ (hp.2 _) (hserve e hp.1 s hs)

/-- **Two runs.** Where related states of the services answer every call that meets `P` alike, and
    stay related, a program whose calls meet `P` runs alike from related states. -/
theorem run_agree {R : σ → σ → Prop}
    (hserve : ∀ e, P e → ∀ s s', R s s' →
      (serve s e).1 = (serve s' e).1 ∧ R (serve s e).2 (serve s' e).2)
    {p : Prog ε ρ χ α} (hp : p.Sat P Q) {s s' : σ} (hs : R s s') :
    (run serve s p).outcome = (run serve s' p).outcome ∧
      (run serve s p).calls = (run serve s' p).calls ∧
      R (run serve s p).final (run serve s' p).final := by
  induction p generalizing s s' with
  | ret a => exact ⟨rfl, rfl, hs⟩
  | raise x => exact ⟨rfl, rfl, hs⟩
  | call e next ih =>
    obtain ⟨hanswer, hnext⟩ := hserve e hp.1 s s' hs
    simp only [run, hanswer, List.cons.injEq, true_and]
    exact ih _ (hp.2 _) hnext

/-! ## What a run comes to -/

section

variable {s s' s'' : σ} {p : Prog ε ρ χ α} {a : α} {x : χ} {result : Except χ β}

/-- A run from `s` ends with `result`, and leaves the services in `s'`. -/
def ComesTo (serve : σ → (e : ε) → ρ e × σ) (s : σ) (p : Prog ε ρ χ α) (result : Except χ α)
    (s' : σ) : Prop :=
  (run serve s p).outcome = result ∧ (run serve s p).final = s'

theorem comesTo_pure (s : σ) (a : α) :
    ComesTo serve s (pure a : Prog ε ρ χ α) (.ok a) s := ⟨rfl, rfl⟩

theorem comesTo_raise (s : σ) (x : χ) : ComesTo serve s (raise x : Prog ε ρ χ α) (.error x) s :=
  ⟨rfl, rfl⟩

/-- **Sequencing.** -/
theorem ComesTo.bind {f : α → Prog ε ρ χ β} (hp : ComesTo serve s p (.ok a) s')
    (hf : ComesTo serve s' (f a) result s'') : ComesTo serve s (p >>= f) result s'' := by
  obtain ⟨houtcome, hfinal⟩ := run_bind_ok (f := f) hp.1
  rw [hp.2] at houtcome hfinal
  exact ⟨houtcome.trans hf.1, hfinal.trans hf.2⟩

theorem ComesTo.bind_error {f : α → Prog ε ρ χ β} (hp : ComesTo serve s p (.error x) s') :
    ComesTo serve s (p >>= f) (.error x) s' := by
  obtain ⟨houtcome, hfinal⟩ := run_bind_error (f := f) hp.1
  exact ⟨houtcome, hfinal.trans hp.2⟩

theorem ComesTo.attempt {result : Except χ α} (hp : ComesTo serve s p result s') :
    ComesTo serve s p.attempt (.ok result) s' :=
  ⟨(outcome_run_attempt p s).trans (congrArg Except.ok hp.1), (final_attempt p s).trans hp.2⟩

end

/-! ## What a run ends in -/

section

variable {s : σ} {p : Prog ε ρ χ α} {a : α} {x : χ} {Inv : σ → Prop} {Q Q' : α → σ → List ε → Prop}
  {R : β → σ → List ε → Prop}

theorem calls_bind_ok {f : α → Prog ε ρ χ β} (h : (run serve s p).outcome = .ok a) :
    (run serve s (p >>= f)).calls =
      (run serve s p).calls ++ (run serve (run serve s p).final (f a)).calls := by
  induction p generalizing s with
  | ret b =>
    cases h
    rfl
  | raise x => cases h
  | call e next ih => exact congrArg (e :: ·) (ih _ h)

/-- A sequence, run through. -/
theorem run_bind_eq {f : α → Prog ε ρ χ β} {s' s'' : σ} {result : Except χ β} {cs cs' : List ε}
    (hp : run serve s p = ⟨.ok a, s', cs⟩) (hf : run serve s' (f a) = ⟨result, s'', cs'⟩) :
    run serve s (p >>= f) = ⟨result, s'', cs ++ cs'⟩ := by
  have houtcome : (run serve s p).outcome = .ok a := by rw [hp]
  obtain ⟨hresult, hfinal⟩ := run_bind_ok (f := f) houtcome
  have hcalls := calls_bind_ok (f := f) houtcome
  rw [hp, hf] at hresult hfinal hcalls
  rcases hrun : run serve s (p >>= f) with ⟨result', state, calls⟩
  rw [hrun] at hresult hfinal hcalls
  cases hresult
  cases hfinal
  cases hcalls
  rfl

theorem calls_attempt (p : Prog ε ρ χ α) (s : σ) :
    (run serve s p.attempt).calls = (run serve s p).calls := by
  induction p generalizing s with
  | ret a => rfl
  | raise x => rfl
  | call e next ih => exact congrArg (e :: ·) (ih _ _)

theorem run_attempt_eq {s' : σ} {result : Except χ α} {cs : List ε}
    (hp : run serve s p = ⟨result, s', cs⟩) : run serve s p.attempt = ⟨.ok result, s', cs⟩ := by
  have houtcome : (run serve s p.attempt).outcome = .ok (run serve s p).outcome :=
    outcome_run_attempt p s
  have hfinal : (run serve s p.attempt).final = (run serve s p).final := final_attempt p s
  have hcalls : (run serve s p.attempt).calls = (run serve s p).calls := calls_attempt p s
  rw [hp] at houtcome hfinal hcalls
  rcases hrun : run serve s p.attempt with ⟨result', state, calls⟩
  rw [hrun] at houtcome hfinal hcalls
  cases houtcome
  cases hfinal
  cases hcalls
  rfl

/-- A run from `s` leaves the services as `Inv` says, whether it returns or raises; and what it
    returns, what it leaves and what it called meet `Q`. -/
def Ends (serve : σ → (e : ε) → ρ e × σ) (s : σ) (p : Prog ε ρ χ α) (Inv : σ → Prop)
    (Q : α → σ → List ε → Prop) : Prop :=
  Inv (run serve s p).final ∧
    ∀ a, (run serve s p).outcome = .ok a → Q a (run serve s p).final (run serve s p).calls

theorem ends_pure (hs : Inv s) (ha : Q a s []) :
    Ends serve s (pure a : Prog ε ρ χ α) Inv Q := by
  refine ⟨hs, fun b hb => ?_⟩
  cases hb
  exact ha

theorem ends_raise (hs : Inv s) : Ends serve s (raise x : Prog ε ρ χ α) Inv Q := by
  refine ⟨hs, fun b hb => ?_⟩
  cases hb

theorem Ends.mono (hp : Ends serve s p Inv Q) (h : ∀ a s cs, Q a s cs → Q' a s cs) :
    Ends serve s p Inv Q' :=
  ⟨hp.1, fun a ha => h a _ _ (hp.2 a ha)⟩

/-- **Sequencing.** -/
theorem Ends.bind {f : α → Prog ε ρ χ β} (hp : Ends serve s p Inv Q)
    (hf : ∀ a s' cs, Inv s' → Q a s' cs →
      Ends serve s' (f a) Inv fun b s'' cs' => R b s'' (cs ++ cs')) :
    Ends serve s (p >>= f) Inv R := by
  cases houtcome : (run serve s p).outcome with
  | ok a =>
    obtain ⟨hresult, hfinal⟩ := run_bind_ok (f := f) houtcome
    obtain ⟨hinv, hq⟩ := hf a _ _ hp.1 (hp.2 a houtcome)
    refine ⟨hfinal ▸ hinv, fun b hb => ?_⟩
    rw [hresult] at hb
    rw [hfinal, calls_bind_ok houtcome]
    exact hq b hb
  | error x =>
    obtain ⟨hresult, hfinal⟩ := run_bind_error (f := f) houtcome
    refine ⟨hfinal ▸ hp.1, fun b hb => ?_⟩
    rw [hresult] at hb
    cases hb

/-- An attempt always returns. -/
theorem ends_attempt {Q : Except χ α → σ → List ε → Prop} (hfinal : Inv (run serve s p).final)
    (h : Q (run serve s p).outcome (run serve s p).final (run serve s p).calls) :
    Ends serve s p.attempt Inv Q := by
  refine ⟨(final_attempt p s).symm ▸ hfinal, fun result hresult => ?_⟩
  rw [outcome_run_attempt] at hresult
  cases hresult
  rw [final_attempt, calls_attempt]
  exact h

end

/-! ## Programs that are not answered

Where no call has an answer, a program is what it calls, in order, and what it comes to. -/

section

/-- The calls of a program that is not answered. -/
def said : Prog ε (fun _ => Unit) χ α → List ε
  | ret _ => []
  | raise _ => []
  | call e next => e :: (next ()).said

/-- What it comes to. -/
def outcome : Prog ε (fun _ => Unit) χ α → Except χ α
  | ret a => .ok a
  | raise x => .error x
  | call _ next => (next ()).outcome

@[simp] theorem said_pure (a : α) : said (pure a : Prog ε (fun _ => Unit) χ α) = [] := rfl

@[simp] theorem outcome_pure (a : α) : outcome (pure a : Prog ε (fun _ => Unit) χ α) = .ok a := rfl

@[simp] theorem said_raise (x : χ) : said (raise x : Prog ε (fun _ => Unit) χ α) = [] := rfl

@[simp] theorem outcome_raise (x : χ) :
    outcome (raise x : Prog ε (fun _ => Unit) χ α) = .error x := rfl

variable {p : Prog ε (fun _ => Unit) χ α} {f : α → Prog ε (fun _ => Unit) χ β} {a : α} {x : χ}

theorem said_bind_ok (h : p.outcome = .ok a) : (p >>= f).said = p.said ++ (f a).said := by
  induction p with
  | ret b =>
    cases h
    rfl
  | raise y => cases h
  | call e next ih => exact congrArg (e :: ·) (ih () h)

theorem outcome_bind_ok (h : p.outcome = .ok a) : (p >>= f).outcome = (f a).outcome := by
  induction p with
  | ret b =>
    cases h
    rfl
  | raise y => cases h
  | call e next ih => exact ih () h

theorem said_bind_error (h : p.outcome = .error x) : (p >>= f).said = p.said := by
  induction p with
  | ret b => cases h
  | raise y => rfl
  | call e next ih => exact congrArg (e :: ·) (ih () h)

theorem outcome_bind_error (h : p.outcome = .error x) : (p >>= f).outcome = .error x := by
  induction p with
  | ret b => cases h
  | raise y =>
    cases h
    rfl
  | call e next ih => exact ih () h

variable (handler : χ → Prog ε (fun _ => Unit) χ α)

theorem tryExcept_ok (h : p.outcome = .ok a) :
    (p.tryExcept handler).said = p.said ∧ (p.tryExcept handler).outcome = .ok a := by
  induction p with
  | ret b => exact ⟨rfl, h⟩
  | raise y => cases h
  | call e next ih =>
    obtain ⟨hsaid, houtcome⟩ := ih () h
    exact ⟨congrArg (e :: ·) hsaid, houtcome⟩

theorem tryExcept_error (h : p.outcome = .error x) :
    (p.tryExcept handler).said = p.said ++ (handler x).said ∧
      (p.tryExcept handler).outcome = (handler x).outcome := by
  induction p with
  | ret b => cases h
  | raise y =>
    cases h
    exact ⟨rfl, rfl⟩
  | call e next ih =>
    obtain ⟨hsaid, houtcome⟩ := ih () h
    exact ⟨congrArg (e :: ·) hsaid, houtcome⟩

end

end Prog
