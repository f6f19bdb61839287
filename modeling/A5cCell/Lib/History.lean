import A5cCell.Lib.Prog

/-!
# Programs and what they were answered

What a program does next depends on what its calls were answered. `Traced P Q past p` is a fact about a
program that has made the calls `past`: every call it makes meets `P` of what it was answered before,
and what it comes to meets `Q`. It says nothing of what answers, so it holds in every run, whoever
else uses the services (`Interleaving`); of a run with the services to itself it says what `replay`
makes of its calls (`Traced.replayed`).
-/

/-- A call, and what it was answered. -/
structure Answered (ε : Type) (ρ : ε → Type) where
  call : ε
  answer : ρ call

namespace Prog

variable {ε : Type} {ρ : ε → Type} {χ α β : Type}

/-- Every call meets `P` of what was answered before, the latest first, and what the program comes to
    meets `Q` of what was answered. -/
def Traced (P : List (Answered ε ρ) → ε → Prop) (Q : List (Answered ε ρ) → Except χ α → Prop) :
    List (Answered ε ρ) → Prog ε ρ χ α → Prop
  | past, ret a => Q past (.ok a)
  | past, raise x => Q past (.error x)
  | past, call e next => P past e ∧ ∀ answer, Traced P Q (⟨e, answer⟩ :: past) (next answer)

variable {P : List (Answered ε ρ) → ε → Prop} {Q : List (Answered ε ρ) → Except χ α → Prop}
  {past : List (Answered ε ρ)}

@[simp] theorem traced_ret {a : α} : Traced P Q past (ret a) ↔ Q past (.ok a) := Iff.rfl

@[simp] theorem traced_pure {a : α} : Traced P Q past (pure a) ↔ Q past (.ok a) := Iff.rfl

@[simp] theorem traced_raise {x : χ} : Traced P Q past (raise x) ↔ Q past (.error x) := Iff.rfl

@[simp] theorem traced_call {e : ε} {next : ρ e → Prog ε ρ χ α} :
    Traced P Q past (call e next) ↔
      P past e ∧ ∀ answer, Traced P Q (⟨e, answer⟩ :: past) (next answer) := Iff.rfl

theorem Traced.mono {P' : List (Answered ε ρ) → ε → Prop}
    {Q' : List (Answered ε ρ) → Except χ α → Prop} {p : Prog ε ρ χ α} (hp : Traced P Q past p)
    (hP : ∀ past e, P past e → P' past e) (hQ : ∀ past r, Q past r → Q' past r) :
    Traced P' Q' past p := by
  induction p generalizing past with
  | ret a => exact hQ _ _ hp
  | raise x => exact hQ _ _ hp
  | call e next ih => exact ⟨hP _ _ hp.1, fun answer => ih answer (hp.2 answer)⟩

/-- What a first part comes to, and the second part where it returns. -/
def afterwards (P : List (Answered ε ρ) → ε → Prop)
    (R : List (Answered ε ρ) → Except χ β → Prop) (f : α → Prog ε ρ χ β)
    (past : List (Answered ε ρ)) : Except χ α → Prop
  | .ok a => Traced P R past (f a)
  | .error x => R past (.error x)

/-- **Sequencing.** -/
theorem traced_bind {R : List (Answered ε ρ) → Except χ β → Prop} {p : Prog ε ρ χ α}
    {f : α → Prog ε ρ χ β} :
    Traced P R past (p >>= f) ↔ Traced P (afterwards P R f) past p := by
  induction p generalizing past with
  | ret a => exact Iff.rfl
  | raise x => exact Iff.rfl
  | call e next ih => exact and_congr_right fun _ => forall_congr' fun answer => ih answer

theorem Traced.bind {R : List (Answered ε ρ) → Except χ β → Prop} {p : Prog ε ρ χ α}
    {f : α → Prog ε ρ χ β} (hp : Traced P Q past p)
    (hraise : ∀ past x, Q past (.error x) → R past (.error x))
    (hf : ∀ past a, Q past (.ok a) → Traced P R past (f a)) : Traced P R past (p >>= f) := by
  refine traced_bind.mpr (hp.mono (fun _ _ => id) fun past r hr => ?_)
  cases r with
  | ok a => exact hf past a hr
  | error x => exact hraise past x hr

/-- A handler goes on from what was answered before the exception. -/
theorem Traced.tryExcept {Q' : List (Answered ε ρ) → Except χ α → Prop} {p : Prog ε ρ χ α}
    {handler : χ → Prog ε ρ χ α} (hp : Traced P Q past p)
    (hret : ∀ past a, Q past (.ok a) → Q' past (.ok a))
    (hhandler : ∀ past x, Q past (.error x) → Traced P Q' past (handler x)) :
    Traced P Q' past (p.tryExcept handler) := by
  induction p generalizing past with
  | ret a => exact hret _ _ hp
  | raise x => exact hhandler _ _ hp
  | call e next ih => exact ⟨hp.1, fun answer => ih answer (hp.2 answer)⟩

/-- An attempt returns what the program comes to. -/
theorem Traced.attempt {p : Prog ε ρ χ α} (hp : Traced P Q past p) :
    Traced P (fun past r => ∃ result, r = .ok result ∧ Q past result) past p.attempt := by
  induction p generalizing past with
  | ret a => exact ⟨_, rfl, hp⟩
  | raise x => exact ⟨_, rfl, hp⟩
  | call e next ih => exact ⟨hp.1, fun answer => ih answer (hp.2 answer)⟩

/-- What the calls of a program keep of what was answered holds of all it comes to be answered. -/
theorem Sat.traced {E : ε → Prop} {Post : α → Prop} {Keeps : List (Answered ε ρ) → Prop}
    {p : Prog ε ρ χ α} (hp : p.Sat E Post) (hpast : Keeps past)
    (hkeep : ∀ past e answer, Keeps past → E e → Keeps (⟨e, answer⟩ :: past))
    (hP : ∀ past e, Keeps past → E e → P past e) :
    Traced P (fun past' r => Keeps past' ∧ ∀ a, r = .ok a → Post a) past p := by
  induction p generalizing past with
  | ret a =>
    refine ⟨hpast, fun b hb => ?_⟩
    cases hb
    exact hp
  | raise x =>
    refine ⟨hpast, fun b hb => ?_⟩
    cases hb
  | call e next ih =>
    exact ⟨hP past e hpast hp.1, fun answer => ih answer (hp.2 answer) (hkeep past e answer hpast hp.1)⟩

/-- What is asked of every call holds besides what is asked of what was answered. -/
theorem Traced.and_sat {E : ε → Prop} {Post : α → Prop} {p : Prog ε ρ χ α} (hp : Traced P Q past p)
    (hsat : p.Sat E Post) : Traced (fun past e => P past e ∧ E e) Q past p := by
  induction p generalizing past with
  | ret a => exact hp
  | raise x => exact hp
  | call e next ih => exact ⟨⟨hp.1, hsat.1⟩, fun answer => ih answer (hp.2 answer) (hsat.2 answer)⟩

/-- Nothing is asked. -/
theorem traced_trivial (p : Prog ε ρ χ α) (past : List (Answered ε ρ)) :
    Traced (fun _ _ => True) (fun _ _ => True) past p := by
  induction p generalizing past with
  | ret a => trivial
  | raise x => trivial
  | call e next ih => exact ⟨trivial, fun answer => ih answer _⟩

/-- A sequence over other calls is the sequence of its parts over them. -/
theorem mapCalls_bind {ε' : Type} {ρ' : ε' → Type} {χ' : Type} {f : ε → ε'}
    {answer : ∀ e, ρ' (f e) → ρ e} {g : χ → χ'} (p : Prog ε ρ χ α) (k : α → Prog ε ρ χ β) :
    (p >>= k).mapCalls f answer g = p.mapCalls f answer g >>= fun a => (k a).mapCalls f answer g := by
  induction p with
  | ret a => rfl
  | raise x => rfl
  | call e next ih => exact congrArg (call (f e)) (funext fun reply => ih _)

/-- What is asked of every call whatever was answered is a fact of every run. -/
theorem Traced.sat {P' : ε → Prop} {p : Prog ε ρ χ α} (hp : Traced P Q past p)
    (hP : ∀ past e, P past e → P' e) : p.Sat P' fun _ => True := by
  induction p generalizing past with
  | ret a => trivial
  | raise x => trivial
  | call e next ih => exact ⟨hP _ _ hp.1, fun answer => ih answer (hp.2 answer)⟩

end Prog

/-! ## The calls of a run, with the states they were made in -/

namespace Prog

/-- A call, what it was answered, and the state it was made in. -/
structure Served (σ ε : Type) (ρ : ε → Type) where
  before : σ
  call : ε
  answer : ρ call

variable {σ ε : Type} {ρ : ε → Type} {χ α : Type} {serve : σ → (e : ε) → ρ e × σ}
  {P : List (Answered ε ρ) → ε → Prop} {Q : List (Answered ε ρ) → Except χ α → Prop}

def Served.answered (served : Served σ ε ρ) : Answered ε ρ := ⟨served.call, served.answer⟩

/-- The calls, served one after the other. -/
def replay (serve : σ → (e : ε) → ρ e × σ) (s : σ) : List ε → List (Served σ ε ρ)
  | [] => []
  | e :: es => ⟨s, e, (serve s e).1⟩ :: replay serve (serve s e).2 es

theorem answer_of_mem_replay {s : σ} {es : List ε} {served : Served σ ε ρ}
    (h : served ∈ replay serve s es) : served.answer = (serve served.before served.call).1 := by
  induction es generalizing s with
  | nil => cases h
  | cons e es ih =>
    rcases List.mem_cons.mp h with rfl | hrest
    · rfl
    · exact ih hrest

theorem calls_replay {s : σ} {es : List ε} {as : List (Answered ε ρ)}
    (h : (replay serve s es).map Served.answered = as) : es = as.map Answered.call := by
  rw [← h, List.map_map]
  clear h
  induction es generalizing s with
  | nil => rfl
  | cons e es ih => exact congrArg (e :: ·) ih

/-- What a run comes to meets `Q` of all that its calls were answered. -/
theorem Traced.replayed {past : List (Answered ε ρ)} {p : Prog ε ρ χ α} (hp : Traced P Q past p)
    (s : σ) :
    Q (((replay serve s (run serve s p).calls).map Served.answered).reverse ++ past)
      (run serve s p).outcome := by
  induction p generalizing past s with
  | ret a => exact hp
  | raise x => exact hp
  | call e next ih =>
    have hrest := ih _ (hp.2 (serve s e).1) (serve s e).2
    simpa [run, replay, Served.answered] using hrest

end Prog
