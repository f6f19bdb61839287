import Mathlib.Data.List.Basic
import Mathlib.Algebra.BigOperators.Group.List.Basic
import Mathlib.Algebra.Ring.Int.Defs

/-!
# Runs of a machine that answers

A machine takes events one at a time: `step s e` is the state after handling `e` in `s`, with
the response. `trace` keeps every event of a run with the state it was handled in and what was
answered, so that a property of a whole run, and a condition on a whole run, are both a `∀` over
its moments.

The one induction over runs is here. An invariant that each step preserves under a condition
holds at every moment of a run whose moments all meet the condition (`inv_of_mem_trace`), and at
its end (`inv_final`).
-/

namespace Runs

variable {σ ε ρ : Type}

/-- One handled event: the state before it, the event, and the response. -/
structure Moment (σ ε ρ : Type) where
  before : σ
  event : ε
  response : ρ

/-- Every moment of the run from `s`, in order. -/
def trace (step : σ → ε → σ × ρ) (s : σ) : List ε → List (Moment σ ε ρ)
  | [] => []
  | e :: es => ⟨s, e, (step s e).2⟩ :: trace step (step s e).1 es

/-- The state a run from `s` ends in. -/
def final (step : σ → ε → σ × ρ) (s : σ) : List ε → σ
  | [] => s
  | e :: es => final step (step s e).1 es

variable {step : σ → ε → σ × ρ}

@[simp] theorem trace_nil (s : σ) : trace step s [] = [] := rfl

@[simp] theorem trace_cons (s : σ) (e : ε) (es : List ε) :
    trace step s (e :: es) = ⟨s, e, (step s e).2⟩ :: trace step (step s e).1 es := rfl

@[simp] theorem final_nil (s : σ) : final step s [] = s := rfl

@[simp] theorem final_cons (s : σ) (e : ε) (es : List ε) :
    final step s (e :: es) = final step (step s e).1 es := rfl

theorem trace_append (s : σ) (es es' : List ε) :
    trace step s (es ++ es') = trace step s es ++ trace step (final step s es) es' := by
  induction es generalizing s with
  | nil => rfl
  | cons e es ih => simp [ih]

theorem final_append (s : σ) (es es' : List ε) :
    final step s (es ++ es') = final step (final step s es) es' := by
  induction es generalizing s with
  | nil => rfl
  | cons e es ih => simp [ih]

theorem length_trace (s : σ) (es : List ε) : (trace step s es).length = es.length := by
  induction es generalizing s with
  | nil => rfl
  | cons e es ih => rw [trace_cons, List.length_cons, List.length_cons, ih]

/-- The response of a moment is the one the machine gives there. -/
theorem response_of_mem_trace {s : σ} {es : List ε} {m : Moment σ ε ρ}
    (hm : m ∈ trace step s es) : m.response = (step m.before m.event).2 := by
  induction es generalizing s with
  | nil => simp at hm
  | cons e es ih =>
    rw [trace_cons, List.mem_cons] at hm
    rcases hm with rfl | hm
    · rfl
    · exact ih hm

/-- Every moment handles an event of the run. -/
theorem event_of_mem_trace {s : σ} {es : List ε} {m : Moment σ ε ρ}
    (hm : m ∈ trace step s es) : m.event ∈ es := by
  induction es generalizing s with
  | nil => simp at hm
  | cons e es ih =>
    rw [trace_cons, List.mem_cons] at hm
    rcases hm with rfl | hm
    · exact List.mem_cons_self
    · exact List.mem_cons_of_mem e (ih hm)

/-- **The invariant rule.** What one step preserves under `G`, a run whose moments are all `G`
    preserves to every one of its moments. -/
theorem inv_of_mem_trace {Inv : σ → Prop} {G : σ → ε → Prop}
    (hstep : ∀ s e, Inv s → G s e → Inv (step s e).1) {s : σ} {es : List ε}
    (hs : Inv s) (hok : ∀ m ∈ trace step s es, G m.before m.event) :
    ∀ m ∈ trace step s es, Inv m.before := by
  induction es generalizing s with
  | nil => intro m hm; simp at hm
  | cons e es ih =>
    rw [trace_cons, List.forall_mem_cons] at hok ⊢
    exact ⟨hs, ih (hstep s e hs hok.1) hok.2⟩

/-- The invariant rule, at the end of the run. -/
theorem inv_final {Inv : σ → Prop} {G : σ → ε → Prop}
    (hstep : ∀ s e, Inv s → G s e → Inv (step s e).1) {s : σ} {es : List ε}
    (hs : Inv s) (hok : ∀ m ∈ trace step s es, G m.before m.event) :
    Inv (final step s es) := by
  induction es generalizing s with
  | nil => exact hs
  | cons e es ih =>
    rw [trace_cons, List.forall_mem_cons] at hok
    exact ih (hstep s e hs hok.1) hok.2

/-- A measure that no step of a run lowers is, after each step, at most what it ends at. -/
theorem le_final {τ : Type} [Preorder τ] {G : σ → ε → Prop} {t : σ → τ}
    (hstep : ∀ s e, G s e → t s ≤ t (step s e).1) {s : σ} {es : List ε}
    (hok : ∀ m ∈ trace step s es, G m.before m.event) :
    t s ≤ t (final step s es) ∧
      ∀ m ∈ trace step s es, t (step m.before m.event).1 ≤ t (final step s es) := by
  induction es generalizing s with
  | nil => exact ⟨le_refl _, fun m hm => by simp at hm⟩
  | cons e es ih =>
    rw [trace_cons, List.forall_mem_cons] at hok
    obtain ⟨hrest, hlater⟩ := ih hok.2
    rw [trace_cons, List.forall_mem_cons, final_cons]
    exact ⟨le_trans (hstep s e hok.1) hrest, hrest, hlater⟩

/-- **The accounting rule.** Where each step moves a measure of the state by what the step is
    charged, a whole run moves it by the sum of the charges. -/
theorem measure_final {M : Type} [AddMonoid M] {Inv : σ → Prop} {G : σ → ε → Prop} {μ : σ → M}
    {charge : Moment σ ε ρ → M}
    (hstep : ∀ s e, Inv s → G s e →
      Inv (step s e).1 ∧ μ (step s e).1 = μ s + charge ⟨s, e, (step s e).2⟩)
    {s : σ} {es : List ε} (hs : Inv s)
    (hok : ∀ m ∈ trace step s es, G m.before m.event) :
    μ (final step s es) = μ s + ((trace step s es).map charge).sum := by
  induction es generalizing s with
  | nil => simp
  | cons e es ih =>
    rw [trace_cons, List.forall_mem_cons] at hok
    obtain ⟨hinv, hμ⟩ := hstep s e hs hok.1
    rw [final_cons, ih hinv hok.2, hμ, trace_cons, List.map_cons, List.sum_cons, add_assoc]

/-- **The simulation rule.** Where each step keeps a state related to an account of what has happened,
    a run keeps it related to the account of all its moments. -/
theorem related_final {τ : Type} {next : τ → Moment σ ε ρ → τ} {R : σ → τ → Prop}
    (hstep : ∀ s t e, R s t → R (step s e).1 (next t ⟨s, e, (step s e).2⟩)) {s : σ} {t : τ}
    {es : List ε} (h : R s t) : R (final step s es) ((trace step s es).foldl next t) := by
  induction es generalizing s t with
  | nil => exact h
  | cons e es ih => exact ih (hstep s t e h)

end Runs
