import Mathlib.Data.List.Basic

/-!
# Checks that go on

A reader that reports every error it finds goes on past each, with some value in place of the one it
did not find, and is judged at its end. An exception ends it at once. What a sequence of checks passes
with is what its parts pass with (`passes_bind`), so a reader that passes is read off its parts, and the
values put in place of missing ones are never looked at.
-/

/-- What was read and the errors found on the way, or the exception that ended it. -/
def Checked (χ ε α : Type) : Type := Except χ (α × List ε)

namespace Checked

variable {χ ε α β : Type}

/-- The errors found before come first. -/
def after (errors : List ε) (x : Checked χ ε α) : Checked χ ε α :=
  Except.map (fun (a, more) => (a, errors ++ more)) x

instance : Monad (Checked χ ε) where
  pure a := Except.ok (a, [])
  bind x f := Except.bind x fun (a, errors) => after errors (f a)

/-- An error is found, and `a` is read in place of what was looked for. -/
def report (e : ε) (a : α) : Checked χ ε α := Except.ok (a, [e])

/-- An exception ends the reading. -/
def raise (exc : χ) : Checked χ ε α := Except.error exc

/-- An error is found where `p` holds. -/
def rejectIf (p : Prop) [Decidable p] (e : ε) : Checked χ ε Unit := if p then report e () else pure ()

/-- Nothing was wrong, and `a` was read. -/
def Passes (x : Checked χ ε α) (a : α) : Prop := x = Except.ok (a, [])

@[simp] theorem passes_pure {a b : α} : (pure a : Checked χ ε α).Passes b ↔ a = b := by
  constructor
  · intro h
    cases h
    rfl
  · rintro rfl
    rfl

@[simp] theorem not_passes_report {e : ε} {a b : α} : ¬ (report e a : Checked χ ε α).Passes b := by
  intro h
  cases h

@[simp] theorem not_passes_raise {exc : χ} {a : α} : ¬ (raise exc : Checked χ ε α).Passes a := by
  intro h
  cases h

theorem passes_after {errors : List ε} {x : Checked χ ε α} {a : α} :
    (after errors x).Passes a ↔ errors = [] ∧ x.Passes a := by
  rcases x with exc | ⟨b, more⟩
  · constructor
    · intro h
      cases h
    · rintro ⟨-, h⟩
      cases h
  · constructor
    · intro h
      obtain ⟨rfl, hnil⟩ := Prod.mk.inj (Except.ok.inj h)
      obtain ⟨rfl, rfl⟩ := List.append_eq_nil_iff.mp hnil
      exact ⟨rfl, rfl⟩
    · rintro ⟨rfl, h⟩
      exact h

/-- **Sequencing.** -/
theorem passes_bind {x : Checked χ ε α} {f : α → Checked χ ε β} {b : β} :
    (x >>= f).Passes b ↔ ∃ a, x.Passes a ∧ (f a).Passes b := by
  rcases x with exc | ⟨a, errors⟩
  · constructor
    · intro h
      cases h
    · rintro ⟨a, h, -⟩
      cases h
  · constructor
    · intro h
      obtain ⟨rfl, hf⟩ := passes_after.mp h
      exact ⟨a, rfl, hf⟩
    · rintro ⟨a', h, hf⟩
      cases h
      exact passes_after.mpr ⟨rfl, hf⟩

/-- A check is passed where there is nothing to find. -/
@[simp] theorem passes_rejectIf {p : Prop} [Decidable p] {e : ε} {u : Unit} :
    (rejectIf p e : Checked χ ε Unit).Passes u ↔ ¬ p := by
  unfold rejectIf
  split
  · rename_i hp
    exact ⟨fun h => absurd h not_passes_report, fun hnot => absurd hp hnot⟩
  · rename_i hp
    exact ⟨fun _ => hp, fun _ => rfl⟩

end Checked
