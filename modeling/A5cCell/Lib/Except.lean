import Mathlib.Data.List.Forall2

/-!
# Lists that are read item by item

Reading a list with a function that may raise ends with the first item that does. It is read where each
of its items is (`mapM_eq_ok_iff`).
-/

namespace Except

variable {ε α β γ : Type} {read : α → Except ε β} {as : List α} {bs : List β}

/-- A sequence returns where both its parts do. -/
theorem bind_eq_ok {x : Except ε α} {f : α → Except ε β} {b : β} :
    (x >>= f) = .ok b ↔ ∃ a, x = .ok a ∧ f a = .ok b := by
  cases x with
  | error e =>
    constructor
    · intro h
      cases h
    · rintro ⟨a, ha, -⟩
      cases ha
  | ok a =>
    constructor
    · exact fun h => ⟨a, rfl, h⟩
    · rintro ⟨a', ha, h⟩
      cases ha
      exact h

theorem mapM_eq_ok_iff :
    as.mapM read = .ok bs ↔ List.Forall₂ (fun a b => read a = .ok b) as bs := by
  induction as generalizing bs with
  | nil =>
    rw [List.forall₂_nil_left_iff, List.mapM_nil]
    constructor
    · rintro ⟨⟩
      rfl
    · rintro rfl
      rfl
  | cons a as ih =>
    rw [List.forall₂_cons_left_iff, List.mapM_cons]
    cases hread : read a with
    | error x =>
      constructor
      · intro h
        cases h
      · rintro ⟨b, bs, hb, -⟩
        cases hb
    | ok b =>
      constructor
      · intro h
        cases hrest : as.mapM read with
        | error x =>
          rw [hrest] at h
          cases h
        | ok rest =>
          rw [hrest] at h
          cases h
          exact ⟨b, rest, rfl, ih.mp hrest, rfl⟩
      · rintro ⟨b', rest, hb, hrest, rfl⟩
        cases hb
        rw [ih.mpr hrest]
        rfl

/-- Reading does not raise where it does for no item. -/
theorem exists_mapM_ok_iff : (∃ bs, as.mapM read = .ok bs) ↔ ∀ a ∈ as, ∃ b, read a = .ok b := by
  simp only [mapM_eq_ok_iff]
  induction as with
  | nil => simp
  | cons a as ih =>
    rw [List.forall_mem_cons, ← ih]
    constructor
    · rintro ⟨bs, h⟩
      obtain ⟨b, rest, hb, hrest, -⟩ := List.forall₂_cons_left_iff.mp h
      exact ⟨⟨b, hb⟩, rest, hrest⟩
    · rintro ⟨⟨b, hb⟩, rest, hrest⟩
      exact ⟨b :: rest, .cons hb hrest⟩

/-- What is read of a list, where each item is read as the image of another. -/
theorem mapM_eq_map {f : γ → β} {cs : List γ}
    (h : List.Forall₂ (fun a c => read a = .ok (f c)) as cs) :
    as.mapM read = .ok (cs.map f) :=
  mapM_eq_ok_iff.mpr (List.forall₂_map_right_iff.mpr h)

end Except
