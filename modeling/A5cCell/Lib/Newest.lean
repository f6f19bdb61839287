import Mathlib.Data.List.Sort
import Mathlib.Order.Basic

/-!
# The newest of a list

The first element of the greatest key: what a loop that keeps the best so far, and replaces it by
what is strictly greater, ends with (`foldl_newest`); and what a stable sort from the greatest key
down finds first, also among the elements that meet a test (`find?_insertionSort`).
-/

namespace Newest

variable {α ι : Type} [LinearOrder ι] (key : α → ι)

/-- Of two elements the second, where its key is strictly greater. -/
def better (a b : α) : α := if key a < key b then b else a

/-- The first element of the greatest key. -/
def newest? : List α → Option α
  | [] => none
  | a :: as => match newest? as with
    | none => some a
    | some b => some (better key a b)

variable {key}

@[simp] theorem newest?_nil : newest? key [] = none := rfl

@[simp] theorem newest?_singleton (a : α) : newest? key [a] = some a := rfl

theorem newest?_eq_none {as : List α} : newest? key as = none ↔ as = [] := by
  cases as with
  | nil => simp
  | cons a as =>
    simp only [newest?, reduceCtorEq, iff_false]
    cases newest? key as <;> simp

theorem mem_of_newest? {as : List α} {a : α} (h : newest? key as = some a) : a ∈ as := by
  induction as generalizing a with
  | nil => cases h
  | cons b bs ih =>
    simp only [newest?] at h
    cases hrest : newest? key bs with
    | none =>
      rw [hrest] at h
      cases h
      exact List.mem_cons_self
    | some c =>
      rw [hrest] at h
      cases h
      unfold better
      split
      · exact List.mem_cons_of_mem b (ih hrest)
      · exact List.mem_cons_self

theorem better_assoc (a b c : α) : better key (better key a b) c = better key a (better key b c) := by
  unfold better
  split <;> split <;> grind

/-- One more element at the end. -/
theorem newest?_append_singleton (as : List α) (b : α) :
    newest? key (as ++ [b]) = some ((newest? key as).elim b fun a => better key a b) := by
  induction as with
  | nil => rfl
  | cons a as ih =>
    rw [List.cons_append, newest?, ih]
    simp only [newest?]
    cases newest? key as with
    | none => rfl
    | some c => simp only [Option.elim_some, better_assoc]

/-- In a list, an element goes ahead of another: its key is greater, or equal and it stands before. -/
def Ahead (key : α → ι) (as : List α) (a b : α) : Prop :=
  key b < key a ∨ key b = key a ∧ List.Sublist [a, b] as

theorem Ahead.le {as : List α} {a b : α} (h : Ahead key as a b) : key b ≤ key a :=
  h.elim le_of_lt fun h => h.1.le

/-- The newest goes ahead of all others. -/
theorem ahead_of_newest? {as : List α} {a : α} (h : newest? key as = some a) {b : α} (hb : b ∈ as)
    (hne : b ≠ a) : Ahead key as a b := by
  induction as generalizing a with
  | nil => cases hb
  | cons c cs ih =>
    simp only [newest?] at h
    cases hrest : newest? key cs with
    | none =>
      rw [hrest] at h
      cases h
      rw [newest?_eq_none.mp hrest] at hb
      exact absurd (List.mem_singleton.mp hb) hne
    | some d =>
      rw [hrest] at h
      cases h
      unfold better at hne ⊢
      by_cases hlt : key c < key d
      · -- a later element passes the first
        rw [if_pos hlt] at hne ⊢
        rcases List.mem_cons.mp hb with rfl | hmem
        · exact .inl hlt
        · exact (ih hrest hmem hne).imp_right fun h => ⟨h.1, h.2.cons c⟩
      · rw [if_neg hlt] at hne ⊢
        rcases List.mem_cons.mp hb with rfl | hmem
        · exact absurd rfl hne
        · have hbd : key b ≤ key d := by
            by_cases hbd : b = d
            · rw [hbd]
            · exact (ih hrest hmem hbd).le
          rcases (hbd.trans (not_lt.mp hlt)).lt_or_eq with hless | heq
          · exact .inl hless
          · exact .inr ⟨heq, (List.singleton_sublist.mpr hmem).cons_cons c⟩

/-- Without repetitions, of two elements one stands before the other. -/
theorem not_sublist_pair {as : List α} (hnodup : as.Nodup) {a b : α} (h : List.Sublist [a, b] as) :
    ¬ List.Sublist [b, a] as := by
  induction as with
  | nil => cases h
  | cons c cs ih =>
    rw [List.nodup_cons] at hnodup
    intro h'
    cases h with
    | cons _ h =>
      cases h' with
      | cons _ h' => exact ih hnodup.2 h h'
      | cons_cons _ h' => exact hnodup.1 (h.subset (by simp))
    | cons_cons _ h =>
      cases h' with
      | cons _ h' => exact hnodup.1 (h'.subset (by simp))
      | cons_cons _ h' => exact hnodup.1 (h.subset (by simp))

/-- Nothing goes ahead of the newest, in a list without repetitions. -/
theorem not_ahead_newest? {as : List α} (hnodup : as.Nodup) {a : α} (h : newest? key as = some a)
    {b : α} (hb : b ∈ as) (hne : b ≠ a) : ¬ Ahead key as b a := by
  intro hahead
  rcases ahead_of_newest? h hb hne with hlt | ⟨heq, hsub⟩
  · exact absurd hahead.le (not_le.mpr hlt)
  · rcases hahead with hlt | ⟨-, hsub'⟩
    · exact absurd heq hlt.ne'
    · exact not_sublist_pair hnodup hsub hsub'

/-! ## Sorting -/

/-- From the greatest key down. -/
def descending (key : α → ι) (as : List α) : List α := as.insertionSort fun a b => key b ≤ key a

theorem descending_pairwise (as : List α) :
    (descending key as).Pairwise fun a b => key b ≤ key a := by
  have : Std.Total (fun a b : α => key b ≤ key a) := ⟨fun a b => le_total _ _⟩
  have : IsTrans α (fun a b => key b ≤ key a) := ⟨fun a b c hab hbc => le_trans hbc hab⟩
  exact List.pairwise_insertionSort _ _

/-- What is first found of a sorted list, with one element more. -/
theorem find?_orderedInsert (p : α → Bool) (a : α) {as : List α}
    (hsorted : as.Pairwise fun a b => key b ≤ key a) :
    (as.orderedInsert (fun a b => key b ≤ key a) a).find? p =
      if p a then some ((as.find? p).elim a (better key a)) else as.find? p := by
  induction as with
  | nil => cases hp : p a <;> simp [hp]
  | cons b bs ih =>
    rw [List.pairwise_cons] at hsorted
    rw [List.orderedInsert]
    by_cases hle : key b ≤ key a
    · -- `a` goes first, and no element after it is greater
      rw [if_pos hle]
      cases hp : p a with
      | false => simp [hp]
      | true =>
        have hbest : ∀ c, (b :: bs).find? p = some c → better key a c = a := by
          intro c hc
          have hmem := List.mem_of_find?_eq_some hc
          have hca : key c ≤ key a := by
            rcases List.mem_cons.mp hmem with rfl | hmem
            · exact hle
            · exact (hsorted.1 c hmem).trans hle
          exact if_neg (not_lt.mpr hca)
        cases hfind : (b :: bs).find? p with
        | none => simp [hp]
        | some c => simp [hp, hbest c hfind]
    · rw [if_neg hle, List.find?_cons]
      cases hb : p b with
      | false => simp [hb, ih hsorted.2]
      | true =>
        have hbetter : better key a b = b := if_pos (not_le.mp hle)
        cases hp : p a with
        | false => simp [hb]
        | true => simp [hb, hbetter]

/-- **The first found from the greatest down** is the newest of those that are sought. -/
theorem find?_descending (p : α → Bool) (as : List α) :
    (descending key as).find? p = newest? key (as.filter p) := by
  induction as with
  | nil => rfl
  | cons a as ih =>
    have hcons : descending key (a :: as) =
        (descending key as).orderedInsert (fun a b => key b ≤ key a) a := rfl
    rw [hcons, find?_orderedInsert p a (descending_pairwise as), ih, List.filter_cons]
    split
    · rw [newest?]
      cases newest? key (as.filter p) <;> rfl
    · rfl

theorem head?_descending (as : List α) : (descending key as).head? = newest? key as := by
  have hfind : (descending key as).find? (fun _ => true) = newest? key (as.filter fun _ => true) :=
    find?_descending _ as
  rw [List.filter_eq_self.mpr fun _ _ => rfl] at hfind
  rw [← hfind]
  cases descending key as <;> rfl

end Newest
