import Mathlib.Data.List.Sort
import Mathlib.Data.Prod.Lex
import A5cCell.Lib.Dict

/-!
# Tables

A table is a dictionary of rows read by key, or listed in the order of an index. An index ranks
the keys: no two keys have one rank, so the order of a listing is that of the ranks and says
nothing of the order the rows were written in.

Two tables *agree* on a set of keys when they hold the same rows under them. A listing of rows
whose keys are in the set is then the same listing of both (`entries_congr`), and writing the same
row to both keeps the agreement.
-/

namespace Table

open Py (Dict)

variable {κ ν : Type} [DecidableEq κ]

/-- The rows of the keys in `V` are the same in both. -/
def Agree (V : κ → Prop) (d d' : Dict κ ν) : Prop := ∀ key, V key → d.get? key = d'.get? key

namespace Agree

variable {V : κ → Prop} {d d' : Dict κ ν}

theorem refl (V : κ → Prop) (d : Dict κ ν) : Agree V d d := fun _ _ => rfl

theorem symm (h : Agree V d d') : Agree V d' d := fun key hkey => (h key hkey).symm

theorem set (h : Agree V d d') (key : κ) (row : ν) : Agree V (d.set key row) (d'.set key row) := by
  intro key' hkey'
  rw [Dict.get?_set, Dict.get?_set, h key' hkey']

theorem erase (h : Agree V d d') (key : κ) : Agree V (d.erase key) (d'.erase key) := by
  intro key' hkey'
  rw [Dict.get?_erase, Dict.get?_erase, h key' hkey']

/-- Writing a row outside the set is agreeing with what was there. -/
theorem set_of_not (d : Dict κ ν) {key : κ} (hkey : ¬ V key) (row : ν) : Agree V (d.set key row) d := by
  intro key' hkey'
  rw [Dict.get?_set_ne]
  rintro rfl
  exact hkey hkey'

theorem erase_of_not (d : Dict κ ν) {key : κ} (hkey : ¬ V key) : Agree V (d.erase key) d := by
  intro key' hkey'
  rw [Dict.get?_erase, if_neg]
  rintro rfl
  exact hkey hkey'

theorem trans {d'' : Dict κ ν} (h : Agree V d d') (h' : Agree V d' d'') : Agree V d d'' :=
  fun key hkey => (h key hkey).trans (h' key hkey)

end Agree

/-! ## Listings -/

variable {ι : Type} [LinearOrder ι]

/-- The rows selected, in the order of an index. -/
def entries (rank : κ → ι) (selects : κ → ν → Bool) (d : Dict κ ν) : List (κ × ν) :=
  (d.items.filter fun row => selects row.1 row.2).insertionSort fun a b => rank a.1 ≤ rank b.1

theorem mem_entries {rank : κ → ι} {selects : κ → ν → Bool} {d : Dict κ ν} {key : κ} {row : ν} :
    (key, row) ∈ entries rank selects d ↔ d.get? key = some row ∧ selects key row = true := by
  rw [entries, List.mem_insertionSort, List.mem_filter, Dict.mem_iff]

/-- A listing goes strictly up its index. -/
theorem entries_pairwise_lt {rank : κ → ι} (hrank : Function.Injective rank)
    (selects : κ → ν → Bool) (d : Dict κ ν) :
    (entries rank selects d).Pairwise fun a b => rank a.1 < rank b.1 := by
  have hle : (entries rank selects d).Pairwise fun a b => rank a.1 ≤ rank b.1 := by
    have : Std.Total (fun a b : κ × ν => rank a.1 ≤ rank b.1) := ⟨fun a b => le_total _ _⟩
    have : IsTrans (κ × ν) (fun a b => rank a.1 ≤ rank b.1) := ⟨fun a b c => le_trans⟩
    exact List.pairwise_insertionSort _ _
  have hnodup : (entries rank selects d).Nodup := by
    rw [entries, (List.perm_insertionSort _ _).nodup_iff]
    exact d.nodup.of_map.filter _
  apply (hle.and hnodup).imp_of_mem
  intro a b ha hb hab
  refine lt_of_le_of_ne hab.1 fun heq => hab.2 ?_
  -- one rank, so one key; and a key has one row
  have hkey : a.1 = b.1 := hrank heq
  have hgetA := (mem_entries.mp ha).1
  have hgetB := (mem_entries.mp hb).1
  rw [hkey] at hgetA
  exact Prod.ext hkey (Option.some.inj (hgetA.symm.trans hgetB))

/-- **A listing looks at the rows it selects.** -/
theorem entries_congr {rank : κ → ι} (hrank : Function.Injective rank) {V : κ → Prop}
    (selects : κ → ν → Bool) (hselects : ∀ key row, selects key row = true → V key)
    {d d' : Dict κ ν} (h : Agree V d d') : entries rank selects d = entries rank selects d' := by
  have hmem : ∀ key row, (key, row) ∈ entries rank selects d ↔
      (key, row) ∈ entries rank selects d' := by
    intro key row
    rw [mem_entries, mem_entries]
    constructor
    · rintro ⟨hget, hselect⟩
      exact ⟨(h key (hselects key row hselect)).symm.trans hget, hselect⟩
    · rintro ⟨hget, hselect⟩
      exact ⟨(h key (hselects key row hselect)).trans hget, hselect⟩
  have hsorted (e : Dict κ ν) := entries_pairwise_lt hrank selects e
  have hnodup (e : Dict κ ν) : (entries rank selects e).Nodup :=
    (hsorted e).imp fun hlt heq => absurd (heq ▸ hlt) (lt_irrefl _)
  have hperm : (entries rank selects d).Perm (entries rank selects d') :=
    (List.perm_ext_iff_of_nodup (hnodup d) (hnodup d')).mpr fun row => hmem row.1 row.2
  exact hperm.eq_of_pairwise (fun a b _ _ hab hba => absurd (hab.trans hba) (lt_irrefl _))
    (hsorted d) (hsorted d')

/-- The rows listed after a key. -/
def after (rank : κ → ι) (start : Option κ) (rows : List (κ × ν)) : List (κ × ν) :=
  match start with
  | none => rows
  | some start => rows.filter fun row => rank start < rank row.1

omit [DecidableEq κ] in
/-- What is listed after the last row of a first part is the rest. -/
theorem after_getLast {rank : κ → ι} {first rest : List (κ × ν)} {last : κ × ν}
    (hsorted : (first ++ rest).Pairwise fun a b => rank a.1 < rank b.1)
    (hlast : first.getLast? = some last) : after rank (some last.1) (first ++ rest) = rest := by
  obtain ⟨init, rfl⟩ := List.getLast?_eq_some_iff.mp hlast
  rw [List.pairwise_append, List.pairwise_append] at hsorted
  obtain ⟨⟨-, -, hinit⟩, -, hrest⟩ := hsorted
  have hfirst : (init ++ [last]).filter (fun row => rank last.1 < rank row.1) = [] := by
    rw [List.filter_eq_nil_iff]
    intro row hrow
    rcases List.mem_append.mp hrow with hrow | hrow
    · simpa using (hinit row hrow last (by simp)).le
    · simp [List.mem_singleton.mp hrow]
  have hkeep : rest.filter (fun row => rank last.1 < rank row.1) = rest := by
    rw [List.filter_eq_self]
    intro row hrow
    simpa using hrest last (by simp) row hrow
  simp only [after, List.filter_append, hfirst, hkeep, List.nil_append]

/-- A page of a listing, and whether it stopped at its size or at its limit: `fit` says how many
    rows there is room for, and there is always room for one. -/
def page (fit : List (κ × ν) → Nat) (limit : Option Nat) (rows : List (κ × ν)) :
    List (κ × ν) × Bool :=
  let size := min (limit.getD rows.length) (max 1 (fit rows))
  (rows.take size, size < rows.length || limit = some size)

end Table
