import Mathlib.Data.List.Basic
import Mathlib.Data.List.Nodup
import Mathlib.Data.List.Lookmap

/-!
# Insertion-ordered dictionaries

A Python `dict` is a finite map that remembers the order its keys first arrived in: assigning to
a key it has changes the value in place, assigning to a new key appends it. `setItem` is that
assignment on the list of items; `Dict` is such a list with no key twice, which is the only
kind a program can build.
-/

namespace Py

variable {κ ν : Type} [DecidableEq κ]

/-- `d[key] = v` on the items of `d`. -/
def setItem (key : κ) (v : ν) : List (κ × ν) → List (κ × ν)
  | [] => [(key, v)]
  | (k, w) :: rest => if k = key then (k, v) :: rest else (k, w) :: setItem key v rest

theorem lookup_setItem_self (key : κ) (v : ν) :
    ∀ items : List (κ × ν), (setItem key v items).lookup key = some v
  | [] => by simp [setItem]
  | (k, w) :: rest => by
    by_cases h : k = key
    · simp [setItem, h]
    · have hne : (key == k) = false := by simpa using Ne.symm h
      simp [setItem, h, List.lookup_cons, hne, lookup_setItem_self key v rest]

theorem lookup_setItem_ne {key key' : κ} (v : ν) (hne : key' ≠ key) :
    ∀ items : List (κ × ν), (setItem key v items).lookup key' = items.lookup key'
  | [] => by
    have hb : (key' == key) = false := by simpa using hne
    simp [setItem, List.lookup_cons, hb]
  | (k, w) :: rest => by
    by_cases h : k = key
    · have hb : (key' == k) = false := by rw [h]; simpa using hne
      simp [setItem, h, List.lookup_cons, h ▸ hb]
    · simp [setItem, h, List.lookup_cons, lookup_setItem_ne v hne rest]

theorem mem_setItem {key : κ} {v : ν} {kv : κ × ν} {items : List (κ × ν)}
    (h : kv ∈ setItem key v items) : kv = (key, v) ∨ kv ∈ items := by
  induction items with
  | nil => exact .inl (List.mem_singleton.mp h)
  | cons kw rest ih =>
    unfold setItem at h
    split at h
    · rename_i hkey
      rcases List.mem_cons.mp h with rfl | hrest
      · exact .inl (by rw [hkey])
      · exact .inr (List.mem_cons_of_mem _ hrest)
    · rcases List.mem_cons.mp h with rfl | hrest
      · exact .inr List.mem_cons_self
      · exact (ih hrest).imp_right (List.mem_cons_of_mem _)

/-- Assigning keeps the keys in order, with a new one at the end. -/
theorem keys_setItem (key : κ) (v : ν) : ∀ items : List (κ × ν),
    (setItem key v items).map Prod.fst =
      if key ∈ items.map Prod.fst then items.map Prod.fst else items.map Prod.fst ++ [key]
  | [] => by simp [setItem]
  | (k, w) :: rest => by
    by_cases h : k = key
    · simp [setItem, h]
    · have ih := keys_setItem key v rest
      simp only [setItem, h, if_false, List.map_cons, ih, List.mem_cons, Ne.symm h, false_or]
      split <;> rfl

theorem nodup_setItem (key : κ) (v : ν) {items : List (κ × ν)}
    (hnd : (items.map Prod.fst).Nodup) : ((setItem key v items).map Prod.fst).Nodup := by
  rw [keys_setItem]
  split
  · exact hnd
  · rename_i hmem
    rw [List.nodup_append]
    refine ⟨hnd, by simp, fun a ha b hb => ?_⟩
    rw [List.mem_singleton] at hb
    rintro rfl
    exact hmem (hb ▸ ha)

/-- With no key twice, an item is in the list exactly when its key is looked up to its value. -/
theorem lookup_eq_some_iff {items : List (κ × ν)} (hnd : (items.map Prod.fst).Nodup)
    {key : κ} {v : ν} : items.lookup key = some v ↔ (key, v) ∈ items := by
  induction items with
  | nil => simp
  | cons kw rest ih =>
    obtain ⟨k, w⟩ := kw
    rw [List.map_cons, List.nodup_cons] at hnd
    by_cases h : key = k
    · subst h
      simp only [List.lookup_cons, beq_self_eq_true, Option.some.injEq, List.mem_cons,
        Prod.mk.injEq, true_and]
      constructor
      · intro hw; exact Or.inl hw.symm
      · rintro (hw | hmem)
        · exact hw.symm
        · exact absurd (List.mem_map_of_mem (f := Prod.fst) hmem) hnd.1
    · have hb : (key == k) = false := by simpa using h
      simp [List.lookup_cons, hb, ih hnd.2, h]

/-- A dictionary: its items in insertion order, no key twice. -/
structure Dict (κ ν : Type) where
  items : List (κ × ν)
  nodup : (items.map Prod.fst).Nodup

namespace Dict

def empty : Dict κ ν := ⟨[], by simp⟩

def get? (d : Dict κ ν) (key : κ) : Option ν := d.items.lookup key

def set (d : Dict κ ν) (key : κ) (v : ν) : Dict κ ν :=
  ⟨setItem key v d.items, nodup_setItem key v d.nodup⟩

/-- `del d[key]`, and nothing when the key is absent. -/
def erase (d : Dict κ ν) (key : κ) : Dict κ ν :=
  ⟨d.items.filter (·.1 ≠ key), (d.nodup.sublist (List.filter_sublist.map Prod.fst))⟩

/-- `{k: v for k, v in d.items() if p(k)}`. -/
def filterKeys (d : Dict κ ν) (p : κ → Bool) : Dict κ ν :=
  ⟨d.items.filter (p ·.1), (d.nodup.sublist (List.filter_sublist.map Prod.fst))⟩

/-- `d.update(items)`. -/
def update (d : Dict κ ν) (items : List (κ × ν)) : Dict κ ν :=
  items.foldl (fun acc kv => acc.set kv.1 kv.2) d

/-- `{k: v for k, v in items}`: a later item of a key overrides an earlier one. -/
def ofItems (items : List (κ × ν)) : Dict κ ν := empty.update items

@[simp] theorem get?_empty (key : κ) : (empty : Dict κ ν).get? key = none := rfl

@[simp] theorem get?_set_self (d : Dict κ ν) (key : κ) (v : ν) :
    (d.set key v).get? key = some v := lookup_setItem_self key v d.items

theorem get?_set_ne (d : Dict κ ν) {key key' : κ} (v : ν) (hne : key' ≠ key) :
    (d.set key v).get? key' = d.get? key' := lookup_setItem_ne v hne d.items

theorem get?_set (d : Dict κ ν) (key key' : κ) (v : ν) :
    (d.set key v).get? key' = if key' = key then some v else d.get? key' := by
  split
  · rename_i h; rw [h, get?_set_self]
  · rename_i h; exact get?_set_ne d v h

theorem mem_iff (d : Dict κ ν) {key : κ} {v : ν} :
    (key, v) ∈ d.items ↔ d.get? key = some v := (lookup_eq_some_iff d.nodup).symm

theorem get?_erase (d : Dict κ ν) (key key' : κ) :
    (d.erase key).get? key' = if key' = key then none else d.get? key' := by
  apply Option.ext
  intro v
  have herase : (d.erase key).get? key' = some v ↔ (key', v) ∈ d.items ∧ key' ≠ key := by
    rw [← mem_iff]; simp [erase]
  rw [herase, mem_iff]
  split <;> simp_all

theorem get?_filterKeys (d : Dict κ ν) (p : κ → Bool) (key : κ) :
    (d.filterKeys p).get? key = if p key then d.get? key else none := by
  apply Option.ext
  intro v
  have hfilter : (d.filterKeys p).get? key = some v ↔ (key, v) ∈ d.items ∧ p key = true := by
    rw [← mem_iff]; simp [filterKeys]
  rw [hfilter, mem_iff]
  split <;> simp_all

theorem update_append (d : Dict κ ν) (items items' : List (κ × ν)) :
    d.update (items ++ items') = (d.update items).update items' := List.foldl_append ..

/-- An update answers the last item of a key it carries, and the old value otherwise. -/
theorem get?_update (d : Dict κ ν) (items : List (κ × ν)) (key : κ) :
    (d.update items).get? key = (items.reverse.lookup key).or (d.get? key) := by
  induction items generalizing d with
  | nil => simp [update]
  | cons kv rest ih =>
    obtain ⟨k, w⟩ := kv
    have hstep : d.update ((k, w) :: rest) = (d.set k w).update rest := rfl
    rw [hstep, ih, get?_set, List.reverse_cons, List.lookup_append, Option.or_assoc]
    congr 1
    by_cases h : key = k
    · simp [h]
    · have hb : (key == k) = false := by simpa using h
      simp [h, List.lookup_cons, hb]

/-- An update by a dictionary answers that dictionary's value, and the old one otherwise. -/
theorem get?_update_items (d e : Dict κ ν) (key : κ) :
    (d.update e.items).get? key = (e.get? key).or (d.get? key) := by
  have hnodup : (e.items.reverse.map Prod.fst).Nodup := by
    rw [List.map_reverse, List.nodup_reverse]
    exact e.nodup
  have hreverse : e.items.reverse.lookup key = e.get? key := by
    apply Option.ext
    intro v
    rw [lookup_eq_some_iff hnodup, List.mem_reverse, mem_iff]
  rw [get?_update, hreverse]

/-- Assigning what is there already changes nothing. -/
theorem items_update_singleton {d : Dict κ ν} {key : κ} {v : ν} (hd : d.items = [(key, v)])
    (items : List (κ × ν)) (hitems : ∀ item ∈ items, item = (key, v)) :
    (d.update items).items = [(key, v)] := by
  induction items generalizing d with
  | nil => exact hd
  | cons item rest ih =>
    rw [List.forall_mem_cons] at hitems
    obtain ⟨rfl, hrest⟩ := hitems
    refine ih (d := d.set key v) ?_ hrest
    simp [set, hd, setItem]

/-- A key that was assigned is there after an update. -/
theorem isSome_get?_update (d : Dict κ ν) {items : List (κ × ν)} {key : κ} {v : ν}
    (h : (key, v) ∈ items) : ((d.update items).get? key).isSome := by
  rw [get?_update, Option.isSome_or, Bool.or_eq_true]
  left
  rw [List.lookup_isSome_iff]
  exact ⟨(key, v), List.mem_reverse.mpr h, by simp⟩

end Dict

end Py
