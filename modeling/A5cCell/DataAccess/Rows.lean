import A5cCell.DataAccess.Store

/-!
# Rows and their attributes

A row is its key and its attributes, and is stored as the attributes under the key: a field that is no
part of a key reads alike from the row, from what is stored of it, and from the item it came with.
-/

namespace A5cCell.DataAccess

open Py (Val Items)

/-- A field that is no part of a key. -/
def IsAttribute (field : String) : Prop := field ≠ "PK" ∧ field ≠ "SK"

instance (field : String) : Decidable (IsAttribute field) := inferInstanceAs (Decidable (_ ∧ _))

theorem lookup_attributesOf {field : String} (hfield : IsAttribute field) (item : Items) :
    (attributesOf item).lookup field = item.lookup field := by
  unfold attributesOf
  induction item with
  | nil => rfl
  | cons kv item ih =>
    obtain ⟨name, v⟩ := kv
    by_cases hname : name = field
    · have hkeep : (decide (name ≠ "PK") && decide (name ≠ "SK")) = true := by
        rw [hname, Bool.and_eq_true, decide_eq_true_iff, decide_eq_true_iff]
        exact hfield
      have hsame : (field == name) = true := by simp [hname]
      rw [List.filter_cons, if_pos hkeep, List.lookup_cons, List.lookup_cons, hsame]
    · have hdiffers : (field == name) = false := by simpa using Ne.symm hname
      rw [List.filter_cons, List.lookup_cons, hdiffers]
      split
      · rw [List.lookup_cons, hdiffers]
        exact ih
      · exact ih

theorem lookup_row {field : String} (hfield : IsAttribute field) (key : RowKey)
    (attributes : Items) : (key.row attributes).lookup field = attributes.lookup field := by
  have hpk : (field == "PK") = false := by simpa using hfield.1
  have hsk : (field == "SK") = false := by simpa using hfield.2
  simp [RowKey.row, RowKey.item, List.lookup_cons, hpk, hsk]

/-- The row of a key, as it is or without attributes. -/
theorem lookup_row_getD {field : String} (hfield : IsAttribute field) (key : RowKey)
    (row : Option Items) :
    (key.row (row.getD [])).lookup field = row.bind fun row => row.lookup field := by
  rw [lookup_row hfield]
  cases row <;> rfl

theorem eq_attributesOf {table : String} {item attributes : Items} {key : RowKey}
    (h : Arg.item? table (.val (.dict item)) = some (key, attributes)) :
    attributes = attributesOf item := by
  simp only [Arg.item?, Val.asDict?_dict, Option.bind_some, Option.map_eq_some_iff,
    Prod.mk.injEq] at h
  obtain ⟨_, _, _, hattributes⟩ := h
  exact hattributes.symm

end A5cCell.DataAccess
