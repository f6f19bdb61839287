import Mathlib.Data.String.Basic
import A5cCell.Lib.Table
import A5cCell.DataAccess.Isolation

/-!
# DynamoDB

The tables behind the clients: rows under a partition key and a sort key, and what each request
answers and writes. What the requests leave to DynamoDB are the parameters of `Dynamo`: how many
rows a page has room for, where a scan comes by a row, and the expressions given as text.

A request confined to a tenant reads and writes rows of its own partition, and rows of no tenant:
tables that agree on these answer it alike (`serve_agree`), and no other row is written
(`serve_frame`).
-/

namespace A5cCell.DataAccess

open Py (Val Items Dict)

/-- Where a row is. -/
structure RowKey where
  table : String
  pk : String
  sk : String
  deriving DecidableEq

/-- The tables, with what each row holds besides its key. -/
abbrev Tables : Type := Dict RowKey Items

/-- The key as an item. -/
def RowKey.item (key : RowKey) : Items := [("PK", .str key.pk), ("SK", .str key.sk)]

/-- The row as an item. -/
def RowKey.row (key : RowKey) (attributes : Items) : Items := key.item ++ attributes

/-- What an item holds besides its key. -/
def attributesOf (item : Items) : Items := item.filter fun kv => kv.1 ≠ "PK" && kv.1 ≠ "SK"

/-- The key in an item; DynamoDB takes no empty text for one. -/
def keyOf? (table : String) (item : Items) : Option RowKey :=
  match textOf item "PK", textOf item "SK" with
  | some pk, some sk => if pk = "" ∨ sk = "" then none else some ⟨table, pk, sk⟩
  | _, _ => none

/-- An item as an argument, with its key. -/
def Arg.item? (table : String) : Arg → Option (RowKey × Items)
  | .val v => v.asDict?.bind fun item => (keyOf? table item).map fun key => (key, attributesOf item)
  | .condition _ => none

/-- A key as an argument: its two attributes and no other. -/
def Arg.key? (table : String) : Arg → Option RowKey
  | .val v => v.asDict?.bind fun key => if key.length = 2 then keyOf? table key else none
  | .condition _ => none

/-- What DynamoDB decides besides the contents of the tables. -/
structure Dynamo where
  /-- How many rows of a listing a page has room for. -/
  fit : List (RowKey × Items) → Nat
  /-- Where a scan comes by a row. -/
  placement : RowKey → Nat
  /-- Whether an expression given as text, under a name among the arguments, holds of a row. -/
  holds : String → Dict String Arg → Items → Bool
  /-- What an update expression makes of a row. -/
  update : Dict String Arg → Items → Except Fault Items

namespace Dynamo

def invalid : Fault := .clientError "ValidationException"

/-- What boto3 raises for an argument of the wrong type. -/
def paramValidation : Fault := .botoCoreError "ParamValidationError"

def conditionalCheckFailed : Fault := .clientError "ConditionalCheckFailedException"

variable (dynamo : Dynamo)

/-- What an expression argument selects, everything where there is none. -/
def selects (name : String) (kwargs : Dict String Arg) : Items → Bool :=
  match kwargs.get? name with
  | some arg => arg.selects (dynamo.holds name) kwargs
  | none => fun _ => true

/-- Whether the condition of a write holds of the row, or of no row. -/
def conditionHolds (kwargs : Dict String Arg) (row : Option Items) : Bool :=
  dynamo.selects "ConditionExpression" kwargs (row.getD [])

/-- The order of a partition: its sort keys. -/
def sortRank (key : RowKey) : String ×ₗ String ×ₗ String := toLex (key.sk, toLex (key.pk, key.table))

/-- The order of a scan. -/
def scanRank (key : RowKey) : Nat ×ₗ String ×ₗ String ×ₗ String :=
  toLex (dynamo.placement key, sortRank key)

/-- `Limit`. -/
def limitOf (kwargs : Dict String Arg) : Except Fault (Option Nat) :=
  match kwargs.get? "Limit" with
  | none => .ok none
  | some (.val (.int n)) => if 1 ≤ n then .ok (some n.toNat) else .error invalid
  | some _ => .error invalid

/-- `ExclusiveStartKey`. -/
def startOf (table : String) (kwargs : Dict String Arg) : Except Fault (Option RowKey) :=
  match kwargs.get? "ExclusiveStartKey" with
  | none => .ok none
  | some (.val (.dict key)) => match Arg.key? table (.val (.dict key)) with
    | some key => .ok (some key)
    | none => .error invalid
  | some _ => .error paramValidation

/-- A page of a listing: rows are taken up to the size of a page or the limit, and then filtered. -/
def list {ι : Type} [LinearOrder ι] (rank : RowKey → ι) (selects : Items → Bool) (table : String)
    (kwargs : Dict String Arg) (tables : Tables) : Except Fault PaginatedItems := do
  let limit ← limitOf kwargs
  let start ← startOf table kwargs
  let rows := Table.entries rank
    (fun key attributes => key.table = table && selects (key.row attributes)) tables
  let (page, stopped) := Table.page dynamo.fit limit (Table.after rank start rows)
  pure {
    items := (page.map fun row => row.1.row row.2).filter
      (dynamo.selects "FilterExpression" kwargs)
    lastEvaluatedKey := if stopped then page.getLast?.map (·.1.item) else none }

/-- `ScanIndexForward`. -/
def backwards (kwargs : Dict String Arg) : Bool :=
  match kwargs.get? "ScanIndexForward" with
  | some (.val (.bool false)) => true
  | _ => false

/-- What a request answers, and the tables after it. -/
def serve (tables : Tables) : (r : Request) → Answer r × Tables
  | ⟨.getItem, table, kwargs⟩ =>
      match (kwargs.get? "Key").bind (Arg.key? table) with
      | none => (.error invalid, tables)
      | some key => (.ok ((tables.get? key).map key.row), tables)
  | ⟨.putItem, table, kwargs⟩ =>
      match (kwargs.get? "Item").bind (Arg.item? table) with
      | none => (.error invalid, tables)
      | some (key, attributes) =>
          if dynamo.conditionHolds kwargs ((tables.get? key).map key.row) then
            (.ok (), tables.set key attributes)
          else (.error conditionalCheckFailed, tables)
  | ⟨.updateItem, table, kwargs⟩ =>
      match (kwargs.get? "Key").bind (Arg.key? table) with
      | none => (.error invalid, tables)
      | some key =>
          if dynamo.conditionHolds kwargs ((tables.get? key).map key.row) then
            match dynamo.update kwargs (key.row ((tables.get? key).getD [])) with
            | .error fault => (.error fault, tables)
            | .ok row =>
                (.ok [("Attributes", .dict (key.row (attributesOf row)))],
                  tables.set key (attributesOf row))
          else (.error conditionalCheckFailed, tables)
  | ⟨.deleteItem, table, kwargs⟩ =>
      match (kwargs.get? "Key").bind (Arg.key? table) with
      | none => (.error invalid, tables)
      | some key =>
          if dynamo.conditionHolds kwargs ((tables.get? key).map key.row) then
            (.ok (), tables.erase key)
          else (.error conditionalCheckFailed, tables)
  | ⟨.query, table, kwargs⟩ =>
      let selects := dynamo.selects "KeyConditionExpression" kwargs
      if backwards kwargs then
        (dynamo.list (OrderDual.toDual ∘ sortRank) selects table kwargs tables, tables)
      else (dynamo.list sortRank selects table kwargs tables, tables)
  | ⟨.scan, table, kwargs⟩ =>
      (dynamo.list dynamo.scanRank (fun _ => true) table kwargs tables, tables)

/-- A scan from what is no key of the table: it is refused, whatever the tables hold. -/
def Rejected : Request → Prop
  | ⟨.scan, table, kwargs⟩ => ∃ fault, startOf table kwargs = .error fault
  | _ => False

/-! ## What a confined request sees -/

/-- A key of the tenant's partition, or of no tenant's. -/
def Visible (tenantId : String) (key : RowKey) : Prop := isForeignPk tenantId key.pk = false

variable {dynamo} {tenantId : String}

theorem sortRank_injective : Function.Injective sortRank := by
  rintro ⟨table, pk, sk⟩ ⟨table', pk', sk'⟩ h
  simp only [sortRank, EmbeddingLike.apply_eq_iff_eq, Prod.mk.injEq] at h
  obtain ⟨rfl, rfl, rfl⟩ := h
  rfl

theorem keyOf?_eq_some {table : String} {item : Items} {key : RowKey}
    (h : keyOf? table item = some key) : textOf item "PK" = some key.pk := by
  unfold keyOf? at h
  split at h
  · rename_i pk sk hpk hsk
    split at h
    · exact absurd h (by simp)
    · cases h
      exact hpk
  · exact absurd h (by simp)

theorem Arg.pk?_of_key? {table : String} {arg : Arg} {key : RowKey}
    (h : arg.key? table = some key) : arg.pk? = some key.pk := by
  cases arg with
  | condition selects => exact absurd h (by simp [Arg.key?])
  | val v =>
    simp only [Arg.key?, Option.bind_eq_some_iff] at h
    obtain ⟨item, hitem, hkey⟩ := h
    split at hkey
    · simp only [Arg.pk?, hitem, Option.bind_some]
      exact keyOf?_eq_some hkey
    · exact absurd hkey (by simp)

theorem Arg.pk?_of_item? {table : String} {arg : Arg} {key : RowKey} {attributes : Items}
    (h : arg.item? table = some (key, attributes)) : arg.pk? = some key.pk := by
  cases arg with
  | condition selects => exact absurd h (by simp [Arg.item?])
  | val v =>
    simp only [Arg.item?, Option.bind_eq_some_iff, Option.map_eq_some_iff, Prod.mk.injEq] at h
    obtain ⟨item, hitem, key', hkey, rfl, rfl⟩ := h
    simp only [Arg.pk?, hitem, Option.bind_some]
    exact keyOf?_eq_some hkey

/-- A key sent as one that is the tenant's, or no tenant's. -/
theorem visible_of_key? {kwargs : Dict String Arg} {name table : String} {key : RowKey}
    (hown : OwnPk tenantId ((kwargs.get? name).bind Arg.pk?))
    (hkey : (kwargs.get? name).bind (Arg.key? table) = some key) : Visible tenantId key := by
  obtain ⟨arg, harg, hkey⟩ := Option.bind_eq_some_iff.mp hkey
  rw [harg] at hown
  exact hown key.pk (Arg.pk?_of_key? hkey)

theorem visible_of_item? {kwargs : Dict String Arg} {name table : String} {key : RowKey}
    {attributes : Items} (hown : OwnPk tenantId ((kwargs.get? name).bind Arg.pk?))
    (hitem : (kwargs.get? name).bind (Arg.item? table) = some (key, attributes)) :
    Visible tenantId key := by
  obtain ⟨arg, harg, hitem⟩ := Option.bind_eq_some_iff.mp hitem
  rw [harg] at hown
  exact hown key.pk (Arg.pk?_of_item? hitem)

theorem isForeignPk_own : isForeignPk tenantId (tenantPkPrefix ++ tenantId) = false := by
  simp [isForeignPk]

/-- A listing confined to the partition is the same of tables that agree on it. -/
theorem list_congr {ι : Type} [LinearOrder ι] {rank : RowKey → ι} (hrank : Function.Injective rank)
    {selects : Items → Bool} (hselects : ConfinedTo tenantId selects) (table : String)
    (kwargs : Dict String Arg) {tables tables' : Tables}
    (h : Table.Agree (Visible tenantId) tables tables') :
    dynamo.list rank selects table kwargs tables = dynamo.list rank selects table kwargs tables' := by
  have hrows := Table.entries_congr hrank (V := Visible tenantId)
    (fun key attributes => key.table = table && selects (key.row attributes))
    (fun key attributes hselect => by
      have hpk := hselects _ (Bool.and_eq_true_iff.mp hselect).2
      have hkey : key.pk = tenantPkPrefix ++ tenantId := by
        simpa [RowKey.row, RowKey.item, textOf, Items.get, Val.asStr?] using hpk
      rw [Visible, hkey]
      exact isForeignPk_own) h
  simp only [list, hrows]

/-- **What a confined request is answered** depends on the rows the tenant may see, and what it
    writes to two tables keeps them alike. -/
theorem serve_agree {r : Request}
    (hr : r.Confined (dynamo.holds "KeyConditionExpression") tenantId) {tables tables' : Tables}
    (h : Table.Agree (Visible tenantId) tables tables') :
    (dynamo.serve tables r).1 = (dynamo.serve tables' r).1 ∧
      Table.Agree (Visible tenantId) (dynamo.serve tables r).2 (dynamo.serve tables' r).2 := by
  obtain ⟨operation, table, kwargs⟩ := r
  cases operation with
  | getItem =>
    simp only [serve]
    cases hkey : (kwargs.get? "Key").bind (Arg.key? table) with
    | none => exact ⟨rfl, h⟩
    | some key =>
      simp only
      rw [h key (visible_of_key? hr hkey)]
      exact ⟨rfl, h⟩
  | putItem =>
    simp only [serve]
    cases hitem : (kwargs.get? "Item").bind (Arg.item? table) with
    | none => exact ⟨rfl, h⟩
    | some item =>
      obtain ⟨key, attributes⟩ := item
      simp only
      rw [h key (visible_of_item? hr hitem)]
      split
      · exact ⟨rfl, h.set key attributes⟩
      · exact ⟨rfl, h⟩
  | updateItem =>
    simp only [serve]
    cases hkey : (kwargs.get? "Key").bind (Arg.key? table) with
    | none => exact ⟨rfl, h⟩
    | some key =>
      simp only
      rw [h key (visible_of_key? hr hkey)]
      split
      · split
        · exact ⟨rfl, h⟩
        · exact ⟨rfl, h.set key _⟩
      · exact ⟨rfl, h⟩
  | deleteItem =>
    simp only [serve]
    cases hkey : (kwargs.get? "Key").bind (Arg.key? table) with
    | none => exact ⟨rfl, h⟩
    | some key =>
      simp only
      rw [h key (visible_of_key? hr hkey)]
      split
      · exact ⟨rfl, h.erase key⟩
      · exact ⟨rfl, h⟩
  | query =>
    -- A query reads many rows, all of the partition its condition names.
    have hselects : ConfinedTo tenantId (dynamo.selects "KeyConditionExpression" kwargs) := hr
    simp only [serve]
    split
    · exact ⟨list_congr (OrderDual.toDual.injective.comp sortRank_injective) hselects table kwargs h,
        h⟩
    · exact ⟨list_congr sortRank_injective hselects table kwargs h, h⟩
  | scan => exact absurd hr id

/-- **A confined request writes no other tenant's row.** -/
theorem serve_frame {r : Request}
    (hr : r.Confined (dynamo.holds "KeyConditionExpression") tenantId) (tables : Tables) :
    Table.Agree (fun key => ¬ Visible tenantId key) (dynamo.serve tables r).2 tables := by
  obtain ⟨operation, table, kwargs⟩ := r
  cases operation with
  | getItem =>
    simp only [serve]
    split <;> exact Table.Agree.refl _ _
  | putItem =>
    simp only [serve]
    cases hitem : (kwargs.get? "Item").bind (Arg.item? table) with
    | none => exact Table.Agree.refl _ _
    | some item =>
      simp only
      split
      · exact .set_of_not (V := fun key => ¬ Visible tenantId key) _
          (not_not.mpr (visible_of_item? hr hitem)) _
      · exact Table.Agree.refl _ _
  | updateItem =>
    simp only [serve]
    cases hkey : (kwargs.get? "Key").bind (Arg.key? table) with
    | none => exact Table.Agree.refl _ _
    | some key =>
      simp only
      split
      · split
        · exact Table.Agree.refl _ _
        · exact .set_of_not (V := fun key => ¬ Visible tenantId key) _
            (not_not.mpr (visible_of_key? hr hkey)) _
      · exact Table.Agree.refl _ _
  | deleteItem =>
    simp only [serve]
    cases hkey : (kwargs.get? "Key").bind (Arg.key? table) with
    | none => exact Table.Agree.refl _ _
    | some key =>
      simp only
      split
      · exact .erase_of_not (V := fun key => ¬ Visible tenantId key) _
          (not_not.mpr (visible_of_key? hr hkey))
      · exact Table.Agree.refl _ _
  | query =>
    simp only [serve]
    split <;> exact Table.Agree.refl _ _
  | scan => exact absurd hr id

/-! ## One table -/

theorem keyOf?_table {table : String} {item : Items} {key : RowKey}
    (h : keyOf? table item = some key) : key.table = table := by
  unfold keyOf? at h
  split at h
  · split at h
    · cases h
    · cases h
      rfl
  · cases h

theorem Arg.key?_table {table : String} {arg : Arg} {key : RowKey} (h : arg.key? table = some key) :
    key.table = table := by
  cases arg with
  | condition selects => cases h
  | val v =>
    simp only [Arg.key?, Option.bind_eq_some_iff] at h
    obtain ⟨item, -, hkey⟩ := h
    split at hkey
    · exact keyOf?_table hkey
    · cases hkey

theorem Arg.item?_table {table : String} {arg : Arg} {key : RowKey} {attributes : Items}
    (h : arg.item? table = some (key, attributes)) : key.table = table := by
  cases arg with
  | condition selects => cases h
  | val v =>
    simp only [Arg.item?, Option.bind_eq_some_iff, Option.map_eq_some_iff, Prod.mk.injEq] at h
    obtain ⟨item, -, key', hkey, rfl, -⟩ := h
    exact keyOf?_table hkey

/-- **A request writes rows of its own table.** -/
theorem serve_frame_table (r : Request) (tables : Tables) :
    Table.Agree (fun key => key.table ≠ r.table) (dynamo.serve tables r).2 tables := by
  obtain ⟨operation, table, kwargs⟩ := r
  have hkey {name : String} {key : RowKey}
      (h : (kwargs.get? name).bind (Arg.key? table) = some key) : ¬ key.table ≠ table := by
    obtain ⟨arg, -, harg⟩ := Option.bind_eq_some_iff.mp h
    exact not_not.mpr (Arg.key?_table harg)
  cases operation with
  | getItem =>
    simp only [serve]
    split <;> exact Table.Agree.refl _ _
  | putItem =>
    simp only [serve]
    cases hitem : (kwargs.get? "Item").bind (Arg.item? table) with
    | none => exact Table.Agree.refl _ _
    | some item =>
      simp only
      split
      · obtain ⟨arg, -, harg⟩ := Option.bind_eq_some_iff.mp hitem
        exact .set_of_not (V := fun key : RowKey => key.table ≠ table) _ (not_not.mpr (Arg.item?_table harg)) _
      · exact Table.Agree.refl _ _
  | updateItem =>
    simp only [serve]
    cases hupdated : (kwargs.get? "Key").bind (Arg.key? table) with
    | none => exact Table.Agree.refl _ _
    | some key =>
      simp only
      split
      · split
        · exact Table.Agree.refl _ _
        · exact .set_of_not (V := fun key : RowKey => key.table ≠ table) _ (hkey hupdated) _
      · exact Table.Agree.refl _ _
  | deleteItem =>
    simp only [serve]
    cases hdeleted : (kwargs.get? "Key").bind (Arg.key? table) with
    | none => exact Table.Agree.refl _ _
    | some key =>
      simp only
      split
      · exact .erase_of_not (V := fun key : RowKey => key.table ≠ table) _ (hkey hdeleted)
      · exact Table.Agree.refl _ _
  | query =>
    simp only [serve]
    split <;> exact Table.Agree.refl _ _
  | scan => exact Table.Agree.refl _ _

/-- A listing looks at the rows of its table. -/
theorem list_congr_table {ι : Type} [LinearOrder ι] {rank : RowKey → ι}
    (hrank : Function.Injective rank) (selects : Items → Bool) {table : String}
    (kwargs : Dict String Arg) {tables tables' : Tables}
    (h : Table.Agree (fun key => key.table = table) tables tables') :
    dynamo.list rank selects table kwargs tables = dynamo.list rank selects table kwargs tables' := by
  have hrows := Table.entries_congr hrank (V := fun key : RowKey => key.table = table)
    (fun key attributes => key.table = table && selects (key.row attributes))
    (fun key attributes hselect => of_decide_eq_true (Bool.and_eq_true_iff.mp hselect).1) h
  simp only [list, hrows]

/-- A query is answered from the rows of its table. -/
theorem serve_query_congr {r : Request} (hquery : r.operation = .query) {tables tables' : Tables}
    (h : Table.Agree (fun key => key.table = r.table) tables tables') :
    (dynamo.serve tables r).1 = (dynamo.serve tables' r).1 := by
  obtain ⟨operation, table, kwargs⟩ := r
  cases hquery
  simp only [serve]
  split
  · exact list_congr_table (OrderDual.toDual.injective.comp sortRank_injective) _ kwargs h
  · exact list_congr_table sortRank_injective _ kwargs h

theorem serve_rejected (dynamo : Dynamo) {r : Request} (hr : Rejected r) :
    ∃ answer, ∀ tables, dynamo.serve tables r = (answer, tables) := by
  obtain ⟨operation, table, kwargs⟩ := r
  cases operation with
  | scan =>
    obtain ⟨fault, hstart⟩ := hr
    cases hlimit : limitOf kwargs with
    | error refusal =>
      refine ⟨.error refusal, fun tables => ?_⟩
      simp only [serve, list, hlimit]
      rfl
    | ok limit =>
      refine ⟨.error fault, fun tables => ?_⟩
      simp only [serve, list, hlimit, hstart]
      rfl
  | _ => exact absurd hr id

end Dynamo

end A5cCell.DataAccess
