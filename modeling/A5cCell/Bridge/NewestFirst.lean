import A5cCell.Lib.Newest
import A5cCell.DataAccess.Pages
import A5cCell.Bridge.Discovery

/-!
# The newest row

What the three readers of the agents table make of rows they can read: the promoted rows, newest
first. A row whose status is unknown, or a promoted one whose version has digits that `int` does
not read, stops a reader.
-/

namespace A5cCell.Bridge.Discovery

open Py (Val Items Dict)
open DataAccess Newest

variable (unicode : Unicode)

/-- A row whose status is one of the known, in any spelling that is understood. -/
def Recognised (item : Items) : Prop :=
  ∃ invokable, isInvokableAgentStatus (optionalText item "status") = .ok invokable

/-- A row that may be invoked. -/
def promotable (item : Items) : Bool :=
  match isPromoted item with
  | .ok promoted => promoted
  | .error _ => false

/-- A row whose version can be compared. -/
def Comparable (item : Items) : Prop := ∃ key, agentRecordSortKey unicode item = .ok key

/-- The sort key of a row that has one. -/
def sortKey (item : Items) : SortKey :=
  match agentRecordSortKey unicode item with
  | .ok key => key
  | .error _ => toLex ([], "")

variable {unicode}

theorem recognised_iff {item : Items} :
    Recognised item ↔ isPromoted item = .ok (promotable item) := by
  unfold Recognised promotable isPromoted
  cases isInvokableAgentStatus (optionalText item "status") with
  | ok invokable => exact ⟨fun _ => rfl, fun _ => ⟨invokable, rfl⟩⟩
  | error exc =>
    constructor
    · rintro ⟨_, h⟩
      cases h
    · intro h
      cases h

theorem not_recognised {item : Items} (h : ¬ Recognised item) : ∃ exc, isPromoted item = .error exc := by
  unfold Recognised at h
  unfold isPromoted
  cases hstatus : isInvokableAgentStatus (optionalText item "status") with
  | ok invokable => exact absurd ⟨invokable, hstatus⟩ h
  | error exc => exact ⟨exc, rfl⟩

theorem comparable_iff {item : Items} :
    Comparable unicode item ↔ agentRecordSortKey unicode item = .ok (sortKey unicode item) := by
  unfold Comparable sortKey
  cases agentRecordSortKey unicode item with
  | ok key => exact ⟨fun _ => rfl, fun _ => ⟨key, rfl⟩⟩
  | error exc =>
    constructor
    · rintro ⟨_, h⟩
      cases h
    · intro h
      cases h

/-- Where every status is known, the rows that may be invoked are found. -/
theorem promotedRows_ok {items : List Items} (h : ∀ item ∈ items, Recognised item) :
    promotedRows items = .ok (items.filter promotable) := by
  induction items with
  | nil => rfl
  | cons item items ih =>
    rw [List.forall_mem_cons] at h
    rw [promotedRows, recognised_iff.mp h.1, ih h.2, List.filter_cons]
    rfl

theorem recognised_of_promotedRows {items rows : List Items} (h : promotedRows items = .ok rows) :
    ∀ item ∈ items, Recognised item := by
  induction items generalizing rows with
  | nil => simp
  | cons item items ih =>
    rw [List.forall_mem_cons]
    by_cases hitem : Recognised item
    · refine ⟨hitem, ?_⟩
      rw [promotedRows, recognised_iff.mp hitem] at h
      cases hrest : promotedRows items with
      | ok rest => exact ih hrest
      | error exc =>
        rw [hrest] at h
        cases h
    · obtain ⟨exc, herror⟩ := not_recognised hitem
      rw [promotedRows, herror] at h
      cases h

theorem withSortKeys_ok {items : List Items} (h : ∀ item ∈ items, Comparable unicode item) :
    withSortKeys unicode items = .ok (items.map fun item => (sortKey unicode item, item)) := by
  induction items with
  | nil => rfl
  | cons item items ih =>
    rw [List.forall_mem_cons] at h
    rw [withSortKeys, comparable_iff.mp h.1, ih h.2]
    rfl

theorem comparable_of_withSortKeys {items : List Items} {keyed : List (SortKey × Items)}
    (h : withSortKeys unicode items = .ok keyed) : ∀ item ∈ items, Comparable unicode item := by
  induction items generalizing keyed with
  | nil => simp
  | cons item items ih =>
    rw [List.forall_mem_cons]
    cases hkey : agentRecordSortKey unicode item with
    | error exc =>
      rw [withSortKeys, hkey] at h
      cases h
    | ok key =>
      refine ⟨⟨key, hkey⟩, ?_⟩
      rw [withSortKeys, hkey] at h
      cases hrest : withSortKeys unicode items with
      | ok rest => exact ih hrest
      | error exc =>
        rw [hrest] at h
        cases h

/-- Rows whose statuses are known, and whose promoted versions can be compared. -/
structure Readable (unicode : Unicode) (items : List Items) : Prop where
  recognised : ∀ item ∈ items, Recognised item
  comparable : ∀ item ∈ items, promotable item = true → Comparable unicode item

/-- **The promoted rows, newest first**, of rows that can be read. -/
theorem promotedNewestFirst_ok {items : List Items} (h : Readable unicode items) :
    promotedNewestFirst unicode items =
      .ok (descending (sortKey unicode) (items.filter promotable)) := by
  have hkeys : withSortKeys unicode (items.filter promotable) =
      .ok ((items.filter promotable).map fun item => (sortKey unicode item, item)) := by
    apply withSortKeys_ok
    intro item hitem
    rw [List.mem_filter] at hitem
    exact h.comparable item hitem.1 hitem.2
  have hsort : (((items.filter promotable).map fun item => (sortKey unicode item, item)).insertionSort
      fun a b => b.1 ≤ a.1).map (·.2) = descending (sortKey unicode) (items.filter promotable) := by
    have hmap := List.map_insertionSort (r := fun a b => sortKey unicode b ≤ sortKey unicode a)
      (s := fun a b : SortKey × Items => b.1 ≤ a.1) (fun item => (sortKey unicode item, item))
      (items.filter promotable) (fun _ _ _ _ => Iff.rfl)
    rw [← hmap, List.map_map]
    exact List.map_id _
  rw [promotedNewestFirst, promotedRows_ok h.recognised]
  show (withSortKeys unicode (items.filter promotable) >>= fun keyed =>
    pure ((keyed.insertionSort fun a b => b.1 ≤ a.1).map (·.2))) = _
  rw [hkeys, ← hsort]
  rfl

theorem readable_of_promotedNewestFirst {items rows : List Items}
    (h : promotedNewestFirst unicode items = .ok rows) : Readable unicode items := by
  unfold promotedNewestFirst at h
  cases hpromoted : promotedRows items with
  | error exc =>
    rw [hpromoted] at h
    cases h
  | ok promoted =>
    have hrecognised := recognised_of_promotedRows hpromoted
    rw [promotedRows_ok hrecognised] at hpromoted h
    cases hkeyed : withSortKeys unicode (items.filter promotable) with
    | error exc =>
      have herror : (withSortKeys unicode (items.filter promotable) >>= fun keyed =>
        pure ((keyed.insertionSort fun a b => b.1 ≤ a.1).map (·.2))) = .ok rows := h
      rw [hkeyed] at herror
      cases herror
    | ok keyed =>
      refine ⟨hrecognised, fun item hitem hpromotable => ?_⟩
      exact comparable_of_withSortKeys hkeyed item (List.mem_filter.mpr ⟨hitem, hpromotable⟩)

/-! ## The record an invocation resolves to -/

theorem toOption_eq_some {α : Type} {answer : Except Exc α} {a : α} :
    answer.toOption = some a ↔ answer = .ok a := by
  cases answer <;> simp [Except.toOption]

/-- A row that can be decoded. -/
def decodable (item : Items) : Bool := (agentRecordFromItem item).toOption.isSome

/-- **What is resolved** of rows that can be read: the record of the newest promoted row that can be
    decoded. -/
theorem resolveFrom_ok {items : List Items} (h : Readable unicode items) :
    resolveFrom unicode items = .ok
      ((newest? (sortKey unicode) (items.filter fun item => promotable item && decodable item)).bind
        fun item => (agentRecordFromItem item).toOption) := by
  have hfind (rows : List Items) : rows.findSome? (fun item => (agentRecordFromItem item).toOption) =
      (rows.find? decodable).bind fun item => (agentRecordFromItem item).toOption := by
    induction rows with
    | nil => rfl
    | cons row rows ih =>
      rw [List.findSome?_cons, List.find?_cons]
      cases hrow : (agentRecordFromItem row).toOption with
      | none => simp [decodable, hrow, ih]
      | some agent => simp [decodable, hrow]
  rw [resolveFrom, promotedNewestFirst_ok h]
  show Except.ok _ = _
  rw [hfind, find?_descending, List.filter_filter]
  simp only [Bool.and_comm]

theorem readable_of_resolveFrom {items : List Items} {agent : Option AgentVersion}
    (h : resolveFrom unicode items = .ok agent) : Readable unicode items := by
  unfold resolveFrom at h
  cases hnewest : promotedNewestFirst unicode items with
  | error exc =>
    rw [hnewest] at h
    cases h
  | ok rows => exact readable_of_promotedNewestFirst hnewest

/-! ## Runs -/

section

variable {dynamo : Dynamo} {tables : Tables} {table name : String}

theorem outcome_ofExcept {α : Type} (answer : Except Exc α) :
    (Prog.run dynamo.serve tables (ofExcept answer)).outcome = answer := by
  cases answer <;> rfl

/-- An invocation resolves what the first page of the agent's partition resolves to. -/
theorem outcome_resolveAgentRecord (unicode : Unicode) :
    (Prog.run dynamo.serve tables (resolveAgentRecord unicode table name)).outcome =
      resolveFrom unicode (dynamo.firstPage tables table (agentPk name)) := by
  obtain ⟨page, hitems, houtcome, hfinal⟩ :=
    Dynamo.run_controlPlaneQuery dynamo tables table (agentPk name)
  have hbind := Prog.run_bind_ok (f := fun page : PaginatedItems =>
    ofExcept (resolveFrom unicode page.items)) houtcome
  rw [resolveAgentRecord, hbind.1, hfinal, outcome_ofExcept, hitems]

/-- The detail of an agent is that of the first page of its partition. -/
theorem outcome_getAgentDetail (unicode : Unicode) (viewer : Viewer) :
    (Prog.run dynamo.serve tables (getAgentDetail unicode viewer table name)).outcome =
      detailFrom unicode viewer (dynamo.firstPage tables table (agentPk name)) := by
  obtain ⟨page, hitems, houtcome, hfinal⟩ :=
    Dynamo.run_controlPlaneQuery dynamo tables table (agentPk name)
  have hbind := Prog.run_bind_ok (f := fun page : PaginatedItems =>
    ofExcept (detailFrom unicode viewer page.items)) houtcome
  rw [getAgentDetail, hbind.1, hfinal, outcome_ofExcept, hitems]

/-- The listing is that of the whole table. -/
theorem outcome_listAgents (unicode : Unicode) (viewer : Viewer) (hkeyed : tables.Keyed) {pages : Nat}
    (hpages : (dynamo.scanned tables table).length < pages) :
    (Prog.run dynamo.serve tables (listAgents unicode viewer table pages)).outcome =
      listFrom unicode viewer (dynamo.scanned tables table) := by
  obtain ⟨houtcome, hfinal⟩ := Dynamo.run_controlPlaneScanAll dynamo hkeyed hpages
  have hbind := Prog.run_bind_ok (f := fun items : List Items =>
    ofExcept (listFrom unicode viewer items)) houtcome
  rw [listAgents, hbind.1, hfinal, outcome_ofExcept]

end

end A5cCell.Bridge.Discovery
