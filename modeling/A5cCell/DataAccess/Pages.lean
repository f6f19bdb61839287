import A5cCell.DataAccess.Store

/-!
# Pages

What the control plane reads of the tables: the first page of a partition, which is all a query
without paging reads, and the whole of a table, which a scan of all pages reads however DynamoDB
splits it.
-/

namespace A5cCell.DataAccess

open Py (Val Items Dict)

/-- DynamoDB takes no empty text for a key. -/
def Tables.Keyed (tables : Tables) : Prop :=
  ∀ key attributes, tables.get? key = some attributes → key.pk ≠ "" ∧ key.sk ≠ ""

namespace Dynamo

/-- A DynamoDB that pages after every row, and is asked nothing given as text. -/
def rowByRow : Dynamo where
  fit := fun _ => 1
  placement := fun _ => 0
  holds := fun _ _ _ => false
  update := fun _ row => .ok row

variable (dynamo : Dynamo)

/-- The rows of a partition, in order. -/
def partition (tables : Tables) (table pk : String) : List (RowKey × Items) :=
  Table.entries sortRank
    (fun key attributes => key.table = table && keyEq "PK" pk (key.row attributes)) tables

/-- What a query of a partition reads. -/
def firstPage (tables : Tables) (table pk : String) : List Items :=
  (Table.page dynamo.fit none (partition tables table pk)).1.map fun row => row.1.row row.2

/-- The rows of a tenant's partition whose sort keys meet a condition, in order. -/
def selected (tables : Tables) (table tenantId : String) (skCondition : Items → Bool) :
    List (RowKey × Items) :=
  Table.entries sortRank (fun key attributes => key.table = table &&
    conditionAnd (keyEq "PK" (tenantPkPrefix ++ tenantId)) skCondition (key.row attributes)) tables

/-- The rows of a table, in the order of a scan. -/
def scanOrder (tables : Tables) (table : String) : List (RowKey × Items) :=
  Table.entries dynamo.scanRank (fun key _ => key.table = table) tables

/-- What a scan of all pages reads. -/
def scanned (tables : Tables) (table : String) : List Items :=
  (dynamo.scanOrder tables table).map fun row => row.1.row row.2

variable {dynamo} {tables : Tables} {table : String}

theorem mem_partition {pk : String} {row : RowKey × Items} :
    row ∈ partition tables table pk ↔
      tables.get? row.1 = some row.2 ∧ row.1.table = table ∧ row.1.pk = pk := by
  obtain ⟨key, attributes⟩ := row
  have hpk : keyEq "PK" pk (key.row attributes) = true ↔ key.pk = pk := by
    simp [keyEq, textOf, RowKey.row, RowKey.item, Items.get, Val.asStr?]
  rw [partition, Table.mem_entries, Bool.and_eq_true, decide_eq_true_iff, hpk]

theorem nodup_entries {ι : Type} [LinearOrder ι] {rank : RowKey → ι}
    (hrank : Function.Injective rank) {selects : RowKey → Items → Bool} :
    (Table.entries rank selects tables).Nodup := by
  apply (Table.entries_pairwise_lt hrank selects tables).imp
  intro a b hlt heq
  rw [heq] at hlt
  exact lt_irrefl _ hlt

theorem nodup_partition {pk : String} : (partition tables table pk).Nodup :=
  nodup_entries sortRank_injective

theorem nodup_selected {tenantId : String} {skCondition : Items → Bool} :
    (selected tables table tenantId skCondition).Nodup :=
  nodup_entries sortRank_injective

theorem mem_selected {tenantId : String} {skCondition : Items → Bool} {row : RowKey × Items} :
    row ∈ selected tables table tenantId skCondition ↔
      row ∈ partition tables table (tenantPkPrefix ++ tenantId) ∧
        skCondition (row.1.row row.2) = true := by
  obtain ⟨key, attributes⟩ := row
  rw [selected, partition, Table.mem_entries, Table.mem_entries, conditionAnd]
  simp only [Bool.and_eq_true, and_assoc]

theorem mem_scanOrder {row : RowKey × Items} :
    row ∈ dynamo.scanOrder tables table ↔
      tables.get? row.1 = some row.2 ∧ row.1.table = table := by
  rw [scanOrder, Table.mem_entries, decide_eq_true_iff]

theorem scanRank_injective : Function.Injective dynamo.scanRank := by
  intro a b h
  simp only [scanRank, EmbeddingLike.apply_eq_iff_eq, Prod.mk.injEq] at h
  exact sortRank_injective h.2

/-! ## Runs -/

/-- A query of a partition is answered its first page, and writes nothing. -/
theorem run_controlPlaneQuery (dynamo : Dynamo) (tables : Tables) (table pk : String) :
    ∃ page : PaginatedItems, page.items = dynamo.firstPage tables table pk ∧
      (Prog.run dynamo.serve tables (controlPlaneQuery table pk)).outcome = .ok page ∧
      (Prog.run dynamo.serve tables (controlPlaneQuery table pk)).final = tables := by
  have hserve : ∃ page : PaginatedItems, page.items = dynamo.firstPage tables table pk ∧
      dynamo.serve tables ⟨.query, table, (noKwargs.set "KeyConditionExpression"
        (.condition (keyEq "PK" pk))).set "ScanIndexForward" (.val (.bool true))⟩ =
          (.ok page, tables) := by
    refine ⟨_, ?_, rfl⟩
    exact List.filter_eq_self.mpr fun _ _ => rfl
  obtain ⟨page, hitems, hserve⟩ := hserve
  refine ⟨page, hitems, ?_⟩
  simp only [controlPlaneQuery, issue, Prog.run, hserve, and_self]

/-- The key of a row, given as one. -/
theorem key?_item {key : RowKey} (hpk : key.pk ≠ "") (hsk : key.sk ≠ "") :
    Arg.key? key.table (.val (.dict key.item)) = some key := by
  have hkey : keyOf? key.table key.item =
      if key.pk = "" ∨ key.sk = "" then none else some key := rfl
  rw [if_neg (not_or.mpr ⟨hpk, hsk⟩)] at hkey
  exact hkey

/-- What a scan goes on from when the first rows have been read. -/
def resume (first : List (RowKey × Items)) : Val :=
  match first.getLast? with
  | none => .none
  | some last => .dict last.1.item

theorem startOf_resume {first : List (RowKey × Items)} {kwargs : Dict String Arg}
    (hkeys : ∀ row ∈ first, row.1.table = table ∧ row.1.pk ≠ "" ∧ row.1.sk ≠ "")
    (hkwargs : kwargs.get? "ExclusiveStartKey" = none) :
    startOf table (setSome "ExclusiveStartKey" (valUnlessNone (resume first)) kwargs) =
      .ok (first.getLast?.map (·.1)) := by
  cases hlast : first.getLast? with
  | none =>
    simp only [resume, hlast, startOf, valUnlessNone, setSome, hkwargs]
    rfl
  | some last =>
    obtain ⟨htable, hpk, hsk⟩ := hkeys last (List.mem_of_getLast? hlast)
    have hkey : Arg.key? table (.val (.dict last.1.item)) = some last.1 :=
      htable ▸ key?_item hpk hsk
    simp [startOf, resume, hlast, setSome, valUnlessNone, hkey]

/-- How many of the rows a page takes. -/
def pageSize (dynamo : Dynamo) (rows : List (RowKey × Items)) : Nat :=
  min rows.length (max 1 (dynamo.fit rows))

/-- How many of the rows a page takes that has a limit. -/
def limitedSize (dynamo : Dynamo) (limit : Option Nat) (rows : List (RowKey × Items)) : Nat :=
  min (limit.getD rows.length) (max 1 (dynamo.fit rows))

/-- A page of a listing, when the first rows have been read. -/
theorem list_resumed (dynamo : Dynamo) {ι : Type} [LinearOrder ι] {rank : RowKey → ι}
    (selects : Items → Bool) (hrank : Function.Injective rank) {kwargs : Dict String Arg}
    {limit : Option Nat} {first rest : List (RowKey × Items)} (hlimit : limitOf kwargs = .ok limit)
    (hstart : startOf table kwargs = .ok (first.getLast?.map (·.1)))
    (hfilter : kwargs.get? "FilterExpression" = none)
    (hrows : Table.entries rank
      (fun key attributes => key.table = table && selects (key.row attributes)) tables =
        first ++ rest) :
    dynamo.list rank selects table kwargs tables = .ok {
      items := (rest.take (limitedSize dynamo limit rest)).map fun row => row.1.row row.2
      lastEvaluatedKey := if limitedSize dynamo limit rest < rest.length ∨
          limit = some (limitedSize dynamo limit rest) then
        (rest.take (limitedSize dynamo limit rest)).getLast?.map (·.1.item) else none } := by
  have hafter : Table.after rank (first.getLast?.map (·.1)) (first ++ rest) = rest := by
    cases hlast : first.getLast? with
    | none =>
      obtain rfl : first = [] := List.getLast?_eq_none_iff.mp hlast
      rfl
    | some last =>
      apply Table.after_getLast _ hlast
      rw [← hrows]
      exact Table.entries_pairwise_lt hrank _ _
  have hkept : dynamo.selects "FilterExpression" kwargs = fun _ => true := by
    rw [Dynamo.selects, hfilter]
  simp only [list, hlimit, hstart, hrows, hkept, bind, Except.bind, hafter, Table.page,
    Bool.or_eq_true, decide_eq_true_eq]
  rw [List.filter_eq_self.mpr fun _ _ => rfl]
  rfl

/-- A page of a scan, when the first rows have been read. -/
theorem run_controlPlaneScan {first rest : List (RowKey × Items)} (hkeyed : tables.Keyed)
    (hrows : dynamo.scanOrder tables table = first ++ rest) :
    ∃ page : PaginatedItems,
      page.items = (rest.take (pageSize dynamo rest)).map (fun row => row.1.row row.2) ∧
      page.lastEvaluatedKey = (if pageSize dynamo rest < rest.length then
        (rest.take (pageSize dynamo rest)).getLast?.map (·.1.item) else none) ∧
      (Prog.run dynamo.serve tables
        (controlPlaneScan table none none (resume first))).outcome = .ok page ∧
      (Prog.run dynamo.serve tables
        (controlPlaneScan table none none (resume first))).final = tables := by
  have hkeys : ∀ row ∈ first, row.1.table = table ∧ row.1.pk ≠ "" ∧ row.1.sk ≠ "" := by
    intro row hrow
    have hmem : row ∈ dynamo.scanOrder tables table := hrows ▸ List.mem_append_left rest hrow
    obtain ⟨hget, htable⟩ := mem_scanOrder.mp hmem
    exact ⟨htable, hkeyed _ _ hget⟩
  have hlimit : limitOf (setSome "ExclusiveStartKey" (valUnlessNone (resume first)) noKwargs) =
      .ok none := by
    rw [limitOf, get?_setSome _ (by decide)]
    rfl
  have hfilter : (setSome "ExclusiveStartKey" (valUnlessNone (resume first)) noKwargs).get?
      "FilterExpression" = none := by
    rw [get?_setSome _ (by decide)]
    rfl
  have hentries : Table.entries dynamo.scanRank
      (fun key attributes => key.table = table && (fun _ => true) (key.row attributes)) tables =
        first ++ rest := by
    simp only [← hrows, scanOrder, Bool.and_true]
  have hlist := list_resumed dynamo (fun _ => true) scanRank_injective hlimit
    (startOf_resume hkeys rfl) hfilter hentries
  refine ⟨{ items := _, lastEvaluatedKey := _ }, rfl, rfl, ?_⟩
  have hrequest : controlPlaneScan table none none (resume first) = issue ⟨.scan, table,
    setSome "ExclusiveStartKey" (valUnlessNone (resume first)) noKwargs⟩ := rfl
  rw [hrequest]
  simp only [issue, Prog.run, serve, hlist, reduceCtorEq, or_false]
  exact ⟨rfl, trivial⟩

/-- A page of a query of a tenant's partition, when the first rows have been read. -/
theorem serve_tenantQueryPage (dynamo : Dynamo) {tenantId : String} {skCondition : Items → Bool}
    {limit : Option Nat} {first rest : List (RowKey × Items)} (hlimit : ∀ n ∈ limit, 1 ≤ n)
    (hkeys : ∀ row ∈ first, row.1.sk ≠ "")
    (hrows : selected tables table tenantId skCondition = first ++ rest) :
    dynamo.serve tables (tenantQueryRequest tenantId table
      { skCondition := some skCondition, limit := limit.map Int.ofNat,
        exclusiveStartKey := resume first }) =
      (.ok {
        items := (rest.take (limitedSize dynamo limit rest)).map fun row => row.1.row row.2
        lastEvaluatedKey := if limitedSize dynamo limit rest < rest.length ∨
            limit = some (limitedSize dynamo limit rest) then
          (rest.take (limitedSize dynamo limit rest)).getLast?.map (·.1.item) else none },
        tables) := by
  let condition := conditionAnd (keyEq "PK" (tenantPkPrefix ++ tenantId)) skCondition
  let unlimited := (noKwargs.set "KeyConditionExpression" (.condition condition)).set
    "ScanIndexForward" (.val (.bool true))
  let kwargs := setSome "Limit" ((limit.map Int.ofNat).map fun n => .val (.int n)) unlimited
  let resumed := setSome "ExclusiveStartKey" (valUnlessNone (resume first)) kwargs
  have hfirst : ∀ row ∈ first, row.1.table = table ∧ row.1.pk ≠ "" ∧ row.1.sk ≠ "" := by
    intro row hrow
    have hmem : row ∈ selected tables table tenantId skCondition :=
      hrows ▸ List.mem_append_left rest hrow
    obtain ⟨-, htable, hpk⟩ := mem_partition.mp (mem_selected.mp hmem).1
    refine ⟨htable, ?_, hkeys row hrow⟩
    rw [hpk]
    intro hempty
    have hlist := congrArg String.toList hempty
    simp [tenantPkPrefix] at hlist
  -- The arguments are set one over the other; each is read past those set after it.
  have hother (name : String) (hname : name ≠ "ExclusiveStartKey") :
      resumed.get? name = kwargs.get? name := get?_setSome _ hname
  have hunlimited (name : String) (hname : name ≠ "Limit") :
      kwargs.get? name = unlimited.get? name := get?_setSome _ hname
  have hlimitOf : limitOf resumed = .ok limit := by
    rw [limitOf, hother _ (by decide)]
    cases limit with
    | none => rfl
    | some n =>
      have hge : (1 : Int) ≤ n := by exact_mod_cast hlimit n rfl
      have hget : kwargs.get? "Limit" = some (.val (.int n)) := Dict.get?_set_self _ _ _
      rw [hget]
      simp only [hge, if_true, Int.toNat_natCast]
  have hfilter : resumed.get? "FilterExpression" = none := by
    rw [hother _ (by decide), hunlimited _ (by decide)]
    rfl
  have hbackwards : backwards resumed = false := by
    rw [backwards, hother _ (by decide), hunlimited _ (by decide)]
    rfl
  have hselects : dynamo.selects "KeyConditionExpression" resumed = condition := by
    rw [Dynamo.selects, hother _ (by decide), hunlimited _ (by decide)]
    rfl
  have hstart : kwargs.get? "ExclusiveStartKey" = none := by
    rw [hunlimited _ (by decide)]
    rfl
  have hlist := list_resumed dynamo condition sortRank_injective hlimitOf
    (startOf_resume hfirst hstart) hfilter hrows
  show dynamo.serve tables ⟨.query, table, resumed⟩ = _
  simp only [serve, hbackwards, hselects, hlist]
  rfl

/-- The same, of a query with a limit. -/
theorem serve_tenantQueryRequest (dynamo : Dynamo) {tenantId : String} {skCondition : Items → Bool} {limit : Nat}
    {first rest : List (RowKey × Items)} (hlimit : 1 ≤ limit)
    (hkeys : ∀ row ∈ first, row.1.sk ≠ "")
    (hrows : selected tables table tenantId skCondition = first ++ rest) :
    dynamo.serve tables (tenantQueryRequest tenantId table
      { skCondition := some skCondition, limit := some limit, exclusiveStartKey := resume first }) =
      (.ok {
        items := (rest.take (limitedSize dynamo (some limit) rest)).map fun row => row.1.row row.2
        lastEvaluatedKey := if limitedSize dynamo (some limit) rest < rest.length ∨
            some limit = some (limitedSize dynamo (some limit) rest) then
          (rest.take (limitedSize dynamo (some limit) rest)).getLast?.map (·.1.item) else none },
        tables) :=
  serve_tenantQueryPage dynamo (fun _ hn => Option.some.inj hn ▸ hlimit) hkeys hrows

/-- A page has room for a row. -/
theorem pageSize_pos {rest : List (RowKey × Items)} (h : pageSize dynamo rest < rest.length) :
    0 < pageSize dynamo rest := by
  unfold pageSize at h ⊢
  omega

section

variable {fetch : Val → Db PaginatedItems} {startKey : Val} {page : PaginatedItems} {pages : Nat}

/-- The last page ends the loop. -/
theorem run_fetched_last (h : (Prog.run dynamo.serve tables (fetch startKey)).outcome = .ok page)
    (hlast : nextStartKey page = none) :
    (Prog.run dynamo.serve tables (allPages fetch (pages + 1) startKey)).outcome = .ok page.items ∧
    (Prog.run dynamo.serve tables (allPages fetch (pages + 1) startKey)).final =
      (Prog.run dynamo.serve tables (fetch startKey)).final := by
  refine ⟨(Prog.run_bind_ok h).1.trans ?_, (Prog.run_bind_ok h).2.trans ?_⟩
  · rw [hlast]
    rfl
  · rw [hlast]
    rfl

/-- After another page the loop goes on from its last key. -/
theorem run_fetched_more {key : Items}
    (h : (Prog.run dynamo.serve tables (fetch startKey)).outcome = .ok page)
    (hmore : nextStartKey page = some key) :
    (Prog.run dynamo.serve tables (allPages fetch (pages + 1) startKey)).outcome =
      (Prog.run dynamo.serve (Prog.run dynamo.serve tables (fetch startKey)).final
        (allPages fetch pages (.dict key) >>= fun items => pure (page.items ++ items))).outcome ∧
    (Prog.run dynamo.serve tables (allPages fetch (pages + 1) startKey)).final =
      (Prog.run dynamo.serve (Prog.run dynamo.serve tables (fetch startKey)).final
        (allPages fetch pages (.dict key) >>= fun items => pure (page.items ++ items))).final := by
  refine ⟨(Prog.run_bind_ok h).1.trans ?_, (Prog.run_bind_ok h).2.trans ?_⟩
  · rw [hmore]
  · rw [hmore]

end

/-- The pages from where the first rows have been read. -/
theorem run_allPages (first : List (RowKey × Items)) {rest : List (RowKey × Items)} (hkeyed : tables.Keyed)
    (hrows : dynamo.scanOrder tables table = first ++ rest) {pages : Nat}
    (hpages : rest.length < pages) :
    (Prog.run dynamo.serve tables
      (allPages (fun startKey => controlPlaneScan table none none startKey) pages
        (resume first))).outcome = .ok (rest.map fun row => row.1.row row.2) ∧
    (Prog.run dynamo.serve tables
      (allPages (fun startKey => controlPlaneScan table none none startKey) pages
        (resume first))).final = tables := by
  induction pages generalizing first rest with
  | zero => exact absurd hpages (Nat.not_lt_zero _)
  | succ pages ih =>
    obtain ⟨page, hitems, hnext, houtcome, hfinal⟩ := run_controlPlaneScan hkeyed hrows
    by_cases hlt : pageSize dynamo rest < rest.length
    · -- the page stopped early, so it has a last row, and fewer rows are left
      have hpos := pageSize_pos hlt
      obtain ⟨last, hlast⟩ : ∃ last, (rest.take (pageSize dynamo rest)).getLast? = some last := by
        rw [← Option.isSome_iff_exists, List.getLast?_isSome]
        intro hnil
        rcases List.take_eq_nil_iff.mp hnil with hzero | hrest
        · omega
        · simp [hrest] at hlt
      have hresume : resume (first ++ rest.take (pageSize dynamo rest)) = .dict last.1.item := by
        simp only [resume, List.getLast?_append, hlast, Option.some_or]
      have hsplit : dynamo.scanOrder tables table =
          (first ++ rest.take (pageSize dynamo rest)) ++ rest.drop (pageSize dynamo rest) := by
        rw [hrows, List.append_assoc, List.take_append_drop]
      have hmore := ih _ hsplit (by rw [List.length_drop]; omega)
      rw [hresume] at hmore
      have hkey : nextStartKey page = some last.1.item := by
        rw [nextStartKey, hnext, if_pos hlt, hlast]
        rfl
      have hrest := Prog.run_bind_ok (f := fun items => (pure (page.items ++ items) : Db (List Items)))
        hmore.1
      refine ⟨(run_fetched_more houtcome hkey).1.trans ?_, (run_fetched_more houtcome hkey).2.trans ?_⟩
      · rw [hfinal, hrest.1]
        show Except.ok _ = _
        rw [hitems, ← List.map_append, List.take_append_drop]
      · rw [hfinal, hrest.2]
        exact hmore.2
    · have hkey : nextStartKey page = none := by
        rw [nextStartKey, hnext, if_neg hlt]
        rfl
      have hall : rest.take (pageSize dynamo rest) = rest := List.take_of_length_le (not_lt.mp hlt)
      refine ⟨(run_fetched_last houtcome hkey).1.trans ?_, (run_fetched_last houtcome hkey).2.trans hfinal⟩
      rw [hitems, hall]

/-- **A scan of all pages reads the table**, however it is split. -/
theorem run_controlPlaneScanAll (dynamo : Dynamo) (hkeyed : tables.Keyed) {pages : Nat}
    (hpages : (dynamo.scanned tables table).length < pages) :
    (Prog.run dynamo.serve tables (controlPlaneScanAll table none pages)).outcome =
      .ok (dynamo.scanned tables table) ∧
    (Prog.run dynamo.serve tables (controlPlaneScanAll table none pages)).final = tables :=
  run_allPages [] hkeyed rfl (by rwa [scanned, List.length_map] at hpages)

end Dynamo

end A5cCell.DataAccess
