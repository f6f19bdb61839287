import A5cCell.DataAccess.Pages

/-!
# Listings

DynamoDB's paging contract: a listing of a table that does not change is split into pages, of which
each but the last gives the key to go on from. A page may be empty and give a key, as a filter takes
rows away after the page is read. The loops of the clients read the whole listing, whatever its split.
-/

namespace A5cCell.DataAccess

open Py (Val Items Dict)

/-- A store that stays as it is. -/
def unchanging (answers : (r : Request) → Answer r) : Unit → (r : Request) → Answer r × Unit :=
  fun _ r => (answers r, ())

/-- What a program comes to with such a store. -/
abbrev answerOf (answers : (r : Request) → Answer r) {α : Type} (p : Db α) : Except Exc α :=
  (Prog.run (unchanging answers) () p).outcome

section

variable (answers : (r : Request) → Answer r) (isKey : Items → Prop) (fetch : Val → Db PaginatedItems)

/-- From a start key on, a listing has these pages, each of which but the last gives the key of the
    next. -/
inductive Follows : Val → List (List Items) → Prop
  | last {startKey : Val} {page : PaginatedItems} (hpage : answerOf answers (fetch startKey) = .ok page)
      (hlast : page.lastEvaluatedKey = none) : Follows startKey [page.items]
  | more {startKey : Val} {page : PaginatedItems} {key : Items} {pages : List (List Items)}
      (hpage : answerOf answers (fetch startKey) = .ok page)
      (hmore : page.lastEvaluatedKey = some key) (hne : key ≠ []) (hkey : isKey key)
      (hrest : Follows (.dict key) pages) : Follows startKey (page.items :: pages)

/-- A loop reads all of a listing, in order, once it has time for its pages. -/
def ReadsAll (all : Nat → Db (List Items)) : Prop :=
  ∀ pages, Follows answers isKey fetch .none pages →
    ∀ fuel, pages.length ≤ fuel → answerOf answers (all fuel) = .ok pages.flatten

end

variable {answers : (r : Request) → Answer r} {isKey : Items → Prop}
  {fetch : Val → Db PaginatedItems}

theorem answerOf_bind_ok {α β : Type} {p : Db α} {f : α → Db β} {a : α}
    (h : answerOf answers p = .ok a) : answerOf answers (p >>= f) = answerOf answers (f a) :=
  (Prog.run_bind_ok h).1

/-- The first page of a listing. -/
theorem Follows.cases_first {startKey : Val} {pages : List (List Items)}
    (h : Follows answers isKey fetch startKey pages) : ∃ page rest,
      answerOf answers (fetch startKey) = .ok page ∧ pages = page.items :: rest := by
  cases h with
  | last hpage hlast => exact ⟨_, [], hpage, rfl⟩
  | more hpage hmore hne hkey hrest => exact ⟨_, _, hpage, rfl⟩

theorem nextStartKey_of_more {page : PaginatedItems} {key : Items}
    (hmore : page.lastEvaluatedKey = some key) (hne : key ≠ []) : nextStartKey page = some key := by
  simp [nextStartKey, hmore, hne]

/-- **The loop over the pages** reads a listing from where it starts. -/
theorem allPages_of_follows {startKey : Val} {pages : List (List Items)}
    (h : Follows answers isKey fetch startKey pages) {fuel : Nat} (hfuel : pages.length ≤ fuel) :
    answerOf answers (allPages fetch fuel startKey) = .ok pages.flatten := by
  induction h generalizing fuel with
  | last hpage hlast =>
    obtain ⟨fuel, rfl⟩ : ∃ n, fuel = n + 1 := ⟨fuel - 1, (Nat.sub_add_cancel hfuel).symm⟩
    rw [allPages, answerOf_bind_ok hpage, nextStartKey, hlast]
    simp only [List.flatten_cons, List.flatten_nil, List.append_nil]
    rfl
  | more hpage hmore hne hkey hrest ih =>
    rw [List.length_cons] at hfuel
    obtain ⟨fuel, rfl⟩ : ∃ n, fuel = n + 1 :=
      ⟨fuel - 1, (Nat.sub_add_cancel (le_trans (Nat.le_add_left _ _) hfuel)).symm⟩
    rw [allPages, answerOf_bind_ok hpage, nextStartKey_of_more hmore hne]
    show answerOf answers (allPages fetch fuel _ >>= _) = _
    rw [answerOf_bind_ok (ih (Nat.le_of_succ_le_succ hfuel))]
    rfl

/-! ## The scans of a table -/

namespace Dynamo

/-- What the tables answer, while they stay as they are. -/
def reply (dynamo : Dynamo) (tables : Tables) (r : Request) : Answer r := (dynamo.serve tables r).1

variable {dynamo : Dynamo} {tables : Tables} {table : String}

/-- A page of a scan, when the first rows have been read. -/
theorem answerOf_scan {limit : Option Nat} {first rest : List (RowKey × Items)}
    (hlimit : ∀ n ∈ limit, 1 ≤ n) (hkeyed : tables.Keyed)
    (hrows : dynamo.scanOrder tables table = first ++ rest) :
    answerOf (dynamo.reply tables) (controlPlaneScan table none (limit.map Int.ofNat)
      (resume first)) = .ok {
        items := (rest.take (limitedSize dynamo limit rest)).map fun row => row.1.row row.2
        lastEvaluatedKey := if limitedSize dynamo limit rest < rest.length ∨
            limit = some (limitedSize dynamo limit rest) then
          (rest.take (limitedSize dynamo limit rest)).getLast?.map (·.1.item) else none } := by
  have hkeys : ∀ row ∈ first, row.1.table = table ∧ row.1.pk ≠ "" ∧ row.1.sk ≠ "" := by
    intro row hrow
    have hmem : row ∈ dynamo.scanOrder tables table := hrows ▸ List.mem_append_left rest hrow
    obtain ⟨hget, htable⟩ := mem_scanOrder.mp hmem
    exact ⟨htable, hkeyed _ _ hget⟩
  let kwargs := setSome "Limit" ((limit.map Int.ofNat).map fun n => .val (.int n)) noKwargs
  let resumed := setSome "ExclusiveStartKey" (valUnlessNone (resume first)) kwargs
  have hother (name : String) (hname : name ≠ "ExclusiveStartKey") :
      resumed.get? name = kwargs.get? name := get?_setSome _ hname
  have hlimitOf : limitOf resumed = .ok limit := by
    rw [limitOf, hother _ (by decide)]
    cases limit with
    | none => rfl
    | some n =>
      have hget : kwargs.get? "Limit" = some (.val (.int n)) := Dict.get?_set_self _ _ _
      have hge : (1 : Int) ≤ n := by exact_mod_cast hlimit n rfl
      rw [hget]
      simp only [hge, if_true, Int.toNat_natCast]
  have hfilter : resumed.get? "FilterExpression" = none := by
    rw [hother _ (by decide)]
    exact (get?_setSome _ (by decide)).trans rfl
  have hstart : kwargs.get? "ExclusiveStartKey" = none := (get?_setSome _ (by decide)).trans rfl
  have hentries : Table.entries dynamo.scanRank
      (fun key attributes => key.table = table && (fun _ => true) (key.row attributes)) tables =
        first ++ rest := by
    simp only [← hrows, scanOrder, Bool.and_true]
  have hlist := list_resumed dynamo (fun _ => true) scanRank_injective hlimitOf
    (startOf_resume hkeys hstart) hfilter hentries
  show answerOf (dynamo.reply tables) (issue ⟨.scan, table, resumed⟩) = _
  simp only [answerOf, issue, Prog.run, unchanging, reply, serve, hlist]

variable (dynamo) in
/-- A page that stops before the end of the table has a last row. -/
theorem getLast_of_limited {limit : Option Nat} {rest : List (RowKey × Items)}
    (hlimit : ∀ n ∈ limit, 1 ≤ n) (hne : rest ≠ []) :
    ∃ last, (rest.take (limitedSize dynamo limit rest)).getLast? = some last := by
  have hpos : 0 < limitedSize dynamo limit rest := by
    have hlength : 0 < rest.length := List.length_pos_iff.mpr hne
    rw [limitedSize, lt_min_iff]
    refine ⟨?_, Nat.lt_of_lt_of_le Nat.zero_lt_one (le_max_left _ _)⟩
    cases limit with
    | none => exact hlength
    | some n => exact hlimit n rfl
  rw [← Option.isSome_iff_exists, List.getLast?_isSome]
  intro hnil
  rcases List.take_eq_nil_iff.mp hnil with hzero | hrest
  · exact absurd hzero (Nat.ne_of_gt hpos)
  · exact hne hrest

/-- The rows left are split into pages. -/
theorem follows_resumed {limit : Option Nat} (hlimit : ∀ n ∈ limit, 1 ≤ n) (hkeyed : tables.Keyed)
    (first : List (RowKey × Items)) {rest : List (RowKey × Items)}
    (hrows : dynamo.scanOrder tables table = first ++ rest) :
    ∃ pages, Follows (dynamo.reply tables) (fun item => ∃ key : RowKey, item = key.item)
      (fun startKey => controlPlaneScan table none (limit.map Int.ofNat) startKey)
      (resume first) pages ∧ pages.flatten = rest.map fun row => row.1.row row.2 := by
  induction hlength : rest.length using Nat.strong_induction_on generalizing first rest with
  | _ n ih =>
  have hpage := answerOf_scan hlimit hkeyed hrows
  cases hlast : (if limitedSize dynamo limit rest < rest.length ∨
      limit = some (limitedSize dynamo limit rest) then
    (rest.take (limitedSize dynamo limit rest)).getLast? else none) with
  | none =>
    -- nothing is left after a page without a last key
    have hall : rest.take (limitedSize dynamo limit rest) = rest := by
      rcases rest with _ | ⟨row, rest⟩
      · exact List.take_nil
      · obtain ⟨last, hlast'⟩ := getLast_of_limited dynamo hlimit
          (List.cons_ne_nil row rest)
        rw [hlast'] at hlast
        apply List.take_of_length_le
        apply not_lt.mp
        intro hlt
        simp at hlast
        exact absurd hlast.1 (Nat.not_le.mpr hlt)
    refine ⟨_, .last hpage ?_, ?_⟩
    · split at hlast
      · rw [if_pos ‹_›, hlast]
        rfl
      · rw [if_neg ‹_›]
    · rw [hall, List.flatten_cons, List.flatten_nil, List.append_nil]
  | some last =>
    obtain ⟨htaken, hstop⟩ : (rest.take (limitedSize dynamo limit rest)).getLast? = some last ∧
        (limitedSize dynamo limit rest < rest.length ∨
          limit = some (limitedSize dynamo limit rest)) := by
      split at hlast
      · exact ⟨hlast, ‹_›⟩
      · cases hlast
    have hsplit : dynamo.scanOrder tables table =
        (first ++ rest.take (limitedSize dynamo limit rest)) ++
          rest.drop (limitedSize dynamo limit rest) := by
      rw [hrows, List.append_assoc, List.take_append_drop]
    have hresume : resume (first ++ rest.take (limitedSize dynamo limit rest)) =
        .dict last.1.item := by
      simp only [resume, List.getLast?_append, htaken, Option.some_or]
    have htake : rest.take (limitedSize dynamo limit rest) ≠ [] := by
      intro hnil
      simp [hnil] at htaken
    have hsmaller : (rest.drop (limitedSize dynamo limit rest)).length < rest.length := by
      have hboth := congrArg List.length (List.take_append_drop (limitedSize dynamo limit rest) rest)
      rw [List.length_append] at hboth
      have := List.length_pos_iff.mpr htake
      omega
    obtain ⟨pages, hpages, hflatten⟩ := ih _ (hlength ▸ hsmaller) _ hsplit rfl
    rw [hresume] at hpages
    refine ⟨_, .more hpage ?_ (List.cons_ne_nil _ _) ⟨last.1, rfl⟩ hpages, ?_⟩
    · rw [if_pos hstop, htaken]
      rfl
    · rw [List.flatten_cons, hflatten, ← List.map_append, List.take_append_drop]

/-- **The paging contract of a scan.** DynamoDB splits a table into pages whichever its limit, and
    each but the last gives the key of its last row. -/
theorem follows_scan {limit : Option Nat} (hlimit : ∀ n ∈ limit, 1 ≤ n) (hkeyed : tables.Keyed) :
    ∃ pages, Follows (dynamo.reply tables) (fun item => ∃ key : RowKey, item = key.item)
      (fun startKey => controlPlaneScan table none (limit.map Int.ofNat) startKey) .none pages ∧
      pages.flatten = dynamo.scanned tables table :=
  follows_resumed hlimit hkeyed [] rfl

/-! ## The queries of a partition -/

/-- A page of what is left has a first part of it, and the key to go on from after that part; or it has
    all of it. -/
theorem reply_tenantQuery {tenantId : String} {skCondition : Items → Bool}
    {first rest : List (RowKey × Items)} (hkeyed : tables.Keyed)
    (hrows : selected tables table tenantId skCondition = first ++ rest) :
    ∃ (page : PaginatedItems) (taken left : List (RowKey × Items)),
      dynamo.reply tables (tenantQueryRequest tenantId table
        { skCondition := some skCondition, exclusiveStartKey := resume first }) = .ok page ∧
      rest = taken ++ left ∧ page.items = taken.map (fun row => row.1.row row.2) ∧
      ((nextStartKey page = none ∧ left = []) ∨
        ∃ key, nextStartKey page = some key ∧ resume (first ++ taken) = .dict key) := by
  have hkeys : ∀ row ∈ first, row.1.sk ≠ "" := by
    intro row hrow
    have hmem : row ∈ selected tables table tenantId skCondition :=
      hrows ▸ List.mem_append_left rest hrow
    exact (hkeyed _ _ (mem_partition.mp (mem_selected.mp hmem).1).1).2
  have hlimit (n : Nat) (hn : n ∈ (none : Option Nat)) : 1 ≤ n := by cases hn
  have hserve := serve_tenantQueryPage dynamo hlimit hkeys hrows
  refine ⟨_, rest.take (limitedSize dynamo none rest), rest.drop (limitedSize dynamo none rest),
    congrArg Prod.fst hserve, (List.take_append_drop _ _).symm, rfl, ?_⟩
  by_cases hlt : limitedSize dynamo none rest < rest.length
  · have hne : rest ≠ [] := by
      rintro rfl
      exact absurd hlt (Nat.not_lt_zero _)
    obtain ⟨last, hlast⟩ := getLast_of_limited dynamo hlimit hne
    refine .inr ⟨last.1.item, ?_, ?_⟩
    · rw [nextStartKey, if_pos (.inl hlt), hlast]
      rfl
    · simp only [resume, List.getLast?_append, hlast, Option.some_or]
  · refine .inl ⟨?_, List.drop_eq_nil_iff.mpr (not_lt.mp hlt)⟩
    rw [nextStartKey, if_neg (not_or.mpr ⟨hlt, fun h => by cases h⟩)]
    rfl

end Dynamo

end A5cCell.DataAccess
