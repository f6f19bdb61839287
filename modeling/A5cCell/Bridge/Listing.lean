import A5cCell.Bridge.NewestFirst

/-!
# The listing

What the loop of `list_agents` keeps of the rows it has been through: of each name, the newest
promoted row that carries it. The loop compares two rows only where both carry one name.
-/

namespace A5cCell.Bridge.Discovery

open Py (Val Items Dict)
open DataAccess Newest

variable (unicode : Unicode)

/-- A promoted row that carries the name. -/
def named (name : String) (item : Items) : Bool :=
  promotable item && decide (optionalText item "agent_name" = some name)

/-- The newest promoted row that carries the name. -/
def newestNamed (items : List Items) (name : String) : Option Items :=
  newest? (sortKey unicode) (items.filter (named name))

/-- Rows the loop goes through without an exception. -/
structure Listable (items : List Items) : Prop where
  recognised : ∀ item ∈ items, Recognised item
  comparable : ∀ name, 2 ≤ (items.filter (named name)).length →
    ∀ item ∈ items.filter (named name), Comparable unicode item

/-- What the loop keeps. -/
def Keeps (items : List Items) (latestByName : Latest) : Prop :=
  ∀ name, latestByName.get? name = newestNamed unicode items name

variable {unicode} {items rest : List Items} {item : Items} {latestByName latest : Latest}

theorem Listable.of_append (h : Listable unicode (items ++ rest)) : Listable unicode items where
  recognised := fun item hitem => h.recognised item (List.mem_append_left rest hitem)
  comparable := by
    intro name hlength item hitem
    have hfilter := List.filter_append (p := named name) items rest
    refine h.comparable name ?_ item ?_
    · rw [hfilter, List.length_append]
      omega
    · rw [hfilter]
      exact List.mem_append_left _ hitem

theorem newestNamed_append_singleton (name : String) :
    newestNamed unicode (items ++ [item]) name =
      if named name item then
        some ((newestNamed unicode items name).elim item fun row => better (sortKey unicode) row item)
      else newestNamed unicode items name := by
  unfold newestNamed
  rw [List.filter_append]
  cases hnamed : named name item with
  | true => simp [hnamed, newest?_append_singleton]
  | false => simp [hnamed]

/-- A row of no name is passed over. -/
theorem Keeps.skip (hkeeps : Keeps unicode items latestByName)
    (hnone : ∀ name, named name item = false) : Keeps unicode (items ++ [item]) latestByName := by
  intro name
  rw [newestNamed_append_singleton, hnone, hkeeps name]
  rfl

/-- A row that carries a name is kept under it, or not, and the other names keep theirs. -/
theorem Keeps.put {name : String} {row : Items} (hkeeps : Keeps unicode items latestByName)
    (hname : optionalText item "agent_name" = some name) (hpromotable : promotable item = true)
    (hrow : row = (newestNamed unicode items name).elim item
      fun row => better (sortKey unicode) row item) :
    Keeps unicode (items ++ [item]) (latestByName.set name row) := by
  intro other
  rw [newestNamed_append_singleton, Dict.get?_set, named, hpromotable, hname]
  by_cases hother : other = name
  · subst hother
    simp [hrow]
  · have hne : ¬ name = other := fun h => hother h.symm
    simp [hother, hne, hkeeps other]

/-- **One row**: the loop keeps the newest, of rows it goes through. -/
theorem listRow_ok (hkeeps : Keeps unicode items latestByName)
    (hlistable : Listable unicode (items ++ [item])) :
    ∃ latest, listRow unicode latestByName item = .ok latest ∧
      Keeps unicode (items ++ [item]) latest := by
  have hrecognised := recognised_iff.mp
    (hlistable.recognised item (List.mem_append_right items List.mem_cons_self))
  unfold listRow
  rw [hrecognised]
  simp only [bind, Except.bind]
  cases hpromotable : promotable item with
  | false => exact ⟨latestByName, rfl, hkeeps.skip fun name => by simp [named, hpromotable]⟩
  | true =>
    simp only [Bool.not_true, Bool.false_eq_true, if_false]
    cases hname : optionalText item "agent_name" with
    | none => exact ⟨latestByName, rfl, hkeeps.skip fun name => by simp [named, hname]⟩
    | some name =>
      simp only
      cases hexisting : latestByName.get? name with
      | none =>
        refine ⟨_, rfl, hkeeps.put hname hpromotable ?_⟩
        rw [← hkeeps name, hexisting]
        rfl
      | some existing =>
        have hnewest := (hkeeps name).symm.trans hexisting
        have hmem := mem_of_newest? hnewest
        have hfilter : (items ++ [item]).filter (named name) =
            items.filter (named name) ++ [item] := by
          simp [List.filter_append, named, hpromotable, hname]
        -- Two rows of one name are compared here, and only here.
        have hcomparable := hlistable.comparable name (by
          have hpos := List.length_pos_of_mem hmem
          rw [hfilter, List.length_append, List.length_singleton]
          omega)
        rw [hfilter] at hcomparable
        have hitem := comparable_iff.mp (hcomparable item (by simp))
        have hbest := comparable_iff.mp (hcomparable existing (List.mem_append_left _ hmem))
        simp only [hitem, hbest, pure, Except.pure]
        split
        · rename_i hlt
          refine ⟨_, rfl, hkeeps.put hname hpromotable ?_⟩
          rw [hnewest, Option.elim_some, better, if_pos hlt]
        · rename_i hlt
          refine ⟨_, rfl, ?_⟩
          have hset : Keeps unicode (items ++ [item]) (latestByName.set name existing) := by
            refine hkeeps.put hname hpromotable ?_
            rw [hnewest, Option.elim_some, better, if_neg hlt]
          intro other
          rw [← hset other, Dict.get?_set]
          split
          · rename_i h
            rw [h, hexisting]
          · rfl

/-- A row the loop goes through leaves the rows listable. -/
theorem listable_of_listRow (hkeeps : Keeps unicode items latestByName)
    (hlistable : Listable unicode items) (h : listRow unicode latestByName item = .ok latest) :
    Listable unicode (items ++ [item]) := by
  have hrecognised : Recognised item := by
    by_contra hnot
    obtain ⟨exc, herror⟩ := not_recognised hnot
    rw [listRow, herror] at h
    cases h
  refine ⟨fun row hrow => ?_, fun name hlength row hrow => ?_⟩
  · rcases List.mem_append.mp hrow with hrow | hrow
    · exact hlistable.recognised row hrow
    · rw [List.mem_singleton.mp hrow]
      exact hrecognised
  · rw [List.filter_append] at hlength hrow
    cases hnamed : named name item with
    | false =>
      simp only [List.filter_cons, hnamed, Bool.false_eq_true, if_false, List.filter_nil,
        List.append_nil] at hlength hrow
      exact hlistable.comparable name hlength row hrow
    | true =>
      simp only [List.filter_cons, hnamed, if_true, List.filter_nil, List.length_append,
        List.length_singleton] at hlength hrow
      obtain ⟨hpromotable, hname⟩ : promotable item = true ∧
          optionalText item "agent_name" = some name := by simpa [named] using hnamed
      -- there is a row to compare with, and both keys were computed
      obtain ⟨existing, hnewest⟩ : ∃ existing, newestNamed unicode items name = some existing := by
        rw [← Option.ne_none_iff_exists', newestNamed, Ne, newest?_eq_none]
        intro hnil
        rw [hnil] at hlength
        simp at hlength
      have hkeys : Comparable unicode item ∧ Comparable unicode existing := by
        unfold listRow at h
        rw [recognised_iff.mp hrecognised] at h
        simp only [bind, Except.bind, hpromotable, Bool.not_true, Bool.false_eq_true, if_false, hname,
          hkeeps name, hnewest] at h
        unfold Comparable
        cases hitem : agentRecordSortKey unicode item with
        | error exc =>
          rw [hitem] at h
          cases h
        | ok key =>
          cases hbest : agentRecordSortKey unicode existing with
          | error exc =>
            rw [hitem, hbest] at h
            cases h
          | ok best => exact ⟨⟨key, rfl⟩, ⟨best, rfl⟩⟩
      rcases List.mem_append.mp hrow with hrow | hrow
      · -- an earlier row is the newest of them, or one of two at least
        by_cases htwo : 2 ≤ (items.filter (named name)).length
        · exact hlistable.comparable name htwo row hrow
        · have hmem := mem_of_newest? hnewest
          have hone : (items.filter (named name)).length = 1 := by
            have hpos := List.length_pos_of_mem hrow
            omega
          obtain ⟨only, honly⟩ := List.length_eq_one_iff.mp hone
          rw [honly, List.mem_singleton] at hrow hmem
          rw [hrow, ← hmem]
          exact hkeys.2
      · rw [List.mem_singleton.mp hrow]
        exact hkeys.1

/-- **The loop** over rows it goes through keeps the newest of each name. -/
theorem foldlM_listRow_ok (items rest : List Items) (hkeeps : Keeps unicode items latestByName)
    (hlistable : Listable unicode (items ++ rest)) :
    ∃ latest, rest.foldlM (listRow unicode) latestByName = .ok latest ∧
      Keeps unicode (items ++ rest) latest := by
  induction rest generalizing items latestByName with
  | nil => exact ⟨latestByName, rfl, by rwa [List.append_nil]⟩
  | cons item rest ih =>
    have happend : items ++ item :: rest = (items ++ [item]) ++ rest := by simp
    rw [happend] at hlistable ⊢
    obtain ⟨next, hrow, hnext⟩ := listRow_ok hkeeps hlistable.of_append
    obtain ⟨latest, hfold, hlatest⟩ := ih _ hnext hlistable
    refine ⟨latest, ?_, hlatest⟩
    rw [List.foldlM_cons, hrow]
    exact hfold

/-- Rows the loop goes through are listable. -/
theorem listable_of_foldlM (items rest : List Items) (hkeeps : Keeps unicode items latestByName)
    (hlistable : Listable unicode items)
    (h : rest.foldlM (listRow unicode) latestByName = .ok latest) :
    Listable unicode (items ++ rest) := by
  induction rest generalizing items latestByName with
  | nil => rwa [List.append_nil]
  | cons item rest ih =>
    have happend : items ++ item :: rest = (items ++ [item]) ++ rest := by simp
    rw [happend]
    rw [List.foldlM_cons] at h
    cases hrow : listRow unicode latestByName item with
    | error exc =>
      rw [hrow] at h
      cases h
    | ok next =>
      rw [hrow] at h
      have hnext := listable_of_listRow hkeeps hlistable hrow
      obtain ⟨next', hrow', hkept⟩ := listRow_ok hkeeps hnext
      rw [hrow] at hrow'
      cases hrow'
      exact ih _ hkept hnext h

theorem keeps_nil : Keeps unicode [] Dict.empty := fun _ => rfl

theorem listable_nil : Listable unicode [] := ⟨by simp, by simp⟩

/-! ## What is listed -/

/-- A row the caller's tier is shown. -/
def Shows (viewer : Viewer) (item : Items) : Prop :=
  (listedTierMinimum item).order ≤ viewer.tenantContext.tier.order

/-- Rows that can be listed: of the row shown of a name, `json.dumps` takes the duration. -/
structure Lists (unicode : Unicode) (viewer : Viewer) (items : List Items) : Prop where
  listable : Listable unicode items
  dumpable : ∀ name row, newestNamed unicode items name = some row → Shows viewer row →
    dumpable (row.get "estimated_duration_seconds") = true

variable {viewer : Viewer}

/-- Without a policy a summary is shown as it is. -/
theorem withAgUiPolicy_none (hpolicy : viewer.capabilityPolicy = none) (summary : AgentSummary) :
    withAgUiPolicy viewer summary = summary := by
  simp [withAgUiPolicy, Viewer.enables, hpolicy]

/-- The rows the summaries are of. -/
theorem mem_visible (hkeeps : Keeps unicode items latestByName) {row : Items} :
    row ∈ (latestByName.items.map (·.2)).filter (fun item =>
      decide ((listedTierMinimum item).order ≤ viewer.tenantContext.tier.order)) ↔
    (∃ name, newestNamed unicode items name = some row) ∧ Shows viewer row := by
  rw [List.mem_filter, decide_eq_true_iff, List.mem_map]
  refine and_congr_left fun _ => ?_
  constructor
  · rintro ⟨⟨name, _⟩, hmem, rfl⟩
    exact ⟨name, (hkeeps name).symm.trans (latestByName.mem_iff.mp hmem)⟩
  · rintro ⟨name, hnewest⟩
    exact ⟨(name, row), latestByName.mem_iff.mpr ((hkeeps name).trans hnewest), rfl⟩

/-- **The listing** lists the newest row of each name that the caller's tier is shown. -/
theorem listFrom_ok (hpolicy : viewer.capabilityPolicy = none) (h : Lists unicode viewer items) :
    ∃ summaries, listFrom unicode viewer items = .ok summaries ∧
      ∀ summary, summary ∈ summaries ↔ ∃ name row, newestNamed unicode items name = some row ∧
        Shows viewer row ∧ agentSummaryFromItem row = summary := by
  obtain ⟨latest, hfold, hkeeps⟩ :=
    foldlM_listRow_ok [] items keeps_nil h.listable
  rw [List.nil_append] at hkeeps
  unfold listFrom
  rw [hfold]
  simp only [bind, Except.bind, withAgUiPolicy_none hpolicy]
  rw [if_pos]
  · refine ⟨_, rfl, fun summary => ?_⟩
    rw [List.mem_insertionSort, List.mem_map]
    constructor
    · rintro ⟨row, hrow, rfl⟩
      obtain ⟨⟨name, hnewest⟩, hshows⟩ := (mem_visible hkeeps).mp hrow
      exact ⟨name, row, hnewest, hshows, rfl⟩
    · rintro ⟨name, row, hnewest, hshows, rfl⟩
      exact ⟨row, (mem_visible hkeeps).mpr ⟨⟨name, hnewest⟩, hshows⟩, rfl⟩
  · rw [List.all_eq_true]
    intro summary hsummary
    obtain ⟨row, hrow, rfl⟩ := List.mem_map.mp hsummary
    obtain ⟨⟨name, hnewest⟩, hshows⟩ := (mem_visible hkeeps).mp hrow
    exact h.dumpable name row hnewest hshows

theorem lists_of_listFrom (hpolicy : viewer.capabilityPolicy = none) {summaries : List AgentSummary}
    (h : listFrom unicode viewer items = .ok summaries) : Lists unicode viewer items := by
  unfold listFrom at h
  cases hfold : items.foldlM (listRow unicode) Dict.empty with
  | error exc =>
    rw [hfold] at h
    cases h
  | ok latest =>
    have hlistable := listable_of_foldlM [] items keeps_nil listable_nil hfold
    rw [List.nil_append] at hlistable
    obtain ⟨latest', hfold', hkeeps⟩ :=
      foldlM_listRow_ok [] items keeps_nil hlistable
    rw [List.nil_append] at hkeeps
    cases hfold.symm.trans hfold'
    refine ⟨hlistable, fun name row hnewest hshows => ?_⟩
    rw [hfold] at h
    simp only [bind, Except.bind, withAgUiPolicy_none hpolicy] at h
    split at h
    · rename_i hall
      rw [List.all_eq_true] at hall
      exact hall _ (List.mem_map_of_mem ((mem_visible hkeeps).mpr ⟨⟨name, hnewest⟩, hshows⟩))
    · cases h

end A5cCell.Bridge.Discovery
