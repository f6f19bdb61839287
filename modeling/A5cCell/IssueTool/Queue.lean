import Mathlib.Data.List.Sort
import Mathlib.Data.List.Lex
import Mathlib.Data.Prod.Lex
import Mathlib.Data.String.Basic
import Mathlib.Logic.Relation
import A5cCell.Lib.Dict
import A5cCell.Lib.Regex
import A5cCell.Lib.Str

/-!
# The queue of task issues

`build_queue` picks the open task issues to work on, says of each whether anything holds it up, and
puts them in order.

The order is a total one as the numbers of issues are distinct, so how the issues were listed does not
show in it. It does show in what a `TASK-` reference resolves to: where two task issues share an id,
the one that was listed last.
-/

namespace A5cCell.IssueTool.Queue

open Py (Dict)

/-- What `\d` and `\w` hold. -/
structure Classes where
  digit : Char → Bool
  word : Char → Bool

structure Issue where
  number : Int
  title : String
  state : String
  createdAt : String
  labels : List String
  taskId : Option String := none
  seq : Option Int := none
  dependsOn : List String := []
  deriving DecidableEq

structure QueueItem where
  issue : Issue
  runnable : Bool
  blockedReasons : List String := []
  deriving DecidableEq

/-- The modes of `build_queue`, and a text that is none of them. -/
inductive Mode where
  | auto
  | ready
  | openTask
  | unsupported (text : String)
  deriving DecidableEq

def Mode.text : Mode → String
  | .auto => "auto"
  | .ready => "ready"
  | .openTask => "open-task"
  | .unsupported text => text

structure QueueSelection where
  sourceMode : Mode
  items : List QueueItem
  sourceNote : String := ""
  deriving DecidableEq

structure CliError where
  message : String
  deriving DecidableEq

/-- The keyword arguments of `build_queue`. -/
structure Options where
  streamLabel : Option String := none
  fromIssue : Option Int := none
  fromSeq : Option Int := none
  mode : Mode := .auto

/-! ## An issue -/

/-- `CR_TITLE_RE`. -/
def crTitleRegex (classes : Classes) : Regex :=
  .seq (.span (fun c => c == 'C' || c == 'c') 1 (some 1)) <|
  .seq (.span (fun c => c == 'R' || c == 'r') 1 (some 1)) <|
  .seq (.text "-".toList) <|
  .seq (.span classes.digit 1 none) (.boundary classes.word)

/-- `is_parent_cr`. -/
def Issue.isParentCr (classes : Classes) (issue : Issue) : Bool :=
  !(Regex.run (crTitleRegex classes) [] (Py.strip issue.title).toList).isEmpty

/-- `priority_rank`. -/
def Issue.priorityRank (issue : Issue) : Nat :=
  let labelset := issue.labels.map Py.lower
  if ["p0", "priority:p0", "priority:high", "priority:critical"].any (· ∈ labelset) then 0
  else if ["p1", "priority:p1", "priority:medium"].any (· ∈ labelset) then 1
  else if ["p2", "priority:p2", "priority:low"].any (· ∈ labelset) then 2
  else if ["p3", "priority:p3"].any (· ∈ labelset) then 3
  else 50

inductive Lifecycle where
  | blocked
  | inProgress
  | done
  | notStarted
  | unknown
  deriving DecidableEq

/-- `lifecycle_status`. -/
def lifecycleStatus (issue : Issue) : Lifecycle :=
  if "status:blocked" ∈ issue.labels then .blocked
  else if "status:in-progress" ∈ issue.labels then .inProgress
  else if "status:done" ∈ issue.labels then .done
  else if "status:not-started" ∈ issue.labels then .notStarted
  else .unknown

theorem lifecycleStatus_eq_blocked_iff (issue : Issue) :
    lifecycleStatus issue = .blocked ↔ "status:blocked" ∈ issue.labels := by
  unfold lifecycleStatus
  constructor
  · intro h
    by_contra hlabel
    rw [if_neg hlabel] at h
    split_ifs at h
  · intro hlabel
    rw [if_pos hlabel]

def isTaskIssue (classes : Classes) (issue : Issue) : Bool :=
  "type:task" ∈ issue.labels && !issue.isParentCr classes

/-- `queue_task_issues`. -/
def queueTaskIssues (classes : Classes) (issues : List Issue) : List Issue :=
  issues.filter (isTaskIssue classes)

/-! ## What a reference resolves to -/

/-- `by_task_id`: a later issue of an id overrides an earlier one. -/
def byTaskId (classes : Classes) (issues : List Issue) : Dict String Issue :=
  .ofItems ((queueTaskIssues classes issues).filterMap fun issue =>
    (issue.taskId.filter (· ≠ "")).map (·, issue))

/-- `by_issue_ref`. -/
def byIssueRef (classes : Classes) (issues : List Issue) : Dict String Issue :=
  .ofItems ((queueTaskIssues classes issues).map fun issue => ("#" ++ toString issue.number, issue))

/-- The issue a reference resolves to. -/
def resolve (classes : Classes) (issues : List Issue) (ref : String) : Option Issue :=
  if Py.startsWith ref "#" then (byIssueRef classes issues).get? ref
  else (byTaskId classes issues).get? ref

/-- That a reference is to an issue. -/
def answersTo (ref : String) (issue : Issue) : Bool :=
  if Py.startsWith ref "#" then ref == "#" ++ toString issue.number
  else ref ≠ "" ∧ issue.taskId = some ref

/-! ## The queue -/

/-- Open, and of the stream that is asked for. -/
def isOpenTask (options : Options) (issue : Issue) : Bool :=
  issue.state = "open" ∧ options.streamLabel.all fun label => label = "" ∨ label ∈ issue.labels

/-- `open_task`, after the two starting points. -/
def openTask (classes : Classes) (issues : List Issue) (options : Options) : List Issue :=
  let openTask := (queueTaskIssues classes issues).filter (isOpenTask options)
  let openTask := match options.fromIssue with
    | none => openTask
    | some number => openTask.filter (number ≤ ·.number)
  match options.fromSeq with
  | none => openTask
  | some seq => openTask.filter (·.seq.any (seq ≤ ·))

/-- `queued_open_task`. -/
def queuedOpenTask (classes : Classes) (issues : List Issue) (options : Options) : List Issue :=
  (openTask classes issues options).filter (lifecycleStatus · ≠ .inProgress)

/-- `open_ready`. -/
def openReady (classes : Classes) (issues : List Issue) (options : Options) : List Issue :=
  (queuedOpenTask classes issues options).filter ("ready" ∈ ·.labels)

/-- `source_mode`. -/
def sourceMode (classes : Classes) (issues : List Issue) (options : Options) : Mode :=
  if options.mode = .auto then
    if openReady classes issues options ≠ [] then .ready else .openTask
  else options.mode

/-- `source_notes`. -/
def sourceNotes (classes : Classes) (issues : List Issue) (options : Options) : List String :=
  (options.fromIssue.toList.map fun number => "starting from issue #" ++ toString number) ++
  (options.fromSeq.toList.map fun seq => "starting from Seq:" ++ toString seq) ++
  if options.mode = .auto ∧ openReady classes issues options = [] then
    ["auto-fallback: no queued task issues labeled 'ready' (excludes status:in-progress)"]
  else []

/-- `candidates`; there are none where the mode is not supported. -/
def candidates (classes : Classes) (issues : List Issue) (options : Options) : List Issue :=
  match sourceMode classes issues options with
  | .ready => openReady classes issues options
  | .openTask => queuedOpenTask classes issues options
  | _ => []

/-- What holds an issue up on account of a reference. -/
def dependencyReasons (classes : Classes) (issues : List Issue) (ref : String) : List String :=
  match resolve classes issues ref with
  | none => ["missing dependency " ++ ref]
  | some dep =>
      if dep.state ≠ "closed" then
        ["blocked by " ++ ref ++ " (issue #" ++ toString dep.number ++ " is " ++ dep.state ++ ")"]
      else []

/-- `reasons`. -/
def blockedReasons (classes : Classes) (issues : List Issue) (issue : Issue) : List String :=
  (if lifecycleStatus issue = .blocked then ["blocked by status label (status:blocked)"] else []) ++
    issue.dependsOn.flatMap (dependencyReasons classes issues)

def queueItem (classes : Classes) (issues : List Issue) (issue : Issue) : QueueItem where
  issue := issue
  runnable := (blockedReasons classes issues issue).isEmpty
  blockedReasons := blockedReasons classes issues issue

/-- What the items are sorted by. -/
def sortKey (issue : Issue) : ℤ ×ₗ ℕ ×ₗ String ×ₗ ℤ :=
  toLex (issue.seq.getD 999999999,
    toLex (issue.priorityRank, toLex (issue.createdAt, issue.number)))

def sortItems (items : List QueueItem) : List QueueItem :=
  items.insertionSort fun a b => sortKey a.issue ≤ sortKey b.issue

/-- `build_queue`. -/
def buildQueue (classes : Classes) (issues : List Issue) (options : Options) :
    Except CliError QueueSelection :=
  let mode := sourceMode classes issues options
  if mode = .ready ∨ mode = .openTask then .ok {
    sourceMode := mode
    items := sortItems ((candidates classes issues options).map (queueItem classes issues))
    sourceNote := "; ".intercalate (sourceNotes classes issues options) }
  else .error ⟨"Unsupported queue mode: " ++ mode.text⟩

/-- `choose_next_runnable`. -/
def chooseNextRunnable (selection : QueueSelection) : Except CliError QueueItem :=
  match selection.items.find? (·.runnable) with
  | some item => .ok item
  | none => .error ⟨"No runnable issues found in queue (source=" ++ selection.sourceMode.text ++
      "). Resolve dependencies or adjust labels."⟩

section

variable {classes : Classes} {issues permuted : List Issue} {options : Options} {issue : Issue}
  {item : QueueItem} {selection : QueueSelection} {ref : String}

/-! ## Resolving a reference -/

/-- A lookup among issues that are keyed by one of their own fields. -/
theorem lookup_filterMap_keyed (key : Issue → Option String) (ref : String) :
    ∀ listed : List Issue, (listed.filterMap fun i => (key i).map (·, i)).lookup ref =
      listed.find? (key · = some ref)
  | [] => rfl
  | first :: rest => by
    have ih := lookup_filterMap_keyed key ref rest
    rw [List.filterMap_cons, List.find?_cons]
    cases hkey : key first with
    | none => simpa using ih
    | some k =>
      by_cases h : ref = k
      · subst h
        simp
      · have hb : (ref == k) = false := by simpa using h
        have hk : ¬ k = ref := Ne.symm h
        simp only [Option.map_some, List.lookup_cons, hb, ih, Option.some.injEq, hk, decide_false]

/-- A reference resolves to the task issue it is to that was listed last. -/
theorem resolve_eq (classes : Classes) (issues : List Issue) (ref : String) :
    resolve classes issues ref =
      (queueTaskIssues classes issues).reverse.find? (answersTo ref) := by
  unfold resolve answersTo
  split
  · have hmap : (queueTaskIssues classes issues).map
        (fun issue => ("#" ++ toString issue.number, issue)) =
        (queueTaskIssues classes issues).filterMap fun issue =>
          (some ("#" ++ toString issue.number)).map (·, issue) := by
      simp
    rw [byIssueRef, Dict.ofItems, Dict.get?_update, hmap, ← List.filterMap_reverse,
      lookup_filterMap_keyed (fun issue => some ("#" ++ toString issue.number))]
    simp only [Dict.get?_empty, Option.or_none, Option.some.injEq]
    congr 1
    funext issue
    rw [Bool.eq_iff_iff, decide_eq_true_iff, beq_iff_eq]
    exact eq_comm
  · rw [byTaskId, Dict.ofItems, Dict.get?_update, ← List.filterMap_reverse,
      lookup_filterMap_keyed (fun issue => issue.taskId.filter (· ≠ ""))]
    simp only [Dict.get?_empty, Option.or_none]
    congr 1
    funext issue
    rw [Bool.eq_iff_iff, decide_eq_true_iff, decide_eq_true_iff, Option.filter_eq_some_iff,
      decide_eq_true_iff, and_comm]

theorem resolve_isSome_of_answersTo (hmem : issue ∈ queueTaskIssues classes issues)
    (hanswers : answersTo ref issue = true) : ∃ dep, resolve classes issues ref = some dep := by
  rw [← Option.isSome_iff_exists, resolve_eq, List.find?_isSome]
  exact ⟨issue, List.mem_reverse.mpr hmem, hanswers⟩

theorem of_resolve_eq_some {dep : Issue} (h : resolve classes issues ref = some dep) :
    dep ∈ queueTaskIssues classes issues ∧ answersTo ref dep = true := by
  rw [resolve_eq] at h
  exact ⟨List.mem_reverse.mp (List.mem_of_find?_eq_some h), List.find?_some h⟩

/-! ## What makes an item runnable -/

theorem dependencyReasons_eq_nil_iff : dependencyReasons classes issues ref = [] ↔
    ∃ dep, resolve classes issues ref = some dep ∧ dep.state = "closed" := by
  unfold dependencyReasons
  cases hresolve : resolve classes issues ref with
  | none => simp
  | some dep =>
    by_cases hclosed : dep.state = "closed"
    · simp [hclosed]
    · simp [hclosed]

/-- Not blocked, and every dependency resolves to a closed task issue. -/
def Ready (classes : Classes) (issues : List Issue) (issue : Issue) : Prop :=
  "status:blocked" ∉ issue.labels ∧
    ∀ ref ∈ issue.dependsOn, ∃ dep, resolve classes issues ref = some dep ∧ dep.state = "closed"

theorem queueItem_runnable_iff (classes : Classes) (issues : List Issue) (issue : Issue) :
    (queueItem classes issues issue).runnable = true ↔ Ready classes issues issue := by
  unfold queueItem blockedReasons Ready
  rw [List.isEmpty_iff, List.append_eq_nil_iff, List.flatMap_eq_nil_iff]
  simp only [dependencyReasons_eq_nil_iff, ite_eq_right_iff, reduceCtorEq, imp_false,
    lifecycleStatus_eq_blocked_iff]

/-! ## The selection -/

theorem buildQueue_eq_ok_iff : buildQueue classes issues options = .ok selection ↔
    (sourceMode classes issues options = .ready ∨ sourceMode classes issues options = .openTask) ∧
      selection = {
        sourceMode := sourceMode classes issues options
        items := sortItems ((candidates classes issues options).map (queueItem classes issues))
        sourceNote := "; ".intercalate (sourceNotes classes issues options) } := by
  simp only [buildQueue]
  split
  · rename_i hmode
    simp only [Except.ok.injEq, hmode, true_and]
    exact eq_comm
  · rename_i hmode
    simp [hmode]

theorem mem_sortItems {items : List QueueItem} : item ∈ sortItems items ↔ item ∈ items :=
  List.mem_insertionSort _

theorem mem_items (h : buildQueue classes issues options = .ok selection) :
    item ∈ selection.items ↔
      item.issue ∈ candidates classes issues options ∧ item = queueItem classes issues item.issue := by
  obtain ⟨-, rfl⟩ := buildQueue_eq_ok_iff.mp h
  rw [mem_sortItems, List.mem_map]
  constructor
  · intro hmem
    obtain ⟨issue, hissue, rfl⟩ := hmem
    exact ⟨hissue, rfl⟩
  · intro hmem
    exact ⟨item.issue, hmem.1, hmem.2.symm⟩

/-! ## Another order of the listing -/

theorem queueTaskIssues_perm (h : permuted.Perm issues) :
    (queueTaskIssues classes permuted).Perm (queueTaskIssues classes issues) := h.filter _

theorem openTask_perm (h : permuted.Perm issues) :
    (openTask classes permuted options).Perm (openTask classes issues options) := by
  have htask : ((queueTaskIssues classes permuted).filter (isOpenTask options)).Perm
      ((queueTaskIssues classes issues).filter (isOpenTask options)) :=
    (queueTaskIssues_perm h).filter _
  unfold openTask
  cases options.fromIssue with
  | none => cases options.fromSeq with
    | none => exact htask
    | some seq => exact htask.filter _
  | some number => cases options.fromSeq with
    | none => exact htask.filter _
    | some seq => exact (htask.filter _).filter _

theorem queuedOpenTask_perm (h : permuted.Perm issues) :
    (queuedOpenTask classes permuted options).Perm (queuedOpenTask classes issues options) :=
  (openTask_perm h).filter _

theorem openReady_perm (h : permuted.Perm issues) :
    (openReady classes permuted options).Perm (openReady classes issues options) :=
  (queuedOpenTask_perm h).filter _

theorem openReady_eq_nil_iff (h : permuted.Perm issues) :
    openReady classes permuted options = [] ↔ openReady classes issues options = [] := by
  rw [← List.length_eq_zero_iff, (openReady_perm h).length_eq, List.length_eq_zero_iff]

theorem sourceMode_perm (h : permuted.Perm issues) :
    sourceMode classes permuted options = sourceMode classes issues options := by
  simp only [sourceMode, ne_eq, openReady_eq_nil_iff h]

theorem sourceNotes_perm (h : permuted.Perm issues) :
    sourceNotes classes permuted options = sourceNotes classes issues options := by
  simp only [sourceNotes, openReady_eq_nil_iff h]

theorem candidates_perm (h : permuted.Perm issues) :
    (candidates classes permuted options).Perm (candidates classes issues options) := by
  unfold candidates
  rw [sourceMode_perm h]
  split
  · exact openReady_perm h
  · exact queuedOpenTask_perm h
  · exact .rfl

theorem openTask_sublist : (openTask classes issues options).Sublist issues := by
  have htask : ((queueTaskIssues classes issues).filter (isOpenTask options)).Sublist issues :=
    List.filter_sublist.trans List.filter_sublist
  unfold openTask
  cases options.fromIssue with
  | none => cases options.fromSeq with
    | none => exact htask
    | some seq => exact List.filter_sublist.trans htask
  | some number => cases options.fromSeq with
    | none => exact List.filter_sublist.trans htask
    | some seq => exact List.filter_sublist.trans (List.filter_sublist.trans htask)

theorem candidates_sublist : (candidates classes issues options).Sublist issues := by
  have hqueued : (queuedOpenTask classes issues options).Sublist issues :=
    List.filter_sublist.trans openTask_sublist
  unfold candidates
  split
  · exact List.filter_sublist.trans hqueued
  · exact hqueued
  · exact List.nil_sublist issues

/-! ## The order -/

/-- A sort by a key that tells the elements apart does not depend on how they were listed. -/
theorem insertionSort_eq_of_perm {α κ : Type} [LinearOrder κ] (key : α → κ) {xs ys : List α}
    (h : xs.Perm ys) (hkey : ∀ a ∈ xs, ∀ b ∈ xs, key a = key b → a = b) :
    xs.insertionSort (fun a b => key a ≤ key b) = ys.insertionSort fun a b => key a ≤ key b := by
  have hxs := List.perm_insertionSort (fun a b => key a ≤ key b) xs
  have hys := List.perm_insertionSort (fun a b => key a ≤ key b) ys
  have hsorted (zs : List α) : (zs.insertionSort fun a b => key a ≤ key b).Pairwise
      fun a b => key a ≤ key b := List.pairwise_insertionSort _ zs
  refine ((hxs.trans h).trans hys.symm).eq_of_pairwise ?_ (hsorted xs) (hsorted ys)
  intro a b ha hb hab hba
  have hbxs : b ∈ xs := h.mem_iff.mpr ((List.mem_insertionSort _).mp hb)
  exact hkey a ((List.mem_insertionSort _).mp ha) b hbxs (le_antisymm hab hba)

theorem number_eq_of_sortKey_eq {a b : Issue} (h : sortKey a = sortKey b) :
    a.number = b.number := by
  have hinner := congrArg Prod.snd (congrArg Prod.snd (congrArg Prod.snd h))
  exact hinner

/-- With distinct numbers, no two issues have one key. -/
theorem eq_of_sortKey_eq (hnumbers : (issues.map (·.number)).Nodup) {a b : Issue}
    (ha : a ∈ issues) (hb : b ∈ issues) (h : sortKey a = sortKey b) : a = b :=
  List.inj_on_of_nodup_map hnumbers ha hb (number_eq_of_sortKey_eq h)

/-- The items without their reasons: the issues, and whether each is runnable. -/
def QueueSelection.flags (selection : QueueSelection) : List (Issue × Bool) :=
  selection.items.map fun item => (item.issue, item.runnable)

theorem flags_eq (h : buildQueue classes issues options = .ok selection) :
    selection.flags = ((candidates classes issues options).map fun issue =>
      (issue, (queueItem classes issues issue).runnable)).insertionSort
        fun a b => sortKey a.1 ≤ sortKey b.1 := by
  obtain ⟨-, rfl⟩ := buildQueue_eq_ok_iff.mp h
  unfold QueueSelection.flags sortItems
  rw [List.map_insertionSort (r := fun a b : QueueItem => sortKey a.issue ≤ sortKey b.issue)
    (s := fun a b : Issue × Bool => sortKey a.1 ≤ sortKey b.1)
    (fun item => (item.issue, item.runnable)) _ (fun _ _ _ _ => .rfl), List.map_map]
  rfl

theorem mem_flags (h : buildQueue classes issues options = .ok selection) {runnable : Bool} :
    (issue, runnable) ∈ selection.flags ↔ issue ∈ candidates classes issues options ∧
      (queueItem classes issues issue).runnable = runnable := by
  rw [flags_eq h, List.mem_insertionSort, List.mem_map]
  constructor
  · intro hmem
    obtain ⟨other, hother, heq⟩ := hmem
    cases heq
    exact ⟨hother, rfl⟩
  · intro hmem
    exact ⟨issue, hmem.1, by rw [hmem.2]⟩

/-- Whether the queue is built at all does not depend on the listing. -/
theorem buildQueue_of_perm (h : permuted.Perm issues)
    (hok : buildQueue classes issues options = .ok selection) :
    ∃ selection', buildQueue classes permuted options = .ok selection' := by
  obtain ⟨hmode, -⟩ := buildQueue_eq_ok_iff.mp hok
  rw [← sourceMode_perm h] at hmode
  exact ⟨_, buildQueue_eq_ok_iff.mpr ⟨hmode, rfl⟩⟩

/-! ## Where the listing does not show -/

/-- Every listing of the issues gives the same items in the same order, with the same flags. -/
def OrderIndependent (classes : Classes) (issues : List Issue) (options : Options) : Prop :=
  ∀ permuted : List Issue, permuted.Perm issues →
    (buildQueue classes permuted options).map QueueSelection.flags =
      (buildQueue classes issues options).map QueueSelection.flags

/-- That an issue is blocked, has a reference no closed issue answers to, or has none but references
    that only closed ones answer to. -/
def Settled (classes : Classes) (issues : List Issue) (issue : Issue) : Prop :=
  "status:blocked" ∈ issue.labels ∨
  (∃ ref ∈ issue.dependsOn, ∀ dep ∈ queueTaskIssues classes issues,
    answersTo ref dep = true → dep.state ≠ "closed") ∨
  ∀ ref ∈ issue.dependsOn, ∀ dep ∈ queueTaskIssues classes issues,
    answersTo ref dep = true → dep.state = "closed"

instance : Decidable (Settled classes issues issue) := by
  unfold Settled
  infer_instance

theorem Ready.of_perm (h : permuted.Perm issues) (hsettled : Settled classes issues issue)
    (hready : Ready classes issues issue) : Ready classes permuted issue := by
  obtain ⟨hlabel, hdeps⟩ := hready
  refine ⟨hlabel, fun ref href => ?_⟩
  obtain ⟨dep, hdep, hclosed⟩ := hdeps ref href
  obtain ⟨hmem, hanswers⟩ := of_resolve_eq_some hdep
  obtain ⟨dep', hdep'⟩ :=
    resolve_isSome_of_answersTo ((queueTaskIssues_perm h).mem_iff.mpr hmem) hanswers
  obtain ⟨hmem', hanswers'⟩ := of_resolve_eq_some hdep'
  refine ⟨dep', hdep', ?_⟩
  rcases hsettled with hblocked | ⟨other, hother, hnone⟩ | hall
  · exact absurd hblocked hlabel
  · obtain ⟨open', hopen, hopenClosed⟩ := hdeps other hother
    obtain ⟨hopenMem, hopenAnswers⟩ := of_resolve_eq_some hopen
    exact absurd hopenClosed (hnone open' hopenMem hopenAnswers)
  · exact hall ref href dep' ((queueTaskIssues_perm h).mem_iff.mp hmem') hanswers'

theorem Settled.perm (h : permuted.Perm issues) (hsettled : Settled classes issues issue) :
    Settled classes permuted issue := by
  have hmem (dep : Issue) : dep ∈ queueTaskIssues classes permuted ↔
      dep ∈ queueTaskIssues classes issues := (queueTaskIssues_perm h).mem_iff
  simpa only [Settled, hmem] using hsettled

theorem runnable_perm (h : permuted.Perm issues) (hsettled : Settled classes issues issue) :
    (queueItem classes permuted issue).runnable = (queueItem classes issues issue).runnable := by
  rw [Bool.eq_iff_iff, queueItem_runnable_iff, queueItem_runnable_iff]
  constructor
  · intro hready
    exact hready.of_perm h.symm (hsettled.perm h)
  · intro hready
    exact hready.of_perm h hsettled

/-- The condition is enough. -/
theorem orderIndependent_of_settled (hnumbers : (issues.map (·.number)).Nodup)
    (hsettled : ∀ issue ∈ candidates classes issues options, Settled classes issues issue) :
    OrderIndependent classes issues options := by
  intro permuted hperm
  cases hok : buildQueue classes issues options with
  | error x =>
    cases hok' : buildQueue classes permuted options with
    | error y =>
      simp only [buildQueue, sourceMode_perm hperm] at hok hok'
      split at hok
      · cases hok
      · rename_i hmode
        rw [if_neg hmode] at hok'
        exact congrArg _ (hok'.symm.trans hok)
    | ok selection' =>
      obtain ⟨selection, hselection⟩ := buildQueue_of_perm hperm.symm hok'
      rw [hok] at hselection
      cases hselection
  | ok selection =>
    obtain ⟨selection', hok'⟩ := buildQueue_of_perm hperm hok
    rw [hok']
    simp only [Except.map, Except.ok.injEq]
    rw [flags_eq hok, flags_eq hok']
    refine insertionSort_eq_of_perm (fun a : Issue × Bool => sortKey a.1) ?_ ?_
    · have hsame : (candidates classes permuted options).map
          (fun issue => (issue, (queueItem classes permuted issue).runnable)) =
          (candidates classes permuted options).map
            fun issue => (issue, (queueItem classes issues issue).runnable) :=
        List.map_congr_left fun issue hissue => by
          rw [runnable_perm hperm (hsettled issue ((candidates_perm hperm).mem_iff.mp hissue))]
      rw [hsame]
      exact (candidates_perm hperm).map _
    · intro a ha b hb hkey
      obtain ⟨i, hi, rfl⟩ := List.mem_map.mp ha
      obtain ⟨j, hj, rfl⟩ := List.mem_map.mp hb
      have hmem {k : Issue} (hk : k ∈ candidates classes permuted options) : k ∈ issues :=
        candidates_sublist.subset ((candidates_perm hperm).mem_iff.mp hk)
      rw [eq_of_sortKey_eq hnumbers (hmem hi) (hmem hj) hkey]

/-- No two task issues have one id. -/
def DistinctTaskIds (classes : Classes) (issues : List Issue) : Prop :=
  ∀ a ∈ queueTaskIssues classes issues, ∀ b ∈ queueTaskIssues classes issues,
    ∀ taskId, a.taskId = some taskId → b.taskId = some taskId → a = b

theorem answersTo_unique (hnumbers : (issues.map (·.number)).Nodup)
    (hids : DistinctTaskIds classes issues) {a b : Issue} (ha : a ∈ queueTaskIssues classes issues)
    (hb : b ∈ queueTaskIssues classes issues) (hrefA : answersTo ref a = true)
    (hrefB : answersTo ref b = true) : a = b := by
  unfold answersTo at hrefA hrefB
  split at hrefA
  · rename_i hhash
    rw [if_pos hhash, beq_iff_eq] at hrefB
    rw [beq_iff_eq] at hrefA
    have htext := congrArg String.toList (hrefA.symm.trans hrefB)
    rw [String.toList_append, String.toList_append] at htext
    have hnumber : a.number = b.number :=
      Py.toString_injective (String.toList_inj.mp (List.append_cancel_left htext))
    exact List.inj_on_of_nodup_map hnumbers (List.mem_of_mem_filter ha)
      (List.mem_of_mem_filter hb) hnumber
  · rename_i hhash
    rw [if_neg hhash, decide_eq_true_iff] at hrefB
    rw [decide_eq_true_iff] at hrefA
    exact hids a ha b hb ref hrefA.2 hrefB.2

theorem resolve_perm (hperm : permuted.Perm issues) (hnumbers : (issues.map (·.number)).Nodup)
    (hids : DistinctTaskIds classes issues) (ref : String) :
    resolve classes permuted ref = resolve classes issues ref := by
  cases hresolve : resolve classes issues ref with
  | none =>
    cases hresolve' : resolve classes permuted ref with
    | none => rfl
    | some dep =>
      obtain ⟨hmem, hanswers⟩ := of_resolve_eq_some hresolve'
      obtain ⟨dep', hdep'⟩ :=
        resolve_isSome_of_answersTo ((queueTaskIssues_perm hperm).mem_iff.mp hmem) hanswers
      rw [hresolve] at hdep'
      cases hdep'
  | some dep =>
    obtain ⟨hmem, hanswers⟩ := of_resolve_eq_some hresolve
    obtain ⟨dep', hdep'⟩ :=
      resolve_isSome_of_answersTo ((queueTaskIssues_perm hperm).mem_iff.mpr hmem) hanswers
    obtain ⟨hmem', hanswers'⟩ := of_resolve_eq_some hdep'
    rw [hdep', answersTo_unique hnumbers hids ((queueTaskIssues_perm hperm).mem_iff.mp hmem') hmem
      hanswers' hanswers]

/-- Where no task id is repeated, the whole selection is that of any other listing, its reasons
    included. -/
theorem buildQueue_perm (hperm : permuted.Perm issues) (hnumbers : (issues.map (·.number)).Nodup)
    (hids : DistinctTaskIds classes issues) :
    buildQueue classes permuted options = buildQueue classes issues options := by
  have hitem : queueItem classes permuted = queueItem classes issues := by
    funext issue
    have hreasons : dependencyReasons classes permuted = dependencyReasons classes issues := by
      funext ref
      rw [dependencyReasons, dependencyReasons, resolve_perm hperm hnumbers hids]
    simp only [queueItem, blockedReasons, hreasons]
  have hitems : sortItems ((candidates classes permuted options).map (queueItem classes issues)) =
      sortItems ((candidates classes issues options).map (queueItem classes issues)) := by
    refine insertionSort_eq_of_perm (fun a : QueueItem => sortKey a.issue)
      ((candidates_perm hperm).map _) ?_
    intro a ha b hb hkey
    obtain ⟨i, hi, rfl⟩ := List.mem_map.mp ha
    obtain ⟨j, hj, rfl⟩ := List.mem_map.mp hb
    have hmem {k : Issue} (hk : k ∈ candidates classes permuted options) : k ∈ issues :=
      candidates_sublist.subset ((candidates_perm hperm).mem_iff.mp hk)
    rw [eq_of_sortKey_eq hnumbers (hmem hi) (hmem hj) hkey]
  simp only [buildQueue, sourceMode_perm hperm, sourceNotes_perm hperm, hitem, hitems]

/-- The issue that is chosen is runnable, and comes first of those that are. -/
theorem chooseNextRunnable_least (hok : buildQueue classes issues options = .ok selection)
    (hchosen : chooseNextRunnable selection = .ok item) :
    item ∈ selection.items ∧ Ready classes issues item.issue ∧
      ∀ other ∈ selection.items, other.runnable = true →
        sortKey item.issue ≤ sortKey other.issue := by
  unfold chooseNextRunnable at hchosen
  split at hchosen
  · rename_i found hfind
    cases hchosen
    have hmem := List.mem_of_find?_eq_some hfind
    have hrunnable : item.runnable = true := List.find?_some hfind
    rw [((mem_items hok).mp hmem).2, queueItem_runnable_iff] at hrunnable
    refine ⟨hmem, hrunnable, fun other hother hrun => ?_⟩
    have hsorted : selection.items.Pairwise fun a b => sortKey a.issue ≤ sortKey b.issue := by
      obtain ⟨-, rfl⟩ := buildQueue_eq_ok_iff.mp hok
      exact List.pairwise_insertionSort (fun a b : QueueItem => sortKey a.issue ≤ sortKey b.issue) _
    obtain ⟨-, before, after, hsplit, hbefore⟩ := List.find?_eq_some_iff_append.mp hfind
    rw [hsplit] at hsorted hother
    rcases List.mem_append.mp hother with hfront | hback
    · have hnot := hbefore other hfront
      rw [hrun] at hnot
      cases hnot
    · rcases List.mem_cons.mp hback with rfl | hafter
      · exact le_rfl
      · exact (List.pairwise_cons.mp (List.pairwise_append.mp hsorted).2.1).1 other hafter
  · cases hchosen

/-! ## Where it does -/

/-- The issues, those that meet a test after the others. -/
def listedLast (test : Issue → Bool) (issues : List Issue) : List Issue :=
  issues.filter (!test ·) ++ issues.filter test

theorem listedLast_perm (test : Issue → Bool) (issues : List Issue) :
    (listedLast test issues).Perm issues :=
  List.perm_append_comm.trans (List.filter_append_perm test issues)

/-- A reference that some of those listed last answer to resolves to one of them. -/
theorem resolve_listedLast (test : Issue → Bool) {dep : Issue}
    (hmem : dep ∈ queueTaskIssues classes issues) (htest : test dep = true)
    (hanswers : answersTo ref dep = true) :
    ∃ last, resolve classes (listedLast test issues) ref = some last ∧ test last = true := by
  have hlast : dep ∈ (queueTaskIssues classes (issues.filter test)).reverse := by
    rw [List.mem_reverse]
    unfold queueTaskIssues at hmem ⊢
    rw [List.mem_filter] at hmem ⊢
    exact ⟨List.mem_filter.mpr ⟨hmem.1, htest⟩, hmem.2⟩
  have hsome : ((queueTaskIssues classes (issues.filter test)).reverse.find?
      (answersTo ref)).isSome := List.find?_isSome.mpr ⟨dep, hlast, hanswers⟩
  obtain ⟨last, hfind⟩ := Option.isSome_iff_exists.mp hsome
  refine ⟨last, ?_, ?_⟩
  · have happend : queueTaskIssues classes (listedLast test issues) =
        queueTaskIssues classes (issues.filter (!test ·)) ++
          queueTaskIssues classes (issues.filter test) := List.filter_append _ _
    rw [resolve_eq, happend, List.reverse_append, List.find?_append, hfind]
    rfl
  · have hin := List.mem_reverse.mp (List.mem_of_find?_eq_some hfind)
    exact (List.mem_filter.mp (List.mem_filter.mp hin).1).2

theorem buildQueue_of_candidate (hissue : issue ∈ candidates classes issues options) :
    ∃ selection, buildQueue classes issues options = .ok selection := by
  have hmode : sourceMode classes issues options = .ready ∨
      sourceMode classes issues options = .openTask := by
    unfold candidates at hissue
    split at hissue
    · rename_i h
      exact .inl h
    · rename_i h
      exact .inr h
    · cases hissue
  exact ⟨_, buildQueue_eq_ok_iff.mpr ⟨hmode, rfl⟩⟩

/-- An issue has one flag, whatever the listing. -/
theorem OrderIndependent.runnable_eq (h : OrderIndependent classes issues options)
    (hissue : issue ∈ candidates classes issues options) (hperm : permuted.Perm issues) :
    (queueItem classes permuted issue).runnable = (queueItem classes issues issue).runnable := by
  obtain ⟨selection, hok⟩ := buildQueue_of_candidate hissue
  obtain ⟨selection', hok'⟩ := buildQueue_of_perm hperm hok
  have hflags := h permuted hperm
  rw [hok, hok'] at hflags
  simp only [Except.map, Except.ok.injEq] at hflags
  have hmem := (mem_flags hok).mpr ⟨hissue, rfl⟩
  rw [← hflags] at hmem
  exact ((mem_flags hok').mp hmem).2

/-- The condition is needed: list the closed issues last, and then the others. -/
theorem settled_of_orderIndependent (h : OrderIndependent classes issues options)
    (hissue : issue ∈ candidates classes issues options) : Settled classes issues issue := by
  by_contra hsettled
  unfold Settled at hsettled
  push Not at hsettled
  obtain ⟨hlabel, hclosed, ref, href, dep, hdep, hanswers, hopen⟩ := hsettled
  have hready : Ready classes (listedLast (fun i => i.state = "closed") issues) issue := by
    refine ⟨hlabel, fun other hother => ?_⟩
    obtain ⟨closed, hmem, hanswersTo, hstate⟩ := hclosed other hother
    obtain ⟨last, hresolve, htest⟩ := resolve_listedLast
      (fun i => i.state = "closed") hmem (decide_eq_true hstate) hanswersTo
    exact ⟨last, hresolve, of_decide_eq_true htest⟩
  have hnot : ¬ Ready classes (listedLast (fun i => i.state ≠ "closed") issues) issue := by
    intro hready'
    obtain ⟨last, hresolve, htest⟩ := resolve_listedLast
      (fun i => i.state ≠ "closed") hdep (decide_eq_true hopen) hanswers
    obtain ⟨other, hother, hstate⟩ := hready'.2 ref href
    rw [hresolve] at hother
    cases hother
    exact of_decide_eq_true htest hstate
  rw [← queueItem_runnable_iff] at hready hnot
  rw [h.runnable_eq hissue (listedLast_perm _ issues)] at hready hnot
  exact hnot hready

/-! ## Cycles -/

/-- That an open issue has a reference that resolves to an open issue. -/
def WaitsFor (classes : Classes) (issues : List Issue) (a b : Issue) : Prop :=
  a.state = "open" ∧ b.state = "open" ∧
    ∃ ref ∈ a.dependsOn, resolve classes issues ref = some b

theorem WaitsFor.not_ready {a b : Issue} (h : WaitsFor classes issues a b) :
    ¬ Ready classes issues a := by
  intro hready
  obtain ⟨-, hopen, ref, href, hresolve⟩ := h
  obtain ⟨dep, hdep, hclosed⟩ := hready.2 ref href
  rw [hresolve] at hdep
  cases hdep
  rw [hopen] at hclosed
  exact absurd hclosed (by decide)

/-! ## What a queue is held to -/

/-- An item is runnable exactly when it is not blocked and its references resolve to closed issues. -/
def Eligible (classes : Classes) (issues : List Issue) (options : Options) : Prop :=
  ∀ selection, buildQueue classes issues options = .ok selection → ∀ item ∈ selection.items,
    (item.runnable = true ↔ "status:blocked" ∉ item.issue.labels ∧
      ∀ ref ∈ item.issue.dependsOn, ∃ dep, resolve classes issues ref = some dep ∧
        dep ∈ queueTaskIssues classes issues ∧ dep.state = "closed")

/-- No item on a cycle of open issues is runnable. -/
def CyclesWait (classes : Classes) (issues : List Issue) (options : Options) : Prop :=
  ∀ selection, buildQueue classes issues options = .ok selection → ∀ item ∈ selection.items,
    Relation.TransGen (WaitsFor classes issues) item.issue item.issue → item.runnable = false

theorem eligible (classes : Classes) (issues : List Issue) (options : Options) :
    Eligible classes issues options := by
  intro selection hok item hitem
  obtain ⟨-, heq⟩ := (mem_items hok).mp hitem
  have hrunnable : item.runnable = (queueItem classes issues item.issue).runnable :=
    congrArg QueueItem.runnable heq
  rw [hrunnable, queueItem_runnable_iff]
  refine and_congr_right fun _ => forall₂_congr fun ref _ => exists_congr fun dep => ?_
  constructor
  · intro h
    exact ⟨h.1, (of_resolve_eq_some h.1).1, h.2⟩
  · intro h
    exact ⟨h.1, h.2.2⟩

theorem cyclesWait (classes : Classes) (issues : List Issue) (options : Options) :
    CyclesWait classes issues options := by
  intro selection hok item hitem hcycle
  obtain ⟨-, heq⟩ := (mem_items hok).mp hitem
  have hwaits : ∃ b, WaitsFor classes issues item.issue b := by
    cases hcycle using Relation.TransGen.head_induction_on with
    | single h => exact ⟨_, h⟩
    | head h _ _ => exact ⟨_, h⟩
  obtain ⟨b, hb⟩ := hwaits
  have hrunnable : item.runnable = (queueItem classes issues item.issue).runnable :=
    congrArg QueueItem.runnable heq
  rw [hrunnable, ← Bool.not_eq_true, queueItem_runnable_iff]
  exact hb.not_ready

/-- The queue says what may run, and says the same of every listing where, and only where, every
    candidate is settled. -/
theorem build_queue_iff (classes : Classes) (options : Options) (issues : List Issue)
    (hnumbers : (issues.map (·.number)).Nodup) :
    (OrderIndependent classes issues options ∧ Eligible classes issues options ∧
      CyclesWait classes issues options) ↔
    ∀ issue ∈ candidates classes issues options, Settled classes issues issue := by
  constructor
  · intro h issue hissue
    exact settled_of_orderIndependent h.1 hissue
  · intro hsettled
    exact ⟨orderIndependent_of_settled hnumbers hsettled, eligible classes issues options,
      cyclesWait classes issues options⟩

end

/-! ## An id that two issues share -/

def asciiClasses : Classes where
  digit := Char.isDigit
  word := fun c => c.isAlphanum || c == '_'

/-- A task that was closed, and the one that was opened again under its id. -/
def closedTask : Issue where
  number := 1
  title := "TASK-7: Rotate the key"
  state := "closed"
  createdAt := "2026-01-05"
  labels := ["type:task", "status:done"]
  taskId := some "TASK-7"

def reopenedTask : Issue where
  number := 2
  title := "TASK-7: Rotate the key again"
  state := "open"
  createdAt := "2026-01-06"
  labels := ["type:task", "status:not-started"]
  taskId := some "TASK-7"
  seq := some 1

def dependentTask : Issue where
  number := 3
  title := "TASK-8: Drop the old key"
  state := "open"
  createdAt := "2026-01-07"
  labels := ["type:task", "status:not-started"]
  taskId := some "TASK-8"
  seq := some 2
  dependsOn := ["TASK-7"]

/-- Listed from the oldest, the dependent task waits; from the newest, it runs. -/
theorem queue_depends_on_listing :
    ([closedTask, reopenedTask, dependentTask].map (·.number)).Nodup ∧
    ¬ OrderIndependent asciiClasses [closedTask, reopenedTask, dependentTask] {} := by
  refine ⟨by decide, fun h => ?_⟩
  have hcandidate : dependentTask ∈
      candidates asciiClasses [closedTask, reopenedTask, dependentTask] {} := by decide +kernel
  have hsettled := settled_of_orderIndependent h hcandidate
  revert hsettled
  decide +kernel

theorem build_queue_iff_done :
    OrderIndependent asciiClasses [closedTask, dependentTask] {} ∧
      Eligible asciiClasses [closedTask, dependentTask] {} ∧
      CyclesWait asciiClasses [closedTask, dependentTask] {} :=
  (build_queue_iff asciiClasses {} [closedTask, dependentTask] (by decide)).mpr (by decide +kernel)

end A5cCell.IssueTool.Queue
