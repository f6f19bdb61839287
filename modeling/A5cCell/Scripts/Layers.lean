import Mathlib.Data.List.Sort
import Mathlib.Data.String.Basic
import Mathlib.Logic.Function.Basic
import A5cCell.Lib.Prog
import A5cCell.Lib.Runs
import A5cCell.Lib.Str
import A5cCell.Lib.Value

/-!
# Dependency layers

`layer_manifest`, `build_layer` and `hash_layer`: a build uploads the layer of an agent's dependencies
and then writes the hash of the dependencies and the key of the layer into two parameters, and a deploy
whose dependencies have the hash uses the layer under the key.

A build may stop anywhere. Where it stops between the two parameters, the hash is of one layer and the
key of another.
-/

namespace A5cCell.Scripts

open Runs

/-- What a build reads of an agent's directory. -/
structure Project where
  deploymentType : String := "zip"
  dependencies : List String
  lockfile : Option String := none

/-! ## The hash -/

/-- `sorted(dep.strip() for dep in deps)`. -/
def sortedDeps (deps : List String) : List String :=
  (deps.map Py.strip).insertionSort (· ≤ ·)

/-- The text that is hashed. -/
def canonicalText (deps : List String) (lockfileContent : Option String) : String :=
  let canonical := "\n".intercalate (sortedDeps deps)
  match lockfileContent with
  | none => canonical
  | some content => canonical ++ "\n---lockfile---\n" ++ content

/-- `compute_dependency_hash`; `sha256` is the first 16 digits of the digest. -/
def computeDependencyHash (sha256 : String → String) (deps : List String)
    (lockfileContent : Option String) : String :=
  sha256 (canonicalText deps lockfileContent)

def Project.canonical (project : Project) : String :=
  canonicalText project.dependencies project.lockfile

def Project.hash (sha256 : String → String) (project : Project) : String :=
  computeDependencyHash sha256 project.dependencies project.lockfile

/-! ## The build -/

/-- A step of a build that may fail. A layer is kept as the project it is built of. -/
inductive BuildCall where
  | requireAwsRegion
  | buildDependencies (dependencies : List String)
  | verifyArm64Artifacts
  | createLayerZip
  | verifyArm64Zip
  | resolveLayerBucket
  | uploadLayerZip (key : String) (layer : Project)
  | putParameter (name value : String)

abbrev Build (α : Type) : Type := Prog BuildCall (fun _ => Except Unit Unit) Unit α

def step (call : BuildCall) : Build Unit :=
  .call call fun reply => match reply with
    | .ok _ => .ret ()
    | .error _ => .raise ()

def hashParameter (env agentName : String) : String :=
  "/platform/layers/" ++ env ++ "/" ++ agentName ++ "/hash"

def s3KeyParameter (env agentName : String) : String :=
  "/platform/layers/" ++ env ++ "/" ++ agentName ++ "/s3-key"

def layerKey (agentName depHash : String) : String :=
  "layers/" ++ (agentName ++ "-deps-" ++ depHash ++ ".zip")

def putLayerMetadata (agentName env depHash key : String) : Build Unit := do
  step (.putParameter (hashParameter env agentName) depHash)
  step (.putParameter (s3KeyParameter env agentName) key)

/-- `build_layer.run`. -/
def runBuild (sha256 : String → String) (agentName env : String) (project : Project) : Build Unit :=
  if project.deploymentType = "container" then pure ()
  else do
    step .requireAwsRegion
    let depHash := computeDependencyHash sha256 project.dependencies project.lockfile
    step (.buildDependencies project.dependencies)
    step .verifyArm64Artifacts
    step .createLayerZip
    step .verifyArm64Zip
    step .resolveLayerBucket
    let key := layerKey agentName depHash
    step (.uploadLayerZip key project)
    putLayerMetadata agentName env depHash key

/-! ## The bucket and the parameters -/

/-- The layers that were uploaded, and the parameters. -/
structure Stored where
  uploads : List (String × Project) := []
  parameters : String → Option String := fun _ => none

/-- What a step does where it is done. -/
def Stored.apply (stored : Stored) : BuildCall → Stored
  | .uploadLayerZip key layer => { stored with uploads := stored.uploads ++ [(key, layer)] }
  | .putParameter name value =>
      { stored with parameters := Function.update stored.parameters name (some value) }
  | _ => stored

/-- A step is done; or it fails; or it is done and fails, as where the answer is lost. A build that is
    stopped fails at the step it is at. -/
inductive Fate where
  | done
  | failed
  | lost
  deriving DecidableEq

/-- The next step has the first fate; where there is none left, it is done. -/
def serve (s : Stored × List Fate) (call : BuildCall) : Except Unit Unit × Stored × List Fate :=
  match s.2.headD .done with
  | .done => (.ok (), s.1.apply call, s.2.tail)
  | .failed => (.error (), s.1, s.2.tail)
  | .lost => (.error (), s.1.apply call, s.2.tail)

/-- A build of a history, and what becomes of its steps. -/
structure Attempt where
  project : Project
  fates : List Fate

def buildStep (sha256 : String → String) (agentName env : String) (stored : Stored)
    (attempt : Attempt) : Stored × Except Unit Unit :=
  let run := Prog.run serve (stored, attempt.fates) (runBuild sha256 agentName env attempt.project)
  (run.final.1, run.outcome)

/-! ## The check before a deploy -/

/-- `hash_layer.run`: whether it reports `HASH_MATCH`. -/
def hashMatches (sha256 : String → String) (agentName env : String) (stored : Stored)
    (project : Project) : Bool :=
  if project.deploymentType = "container" then true
  else match Py.truthyText (stored.parameters (hashParameter env agentName)) with
    | none => false
    | some hash => computeDependencyHash sha256 project.dependencies project.lockfile = hash

/-- The key that `deploy_agent` uses. -/
def depsKey (agentName env : String) (stored : Stored) : Option String :=
  Py.truthyText (stored.parameters (s3KeyParameter env agentName))

/-! ## The text that is hashed -/

/-- The same dependencies, up to order and outer white space, and the same lock file. -/
def Same (p q : Project) : Prop :=
  (p.dependencies.map Py.strip).Perm (q.dependencies.map Py.strip) ∧ p.lockfile = q.lockfile

/-- No dependency spans lines or is the line before the lock file, and none is blank and alone. -/
def Plain (p : Project) : Prop :=
  (∀ dep ∈ p.dependencies.map Py.strip, '\n' ∉ dep.toList ∧ dep ≠ "---lockfile---") ∧
    p.dependencies.map Py.strip ≠ [""]

/-- The lines of a text. -/
def linesOf (text : String) : List (List Char) := text.toList.splitOn '\n'

theorem linesOf_injective {s t : String} (h : linesOf s = linesOf t) : s = t := by
  have hjoined := congrArg (['\n'].intercalate ·) h
  simp only [linesOf, List.intercalate_splitOn] at hjoined
  exact String.toList_inj.mp hjoined

/-- The lines of joined texts are the texts, where there are any. -/
theorem linesOf_join {deps : List String} (hne : deps ≠ []) (hdeps : ∀ dep ∈ deps, '\n' ∉ dep.toList) :
    linesOf ("\n".intercalate deps) = deps.map String.toList := by
  rw [linesOf, String.toList_intercalate]
  refine List.splitOn_intercalate '\n' ?_ ?_
  · intro line hline
    obtain ⟨dep, hdep, rfl⟩ := List.mem_map.mp hline
    exact hdeps dep hdep
  · rwa [ne_eq, List.map_eq_nil_iff]

theorem linesOf_locked (deps content : String) :
    linesOf (deps ++ "\n---lockfile---\n" ++ content) =
      linesOf deps ++ "---lockfile---".toList :: linesOf content := by
  have htext : (deps ++ "\n---lockfile---\n" ++ content).toList =
      deps.toList ++ '\n' :: ("---lockfile---".toList ++ '\n' :: content.toList) := by
    rw [String.toList_append, String.toList_append, List.append_assoc]
    rfl
  have hline : "---lockfile---".toList.splitOn '\n' = ["---lockfile---".toList] :=
    List.splitOn_eq_singleton (by decide)
  rw [linesOf, htext, List.splitOn_append_cons_self, List.splitOn_append_cons_self, hline]
  rfl

section

variable {p q : Project}

theorem mem_sortedDeps {deps : List String} {dep : String} :
    dep ∈ sortedDeps deps ↔ dep ∈ deps.map Py.strip := List.mem_insertionSort _

theorem perm_of_sortedDeps_eq (h : sortedDeps p.dependencies = sortedDeps q.dependencies) :
    (p.dependencies.map Py.strip).Perm (q.dependencies.map Py.strip) := by
  have hp := List.perm_insertionSort (· ≤ ·) (p.dependencies.map Py.strip)
  have hq := List.perm_insertionSort (· ≤ ·) (q.dependencies.map Py.strip)
  exact (hp.symm.trans (List.Perm.of_eq h)).trans hq

/-- The lines of plain dependencies. -/
theorem Plain.linesOf_deps (hp : Plain p) :
    linesOf ("\n".intercalate (sortedDeps p.dependencies)) =
      if sortedDeps p.dependencies = [] then [[]]
      else (sortedDeps p.dependencies).map String.toList := by
  split
  · rename_i hnil
    rw [hnil]
    rfl
  · rename_i hne
    exact linesOf_join hne fun dep hdep => (hp.1 dep (mem_sortedDeps.mp hdep)).1

theorem Plain.sortedDeps_ne (hp : Plain p) : sortedDeps p.dependencies ≠ [""] := by
  intro h
  have hperm := List.perm_insertionSort (· ≤ ·) (p.dependencies.map Py.strip)
  rw [sortedDeps] at h
  rw [h] at hperm
  exact hp.2 (List.perm_singleton.mp hperm.symm)

/-- The line before a lock file is none of plain dependencies. -/
theorem Plain.notMem_linesOf (hp : Plain p) :
    "---lockfile---".toList ∉ linesOf ("\n".intercalate (sortedDeps p.dependencies)) := by
  rw [hp.linesOf_deps]
  split
  · decide
  · intro hmem
    obtain ⟨dep, hdep, htext⟩ := List.mem_map.mp hmem
    exact (hp.1 dep (mem_sortedDeps.mp hdep)).2 (String.toList_inj.mp htext)

theorem Plain.perm_of_linesOf (hp : Plain p) (hq : Plain q)
    (h : linesOf ("\n".intercalate (sortedDeps p.dependencies)) =
      linesOf ("\n".intercalate (sortedDeps q.dependencies))) :
    (p.dependencies.map Py.strip).Perm (q.dependencies.map Py.strip) := by
  apply perm_of_sortedDeps_eq
  have hinj : Function.Injective (List.map String.toList) :=
    List.map_injective_iff.mpr fun _ _ => String.toList_inj.mp
  rw [hp.linesOf_deps, hq.linesOf_deps] at h
  split_ifs at h with hpnil hqnil hqnil
  · rw [hpnil, hqnil]
  · exact absurd (hinj h.symm) hq.sortedDeps_ne
  · exact absurd (hinj h) hp.sortedDeps_ne
  · exact hinj h

/-- **The serialisation is injective** on plain projects. -/
theorem Plain.same (hp : Plain p) (hq : Plain q) (h : p.canonical = q.canonical) : Same p q := by
  have hlines := congrArg linesOf h
  unfold Project.canonical canonicalText at hlines
  cases hlockp : p.lockfile with
  | none =>
    cases hlockq : q.lockfile with
    | none =>
      rw [hlockp, hlockq] at hlines
      exact ⟨hp.perm_of_linesOf hq hlines, hlockp.trans hlockq.symm⟩
    | some content =>
      simp only [hlockp, hlockq, linesOf_locked] at hlines
      exact absurd (hlines ▸ List.mem_append_right _ List.mem_cons_self) hp.notMem_linesOf
  | some content =>
    cases hlockq : q.lockfile with
    | none =>
      simp only [hlockp, hlockq, linesOf_locked] at hlines
      exact absurd (hlines ▸ List.mem_append_right _ List.mem_cons_self) hq.notMem_linesOf
    | some content' =>
      simp only [hlockp, hlockq, linesOf_locked] at hlines
      obtain ⟨hdeps, hcontent⟩ :=
        Py.append_cons_inj_left hp.notMem_linesOf hq.notMem_linesOf hlines
      refine ⟨hp.perm_of_linesOf hq hdeps, ?_⟩
      rw [hlockp, hlockq, linesOf_injective hcontent]

end

example : Project.canonical { dependencies := ["a\nb"] } =
    Project.canonical { dependencies := ["b", "a"] } := by decide

/-! ## A history of builds -/

/-- The build stops when its hash is written and its key is not. -/
def StopsBetween (fates : List Fate) : Prop :=
  (∀ i < 7, fates.getD i .done = .done) ∧
    (fates.getD 7 .done = .lost ∨ (fates.getD 7 .done = .done ∧ fates.getD 8 .done = .failed))

section

variable {sha256 : String → String} {agentName env : String}

/-- What comes of a step. -/
theorem final_step (stored : Stored) (fates : List Fate) (i : ℕ) (call : BuildCall)
    (next : Build Unit) :
    (Prog.run serve (stored, fates.drop i) (step call >>= fun _ => next)).final.1 =
      match fates.getD i .done with
      | .done => (Prog.run serve (stored.apply call, fates.drop (i + 1)) next).final.1
      | .failed => stored
      | .lost => stored.apply call := by
  have hhead : (fates.drop i).headD .done = fates.getD i .done := by
    rw [List.headD_eq_head?_getD, List.head?_drop, List.getD_eq_getElem?_getD]
  have htail : (fates.drop i).tail = fates.drop (i + 1) := List.tail_drop ..
  show (Prog.run serve (serve (stored, fates.drop i) call).2 _).final.1 = _
  unfold serve
  simp only [hhead, htail]
  cases fates.getD i .done <;> rfl

/-- Steps that change nothing that is stored. -/
theorem final_quiet {stored : Stored} (fates : List Fate) {calls : List BuildCall}
    (hquiet : ∀ call ∈ calls, stored.apply call = stored) (next : Build Unit) (i : ℕ) :
    ((∀ j < calls.length, fates.getD (i + j) .done = .done) ∧
      (Prog.run serve (stored, fates.drop i)
        (calls.foldr (fun call rest => step call >>= fun _ => rest) next)).final.1 =
        (Prog.run serve (stored, fates.drop (i + calls.length)) next).final.1) ∨
    (Prog.run serve (stored, fates.drop i)
      (calls.foldr (fun call rest => step call >>= fun _ => rest) next)).final.1 = stored := by
  induction calls generalizing i with
  | nil => exact .inl ⟨fun j hj => absurd hj (Nat.not_lt_zero j), rfl⟩
  | cons call calls ih =>
    rw [List.forall_mem_cons] at hquiet
    rw [List.foldr_cons, final_step, hquiet.1]
    cases hfate : fates.getD i .done with
    | failed => exact .inr rfl
    | lost => exact .inr rfl
    | done =>
      rcases ih hquiet.2 (i + 1) with ⟨hdone, hfinal⟩ | hstays
      · refine .inl ⟨?_, ?_⟩
        · intro j hj
          cases j with
          | zero => exact hfate
          | succ j =>
            rw [List.length_cons] at hj
            have hlater := hdone j (by omega)
            rwa [Nat.add_assoc, Nat.add_comm 1 j] at hlater
        · rw [List.length_cons, Nat.add_comm calls.length 1, ← Nat.add_assoc]
          exact hfinal
      · exact .inr hstays

/-- The store with the layer of a project. -/
def Stored.withLayer (stored : Stored) (agentName depHash : String) (project : Project) : Stored :=
  stored.apply (.uploadLayerZip (layerKey agentName depHash) project)

/-- With its hash too, and with its hash and its key. -/
def Stored.withHash (stored : Stored) (agentName env depHash : String) (project : Project) : Stored :=
  (stored.withLayer agentName depHash project).apply
    (.putParameter (hashParameter env agentName) depHash)

def Stored.withKey (stored : Stored) (agentName env depHash : String) (project : Project) : Stored :=
  (stored.withHash agentName env depHash project).apply
    (.putParameter (s3KeyParameter env agentName) (layerKey agentName depHash))

theorem putLayerMetadata_eq (depHash key : String) : putLayerMetadata agentName env depHash key =
    step (.putParameter (hashParameter env agentName) depHash) >>= fun _ =>
      step (.putParameter (s3KeyParameter env agentName) key) >>= fun _ => pure () := by
  unfold putLayerMetadata
  rw [bind_pure]

variable (agentName env) in
/-- The upload, and the parameters after it. -/
theorem final_publish (stored : Stored) {fates : List Fate} (project : Project) (depHash : String)
    (hdone : ∀ i < 6, fates.getD i .done = .done) :
    let left := (Prog.run serve (stored, fates.drop 6)
      (step (.uploadLayerZip (layerKey agentName depHash) project) >>= fun _ =>
        putLayerMetadata agentName env depHash (layerKey agentName depHash))).final.1
    left = stored ∨ left = stored.withLayer agentName depHash project ∨
      (StopsBetween fates ∧ left = stored.withHash agentName env depHash project) ∨
      left = stored.withKey agentName env depHash project := by
  intro left
  have hleft : left = _ := final_step stored fates 6 _ _
  rw [hleft]
  cases hupload : fates.getD 6 .done with
  | failed => exact .inl rfl
  | lost => exact .inr (.inl rfl)
  | done =>
    have huploaded : ∀ i < 7, fates.getD i .done = .done := by
      intro i hi
      rcases Nat.lt_succ_iff_lt_or_eq.mp hi with hlt | rfl
      · exact hdone i hlt
      · exact hupload
    simp only [putLayerMetadata_eq, final_step]
    cases hhash : fates.getD 7 .done with
    | failed => exact .inr (.inl rfl)
    | lost => exact .inr (.inr (.inl ⟨⟨huploaded, .inl hhash⟩, rfl⟩))
    | done =>
      cases hkey : fates.getD 8 .done with
      | failed => exact .inr (.inr (.inl ⟨⟨huploaded, .inr ⟨hhash, hkey⟩⟩, rfl⟩))
      | lost => exact .inr (.inr (.inr rfl))
      | done => exact .inr (.inr (.inr rfl))

/-- **What a build leaves.** -/
theorem buildStep_cases (stored : Stored) (attempt : Attempt) :
    let project := attempt.project
    let depHash := project.hash sha256
    let left := (buildStep sha256 agentName env stored attempt).1
    left = stored ∨ left = stored.withLayer agentName depHash project ∨
      (StopsBetween attempt.fates ∧ left = stored.withHash agentName env depHash project) ∨
      left = stored.withKey agentName env depHash project := by
  intro project depHash left
  have hleft : left = (Prog.run serve (stored, attempt.fates.drop 0)
      (runBuild sha256 agentName env project)).final.1 := rfl
  by_cases hzip : project.deploymentType = "container"
  · rw [hleft, runBuild, if_pos hzip]
    exact .inl rfl
  let quiet : List BuildCall := [.requireAwsRegion, .buildDependencies project.dependencies,
    .verifyArm64Artifacts, .createLayerZip, .verifyArm64Zip, .resolveLayerBucket]
  let publish : Build Unit := step (.uploadLayerZip (layerKey agentName depHash) project) >>= fun _ =>
    putLayerMetadata agentName env depHash (layerKey agentName depHash)
  have hquiet : ∀ call ∈ quiet, stored.apply call = stored := by
    simp [quiet, Stored.apply]
  have hrun : left = (Prog.run serve (stored, attempt.fates.drop 0)
      (quiet.foldr (fun call rest => step call >>= fun _ => rest) publish)).final.1 := by
    rw [hleft, runBuild, if_neg hzip]
    rfl
  rcases final_quiet attempt.fates hquiet publish 0 with ⟨hdone, hfinal⟩ | hstays
  · have hfates : ∀ i < 6, attempt.fates.getD i .done = .done := by
      intro i hi
      have hfate := hdone i hi
      rwa [Nat.zero_add] at hfate
    rw [hrun, hfinal]
    exact final_publish agentName env stored project depHash hfates
  · rw [hrun]
    exact .inl hstays

theorem hashParameter_ne : hashParameter env agentName ≠ s3KeyParameter env agentName := by
  intro h
  exact absurd ((String.append_right_inj _).mp h) (by decide)

theorem truthyText_layerKey (depHash : String) :
    Py.truthyText (some (layerKey agentName depHash)) = some (layerKey agentName depHash) := by
  rw [Py.truthyText_eq_some]
  refine ⟨rfl, fun h => ?_⟩
  have htexts := congrArg String.toList h
  simp [layerKey] at htexts

variable (sha256 agentName env) in
/-- Where a hash is stored, the key is that of its layer, which was uploaded for one of the projects. -/
def Consistent (projects : Project → Prop) (stored : Stored) : Prop :=
  ∀ depHash, stored.parameters (hashParameter env agentName) = some depHash →
    stored.parameters (s3KeyParameter env agentName) = some (layerKey agentName depHash) ∧
      ∃ project, projects project ∧ project.hash sha256 = depHash ∧
        (layerKey agentName depHash, project) ∈ stored.uploads

variable (sha256 agentName env) in
/-- A build that stops between the parameters finds its own key there. -/
def KeepsKey (stored : Stored) (attempt : Attempt) : Prop :=
  StopsBetween attempt.fates → stored.parameters (s3KeyParameter env agentName) =
    some (layerKey agentName (attempt.project.hash sha256))

/-- **One build** keeps the parameters consistent. -/
theorem Consistent.buildStep {projects : Project → Prop} {stored : Stored} {attempt : Attempt}
    (h : Consistent sha256 agentName env projects stored) (hproject : projects attempt.project)
    (hkeeps : KeepsKey sha256 agentName env stored attempt) :
    Consistent sha256 agentName env projects (buildStep sha256 agentName env stored attempt).1 := by
  have hne : s3KeyParameter env agentName ≠ hashParameter env agentName := hashParameter_ne.symm
  have hmem : (layerKey agentName (attempt.project.hash sha256), attempt.project) ∈
      stored.uploads ++ [(layerKey agentName (attempt.project.hash sha256), attempt.project)] :=
    List.mem_append_right _ List.mem_cons_self
  rcases buildStep_cases stored attempt with hleft | hleft | ⟨hstops, hleft⟩ | hleft
  · rw [hleft]
    exact h
  · rw [hleft]
    intro depHash hstored
    obtain ⟨hkey, project, hp, hhash, hupload⟩ := h depHash hstored
    exact ⟨hkey, project, hp, hhash, List.mem_append_left _ hupload⟩
  · rw [hleft]
    intro depHash hstored
    obtain rfl : attempt.project.hash sha256 = depHash := by
      simpa [Stored.withHash, Stored.withLayer, Stored.apply] using hstored
    refine ⟨?_, attempt.project, hproject, rfl, hmem⟩
    show Function.update stored.parameters _ _ _ = _
    rw [Function.update_of_ne hne]
    exact hkeeps hstops
  · rw [hleft]
    intro depHash hstored
    obtain rfl : attempt.project.hash sha256 = depHash := by
      simpa [Stored.withKey, Stored.withHash, Stored.withLayer, Stored.apply,
        Function.update_of_ne hashParameter_ne] using hstored
    refine ⟨?_, attempt.project, hproject, rfl, hmem⟩
    exact Function.update_self ..

theorem hashMatches_iff {stored : Stored} {project : Project}
    (hzip : project.deploymentType ≠ "container") :
    hashMatches sha256 agentName env stored project = true ↔
      Py.truthyText (stored.parameters (hashParameter env agentName)) =
        some (project.hash sha256) := by
  unfold hashMatches
  rw [if_neg hzip]
  cases Py.truthyText (stored.parameters (hashParameter env agentName)) with
  | none => simp
  | some hash =>
    simp only [decide_eq_true_eq, Option.some.injEq]
    exact eq_comm

end

/-- **Reuse is sound** where the builds do not stop between the two parameters, and the dependencies
    are plain. -/
theorem layer_reuse_sound {sha256 : String → String} {agentName env : String}
    {attempts : List Attempt} {current : Project}
    (hcollision : ∀ attempt ∈ attempts, attempt.project.hash sha256 = current.hash sha256 →
      attempt.project.canonical = current.canonical)
    (hzip : current.deploymentType ≠ "container") (hcurrent : Plain current)
    (hplain : ∀ attempt ∈ attempts, Plain attempt.project)
    (hkeeps : ∀ m ∈ trace (buildStep sha256 agentName env) {} attempts,
      KeepsKey sha256 agentName env m.before m.event) :
    let stored := final (buildStep sha256 agentName env) {} attempts
    hashMatches sha256 agentName env stored current = true →
      ∃ key layer, depsKey agentName env stored = some key ∧ (key, layer) ∈ stored.uploads ∧
        (∃ attempt ∈ attempts, attempt.project = layer) ∧ Same layer current := by
  intro stored hmatches
  have hconsistent : Consistent sha256 agentName env
      (fun project => ∃ attempt ∈ attempts, attempt.project = project) stored := by
    have hstep (stored : Stored) (attempt : Attempt)
        (h : Consistent sha256 agentName env
          (fun project => ∃ attempt ∈ attempts, attempt.project = project) stored)
        (hattempt : attempt ∈ attempts ∧ KeepsKey sha256 agentName env stored attempt) :=
      h.buildStep ⟨attempt, hattempt.1, rfl⟩ hattempt.2
    refine inv_final hstep ?_ fun m hm => ⟨event_of_mem_trace hm, hkeeps m hm⟩
    intro depHash h
    cases h
  rw [hashMatches_iff hzip, Py.truthyText_eq_some] at hmatches
  obtain ⟨hkey, layer, ⟨attempt, hattempt, hlayer⟩, hhash, hupload⟩ := hconsistent _ hmatches.1
  refine ⟨_, layer, ?_, hupload, ⟨attempt, hattempt, hlayer⟩, ?_⟩
  · unfold depsKey
    rw [hkey, truthyText_layerKey]
  · subst hlayer
    exact (hplain attempt hattempt).same hcurrent (hcollision attempt hattempt hhash)

def echoBefore : Project := { dependencies := ["a"] }

def echoNow : Project := { dependencies := [" b"], lockfile := some "b==1" }

/-- The next build fails where it writes its hash. -/
theorem layer_reuse_sound_echo :
    let stored := final (buildStep id "echo" "dev") {}
      [⟨echoBefore, []⟩, ⟨echoNow, List.replicate 7 .done ++ [.failed]⟩]
    hashMatches id "echo" "dev" stored echoBefore = true →
      ∃ key layer, depsKey "echo" "dev" stored = some key ∧ (key, layer) ∈ stored.uploads ∧
        (∃ attempt ∈ [⟨echoBefore, []⟩, ⟨echoNow, List.replicate 7 .done ++ [.failed]⟩],
          Attempt.project attempt = layer) ∧ Same layer echoBefore := by
  have hbefore : Plain echoBefore := by unfold Plain; decide
  have hnow : Plain echoNow := by unfold Plain; decide
  have hkept (stored : Stored) (project : Project) {fates : List Fate}
      (hfates : fates.getD 7 .done ≠ .lost ∧
        (fates.getD 7 .done = .done → fates.getD 8 .done ≠ .failed)) :
      KeepsKey id "echo" "dev" stored ⟨project, fates⟩ := by
    rintro ⟨-, hlost | ⟨hdone, hfailed⟩⟩
    · exact absurd hlost hfates.1
    · exact absurd hfailed (hfates.2 hdone)
  refine layer_reuse_sound (fun _ _ h => h) (by decide) hbefore ?_ ?_
  · exact List.forall_mem_cons.mpr ⟨hbefore, List.forall_mem_singleton.mpr hnow⟩
  · rw [trace_cons, trace_cons, trace_nil]
    exact List.forall_mem_cons.mpr ⟨hkept _ _ (by decide),
      List.forall_mem_singleton.mpr (hkept _ _ (by decide))⟩

/-- A build that stops between the parameters leaves its hash with the key of the layer before. -/
theorem stopped_build_mismatch :
    let stored := final (buildStep id "echo" "dev") {}
      [⟨echoBefore, []⟩, ⟨echoNow, List.replicate 8 .done ++ [.failed]⟩]
    hashMatches id "echo" "dev" stored echoNow = true ∧
      ¬ ∃ key layer, depsKey "echo" "dev" stored = some key ∧ (key, layer) ∈ stored.uploads ∧
        Same layer echoNow := by
  refine ⟨by decide, ?_⟩
  rintro ⟨key, layer, hkey, hupload, -, hlock⟩
  have hbefore : key = layerKey "echo" "a" := by
    have hstored : depsKey "echo" "dev" (final (buildStep id "echo" "dev") {}
      [⟨echoBefore, []⟩, ⟨echoNow, List.replicate 8 .done ++ [.failed]⟩]) =
        some (layerKey "echo" "a") := by decide
    exact Option.some.inj (hkey.symm.trans hstored)
  have huploads : (final (buildStep id "echo" "dev") {}
      [⟨echoBefore, []⟩, ⟨echoNow, List.replicate 8 .done ++ [.failed]⟩]).uploads =
        [(layerKey "echo" (echoBefore.hash id), echoBefore),
          (layerKey "echo" (echoNow.hash id), echoNow)] := rfl
  rw [huploads] at hupload
  rcases List.mem_cons.mp hupload with h | h
  · cases h
    cases hlock
  · cases List.mem_singleton.mp h
    exact absurd hbefore (by decide)

end A5cCell.Scripts
