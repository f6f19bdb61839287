import A5cCell.TenantApi.Registration
import A5cCell.TenantApi.Writes

/-!
# Releases over runs

Administrators register versions and move them through their release states, any number of requests
at a time. Each handler reads, checks the transition and then writes, and a registration writes
without reading. Where a registration finds no row under its key, and a status is set while the row
still has the status and the approval that were read, the statuses stored for a version go along the
transitions from `built` on, what was registered stays, and what is promoted was approved
(`releases_follow_transitions`).
-/

namespace A5cCell.TenantApi

open Py (Val Items Dict)
open DataAccess Interleaving

/-! ## The requests -/

/-- A request that writes to the registry. -/
inductive RegistryRequest where
  | register (event : Items) (caller : CallerIdentity)
  | patch (event : Items) (caller : CallerIdentity) (agentName version : String)
  | promote (caller : CallerIdentity) (agentName version : String)
  | rollback (caller : CallerIdentity) (agentName version : String)

/-- Its handler. -/
def RegistryRequest.program (py : Python) : RegistryRequest → Api Response
  | .register event caller => handleRegisterAgent py event caller
  | .patch event caller agentName version => handlePatchAgentVersion py event caller agentName version
  | .promote caller agentName version => handlePromoteAgent py caller agentName version
  | .rollback caller agentName version => handleRollbackAgent py caller agentName version

/-- An item that a registration of some event puts. -/
def AnyRegistration (py : Python) (item : Items) : Prop := ∃ event, Registers py event item

section

variable {py : Python} {past : Past}

theorem RegistryCall.mono {Puts Puts' : Items → Prop} {e : Effect} (h : RegistryCall py Puts past e)
    (hputs : ∀ item, Puts item → Puts' item) : RegistryCall py Puts' past e := by
  cases h with
  | get key => exact .get key
  | put item h => exact .put item (hputs item h)
  | set h => exact .set h
  | now => exact .now
  | service client operation kwargs => exact .service client operation kwargs

/-- Every call of a request is one the registry makes. -/
theorem traced_registryRequest (request : RegistryRequest) :
    Prog.Traced (RegistryCall py (AnyRegistration py)) (fun _ _ => True) past
      (request.program py) := by
  have hraise : ∀ (exc : Exc), True := fun _ => trivial
  cases request with
  | register event caller =>
    refine traced_handleRegisterAgent.mono (fun past e h => ?_) fun _ _ => id
    exact h.mono fun item hitem => ⟨event, hitem⟩
  | patch event caller agentName version =>
    refine traced_check hraise fun _ _ => ?_
    refine traced_check hraise fun _ _ => ?_
    refine traced_check hraise fun body _ => ?_
    refine traced_check hraise fun targetStatus _ => ?_
    split
    · exact Prog.traced_raise.mpr trivial
    · exact traced_updateAgentStatus
  | promote caller agentName version => exact traced_updateAgentStatus
  | rollback caller agentName version => exact traced_updateAgentStatus

end

/-! ## What is stored of a version -/

/-- The status a row says. -/
def storedStatus (attributes : Items) : Except Exc AgentStatus :=
  AgentStatus.normalize (attributes.get "status")

/-- The fields a promotion looks at. -/
def decidingFields : List String := ["status", "approved_by", "approved_at"]

theorem isAttribute_of_deciding {field : String} (h : field ∈ decidingFields) : IsAttribute field := by
  have hall : ∀ field ∈ decidingFields, IsAttribute field := by decide
  exact hall field h

/-- What was registered is as it was. -/
def KeepsArtifact (before after : Items) : Prop :=
  ∀ field, IsAttribute field → field ∉ releaseFields → after.lookup field = before.lookup field

/-- What may become of a version: it stays, it is registered as built, or its status goes along a
    transition, or is set again, and what was registered stays. -/
inductive VersionStep : Option Items → Option Items → Prop where
  | same (version : Option Items) : VersionStep version version
  | registered {after : Items} (built : storedStatus after = .ok .built) :
      VersionStep none (some after)
  | moved {before after : Items} {current target : AgentStatus}
      (current_eq : storedStatus before = .ok current) (target_eq : storedStatus after = .ok target)
      (path : target = current ∨ current.transitions.contains target = true)
      (artifact : KeepsArtifact before after) : VersionStep (some before) (some after)

/-- The status stored for a version. -/
def statusOf? (version : Option Items) : Option AgentStatus :=
  version.bind fun attributes => (storedStatus attributes).toOption

theorem statusOf?_stored {attributes : Items} {status : AgentStatus}
    (h : storedStatus attributes = .ok status) : statusOf? (some attributes) = some status := by
  rw [statusOf?, Option.bind_some, h]
  rfl

theorem VersionStep.transition {before after : Option Items} {current target : AgentStatus}
    (h : VersionStep before after) (hbefore : statusOf? before = some current)
    (hafter : statusOf? after = some target) :
    target = current ∨ current.transitions.contains target = true := by
  cases h with
  | same => exact .inl (Option.some.inj (hafter.symm.trans hbefore))
  | registered => cases hbefore
  | moved hcurrent htarget path =>
    simp only [statusOf?, Option.bind_some, hcurrent, htarget, Except.toOption,
      Option.some.injEq] at hbefore hafter
    subst hbefore hafter
    exact path

/-- A version that is promoted was approved. -/
def Approved (attributes : Items) : Prop :=
  storedStatus attributes = .ok .promoted →
    (attributes.get "approved_by").truthy = true ∧ (attributes.get "approved_at").truthy = true

def AllApproved (py : Python) (tables : Tables) : Prop :=
  ∀ key attributes, key.table = agentsTableName py → tables.get? key = some attributes →
    Approved attributes

/-- What is asked of a write: a registration finds no row under its key, and a status is set while the
    row has the status and the approval that were read. -/
structure Undisturbed (py : Python) (past : Past) (e : Effect) (tables : Tables) : Prop where
  fresh : ∀ item key attributes, e = .db (putRequest (agentsTableName py) item) →
    Arg.item? (agentsTableName py) (.val (.dict item)) = some (key, attributes) →
      tables.get? key = none
  asRead : ∀ item updates key existing, e = .db (setRequest (agentsTableName py) item updates) →
    Arg.key? (agentsTableName py) (.val (.dict item)) = some key →
    ⟨.db (getRequest (agentsTableName py) item), .ok (some existing)⟩ ∈ past →
      ∃ attributes, tables.get? key = some attributes ∧
        ∀ field ∈ decidingFields, attributes.lookup field = existing.lookup field

section

variable {py : Python} {past : Past} {tables : Tables}

theorem undisturbed_now : Undisturbed py past .now tables := by
  constructor
  · intro item key attributes he
    cases he
  · intro item updates key existing he
    cases he

theorem undisturbed_get {key : Items} :
    Undisturbed py past (.db (getRequest (agentsTableName py) key)) tables := by
  constructor
  · intro item row attributes he
    cases congrArg Request.operation (Effect.db.inj he)
  · intro item updates row existing he
    cases congrArg Request.operation (Effect.db.inj he)

theorem undisturbed_put {item : Items}
    (hfresh : ∀ key attributes, Arg.item? (agentsTableName py) (.val (.dict item)) =
      some (key, attributes) → tables.get? key = none) :
    Undisturbed py past (.db (putRequest (agentsTableName py) item)) tables := by
  constructor
  · intro other key attributes he hkey
    rw [← putRequest_inj (Effect.db.inj he)] at hkey
    exact hfresh key attributes hkey
  · intro other updates key existing he
    cases congrArg Request.operation (Effect.db.inj he)

theorem undisturbed_set {item updates : Items}
    (hread : ∀ key existing, Arg.key? (agentsTableName py) (.val (.dict item)) = some key →
      ⟨.db (getRequest (agentsTableName py) item), .ok (some existing)⟩ ∈ past →
        ∃ attributes, tables.get? key = some attributes ∧
          ∀ field ∈ decidingFields, attributes.lookup field = existing.lookup field) :
    Undisturbed py past (.db (setRequest (agentsTableName py) item updates)) tables := by
  constructor
  · intro other key attributes he
    cases congrArg Request.operation (Effect.db.inj he)
  · intro other updates key existing he hkey hpast
    rw [← setRequest_inj (Effect.db.inj he)] at hkey hpast
    exact hread key existing hkey hpast

end

/-! ## One call -/

theorem normalize_value (status : AgentStatus) :
    AgentStatus.normalize (.str status.value) = .ok status := by
  cases status <;> rfl

theorem validateAgentStatusTransition_eq_ok {current target : AgentStatus}
    (h : validateAgentStatusTransition current target = .ok ()) :
    target = current ∨ current.transitions.contains target = true := by
  unfold validateAgentStatusTransition at h
  split at h
  · exact .inl ‹_›
  · split at h
    · exact .inr ‹_›
    · cases h

section

variable {py : Python} {past : Past} {item updates existing before after : Items}
  {current target : AgentStatus}

/-- A registration is stored as built. -/
theorem storedStatus_registered (h : AnyRegistration py item) :
    storedStatus (attributesOf item) = .ok .built := by
  obtain ⟨event, body, agentName, nowIso, hreg⟩ := h
  have hlookup : (attributesOf item).lookup "status" = some (.str AgentStatus.built.value) := by
    rw [lookup_attributesOf (by decide)]
    exact lookup_registeredBase hreg.readItem rfl
  rw [storedStatus, Items.get, hlookup, Option.getD_some, normalize_value]

theorem storedStatus_updated {caller : CallerIdentity} {evidence : ReleaseEvidence} {nowIso : String}
    (hupdates : statusUpdates py caller existing target evidence nowIso = .ok updates)
    (hwritten : ∀ field, IsAttribute field →
      after.lookup field = (before.merge updates).lookup field) :
    storedStatus after = .ok target := by
  obtain ⟨details, -, hshape⟩ := statusUpdates_eq hupdates
  have hstatus : after.lookup "status" = some (.str target.value) := by
    rw [hwritten "status" (by decide)]
    apply Items.lookup_merge_of_mem _ (statusUpdates_nodup hupdates)
    rw [hshape]
    exact List.mem_cons_self
  rw [storedStatus, Items.get, hstatus, Option.getD_some, normalize_value]

variable (h : IsStatusWrite py past item updates existing current target)
  (hread : ∀ field ∈ decidingFields, before.lookup field = existing.lookup field)
  (hwritten : ∀ field, IsAttribute field → after.lookup field = (before.merge updates).lookup field)

include h hread hwritten

/-- **A status write** of what was read moves the version along a transition. -/
theorem versionStep_of_statusWrite : VersionStep (some before) (some after) := by
  obtain ⟨caller, evidence, nowIso, hupdates⟩ := h.updates
  refine @VersionStep.moved _ _ current target ?_ ?_
    (validateAgentStatusTransition_eq_ok h.transition) ?_
  · rw [storedStatus, Items.get, hread "status" (by decide)]
    exact h.readStatus
  · exact storedStatus_updated hupdates hwritten
  · intro field hattribute hfield
    rw [hwritten field hattribute, Items.lookup_merge_of_not_mem]
    intro kv hkv hname
    exact hfield (hname ▸ statusUpdates_fields hupdates kv hkv)

/-- What a status write promotes was approved. -/
theorem approved_of_statusWrite : Approved after := by
  obtain ⟨caller, evidence, nowIso, hupdates⟩ := h.updates
  obtain ⟨details, hdetails, hshape⟩ := statusUpdates_eq hupdates
  intro hpromoted
  rw [storedStatus_updated hupdates hwritten] at hpromoted
  obtain rfl : target = .promoted := Except.ok.inj hpromoted
  -- a promotion sets no approval, so the one it read is still there
  have hkept (field : String) (hdeciding : field ∈ decidingFields) (hattribute : IsAttribute field)
      (hnot : ∀ kv ∈ updates, kv.1 ≠ field) : after.get field = existing.get field := by
    rw [Items.get, Items.get, hwritten field hattribute,
      Items.lookup_merge_of_not_mem _ hnot, hread field hdeciding]
  cases hdetails with
  | promoted score url hby hat =>
    constructor
    · rw [hkept "approved_by" (by decide) (by decide)]
      · exact hby
      · rw [hshape]
        cases score <;> cases url <;> simp
    · rw [hkept "approved_at" (by decide) (by decide)]
      · exact hat
      · rw [hshape]
        cases score <;> cases url <;> simp
  | other hne => exact absurd rfl hne

end

section

variable {py : Python} {past : Past} {e : Effect} {τ : Type} {world : World τ} {state : Tables × τ}

/-- What a call of the registry does to the versions. -/
structure KeepsReleases (py : Python) (before after : Tables) : Prop where
  steps : ∀ key, VersionStep (before.get? key) (after.get? key)
  approved : AllApproved py before → AllApproved py after

theorem KeepsReleases.refl (tables : Tables) : KeepsReleases py tables tables :=
  ⟨fun _ => .same _, id⟩

/-- Writing one version. -/
theorem KeepsReleases.set {tables : Tables} {key : RowKey} {after : Items}
    (hstep : VersionStep (tables.get? key) (some after)) (happroved : Approved after) :
    KeepsReleases py tables (tables.set key after) where
  steps := by
    intro other
    rw [Dict.get?_set]
    split
    · rename_i hother
      rw [hother]
      exact hstep
    · exact .same _
  approved := by
    intro hall other attributes htable hget
    rw [Dict.get?_set] at hget
    split at hget
    · cases hget
      exact happroved
    · exact hall other attributes htable hget

/-- **One call** of the registry, where it finds what it read. -/
theorem keepsReleases_of_call (hset : SetsAttributes world.dynamo)
    (hcall : RegistryCall py (AnyRegistration py) past e) (hcond : Undisturbed py past e state.1) :
    KeepsReleases py state.1 (world.serve state e).2.1 := by
  cases hcall with
  | get key =>
    rw [serve_get]
    exact .refl _
  | now => exact .refl _
  | service client operation kwargs => exact .refl _
  | put item hitem =>
    rcases serve_put world state (agentsTableName py) item with
      ⟨hsame, -⟩ | ⟨key, attributes, hkey, hput, -⟩
    · rw [hsame]
      exact .refl _
    · rw [hput]
      cases eq_attributesOf hkey
      have hbuilt := storedStatus_registered hitem
      refine .set ?_ ?_
      · rw [hcond.fresh item key _ rfl hkey]
        exact .registered hbuilt
      · intro hpromoted
        rw [hbuilt] at hpromoted
        cases hpromoted
  | @set item updates existing current target h =>
    rcases serve_set world state (agentsTableName py) item updates with
      ⟨hsame, -⟩ | ⟨key, updated, hkey, hupdate, hwrite, -⟩
    · rw [hsame]
      exact .refl _
    · rw [hwrite]
      obtain ⟨attributes, hget, hread⟩ := hcond.asRead item updates key existing rfl hkey h.read
      rw [hget, Option.getD_some] at hupdate
      have hwritten : ∀ field, IsAttribute field →
          (attributesOf updated).lookup field = (attributes.merge updates).lookup field := by
        intro field hattribute
        rw [lookup_attributesOf hattribute, hset _ _ _ _ _ hupdate field hattribute]
        exact Items.lookup_merge_congr _ (lookup_row hattribute key attributes)
      refine .set ?_ (approved_of_statusWrite h hread hwritten)
      rw [hget]
      exact versionStep_of_statusWrite h hread hwritten

end

/-! ## Runs -/

/-- The registry's requests in a world, one call at a time. -/
abbrev RegistryPool (τ : Type) : Type :=
  Pool (Tables × τ) Effect Effect.Reply Exc Response RegistryRequest

abbrev registryStep (py : Python) {τ : Type} (world : World τ) :
    RegistryPool τ → Move RegistryRequest → RegistryPool τ × Option (Answered Effect Effect.Reply) :=
  Interleaving.step (RegistryRequest.program py) world.serve

/-- What holds of the versions in an interleaving: at every step each version stays, is registered as
    built, or goes along a transition with what was registered; and at every moment what is promoted
    was approved. -/
structure ReleaseHistory (py : Python) {τ : Type} (world : World τ) (pool : RegistryPool τ)
    (moves : List (Move RegistryRequest)) : Prop where
  steps : ∀ m ∈ Runs.trace (registryStep py world) pool moves, ∀ key,
    VersionStep (m.before.services.1.get? key)
      ((registryStep py world m.before m.event).1.services.1.get? key)
  approved : ∀ m ∈ Runs.trace (registryStep py world) pool moves,
    AllApproved py m.before.services.1
  approvedAtEnd : AllApproved py (Runs.final (registryStep py world) pool moves).services.1

/-- Every call of the interleaving finds what its request read. -/
def AllUndisturbed (py : Python) {τ : Type} (world : World τ) (pool : RegistryPool τ)
    (moves : List (Move RegistryRequest)) : Prop :=
  ∀ m ∈ Runs.trace (registryStep py world) pool moves,
    Meets (fun _ => True) (fun _ past e (state : Tables × τ) => Undisturbed py past e state.1)
      m.before m.event

/-- **Releases follow the transitions**, in every interleaving of registrations, patches, promotions and
    rollbacks whose writes find what was read. -/
theorem releases_follow_transitions {py : Python} {τ : Type} {world : World τ}
    (hset : SetsAttributes world.dynamo) {tables : Tables} {s : τ}
    (happroved : AllApproved py tables) {moves : List (Move RegistryRequest)}
    (hmoves : AllUndisturbed py world (Pool.initial (tables, s)) moves) :
    ReleaseHistory py world (Pool.initial (tables, s)) moves := by
  have hprogram : ∀ request : RegistryRequest, True →
      Prog.Traced (RegistryCall py (AnyRegistration py)) (fun _ _ => True) []
        (request.program py) := fun request _ => traced_registryRequest request
  have hinitial : AllApproved py (Pool.initial (tables, s) : RegistryPool τ).services.1 := happroved
  obtain ⟨hinv, -, hfinal⟩ := inv_of_mem_trace
    (fun pool : RegistryPool τ => AllApproved py pool.services.1) hprogram
    (fun pool request _ _ hpool => hpool)
    (fun pool i thread e next _ _ hcall hcond hpool =>
      (keepsReleases_of_call hset hcall hcond).approved hpool)
    (wellTraced_initial _) hinitial hmoves
  refine ⟨fun m hm key => ?_, fun m hm => (hinv m hm).2, hfinal⟩
  rcases step_cases (RegistryRequest.program py) world.serve m.before m.event with
    hstep | ⟨request, _, hstep⟩ | ⟨i, thread, e, next, hmove, hcalls, hstep⟩
  · rw [registryStep, hstep]
    exact .same _
  · rw [registryStep, hstep]
    exact .same _
  · rw [registryStep, hstep]
    have hmeets := hmoves m hm
    rw [hmove] at hmeets
    exact (keepsReleases_of_call hset ((hinv m hm).1.call hcalls).1
      (hmeets thread e next hcalls)).steps key

/-! ## A version that is released, and one that is registered again -/

/-- A library that reads a registration of `helper`, and a patch that stages it. -/
def stagingTexts : Python :=
  KnownTexts.python { json := [("body", .dict (helperBody none)),
    ("staged", .dict [("status", .str "deployed_staging")])] }

/-- The version is registered, and staged. -/
def staging : List (Move RegistryRequest) :=
  [.start (.register registration platformAdmin), .advance 0, .advance 0,
    .start (.patch [("body", .str "staged")] platformAdmin "helper" "1.0.0"),
    .advance 1, .advance 1, .advance 1]

def helperKey : RowKey := ⟨agentsTableName stagingTexts, "AGENT#helper", "VERSION#1.0.0"⟩

def emptyRegistry : RegistryPool Unit := Pool.initial (Dict.empty, ())

/-- A version that is staged after its registration goes along the transitions. -/
theorem staging_follows_transitions :
    ReleaseHistory stagingTexts (quiet settingRows) emptyRegistry staging := by
  refine releases_follow_transitions settingRows_setsAttributes ?_ ?_
  · intro key attributes _ hget
    cases hget
  · intro m hm
    simp only [staging, Runs.trace_cons, Runs.trace_nil, List.mem_cons, List.not_mem_nil,
      or_false] at hm
    rcases hm with rfl | rfl | rfl | rfl | rfl | rfl | rfl
    · trivial
    · rintro thread e next ⟨hthread, hcall⟩
      cases hthread
      cases hcall
      exact undisturbed_now
    · rintro thread e next ⟨hthread, hcall⟩
      cases hthread
      cases hcall
      exact undisturbed_put fun key attributes _ => rfl
    · trivial
    · rintro thread e next ⟨hthread, hcall⟩
      cases hthread
      cases hcall
      exact undisturbed_get
    · rintro thread e next ⟨hthread, hcall⟩
      cases hthread
      cases hcall
      exact undisturbed_now
    · rintro thread e next ⟨hthread, hcall⟩
      cases hthread
      cases hcall
      refine undisturbed_set fun key existing hkey hpast => ?_
      cases hkey
      -- the row was read before the clock
      rcases List.mem_cons.mp hpast with hnow | hread
      · cases congrArg Answered.call hnow
      · cases List.mem_singleton.mp hread
        refine ⟨_, rfl, fun field hfield => ?_⟩
        exact (lookup_row (isAttribute_of_deciding hfield) helperKey _).symm

/-- A registration of a version that is staged sets it back to built. -/
theorem registered_again_leaves_transitions :
    ¬ ReleaseHistory stagingTexts (quiet settingRows) emptyRegistry
      (staging ++ [.start (.register registration platformAdmin), .advance 2, .advance 2]) := by
  intro h
  have hlast := List.mem_of_getElem? (rfl : (Runs.trace
    (registryStep stagingTexts (quiet settingRows)) emptyRegistry
      (staging ++ [.start (.register registration platformAdmin), .advance 2, .advance 2]))[9]? = some _)
  have hpath : AgentStatus.built = .deployedStaging ∨
      AgentStatus.deployedStaging.transitions.contains .built = true :=
    (h.steps _ hlast helperKey).transition rfl rfl
  revert hpath
  decide

end A5cCell.TenantApi
