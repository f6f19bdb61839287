import A5cCell.TenantApi.Writes

/-!
# Creating a tenant, many at a time

A creation reads that there is no record, has memory provisioned and a secret created, and puts its
record without a condition. That one creation at most comes to its put is due to the secret, whose name
is taken once; but what fails after the memory was provisioned leaves it behind, and a secret that was
created stays. Where nothing fails once the memory is there, one creation at most answers 201, its
record is the one that is stored, and the others leave nothing (`creation_unique_and_atomic`).
-/

namespace A5cCell.TenantApi

open Py (Val Items Dict)
open DataAccess Interleaving

/-! ## The requests -/

/-- A request to create a tenant. -/
structure CreateRequest where
  input : TenantCreateInput
  caller : CallerIdentity

def CreateRequest.program (py : Python) (request : CreateRequest) : Api Response :=
  Records.handleCreate py request.input request.caller

/-- The tenant it is to create. -/
def CreateRequest.Creates (request : CreateRequest) (tenantId : String) : Prop :=
  canonicalTenantId (.str request.input.tenantId) = .ok tenantId

/-- Where a tenant's record is stored. -/
def metadataKey (py : Python) (tenantId : String) : RowKey :=
  ⟨tenantsTableName py, tenantPk tenantId, "METADATA"⟩

/-- Where the API key of a tenant is kept. -/
def secretName (py : Python) (tenantId : String) : String :=
  Py.rstripChar '/' (secretPrefix py) ++ "/" ++ tenantId ++ "/api-key"

/-- Secrets Manager creates no secret under a name that is taken, and only a deletion frees a name. -/
structure TakesNamesOnce {τ : Type} (world : World τ) (taken : τ → String → Prop) : Prop where
  free : ∀ t kwargs name value, Items.get kwargs "Name" = .str name →
    world.service t "secretsmanager" "create_secret" kwargs = .ok value → ¬ taken t name
  takes : ∀ t kwargs name value, Items.get kwargs "Name" = .str name →
    world.service t "secretsmanager" "create_secret" kwargs = .ok value →
      taken (world.next t (.service "secretsmanager" "create_secret" kwargs)) name
  keeps : ∀ t e name, (∀ kwargs, e ≠ .service "secretsmanager" "delete_secret" kwargs) →
    taken t name → taken (world.next t e) name

/-- A secret was created. -/
def HasSecret (past : Past) : Prop :=
  ∃ kwargs value, ⟨.service "secretsmanager" "create_secret" kwargs, .ok value⟩ ∈ past

section

variable (py : Python)

/-- A call that left a resource. -/
inductive Leaves : Answered Effect Effect.Reply → Prop where
  | record (item : Items) (value : Unit) :
      Leaves ⟨.db (putRequest (tenantsTableName py) item), .ok value⟩
  | memory (kwargs : Items) (value : Val) :
      Leaves ⟨.service "memory_provisioner" "provision" kwargs, .ok value⟩
  | secret (kwargs : Items) (value : Val) :
      Leaves ⟨.service "secretsmanager" "create_secret" kwargs, .ok value⟩

/-- What the provisioner may answer: nothing, or a dictionary that can be encoded. -/
def UsableMemory (provisioned : Val) : Prop :=
  (∃ info, provisioned.or (.dict []) = .dict info) ∧
    (provisioned.or (.dict [])).allObjs py.encodes = true

/-- An answer that a creation does not get over, with its memory provisioned. A budget that is given
    is no number, or a float, which no put takes. -/
inductive Breaks (request : CreateRequest) : Answered Effect Effect.Reply → Prop where
  | memory {kwargs : Items} {provisioned : Val} (h : ¬ UsableMemory py provisioned) :
      Breaks request ⟨.service "memory_provisioner" "provision" kwargs, .ok provisioned⟩
  | budget {kwargs : Items} {provisioned : Val} (h : request.input.monthlyBudgetUsd ≠ .none) :
      Breaks request ⟨.service "memory_provisioner" "provision" kwargs, .ok provisioned⟩
  | noArn {kwargs : Items} {created : Val} {exc : Exc} (h : getItemOf created "ARN" = .error exc) :
      Breaks request ⟨.service "secretsmanager" "create_secret" kwargs, .ok created⟩
  | refused {client operation : String} {kwargs : Items} (fault : Fault)
      (h : client ≠ "memory_provisioner") :
      Breaks request ⟨.service client operation kwargs, .error fault⟩
  | notPut {item : Items} (fault : Fault) :
      Breaks request ⟨.db (putRequest (tenantsTableName py) item), .error fault⟩

/-- What a creation comes to. -/
inductive Finishes (request : CreateRequest) (past : Past) : Except Exc Response → Prop where
  | created {answer : Response} {item : Items} (status : answer.statusCode = 201)
      (put : ⟨.db (putRequest (tenantsTableName py) item), .ok ()⟩ ∈ past) :
      Finishes request past (.ok answer)
  | refused {answer : Response} (status : answer.statusCode ≠ 201)
      (clean : ∀ answered ∈ past, ¬ Leaves py answered) : Finishes request past (.ok answer)
  | raised {exc : Exc} (clean : ∀ answered ∈ past, ¬ Leaves py answered) :
      Finishes request past (.error exc)
  | broken {result : Except Exc Response} {answered : Answered Effect Effect.Reply}
      (h : Breaks py request answered) (mem : answered ∈ past) : Finishes request past result

/-- A call of a creation: it creates the tenant's secret, and puts the tenant's record once it has. -/
inductive CreateCall (tenantId : String) (past : Past) : Effect → Prop where
  | now : CreateCall tenantId past .now
  | random (source : String) : CreateCall tenantId past (.random source)
  | secret {kwargs : Items} (name : Items.get kwargs "Name" = .str (secretName py tenantId)) :
      CreateCall tenantId past (.service "secretsmanager" "create_secret" kwargs)
  | service {client operation : String} {kwargs : Items} (create : operation ≠ "create_secret")
      (delete : operation ≠ "delete_secret") :
      CreateCall tenantId past (.service client operation kwargs)
  | get (key : Items) : CreateCall tenantId past (.db (getRequest (tenantsTableName py) key))
  | put {item : Items} (key : Arg.item? (tenantsTableName py) (.val (.dict item)) =
        some (metadataKey py tenantId, attributesOf item)) (secret : HasSecret past) :
      CreateCall tenantId past (.db (putRequest (tenantsTableName py) item))

end

/-! ## The calls of a creation -/

section

variable {py : Python} {request : CreateRequest} {tenantId : String} {past : Past}

-- a program is taken apart by the rules from here on, never by running it
attribute [local irreducible] Prog.Traced

theorem HasSecret.suffix {past' : Past} (h : HasSecret past) (hpast : past <:+ past') :
    HasSecret past' := by
  obtain ⟨kwargs, value, hmem⟩ := h
  exact ⟨kwargs, value, hpast.subset hmem⟩

theorem hasSecret_created {kwargs : Items} {value : Val} :
    HasSecret (⟨.service "secretsmanager" "create_secret" kwargs, .ok value⟩ :: past) :=
  ⟨kwargs, value, List.mem_cons_self⟩

/-- What creating a secret comes to: a secret, or an answer the creation does not get over. -/
def SecretDone (py : Python) (request : CreateRequest) (past : Past) : Except Exc String → Prop
  | .ok _ => HasSecret past
  | .error _ => ∃ answered ∈ past, Breaks py request answered

theorem traced_createApiKeySecret {appId : String} :
    Prog.Traced (CreateCall py tenantId)
      (fun past' r => past <:+ past' ∧ SecretDone py request past' r) past
      (createApiKeySecret py tenantId appId) := by
  unfold createApiKeySecret
  refine traced_random (.random _) fun apiKey => ?_
  refine traced_service (.secret rfl) (fun fault _ => ?_) fun created => ?_
  · exact ⟨List.suffix_append [_, _] past, _, List.mem_cons_self, .refused fault (by decide)⟩
  refine traced_checked (fun exc hexc => ?_) fun arn _ => ?_
  · exact ⟨List.suffix_append [_, _] past, _, List.mem_cons_self, .noArn hexc⟩
  unfold attachTenantApiKeySecretPolicy
  extract_lets tenantMgmtRoleArn
  split
  · exact Prog.traced_pure.mpr ⟨List.suffix_append [_, _] past, hasSecret_created⟩
  · refine Prog.Traced.bind (Q := fun past' r => past <:+ past' ∧ HasSecret past' ∧
        ∀ exc, r = .error exc → ∃ answered ∈ past', Breaks py request answered)
      (traced_service (.service (by decide) (by decide)) (fun fault _ => ?_) fun value => ?_) ?_ ?_
    · exact ⟨List.suffix_append [_, _, _] past, hasSecret_created.suffix (List.suffix_cons _ _),
        fun _ _ => ⟨_, List.mem_cons_self, .refused fault (by decide)⟩⟩
    · refine Prog.traced_pure.mpr ⟨List.suffix_append [_, _, _] past,
        hasSecret_created.suffix (List.suffix_cons _ _), fun _ h => ?_⟩
      cases h
    · rintro past' exc ⟨hpast, -, hbroken⟩
      exact ⟨hpast, hbroken exc rfl⟩
    · rintro past' _ ⟨hpast, hhas, -⟩
      exact Prog.traced_pure.mpr ⟨hpast, hhas⟩

theorem allObjs_serializeTenant {p : Py.Obj → Bool} {item : Items}
    (h : ∀ kv ∈ item, kv.2.allObjs p = true) : (Val.dict (serializeTenant item)).allObjs p = true := by
  rw [Val.allObjs, Val.allObjsItems_iff]
  intro kv hkv
  simp only [serializeTenant, List.mem_append, List.mem_cons, List.not_mem_nil, or_false,
    List.mem_map] at hkv
  rcases hkv with (rfl | rfl | rfl | rfl | rfl | rfl | rfl | rfl | rfl | rfl) | ⟨field, -, rfl⟩
  all_goals first
    | rfl
    | exact Val.allObjs_get h _

theorem not_leaves_get {table : String} {key : Items}
    {answer : (Effect.db (getRequest table key)).Reply} :
    ¬ Leaves py ⟨.db (getRequest table key), answer⟩ := by
  intro h
  generalize hanswered : (⟨.db (getRequest table key), answer⟩ : Answered Effect Effect.Reply) =
    answered at h
  cases h with
  | record item value =>
    have hcall := congrArg Answered.call hanswered
    cases congrArg Request.operation (Effect.db.inj hcall)
  | memory kwargs value => cases congrArg Answered.call hanswered
  | secret kwargs value => cases congrArg Answered.call hanswered

theorem not_leaves_refused {client operation : String} {kwargs : Items} {fault : Fault} :
    ¬ Leaves py ⟨.service client operation kwargs, .error fault⟩ := by
  intro h
  cases h

/-- The key of a tenant's record names its row. -/
theorem key?_tenantKey (py : Python) (tenantId : String) :
    Arg.key? (tenantsTableName py) (.val (.dict (tenantKey tenantId))) =
      some (metadataKey py tenantId) := by
  have hpk : tenantPk tenantId ≠ "" := by simp [tenantPk, tenantPkPrefix]
  exact @Dynamo.key?_item (metadataKey py tenantId) hpk (by simp [metadataKey])

theorem item?_record (rest : Items) :
    Arg.item? (tenantsTableName py) (.val (.dict (tenantKey tenantId ++ rest))) =
      some (metadataKey py tenantId, attributesOf (tenantKey tenantId ++ rest)) := by
  have hpk : textOf (tenantKey tenantId ++ rest) "PK" = some (tenantPk tenantId) := rfl
  have hsk : textOf (tenantKey tenantId ++ rest) "SK" = some "METADATA" := rfl
  have hne : ¬ (tenantPk tenantId = "" ∨ "METADATA" = "") := by simp [tenantPk, tenantPkPrefix]
  simp only [Arg.item?, Val.asDict?_dict, Option.bind_some, keyOf?, hpk, hsk, if_neg hne]
  rfl

/-- What a creation does once it has the record's attributes. -/
def storeRecord (py : Python) (caller : CallerIdentity) (tenantId appId tier accountId : String)
    (memoryInfo : Val) (attributes : Items) : Api Response := do
  let memoryStoreArn ← Api.ofExcept (getAttr memoryInfo "memoryStoreArn")
  let attributes := match memoryStoreArn.strOrNone with
    | some arn => attributes ++ [("memoryStoreArn", .str arn)]
    | none => attributes
  let db ← dbForTenant tenantId caller
  Api.dynamodb (db.putItem (tenantsTableName py) attributes)
  let _ ← putEvent py "tenant.created" [
    ("tenantId", .str tenantId),
    ("appId", .str appId),
    ("tier", .str tier),
    ("accountId", .str accountId),
    ("memoryInfo", memoryInfo)]
  response py 201 (serializeTenant attributes)

/-- The record is put, whatever else it holds, as long as it can be encoded. -/
theorem traced_storeRecord {appId tier accountId : String} {kwargs rest : Items} {provisioned : Val}
    (hscope : requireTenantScopeAllowed tenantId request.caller = .ok ())
    (hmemory : ⟨.service "memory_provisioner" "provision" kwargs, .ok provisioned⟩ ∈ past)
    (hsecret : HasSecret past)
    (hrest : request.input.monthlyBudgetUsd = .none → ∀ kv ∈ rest, kv.2.allObjs py.encodes = true) :
    Prog.Traced (CreateCall py tenantId) (Finishes py request) past
      (storeRecord py request.caller tenantId appId tier accountId (provisioned.or (.dict []))
        (tenantKey tenantId ++ rest)) := by
  have hbroken (past' : Past) (hpast : past <:+ past') (result : Except Exc Response)
      (h : ¬ UsableMemory py provisioned ∨ request.input.monthlyBudgetUsd ≠ .none) :
      Finishes py request past' result := by
    rcases h with h | h
    · exact .broken (.memory h) (hpast.subset hmemory)
    · exact .broken (.budget h) (hpast.subset hmemory)
  unfold storeRecord
  refine traced_checked (fun exc hexc => ?_) fun memoryStoreArn _ => ?_
  · refine hbroken past (List.suffix_refl past) _ (.inl ?_)
    rintro ⟨⟨info, hinfo⟩, -⟩
    have hattr : getAttr (provisioned.or (.dict [])) "memoryStoreArn" =
        .ok (Items.get info "memoryStoreArn") := by
      rw [hinfo]
      rfl
    cases hattr.symm.trans hexc
  extract_lets attributes
  obtain ⟨rest', hattributes, hrest'⟩ : ∃ rest', attributes = tenantKey tenantId ++ rest' ∧
      (request.input.monthlyBudgetUsd = .none → ∀ kv ∈ rest', kv.2.allObjs py.encodes = true) := by
    cases harn : memoryStoreArn.strOrNone with
    | none => exact ⟨rest, by simp only [attributes, harn], hrest⟩
    | some arn =>
      refine ⟨rest ++ [("memoryStoreArn", .str arn)], by simp only [attributes, harn,
        List.append_assoc], fun hnone => ?_⟩
      rw [List.forall_mem_append]
      refine ⟨hrest hnone, fun kv hkv => ?_⟩
      rw [List.mem_singleton.mp hkv]
      rfl
  clear_value attributes
  subst hattributes
  refine traced_dbForTenant_allowed hscope ?_
  refine traced_putOwn rfl (.put (item?_record rest') hsecret) (fun fault _ => ?_) fun value => ?_
  · exact .broken (.notPut fault) List.mem_cons_self
  refine traced_putEvent (fun hencode _ => ?_) (.service (by decide) (by decide))
    (fun fault _ => ?_) fun _ => ?_
  · refine hbroken _ (List.suffix_cons _ _) _ (.inl ?_)
    rintro ⟨-, hmemoryInfo⟩
    simp [Val.allObjs, Val.allObjsItems, hmemoryInfo] at hencode
  · exact .broken (.refused fault (by decide)) List.mem_cons_self
  refine traced_response (fun hencode _ => ?_) ?_
  · refine hbroken _ (List.suffix_append [_, _] _) _ (.inr fun hnone => ?_)
    rw [allObjs_serializeTenant] at hencode
    · cases hencode
    · rw [List.forall_mem_append]
      exact ⟨by simp [tenantKey, Val.allObjs], hrest' hnone⟩
  · exact .created rfl (List.mem_cons_of_mem _ List.mem_cons_self)

/-- **A creation** comes to 201 with its record put, or leaves nothing, or is broken. -/
theorem finishes_program (hcreates : request.Creates tenantId) :
    Prog.Traced (CreateCall py tenantId) (Finishes py request) [] (request.program py) := by
  have hclean : ∀ answered ∈ ([] : Past), ¬ Leaves py answered := fun _ h => by cases h
  have hnow (now : Instant) : ∀ answered ∈ ([⟨.now, now⟩] : Past), ¬ Leaves py answered := by
    intro answered h hleaves
    rw [List.mem_singleton.mp h] at hleaves
    cases hleaves
  have hraise : ∀ exc, Finishes py request [] (.error exc) := fun exc => .raised hclean
  unfold CreateRequest.program Records.handleCreate
  refine traced_check hraise fun _ _ => ?_
  refine traced_check hraise fun name hname => ?_
  cases hname.symm.trans hcreates
  refine traced_check hraise fun appId _ => ?_
  refine traced_check hraise fun displayName _ => ?_
  refine traced_check hraise fun ownerEmail _ => ?_
  refine traced_check hraise fun ownerTeam _ => ?_
  refine traced_check hraise fun accountId _ => ?_
  refine traced_now .now fun now => ?_
  refine traced_check (fun _ => .raised (hnow now)) fun tier _ => ?_
  have hread (answer : Except Fault (Option Items)) : ∀ answered ∈
      ([⟨.db (getRequest (tenantsTableName py) (tenantKey tenantId)), answer⟩, ⟨.now, now⟩] : Past),
        ¬ Leaves py answered := by
    intro answered h hleaves
    rcases List.mem_cons.mp h with rfl | h
    · exact not_leaves_get hleaves
    · exact hnow now answered h hleaves
  refine traced_readTenantRecord (fun _ => .raised (hnow now)) (.get _)
    (fun fault _ => .raised (hread _)) fun hscope existing => ?_
  split
  · exact Prog.traced_pure.mpr (.refused (by decide) (hread _))
  refine traced_service (.service (by decide) (by decide)) (fun fault _ => .raised ?_)
    fun provisioned => ?_
  · intro answered h hleaves
    rcases List.mem_cons.mp h with rfl | h
    · exact not_leaves_refused hleaves
    · exact hread (.ok existing) answered h hleaves
  extract_lets memoryInfo finish
  have hfinish : finish = storeRecord py request.caller tenantId appId tier accountId memoryInfo := rfl
  rw [hfinish]
  clear hfinish finish
  refine (@traced_createApiKeySecret py request tenantId _ appId).bind (fun past exc h => ?_)
    fun past apiKeySecretArn h => ?_
  · obtain ⟨-, answered, hmem, hbreaks⟩ := h
    exact .broken hbreaks hmem
  obtain ⟨hpast, hsecret⟩ := h
  have hmemory := hpast.subset List.mem_cons_self
  extract_lets attributes
  obtain ⟨rest, hattributes, hrest⟩ : ∃ rest, attributes = tenantKey tenantId ++ rest ∧
      ∀ kv ∈ rest, kv.2.allObjs py.encodes = true := by
    refine ⟨_, rfl, ?_⟩
    simp only [List.forall_mem_cons, Val.allObjs, List.not_mem_nil, true_and, false_implies,
      implies_true]
  clear_value attributes
  subst hattributes
  split
  · exact traced_storeRecord hscope hmemory hsecret fun _ => hrest
  · rename_i budget hsome
    refine traced_checked (fun exc _ => .broken (.budget hsome) hmemory) fun value _ => ?_
    show Prog.Traced _ _ _ (storeRecord py request.caller tenantId appId tier accountId memoryInfo
      (tenantKey tenantId ++ rest ++ [("monthlyBudgetUsd", value)]))
    rw [List.append_assoc]
    exact traced_storeRecord hscope hmemory hsecret fun hnone => absurd hnone hsome

end

/-! ## Creations in any order -/

/-- The creations in a world, one call at a time. -/
abbrev CreationPool (τ : Type) : Type :=
  Pool (Tables × τ) Effect Effect.Reply Exc Response CreateRequest

abbrev CreationThread : Type := Thread Effect Effect.Reply Exc Response CreateRequest

abbrev creationStep (py : Python) {τ : Type} (world : World τ) :
    CreationPool τ → Move CreateRequest → CreationPool τ × Option (Answered Effect Effect.Reply) :=
  Interleaving.step (CreateRequest.program py) world.serve

section

variable (py : Python) (tenantId : String)

/-- It was answered 201. -/
def Created (thread : CreationThread) : Prop :=
  ∃ answer, thread.rest = .ret answer ∧ answer.statusCode = 201

/-- It is done, and was not answered 201. -/
def Refused (thread : CreationThread) : Prop :=
  (∃ answer, thread.rest = .ret answer ∧ answer.statusCode ≠ 201) ∨ ∃ exc, thread.rest = .raise exc

/-- One creation at most is answered 201, its record is the one that is stored, and one that is not
    answered 201 leaves nothing. -/
structure CreatesOnce {τ : Type} (pool : CreationPool τ) : Prop where
  unique : ∀ (i j : Nat) (thread thread' : CreationThread), pool.threads[i]? = some thread →
    pool.threads[j]? = some thread' → Created thread → Created thread' → i = j
  stored : ∀ thread ∈ pool.threads, Created thread →
    ∃ item, ⟨.db (putRequest (tenantsTableName py) item), .ok ()⟩ ∈ thread.past ∧
      pool.services.1.get? (metadataKey py tenantId) = some (attributesOf item)
  nothingLeft : ∀ thread ∈ pool.threads, Refused thread →
    ∀ answered ∈ thread.past, ¬ Leaves py answered

/-- What is asked of a call: the creation gets over the answer. -/
def GetsOver {τ : Type} (world : World τ) (request : CreateRequest) (e : Effect)
    (state : Tables × τ) : Prop :=
  ¬ Breaks py request ⟨e, (world.serve state e).1⟩

/-- It has put a record. -/
def HasPut (thread : CreationThread) : Prop :=
  ∃ item, ⟨.db (putRequest (tenantsTableName py) item), .ok ()⟩ ∈ thread.past

/-- At every moment one creation at most has created the secret, whose name is then taken; a record is
    put by that one only, and is the one that is stored; and none is broken. -/
structure Creating {τ : Type} (taken : τ → String → Prop) (pool : CreationPool τ) : Prop where
  unique : ∀ (i j : Nat) (thread thread' : CreationThread), pool.threads[i]? = some thread →
    pool.threads[j]? = some thread' → HasSecret thread.past → HasSecret thread'.past → i = j
  named : ∀ thread ∈ pool.threads, HasSecret thread.past →
    taken pool.services.2 (secretName py tenantId)
  put : ∀ thread ∈ pool.threads, HasPut py thread → HasSecret thread.past
  stored : ∀ thread ∈ pool.threads, HasPut py thread →
    ∃ item, ⟨.db (putRequest (tenantsTableName py) item), .ok ()⟩ ∈ thread.past ∧
      pool.services.1.get? (metadataKey py tenantId) = some (attributesOf item)
  unbroken : ∀ thread ∈ pool.threads, ∀ answered ∈ thread.past, ¬ Breaks py thread.request answered

end

section

variable {py : Python} {tenantId : String} {τ : Type} {world : World τ} {taken : τ → String → Prop}
  {pool : CreationPool τ}

/-- A creation that starts has called nothing. -/
theorem Creating.start (h : Creating py tenantId taken pool) (request : CreateRequest) :
    Creating py tenantId taken
      { pool with threads := pool.threads ++ [⟨request, [], request.program py⟩] } := by
  have hold (thread : CreationThread) (hthread : thread ∈ pool.threads ++ [⟨request, [],
      request.program py⟩]) : thread ∈ pool.threads ∨ thread.past = [] := by
    rcases List.mem_append.mp hthread with hold | hnew
    · exact .inl hold
    · rw [List.mem_singleton.mp hnew]
      exact .inr rfl
  have hsecret {i : Nat} {thread : CreationThread} (hi : (pool.threads ++ [⟨request, [],
      request.program py⟩])[i]? = some thread) (hhas : HasSecret thread.past) :
      pool.threads[i]? = some thread := by
    refine (getElem?_started hi).resolve_right fun hnew => ?_
    obtain ⟨kwargs, value, hmem⟩ := hhas
    rw [hnew] at hmem
    cases hmem
  constructor
  · intro i j thread thread' hi hj hthread hthread'
    exact h.unique i j thread thread' (hsecret hi hthread) (hsecret hj hthread') hthread hthread'
  · intro thread hthread hhas
    rcases hold thread hthread with hold | hempty
    · exact h.named thread hold hhas
    · obtain ⟨kwargs, value, hmem⟩ := hhas
      rw [hempty] at hmem
      cases hmem
  · intro thread hthread hput
    rcases hold thread hthread with hold | hempty
    · exact h.put thread hold hput
    · obtain ⟨item, hmem⟩ := hput
      rw [hempty] at hmem
      cases hmem
  · intro thread hthread hput
    rcases hold thread hthread with hold | hempty
    · exact h.stored thread hold hput
    · obtain ⟨item, hmem⟩ := hput
      rw [hempty] at hmem
      cases hmem
  · intro thread hthread answered hmem
    rcases hold thread hthread with hold | hempty
    · exact h.unbroken thread hold answered hmem
    · rw [hempty] at hmem
      cases hmem

section

variable {i : Nat} {thread : CreationThread} {e : Effect} {next : e.Reply → Api Response}
  (h : Creating py tenantId taken pool) (hcalls : Calls pool i thread e next)
  (hover : GetsOver py world thread.request e pool.services)

include h hcalls hover

/-- An answer that the creation gets over breaks none. -/
theorem Creating.unbroken_answered : ∀ other ∈ pool.threads.set i
    (thread.answered e next (world.serve pool.services e).1), ∀ answered ∈ other.past,
      ¬ Breaks py other.request answered := by
  intro other hother answered hmem
  rcases List.mem_or_eq_of_mem_set hother with hold | rfl
  · exact h.unbroken other hold answered hmem
  · rcases List.mem_cons.mp hmem with rfl | hmem
    · exact hover
    · exact h.unbroken thread (List.mem_of_getElem? hcalls.running) answered hmem

/-- A call that creates no secret and puts no record keeps who has, as long as the name stays taken. -/
theorem Creating.advance_quiet
    (hsecret : ∀ kwargs, e ≠ .service "secretsmanager" "create_secret" kwargs)
    (hput : ∀ item, e ≠ .db (putRequest (tenantsTableName py) item))
    (htables : (world.serve pool.services e).2.1 = pool.services.1)
    (htaken : ∀ name, taken pool.services.2 name → taken (world.serve pool.services e).2.2 name) :
    Creating py tenantId taken ⟨(world.serve pool.services e).2,
      pool.threads.set i (thread.answered e next (world.serve pool.services e).1)⟩ := by
  have hthread := List.mem_of_getElem? hcalls.running
  have hsecretBefore (hhas : HasSecret (thread.answered e next (world.serve pool.services e).1).past) :
      HasSecret thread.past := by
    obtain ⟨kwargs, value, hmem⟩ := hhas
    refine ⟨kwargs, value, (List.mem_cons.mp hmem).resolve_left fun hnew => ?_⟩
    exact hsecret kwargs (congrArg Answered.call hnew).symm
  have hputBefore (hhas : HasPut py (thread.answered e next (world.serve pool.services e).1)) :
      HasPut py thread := by
    obtain ⟨item, hmem⟩ := hhas
    refine ⟨item, (List.mem_cons.mp hmem).resolve_left fun hnew => ?_⟩
    exact hput item (congrArg Answered.call hnew).symm
  have hbefore {j : Nat} {other : CreationThread} (hj : (pool.threads.set i
      (thread.answered e next (world.serve pool.services e).1))[j]? = some other)
      (hhas : HasSecret other.past) :
      ∃ earlier, pool.threads[j]? = some earlier ∧ HasSecret earlier.past := by
    rcases getElem?_answered hj with ⟨-, hold⟩ | ⟨rfl, rfl⟩
    · exact ⟨other, hold, hhas⟩
    · exact ⟨thread, hcalls.running, hsecretBefore hhas⟩
  refine ⟨fun j k other other' hj hk hhas hhas' => ?_, fun other hother hhas => ?_,
    fun other hother hhas => ?_, fun other hother hhas => ?_, h.unbroken_answered hcalls hover⟩
  · obtain ⟨earlier, hearlier, hhad⟩ := hbefore hj hhas
    obtain ⟨earlier', hearlier', hhad'⟩ := hbefore hk hhas'
    exact h.unique j k earlier earlier' hearlier hearlier' hhad hhad'
  · rcases List.mem_or_eq_of_mem_set hother with hold | rfl
    · exact htaken _ (h.named other hold hhas)
    · exact htaken _ (h.named thread hthread (hsecretBefore hhas))
  · rcases List.mem_or_eq_of_mem_set hother with hold | rfl
    · exact h.put other hold hhas
    · exact (h.put thread hthread (hputBefore hhas)).suffix (List.suffix_cons _ _)
  · simp only [htables]
    rcases List.mem_or_eq_of_mem_set hother with hold | rfl
    · exact h.stored other hold hhas
    · obtain ⟨item, hmem, hstored⟩ := h.stored thread hthread (hputBefore hhas)
      exact ⟨item, List.mem_cons_of_mem _ hmem, hstored⟩

end

/-- The secret of the tenant is created: no other creation has. -/
theorem Creating.advance_secret {i : Nat} {thread : CreationThread} {kwargs : Items}
    {next : (Effect.service "secretsmanager" "create_secret" kwargs).Reply → Api Response}
    (h : Creating py tenantId taken pool)
    (hcalls : Calls pool i thread (.service "secretsmanager" "create_secret" kwargs) next)
    (hnames : TakesNamesOnce world taken)
    (hname : Items.get kwargs "Name" = .str (secretName py tenantId))
    (hover : GetsOver py world thread.request (.service "secretsmanager" "create_secret" kwargs)
      pool.services) :
    Creating py tenantId taken
      ⟨(world.serve pool.services (.service "secretsmanager" "create_secret" kwargs)).2,
        pool.threads.set i (thread.answered _ next
          (world.serve pool.services (.service "secretsmanager" "create_secret" kwargs)).1)⟩ := by
  obtain ⟨value, hvalue⟩ : ∃ value, world.service pool.services.2 "secretsmanager" "create_secret"
      kwargs = .ok value := by
    cases hanswer : world.service pool.services.2 "secretsmanager" "create_secret" kwargs with
    | ok value => exact ⟨value, rfl⟩
    | error fault =>
      refine absurd ?_ hover
      rw [show (world.serve pool.services (.service "secretsmanager" "create_secret" kwargs)).1 =
        .error fault from hanswer]
      exact .refused fault (by decide)
  have hthread := List.mem_of_getElem? hcalls.running
  -- the name was free, so nobody has created the secret, or put a record
  have hnone (other : CreationThread) (hother : other ∈ pool.threads) : ¬ HasSecret other.past :=
    fun hhas => hnames.free _ _ _ value hname hvalue (h.named other hother hhas)
  have honly {j : Nat} {other : CreationThread} (hj : (pool.threads.set i (thread.answered _ next
      (world.serve pool.services (.service "secretsmanager" "create_secret" kwargs)).1))[j]? =
        some other) (hhas : HasSecret other.past) : j = i := by
    rcases getElem?_answered hj with ⟨-, hold⟩ | ⟨hji, -⟩
    · exact absurd hhas (hnone other (List.mem_of_getElem? hold))
    · exact hji
  have hunput (other : CreationThread) (hother : other ∈ pool.threads.set i (thread.answered _ next
      (world.serve pool.services (.service "secretsmanager" "create_secret" kwargs)).1)) :
      ¬ HasPut py other := by
    rcases List.mem_or_eq_of_mem_set hother with hold | rfl
    · exact fun hput => hnone other hold (h.put other hold hput)
    · rintro ⟨item, hmem⟩
      refine hnone thread hthread (h.put thread hthread ⟨item, ?_⟩)
      refine (List.mem_cons.mp hmem).resolve_left fun hnew => ?_
      cases congrArg Answered.call hnew
  refine ⟨fun j k other other' hj hk hhas hhas' => ?_, fun other hother hhas => ?_,
    fun other hother hput => absurd hput (hunput other hother),
    fun other hother hput => absurd hput (hunput other hother), h.unbroken_answered hcalls hover⟩
  · rw [honly hj hhas, honly hk hhas']
  · exact hnames.takes _ _ _ value hname hvalue

/-- A record is put by the creation that has created the secret, and is stored then. -/
theorem Creating.advance_put {i : Nat} {thread : CreationThread} {item : Items}
    {next : (Effect.db (putRequest (tenantsTableName py) item)).Reply → Api Response}
    (h : Creating py tenantId taken pool)
    (hcalls : Calls pool i thread (.db (putRequest (tenantsTableName py) item)) next)
    (hnames : TakesNamesOnce world taken)
    (hkey : Arg.item? (tenantsTableName py) (.val (.dict item)) =
      some (metadataKey py tenantId, attributesOf item))
    (hsecret : HasSecret thread.past)
    (hover : GetsOver py world thread.request (.db (putRequest (tenantsTableName py) item))
      pool.services) :
    Creating py tenantId taken
      ⟨(world.serve pool.services (.db (putRequest (tenantsTableName py) item))).2,
        pool.threads.set i (thread.answered _ next
          (world.serve pool.services (.db (putRequest (tenantsTableName py) item))).1)⟩ := by
  rcases serve_put world pool.services (tenantsTableName py) item with
    ⟨-, fault, hfault⟩ | ⟨key, attributes, hitem, hwrite, hanswer⟩
  · refine absurd ?_ hover
    rw [hfault]
    exact .notPut fault
  have hthread := List.mem_of_getElem? hcalls.running
  cases hkey.symm.trans hitem
  have hold {j : Nat} {other : CreationThread} (hj : (pool.threads.set i (thread.answered _ next
      (world.serve pool.services (.db (putRequest (tenantsTableName py) item))).1))[j]? = some other)
      (hhas : HasSecret other.past) :
      ∃ earlier, pool.threads[j]? = some earlier ∧ HasSecret earlier.past := by
    rcases getElem?_answered hj with ⟨-, hold⟩ | ⟨rfl, -⟩
    · exact ⟨other, hold, hhas⟩
    · exact ⟨thread, hcalls.running, hsecret⟩
  have hkept (name : String) (htaken : taken pool.services.2 name) : taken
      (world.serve pool.services (.db (putRequest (tenantsTableName py) item))).2.2 name := by
    have hnext : (world.serve pool.services (.db (putRequest (tenantsTableName py) item))).2.2 =
        world.next pool.services.2 (.db (putRequest (tenantsTableName py) item)) := by
      rcases serve_db world pool.services (putRequest (tenantsTableName py) item) with
        ⟨fault, hserve⟩ | hserve <;> rw [hserve]
    rw [hnext]
    exact hnames.keeps _ _ _ (fun kwargs he => by cases he) htaken
  refine ⟨fun j k other other' hj hk hhas hhas' => ?_, fun other hother _ => ?_,
    fun other hother hput => ?_, fun other hother hput => ?_, h.unbroken_answered hcalls hover⟩
  · obtain ⟨earlier, hearlier, hhad⟩ := hold hj hhas
    obtain ⟨earlier', hearlier', hhad'⟩ := hold hk hhas'
    exact h.unique j k earlier earlier' hearlier hearlier' hhad hhad'
  · exact hkept _ (h.named thread hthread hsecret)
  · rcases List.mem_or_eq_of_mem_set hother with hold | rfl
    · exact h.put other hold hput
    · exact hsecret.suffix (List.suffix_cons _ _)
  · -- whoever has put has the secret, so it is the one that puts now
    have hown : other = thread.answered _ next
        (world.serve pool.services (.db (putRequest (tenantsTableName py) item))).1 := by
      obtain ⟨j, hj⟩ := List.mem_iff_getElem?.mp hother
      rcases getElem?_answered hj with ⟨hne, hearlier⟩ | ⟨-, hown⟩
      · have hhas := h.put other (List.mem_of_getElem? hearlier) hput
        exact absurd (h.unique j i other thread hearlier hcalls.running hhas hsecret) hne
      · exact hown
    refine ⟨item, ?_, ?_⟩
    · rw [hown, Thread.answered, hanswer]
      exact List.mem_cons_self
    · simp only [hwrite]
      exact Dict.get?_set_self _ _ _

/-- **One call** of a creation, whose answer it gets over. -/
theorem Creating.advance {i : Nat} {thread : CreationThread} {e : Effect}
    {next : e.Reply → Api Response} (h : Creating py tenantId taken pool)
    (hnames : TakesNamesOnce world taken) (hcalls : Calls pool i thread e next)
    (hcall : CreateCall py tenantId thread.past e)
    (hover : GetsOver py world thread.request e pool.services) :
    Creating py tenantId taken ⟨(world.serve pool.services e).2,
      pool.threads.set i (thread.answered e next (world.serve pool.services e).1)⟩ := by
  cases hcall with
  | now =>
    exact h.advance_quiet hcalls hover (fun _ he => by cases he) (fun _ he => by cases he) rfl
      fun name => hnames.keeps _ _ name fun _ he => by cases he
  | random source =>
    exact h.advance_quiet hcalls hover (fun _ he => by cases he) (fun _ he => by cases he) rfl
      fun name => hnames.keeps _ _ name fun _ he => by cases he
  | secret hname => exact h.advance_secret hcalls hnames hname hover
  | service hcreate hdelete =>
    refine h.advance_quiet hcalls hover (fun _ he => ?_) (fun _ he => by cases he) rfl
      fun name => hnames.keeps _ _ name fun _ he => ?_
    · cases he
      exact hcreate rfl
    · cases he
      exact hdelete rfl
  | get key =>
    refine h.advance_quiet hcalls hover (fun _ he => by cases he) (fun item he => ?_)
      (serve_get world _ _ key) fun name htaken => ?_
    · cases congrArg Request.operation (Effect.db.inj he)
    · have hkept := hnames.keeps pool.services.2 (.db (getRequest (tenantsTableName py) key)) name
        (fun _ he => by cases he) htaken
      rcases serve_db world pool.services (getRequest (tenantsTableName py) key) with
        ⟨fault, hserve⟩ | hserve <;> rw [hserve] <;> exact hkept
  | put hkey hsecret => exact h.advance_put hcalls hnames hkey hsecret hover

/-- What is done is as it should be. -/
theorem Creating.createsOnce (h : Creating py tenantId taken pool)
    (hpool : WellTraced (fun _ => CreateCall py tenantId) (fun request => Finishes py request) pool) :
    CreatesOnce py tenantId pool := by
  have hput (thread : CreationThread) (hthread : thread ∈ pool.threads) (hcreated : Created thread) :
      HasPut py thread := by
    obtain ⟨answer, hrest, hstatus⟩ := hcreated
    have hfinishes := hpool thread hthread
    rw [hrest, Prog.traced_ret] at hfinishes
    cases hfinishes with
    | created _ hmem => exact ⟨_, hmem⟩
    | refused hne => exact absurd hstatus hne
    | broken hbreaks hmem => exact absurd hbreaks (h.unbroken thread hthread _ hmem)
  constructor
  · intro i j thread thread' hi hj hcreated hcreated'
    have hthread := List.mem_of_getElem? hi
    have hthread' := List.mem_of_getElem? hj
    exact h.unique i j thread thread' hi hj (h.put thread hthread (hput thread hthread hcreated))
      (h.put thread' hthread' (hput thread' hthread' hcreated'))
  · exact fun thread hthread hcreated => h.stored thread hthread (hput thread hthread hcreated)
  · intro thread hthread hrefused
    have hfinishes := hpool thread hthread
    rcases hrefused with ⟨answer, hrest, hstatus⟩ | ⟨exc, hrest⟩
    · rw [hrest, Prog.traced_ret] at hfinishes
      cases hfinishes with
      | created hcreated _ => exact absurd hcreated hstatus
      | refused _ hclean => exact hclean
      | broken hbreaks hmem => exact absurd hbreaks (h.unbroken thread hthread _ hmem)
    · rw [hrest, Prog.traced_raise] at hfinishes
      cases hfinishes with
      | raised hclean => exact hclean
      | broken hbreaks hmem => exact absurd hbreaks (h.unbroken thread hthread _ hmem)

end

/-- **Creation is unique and atomic**, in every interleaving of creations of one tenant that get over
    what they are answered once their memory is provisioned. -/
theorem creation_unique_and_atomic {py : Python} {tenantId : String} {τ : Type} {world : World τ}
    {taken : τ → String → Prop} (hnames : TakesNamesOnce world taken) {tables : Tables} {s : τ}
    {moves : List (Move CreateRequest)}
    (hmoves : ∀ m ∈ Runs.trace (creationStep py world) (Pool.initial (tables, s)) moves,
      Meets (fun request => request.Creates tenantId)
        (fun request _ e state => GetsOver py world request e state) m.before m.event) :
    (∀ m ∈ Runs.trace (creationStep py world) (Pool.initial (tables, s)) moves,
      CreatesOnce py tenantId m.before) ∧
    CreatesOnce py tenantId (Runs.final (creationStep py world) (Pool.initial (tables, s)) moves) := by
  have hprogram : ∀ request : CreateRequest, request.Creates tenantId →
      Prog.Traced (CreateCall py tenantId) (Finishes py request) [] (request.program py) :=
    fun request hcreates => finishes_program hcreates
  have hinitial : Creating py tenantId taken (Pool.initial (tables, s) : CreationPool τ) := by
    constructor
    · intro i j thread thread' hi
      cases hi
    all_goals
      intro thread hthread
      cases hthread
  obtain ⟨hinv, htraced, hfinal⟩ := inv_of_mem_trace
    (fun pool => Creating py tenantId taken pool) hprogram
    (fun pool request _ _ hpool => hpool.start request)
    (fun pool i thread e next _ hcalls hcall hcond hpool =>
      hpool.advance hnames hcalls hcall hcond)
    (wellTraced_initial _) hinitial hmoves
  exact ⟨fun m hm => (hinv m hm).2.createsOnce (hinv m hm).1, hfinal.createsOnce htraced⟩

/-! ## A creation that is stored, and one that is not -/

/-- The name of the secret that is to be created. -/
def nameOf (kwargs : Items) : String := (Items.get kwargs "Name").toStr

/-- Services that answer, with the ARN of the secret that is created. The state is the names taken. -/
def answering : World (List String) where
  dynamo := settingRows
  fault := fun _ _ => none
  now := fun _ => 0
  random := fun _ _ => ""
  service := fun taken _ operation kwargs =>
    if operation = "create_secret" then
      if nameOf kwargs ∈ taken then .error (.clientError "ResourceExistsException")
      else .ok (.dict [("ARN", .str "arn:acme")])
    else .ok .none
  next := fun taken e => match e with
    | .service _ "create_secret" kwargs => nameOf kwargs :: taken
    | _ => taken

/-- The same, but the table takes no puts. -/
def throttled : World (List String) :=
  { answering with
    fault := fun _ request =>
      if request.operation = .putItem then
        some (.clientError "ProvisionedThroughputExceededException")
      else none }

theorem answering_takesNamesOnce : TakesNamesOnce answering fun taken name => name ∈ taken where
  free := by
    intro taken kwargs name value hname hvalue
    have hof : nameOf kwargs = name := by rw [nameOf, hname, Val.toStr]
    intro hmem
    simp [answering, hof, hmem] at hvalue
  takes := by
    intro taken kwargs name value hname _
    have hof : nameOf kwargs = name := by rw [nameOf, hname, Val.toStr]
    exact hof ▸ List.mem_cons_self
  keeps := by
    intro taken e name _ hmem
    show name ∈ answering.next taken e
    unfold answering
    simp only
    split
    · exact List.mem_cons_of_mem _ hmem
    · exact hmem

/-- A creation of the tenant `acme`. -/
def acmeCreation : CreateRequest where
  input := {
    tenantId := "acme", appId := "app", displayName := "Acme", tier := "basic"
    ownerEmail := "ops@acme", ownerTeam := "ops", accountId := "123456789012"
    monthlyBudgetUsd := .none }
  caller := platformAdmin

/-- The home account of the platform. -/
def homeAccount : Python := KnownTexts.python { environ := [("PLATFORM_ACCOUNT_ID", "123456789012")] }

section

variable {py : Python} {τ : Type} {world : World τ} {request : CreateRequest} {state : Tables × τ}

/-- A creation gets over a service that answers, where the memory and the secret are usable and there is
    no budget. -/
theorem getsOver_service {client operation : String} {kwargs : Items} {value : Val}
    (hvalue : world.service state.2 client operation kwargs = .ok value)
    (hmemory : client = "memory_provisioner" →
      UsableMemory py value ∧ request.input.monthlyBudgetUsd = .none)
    (harn : operation = "create_secret" → ∃ arn, getItemOf value "ARN" = .ok arn) :
    GetsOver py world request (.service client operation kwargs) state := by
  intro h
  have hanswer : (world.serve state (.service client operation kwargs)).1 = .ok value := hvalue
  rw [hanswer] at h
  cases h with
  | memory hunusable => exact hunusable (hmemory rfl).1
  | budget hbudget => exact hbudget (hmemory rfl).2
  | noArn hexc =>
    obtain ⟨arn, hok⟩ := harn rfl
    cases hok.symm.trans hexc

theorem getsOver_now : GetsOver py world request .now state := by
  intro h
  cases h

theorem getsOver_random {source : String} : GetsOver py world request (.random source) state := by
  intro h
  cases h

theorem getsOver_get {key : Items} :
    GetsOver py world request (.db (getRequest (tenantsTableName py) key)) state := by
  intro h
  generalize hanswered : (⟨.db (getRequest (tenantsTableName py) key), _⟩ :
    Answered Effect Effect.Reply) = answered at h
  cases h with
  | notPut fault =>
    cases congrArg Request.operation (Effect.db.inj (congrArg Answered.call hanswered))
  | _ => cases congrArg Answered.call hanswered

/-- It gets over a put that is served. -/
theorem getsOver_put {item : Items}
    (hok : (world.serve state (.db (putRequest (tenantsTableName py) item))).1 = .ok ()) :
    GetsOver py world request (.db (putRequest (tenantsTableName py) item)) state := by
  intro h
  rw [hok] at h
  cases h

end

/-- The creations before any starts. -/
def noTenants : CreationPool (List String) := Pool.initial (Dict.empty, [])

/-- A creation from its start to its answer. -/
def oneCreation : List (Move CreateRequest) :=
  [.start acmeCreation, .advance 0, .advance 0, .advance 0, .advance 0, .advance 0, .advance 0,
    .advance 0]

/-- A creation alone is unique and atomic. -/
theorem oneCreation_unique_and_atomic : CreatesOnce homeAccount "acme"
    (Runs.final (creationStep homeAccount answering) noTenants oneCreation) := by
  refine (creation_unique_and_atomic answering_takesNamesOnce ?_).2
  intro m hm
  simp only [oneCreation, Runs.trace_cons, Runs.trace_nil, List.mem_cons, List.not_mem_nil,
    or_false] at hm
  rcases hm with rfl | rfl | rfl | rfl | rfl | rfl | rfl | rfl
  · show canonicalTenantId _ = _
    rfl
  · rintro thread e next ⟨hthread, hcall⟩
    cases hthread
    cases hcall
    exact getsOver_now
  · rintro thread e next ⟨hthread, hcall⟩
    cases hthread
    cases hcall
    exact getsOver_get
  · rintro thread e next ⟨hthread, hcall⟩
    cases hthread
    cases hcall
    exact getsOver_service rfl (fun _ => ⟨⟨⟨[], rfl⟩, rfl⟩, rfl⟩) fun h => absurd h (by decide)
  · rintro thread e next ⟨hthread, hcall⟩
    cases hthread
    cases hcall
    exact getsOver_random
  · rintro thread e next ⟨hthread, hcall⟩
    cases hthread
    cases hcall
    exact getsOver_service rfl (fun h => absurd h (by decide)) fun _ => ⟨_, rfl⟩
  · rintro thread e next ⟨hthread, hcall⟩
    cases hthread
    cases hcall
    exact getsOver_put rfl
  · rintro thread e next ⟨hthread, hcall⟩
    cases hthread
    cases hcall
    exact getsOver_service rfl (fun h => absurd h (by decide)) fun h => absurd h (by decide)

/-- A creation whose put fails leaves its secret behind. -/
theorem throttled_creation_leaves_secret :
    TakesNamesOnce throttled (fun taken name => name ∈ taken) ∧
      ¬ CreatesOnce homeAccount "acme"
        (Runs.final (creationStep homeAccount throttled) noTenants oneCreation) := by
  refine ⟨⟨answering_takesNamesOnce.free, answering_takesNamesOnce.takes,
    answering_takesNamesOnce.keeps⟩, fun h => ?_⟩
  obtain ⟨thread, kwargs, value, hthread, hraised, hsecret⟩ : ∃ thread kwargs value,
      (Runs.final (creationStep homeAccount throttled) noTenants oneCreation).threads[0]? =
          some thread ∧
        thread.rest = .raise (.clientError "ProvisionedThroughputExceededException") ∧
        thread.past[1]? = some ⟨.service "secretsmanager" "create_secret" kwargs, .ok value⟩ :=
    ⟨_, _, _, rfl, rfl, rfl⟩
  exact h.nothingLeft thread (List.mem_of_getElem? hthread) (.inr ⟨_, hraised⟩) _
    (List.mem_of_getElem? hsecret) (.secret kwargs value)

end A5cCell.TenantApi
