import Mathlib.Data.Rat.Defs
import Mathlib.Algebra.Order.Ring.Rat
import A5cCell.Lib.Value
import A5cCell.Lib.Runs

/-!
# SigV4 tenant binding

`sigv4_service.resolve_sigv4_tenant_binding`: which tenant a machine caller belongs to. The role
ARNs a caller may be bound by are looked up in an index of the tenants table, and the caller has a
tenant if the rows found name exactly one.

The lookup fills a cache row by row, before it is known that the rows agree, and a later call
answers from the first entry it finds. Uncached, an ambiguous caller gets no tenant; from the
cache it gets one. `bindings_sound` says when the two agree over a run of calls.
-/

namespace A5cCell.Authoriser

open Py (Val Items Dict)
open Runs

/-- The binding of a caller to a tenant. -/
structure Binding where
  tenantId : String
  appId : String
  tier : String
  deriving DecidableEq

/-- The key of a row of the tenants table. -/
structure RowKey where
  pk : String
  sk : String
  deriving DecidableEq

/-- The tenants table as the lookup reads it: the rows of `gsi-execution-role-arn` for a role ARN,
    the first page of them, which is what one query returns, and the row under a key. -/
structure Registry where
  index : String → List RowKey
  firstPage : String → List RowKey
  firstPage_prefix : ∀ arn, firstPage arn <+: index arn
  row : RowKey → Option Items

/-- The role ARN of an assumed-role session ARN, `_SIGV4_ASSUMED_ROLE_ARN_RE`, whose `\d` are the digits
    of any script. -/
def assumedRoleArn (digit : Char → Bool) (callerArn : String) : Option String :=
  let marker := "arn:aws:sts::"
  if !Py.startsWith callerArn marker then none
  else
    let rest := (Py.removePrefix callerArn marker).toList
    let accountId := String.ofList (rest.take 12)
    let resource := String.ofList (rest.drop 12)
    if accountId.toList.length ≠ 12 ∨ !accountId.toList.all digit ∨
        !Py.startsWith resource ":assumed-role/" then none
    else match Py.splitOn '/' (Py.removePrefix resource ":assumed-role/") with
      | [roleName, sessionName] =>
          if roleName = "" ∨ sessionName = "" then none
          else some ("arn:aws:iam::" ++ accountId ++ ":role/" ++ roleName)
      | _ => none

/-- `sigv4_caller_role_arns`. It is a set, so the order a loop meets its elements in is not said;
    `roleFirst` says it. -/
def sigv4CallerRoleArns (digit : Char → Bool) (callerArn : String) (roleFirst : Bool) : List String :=
  match assumedRoleArn digit callerArn with
  | none => [callerArn]
  | some roleArn => if roleFirst then [roleArn, callerArn] else [callerArn, roleArn]

/-- `normalise_tier`. -/
def normaliseTier (value : String) : String :=
  let candidate := Py.lower (Py.strip value)
  if ["basic", "standard", "premium"].contains candidate then candidate else "basic"

/-- The binding a row gives, if the row is there and names a tenant. -/
def Registry.bindingOf (registry : Registry) (key : RowKey) : Option Binding :=
  match registry.row key with
  | none => none
  | some item =>
      let tenantId := Py.strip (((item.get "tenantId").or (item.get "tenant_id")).or (.str "")).toStr
      let appId := Py.strip (((item.get "appId").or (item.get "app_id")).or (.str "")).toStr
      let tier := normaliseTier ((item.get "tier").or (.str "basic")).toStr
      if tenantId = "" then none else some ⟨tenantId, appId, tier⟩

/-- `_sigv4_binding_cache`: a binding and its expiry by role ARN. -/
abbrev Cache := Dict String (Binding × ℚ)

/-- `TENANTS_TABLE` and `_SIGV4_BINDING_CACHE_TTL_SECONDS`. -/
structure Config where
  tenantsTable : Bool
  cacheTtlSeconds : Int

/-- One call: who calls, when, the order of the candidates, and which reads raise. -/
structure SigCall where
  callerArn : String
  now : ℚ
  roleFirst : Bool
  queryFails : String → Bool
  getItemFails : RowKey → Bool

/-- The candidates of a call, in the order its loops meet them. -/
def SigCall.candidates (digit : Char → Bool) (call : SigCall) : List String :=
  sigv4CallerRoleArns digit call.callerArn call.roleFirst

/-- The first loop: the first entry that has not expired, dropping those that have on the way. -/
def cacheLookup (now : ℚ) : List String → Cache → Cache × Option Binding
  | [], cache => (cache, none)
  | arn :: arns, cache =>
      match cache.get? arn with
      | some (binding, expiry) =>
          if now < expiry then (cache, some binding) else cacheLookup now arns (cache.erase arn)
      | none => cacheLookup now arns cache

/-- What the second loop builds: the cache, and the bindings found, by tenant. -/
structure Lookup where
  cache : Cache
  found : Dict String Binding

/-- The rows of one role ARN, to the end or to the first read that raises. -/
def bindRows (config : Config) (registry : Registry) (call : SigCall) (arn : String) :
    List RowKey → Lookup → Lookup × Bool
  | [], lookup => (lookup, true)
  | key :: keys, lookup =>
      if call.getItemFails key then (lookup, false)
      else match registry.bindingOf key with
        | none => bindRows config registry call arn keys lookup
        | some binding =>
            bindRows config registry call arn keys
              { cache := lookup.cache.set arn (binding, call.now + config.cacheTtlSeconds)
                found := lookup.found.set binding.tenantId binding }

/-- The second loop. The flag is whether it ran to its end. -/
def bindRoles (config : Config) (registry : Registry) (call : SigCall) :
    List String → Lookup → Lookup × Bool
  | [], lookup => (lookup, true)
  | arn :: arns, lookup =>
      if call.queryFails arn then (lookup, false)
      else match bindRows config registry call arn (registry.firstPage arn) lookup with
        | (lookup, true) => bindRoles config registry call arns lookup
        | (lookup, false) => (lookup, false)

/-- The one binding found, if there is one. -/
def uniqueBinding (found : Dict String Binding) : Option Binding :=
  match found.items with
  | [(_, binding)] => some binding
  | _ => none

/-- `resolve_sigv4_tenant_binding`. -/
def resolveSigv4TenantBinding (digit : Char → Bool) (config : Config) (registry : Registry)
    (cache : Cache) (call : SigCall) : Cache × Option Binding :=
  if !config.tenantsTable then (cache, none)
  else match cacheLookup call.now (call.candidates digit) cache with
    | (cache, some binding) => (cache, some binding)
    | (cache, none) =>
        match bindRoles config registry call (call.candidates digit) ⟨cache, Dict.empty⟩ with
        | (lookup, true) => (lookup.cache, uniqueBinding lookup.found)
        | (lookup, false) => (lookup.cache, none)

/-! ## What the lookup finds -/

/-- The bindings a query of a role ARN shows. -/
def Registry.shown (registry : Registry) (arn : String) : List Binding :=
  (registry.firstPage arn).filterMap registry.bindingOf

/-- The bindings a role ARN has. -/
def Registry.bindings (registry : Registry) (arn : String) : List Binding :=
  (registry.index arn).filterMap registry.bindingOf

theorem Registry.shown_sub {registry : Registry} {arn : String} {binding : Binding}
    (h : binding ∈ registry.shown arn) : binding ∈ registry.bindings arn := by
  obtain ⟨key, hkey, hbinding⟩ := List.mem_filterMap.mp h
  exact List.mem_filterMap.mpr ⟨key, (registry.firstPage_prefix arn).subset hkey, hbinding⟩

/-- Bindings as the items of `matches`. -/
def byTenant (bindings : List Binding) : List (String × Binding) :=
  bindings.map fun binding => (binding.tenantId, binding)

theorem bindRows_found {config : Config} {registry : Registry} {call : SigCall} {arn : String}
    {keys : List RowKey} {lookup lookup' : Lookup}
    (h : bindRows config registry call arn keys lookup = (lookup', true)) :
    lookup'.found = lookup.found.update (byTenant (keys.filterMap registry.bindingOf)) := by
  induction keys generalizing lookup with
  | nil =>
    obtain rfl := (Prod.mk.inj h).1
    rfl
  | cons key keys ih =>
    rw [bindRows] at h
    split at h
    · exact absurd (Prod.mk.inj h).2 (by simp)
    · cases hbinding : registry.bindingOf key with
      | none =>
        simp only [hbinding] at h
        rw [ih h, List.filterMap_cons_none hbinding]
      | some binding =>
        simp only [hbinding] at h
        rw [ih h, List.filterMap_cons_some hbinding]
        rfl

/-- **A lookup that ran to its end** found every binding its candidates show. -/
theorem bindRoles_found {config : Config} {registry : Registry} {call : SigCall}
    {arns : List String} {lookup lookup' : Lookup}
    (h : bindRoles config registry call arns lookup = (lookup', true)) :
    lookup'.found = lookup.found.update (byTenant (arns.flatMap registry.shown)) := by
  induction arns generalizing lookup with
  | nil =>
    obtain rfl := (Prod.mk.inj h).1
    rfl
  | cons arn arns ih =>
    rw [bindRoles] at h
    split at h
    · exact absurd (Prod.mk.inj h).2 (by simp)
    · split at h
      · rename_i mid hrows
        rw [ih h, bindRows_found hrows, List.flatMap_cons, byTenant, byTenant, byTenant,
          List.map_append, Dict.update_append]
        rfl
      · exact absurd (Prod.mk.inj h).2 (by simp)

/-- Without failures, a lookup runs to its end. -/
theorem bindRoles_complete (config : Config) (registry : Registry) {call : SigCall}
    (hquery : ∀ arn, call.queryFails arn = false) (hget : ∀ key, call.getItemFails key = false)
    (arns : List String) (lookup : Lookup) :
    (bindRoles config registry call arns lookup).2 = true := by
  have hrows (arn : String) (keys : List RowKey) (lookup : Lookup) :
      (bindRows config registry call arn keys lookup).2 = true := by
    induction keys generalizing lookup with
    | nil => rfl
    | cons key keys ih =>
      rw [bindRows, hget, if_neg (by simp)]
      split <;> exact ih _
  induction arns generalizing lookup with
  | nil => rfl
  | cons arn arns ih =>
    rw [bindRoles, hquery, if_neg (by simp)]
    cases hstep : bindRows config registry call arn (registry.firstPage arn) lookup with
    | mk mid done =>
      have hdone := hrows arn (registry.firstPage arn) lookup
      rw [hstep] at hdone
      simp only at hdone
      subst hdone
      exact ih mid

/-- Equal bindings are one binding. -/
theorem uniqueBinding_of_eq {bindings : List Binding} {binding : Binding}
    (hne : bindings ≠ []) (heq : ∀ b ∈ bindings, b = binding) :
    uniqueBinding (Dict.empty.update (byTenant bindings)) = some binding := by
  cases bindings with
  | nil => exact absurd rfl hne
  | cons first rest =>
    rw [List.forall_mem_cons] at heq
    obtain ⟨rfl, hrest⟩ := heq
    have hfirst : (Dict.empty.set first.tenantId first).items = [(first.tenantId, first)] := rfl
    have hitems := Dict.items_update_singleton hfirst (byTenant rest) (by
      intro item hitem
      obtain ⟨b, hb, rfl⟩ := List.mem_map.mp hitem
      rw [hrest b hb])
    have hstep : Dict.empty.update (byTenant (first :: rest)) =
        (Dict.empty.set first.tenantId first).update (byTenant rest) := rfl
    rw [uniqueBinding, hstep, hitems]

/-- Bindings to two tenants are none. -/
theorem uniqueBinding_of_ne {bindings : List Binding} {b b' : Binding} (hb : b ∈ bindings)
    (hb' : b' ∈ bindings) (hne : b.tenantId ≠ b'.tenantId) :
    uniqueBinding (Dict.empty.update (byTenant bindings)) = none := by
  have hkey {c : Binding} (hc : c ∈ bindings) :
      ∃ v, (c.tenantId, v) ∈ (Dict.empty.update (byTenant bindings)).items := by
    obtain ⟨v, hv⟩ := Option.isSome_iff_exists.mp (Dict.isSome_get?_update Dict.empty
      (List.mem_map_of_mem (f := fun b : Binding => (b.tenantId, b)) hc))
    exact ⟨v, (Dict.mem_iff _).mpr hv⟩
  obtain ⟨v, hv⟩ := hkey hb
  obtain ⟨v', hv'⟩ := hkey hb'
  rw [uniqueBinding]
  split
  · rename_i tenant only hitems
    rw [hitems, List.mem_singleton] at hv hv'
    exact absurd ((Prod.mk.inj hv).1.trans (Prod.mk.inj hv').1.symm) hne
  · rfl

/-! ## The cache over a run -/

/-- Every entry of the cache is a binding that a row of its role ARN gives. -/
def CacheOfRows (registry : Registry) (cache : Cache) : Prop :=
  ∀ arn binding expiry, cache.get? arn = some (binding, expiry) → binding ∈ registry.shown arn

theorem CacheOfRows.erase {registry : Registry} {cache : Cache} (h : CacheOfRows registry cache)
    (arn : String) : CacheOfRows registry (cache.erase arn) := by
  intro arn' binding expiry hget
  rw [Dict.get?_erase] at hget
  split at hget
  · exact absurd hget (by simp)
  · exact h arn' binding expiry hget

theorem CacheOfRows.cacheLookup {registry : Registry} {cache : Cache}
    (h : CacheOfRows registry cache) (now : ℚ) (arns : List String) :
    CacheOfRows registry (cacheLookup now arns cache).1 := by
  induction arns generalizing cache with
  | nil => exact h
  | cons arn arns ih =>
    rw [Authoriser.cacheLookup]
    split
    · split
      · exact h
      · exact ih (h.erase arn)
    · exact ih h

theorem CacheOfRows.bindRows (config : Config) {registry : Registry} (call : SigCall)
    {arn : String} {keys : List RowKey} {lookup : Lookup} (h : CacheOfRows registry lookup.cache)
    (hkeys : ∀ key ∈ keys, key ∈ registry.firstPage arn) :
    CacheOfRows registry (bindRows config registry call arn keys lookup).1.cache := by
  induction keys generalizing lookup with
  | nil => exact h
  | cons key keys ih =>
    rw [List.forall_mem_cons] at hkeys
    rw [Authoriser.bindRows]
    split
    · exact h
    · split
      · exact ih h hkeys.2
      · rename_i binding hbinding
        refine ih ?_ hkeys.2
        intro arn' binding' expiry hget
        simp only [Dict.get?_set] at hget
        split at hget
        · rename_i heq
          simp only [Option.some.injEq, Prod.mk.injEq] at hget
          obtain ⟨rfl, -⟩ := hget
          rw [heq]
          exact List.mem_filterMap.mpr ⟨key, hkeys.1, hbinding⟩
        · exact h arn' binding' expiry hget

theorem CacheOfRows.bindRoles (config : Config) {registry : Registry} (call : SigCall)
    (arns : List String) {lookup : Lookup} (h : CacheOfRows registry lookup.cache) :
    CacheOfRows registry (bindRoles config registry call arns lookup).1.cache := by
  induction arns generalizing lookup with
  | nil => exact h
  | cons arn arns ih =>
    have hrows := h.bindRows config call fun key (hkey : key ∈ registry.firstPage arn) => hkey
    rw [Authoriser.bindRoles]
    split
    · exact h
    · split <;> rename_i heq <;> rw [heq] at hrows
      · exact ih hrows
      · exact hrows

variable {digit : Char → Bool}

/-- **One call** keeps the cache, whoever calls and whatever fails. -/
theorem resolve_cacheOfRows {config : Config} {registry : Registry} {cache : Cache}
    (h : CacheOfRows registry cache) (call : SigCall) :
    CacheOfRows registry (resolveSigv4TenantBinding digit config registry cache call).1 := by
  rw [resolveSigv4TenantBinding]
  split
  · exact h
  · have hlookup := h.cacheLookup call.now (call.candidates digit)
    split <;> rename_i heq <;> rw [heq] at hlookup
    · exact hlookup
    · have hroles : CacheOfRows registry
          (bindRoles config registry call (call.candidates digit) ⟨_, Dict.empty⟩).1.cache :=
        .bindRoles config call (call.candidates digit) hlookup
      split <;> rename_i hstep <;> rw [hstep] at hroles <;> exact hroles

/-- A hit is an unexpired entry of one of the candidates. -/
theorem cacheLookup_hit {now : ℚ} {arns : List String} {cache : Cache} {binding : Binding}
    (h : (cacheLookup now arns cache).2 = some binding) :
    ∃ arn ∈ arns, ∃ expiry, cache.get? arn = some (binding, expiry) ∧ now < expiry := by
  induction arns generalizing cache with
  | nil => exact absurd h (by simp [cacheLookup])
  | cons arn arns ih =>
    rw [cacheLookup] at h
    cases hget : cache.get? arn with
    | none =>
      simp only [hget] at h
      obtain ⟨arn', hmem, expiry, hentry⟩ := ih h
      exact ⟨arn', List.mem_cons_of_mem arn hmem, expiry, hentry⟩
    | some entry =>
      obtain ⟨cached, expiry⟩ := entry
      simp only [hget] at h
      split at h
      · rename_i hlt
        obtain rfl := Option.some.inj h
        exact ⟨arn, List.mem_cons_self, expiry, hget, hlt⟩
      · obtain ⟨arn', hmem, expiry', hentry, hlt⟩ := ih h
        rw [Dict.get?_erase] at hentry
        split at hentry
        · exact absurd hentry (by simp)
        · exact ⟨arn', List.mem_cons_of_mem arn hmem, expiry', hentry, hlt⟩

/-! ## When a call is answered soundly -/

/-- A call's candidates are bound to more than one tenant. -/
def Ambiguous (digit : Char → Bool) (registry : Registry) (call : SigCall) : Prop :=
  ∃ arn ∈ call.candidates digit, ∃ arn' ∈ call.candidates digit,
    ∃ b ∈ registry.bindings arn, ∃ b' ∈ registry.bindings arn', b.tenantId ≠ b'.tenantId

/-- A call's candidates have one binding at most: every row that names a tenant gives the same
    tenant, application and tier. -/
def Consistent (digit : Char → Bool) (registry : Registry) (call : SigCall) : Prop :=
  ∀ arn ∈ call.candidates digit, ∀ arn' ∈ call.candidates digit,
    ∀ b ∈ registry.bindings arn, ∀ b' ∈ registry.bindings arn', b = b'

/-- The call is answered from the cache. -/
def ServedFromCache (digit : Char → Bool) (cache : Cache) (call : SigCall) : Prop :=
  (cacheLookup call.now (call.candidates digit) cache).2.isSome

/-- One of the call's candidates has a cache entry that has not expired. -/
def Cached (digit : Char → Bool) (cache : Cache) (call : SigCall) : Prop :=
  ∃ arn ∈ call.candidates digit, ∃ binding expiry,
    cache.get? arn = some (binding, expiry) ∧ call.now < expiry

/-- A query shows all the rows of each of the call's candidates. -/
def OnePage (digit : Char → Bool) (registry : Registry) (call : SigCall) : Prop :=
  ∀ arn ∈ call.candidates digit, registry.firstPage arn = registry.index arn

/-- What the call would be answered with nothing cached and nothing failing. -/
def uncachedAnswer (digit : Char → Bool) (config : Config) (registry : Registry) (call : SigCall) :
    Option Binding :=
  (resolveSigv4TenantBinding digit config registry Dict.empty
    { call with queryFails := fun _ => false, getItemFails := fun _ => false }).2

/-- An ambiguous caller gets no tenant, and an answer from the cache is the uncached one. -/
structure Sound (digit : Char → Bool) (config : Config) (registry : Registry)
    (m : Moment Cache SigCall (Option Binding)) : Prop where
  ambiguous : Ambiguous digit registry m.event → m.response = none
  cached : ServedFromCache digit m.before m.event →
    m.response = uncachedAnswer digit config registry m.event

/-- With nothing cached, the answer is the one binding the candidates show. -/
theorem uncachedAnswer_eq {config : Config} (htable : config.tenantsTable = true)
    (registry : Registry) (call : SigCall) :
    uncachedAnswer digit config registry call =
      uniqueBinding (Dict.empty.update (byTenant ((call.candidates digit).flatMap registry.shown))) := by
  have hempty (now : ℚ) (arns : List String) :
      cacheLookup now arns Dict.empty = (Dict.empty, none) := by
    induction arns with
    | nil => rfl
    | cons arn arns ih => rw [cacheLookup, Dict.get?_empty]; exact ih
  rw [uncachedAnswer, resolveSigv4TenantBinding, if_neg (by simp [htable])]
  simp only [hempty, SigCall.candidates]
  cases hstep : bindRoles config registry
      { call with queryFails := fun _ => false, getItemFails := fun _ => false }
      (sigv4CallerRoleArns digit call.callerArn call.roleFirst) ⟨Dict.empty, Dict.empty⟩ with
  | mk lookup done =>
    have hdone := @bindRoles_complete config registry
      { call with queryFails := fun _ => false, getItemFails := fun _ => false }
      (fun _ => rfl) (fun _ => rfl) (sigv4CallerRoleArns digit call.callerArn call.roleFirst)
      ⟨Dict.empty, Dict.empty⟩
    rw [hstep] at hdone
    simp only at hdone
    subst hdone
    simp only [bindRoles_found hstep]

/-- A call served from the cache is answered with a binding its candidates show. -/
theorem resolve_of_served {config : Config} {registry : Registry} {cache : Cache}
    (hcache : CacheOfRows registry cache) {call : SigCall} (htable : config.tenantsTable = true)
    (hserved : ServedFromCache digit cache call) :
    ∃ arn ∈ call.candidates digit, ∃ binding ∈ registry.shown arn,
      (resolveSigv4TenantBinding digit config registry cache call).2 = some binding := by
  obtain ⟨binding, hhit⟩ := Option.isSome_iff_exists.mp hserved
  obtain ⟨arn, harn, expiry, hentry, -⟩ := cacheLookup_hit hhit
  refine ⟨arn, harn, binding, hcache arn binding expiry hentry, ?_⟩
  rw [resolveSigv4TenantBinding, if_neg (by simp [htable])]
  cases hlookup : cacheLookup call.now (call.candidates digit) cache with
  | mk cache' hit =>
    rw [hlookup] at hhit
    simp only at hhit
    subst hhit
    rfl

theorem not_served_of_not_cached {cache : Cache} {call : SigCall} (h : ¬ Cached digit cache call) :
    ¬ ServedFromCache digit cache call := by
  intro hserved
  obtain ⟨binding, hhit⟩ := Option.isSome_iff_exists.mp hserved
  obtain ⟨arn, harn, expiry, hentry, hlt⟩ := cacheLookup_hit hhit
  exact h ⟨arn, harn, binding, expiry, hentry, hlt⟩

/-- A call that is looked up, with all its rows in view, finds two tenants if there are two. -/
theorem resolve_of_ambiguous {config : Config} {registry : Registry} {cache : Cache}
    {call : SigCall} (hlooked : ¬ ServedFromCache digit cache call) (hpage : OnePage digit registry call)
    (hambiguous : Ambiguous digit registry call) :
    (resolveSigv4TenantBinding digit config registry cache call).2 = none := by
  obtain ⟨arn, harn, arn', harn', b, hb, b', hb', hne⟩ := hambiguous
  have hshown {arn : String} (harn : arn ∈ call.candidates digit) {b : Binding}
      (hb : b ∈ registry.bindings arn) : b ∈ (call.candidates digit).flatMap registry.shown := by
    refine List.mem_flatMap.mpr ⟨arn, harn, ?_⟩
    rw [Registry.shown, hpage arn harn]
    exact hb
  rw [resolveSigv4TenantBinding]
  split
  · rfl
  · split
    · rename_i cache' binding hlookup
      refine absurd ?_ hlooked
      rw [ServedFromCache, hlookup]
      rfl
    · split
      · rename_i lookup hstep
        simp only [bindRoles_found hstep]
        exact uniqueBinding_of_ne (hshown harn hb) (hshown harn' hb') hne
      · rfl

theorem Consistent.not_ambiguous {registry : Registry} {call : SigCall}
    (h : Consistent digit registry call) : ¬ Ambiguous digit registry call := by
  rintro ⟨arn, harn, arn', harn', b, hb, b', hb', hne⟩
  exact hne (congrArg Binding.tenantId (h arn harn arn' harn' b hb b' hb'))

/-- A caller with one binding at most gets from the cache what the lookup would give. -/
theorem Consistent.served {config : Config} {registry : Registry} {cache : Cache}
    {call : SigCall} (h : Consistent digit registry call) (hcache : CacheOfRows registry cache)
    (hserved : ServedFromCache digit cache call) :
    (resolveSigv4TenantBinding digit config registry cache call).2 =
      uncachedAnswer digit config registry call := by
  cases htable : config.tenantsTable with
  | false => simp [uncachedAnswer, resolveSigv4TenantBinding, htable]
  | true =>
    obtain ⟨arn, harn, binding, hbinding, hanswer⟩ := resolve_of_served hcache htable hserved
    have hmem : binding ∈ (call.candidates digit).flatMap registry.shown :=
      List.mem_flatMap.mpr ⟨arn, harn, hbinding⟩
    rw [hanswer, uncachedAnswer_eq htable]
    refine (uniqueBinding_of_eq (List.ne_nil_of_mem hmem) fun b hb => ?_).symm
    obtain ⟨arn', harn', hb'⟩ := List.mem_flatMap.mp hb
    exact h arn' harn' arn harn b (Registry.shown_sub hb') binding (Registry.shown_sub hbinding)

/-- **A run of calls.** From an empty cache, if every call is by a caller with one binding at most,
    or is made with nothing cached for it and all its rows in view, then no ambiguous caller ever
    gets a tenant, and every answer from the cache is the one the lookup would give. -/
theorem bindings_sound {config : Config} {registry : Registry} {calls : List SigCall}
    (h : ∀ m ∈ trace (resolveSigv4TenantBinding digit config registry) Dict.empty calls,
      Consistent digit registry m.event ∨
        (¬ Cached digit m.before m.event ∧ OnePage digit registry m.event)) :
    ∀ m ∈ trace (resolveSigv4TenantBinding digit config registry) Dict.empty calls,
      Sound digit config registry m := by
  intro m hm
  have hstep (cache : Cache) (call : SigCall) (hinv : CacheOfRows registry cache) (_ : True) :
      CacheOfRows registry (resolveSigv4TenantBinding digit config registry cache call).1 :=
    resolve_cacheOfRows hinv call
  have hstart : CacheOfRows registry Dict.empty := fun arn binding expiry hget =>
    absurd hget (by simp)
  have hcache : CacheOfRows registry m.before :=
    inv_of_mem_trace hstep hstart (fun _ _ => trivial) m hm
  have hresponse := response_of_mem_trace hm
  rcases h m hm with hconsistent | ⟨hcached, hpage⟩
  · exact ⟨fun hambiguous => absurd hambiguous hconsistent.not_ambiguous,
      fun hserved => hresponse.trans (hconsistent.served hcache hserved)⟩
  · have hlooked := not_served_of_not_cached hcached
    exact ⟨fun hambiguous => hresponse.trans (resolve_of_ambiguous hlooked hpage hambiguous),
      fun hserved => absurd hserved hlooked⟩

/-! ## One role, two tenants -/

/-- The rows of a role: one for each of the tenants. -/
def roleRows (tenants : List String) : List RowKey :=
  tenants.map fun tenant => ⟨"TENANT#" ++ tenant, "METADATA"⟩

/-- A table in which the one role is bound to the given tenants. -/
def roleRegistry (tenants : List String) : Registry where
  index _ := roleRows tenants
  firstPage _ := roleRows tenants
  firstPage_prefix _ := List.prefix_refl _
  row key := some [("tenantId", .str (Py.removePrefix key.pk "TENANT#")), ("appId", .str "app"),
    ("tier", .str "premium")]

/-- A call by the role itself, with no read failing. -/
def roleCall (now : ℚ) : SigCall where
  callerArn := "arn:aws:iam::111122223333:role/worker"
  now := now
  roleFirst := true
  queryFails _ := false
  getItemFails _ := false

theorem consistent_roleRegistry (tenant : String) (now : ℚ) :
    Consistent Char.isDigit (roleRegistry [tenant]) (roleCall now) := by
  intro arn _ arn' _ b hb b' hb'
  have honly : (roleRegistry [tenant]).bindings arn = (roleRegistry [tenant]).bindings arn' := rfl
  have hlength : ((roleRegistry [tenant]).bindings arn').length ≤ 1 :=
    List.length_filterMap_le _ _
  rw [honly] at hb
  match hbs : (roleRegistry [tenant]).bindings arn' with
  | [] => simp [hbs] at hb
  | [only] =>
    rw [hbs, List.mem_singleton] at hb hb'
    exact hb.trans hb'.symm
  | first :: second :: rest => simp [hbs] at hlength

theorem bindings_sound_oneTenant :
    (trace (resolveSigv4TenantBinding Char.isDigit ⟨true, 60⟩ (roleRegistry ["acme"])) Dict.empty
        [roleCall 0, roleCall 1]).Forall (Sound Char.isDigit ⟨true, 60⟩ (roleRegistry ["acme"])) := by
  rw [List.forall_iff_forall_mem]
  refine bindings_sound fun m hm => Or.inl ?_
  have hevent := event_of_mem_trace hm
  simp only [List.mem_cons, List.not_mem_nil, or_false] at hevent
  rcases hevent with hcall | hcall <;> rw [hcall] <;> exact consistent_roleRegistry "acme" _

/-- The first call finds two tenants and gets none, but leaves the second of them cached, and the
    second call gets that. -/
theorem secondCall_gets_a_tenant :
    ¬ ∀ m ∈ trace (resolveSigv4TenantBinding Char.isDigit ⟨true, 60⟩ (roleRegistry ["acme", "globex"]))
        Dict.empty [roleCall 0, roleCall 1],
      Sound Char.isDigit ⟨true, 60⟩ (roleRegistry ["acme", "globex"]) m := by
  intro h
  have hsecond := h _ (List.mem_cons_of_mem _ List.mem_cons_self)
  have hambiguous : Ambiguous Char.isDigit (roleRegistry ["acme", "globex"]) (roleCall 1) := by
    refine ⟨"arn:aws:iam::111122223333:role/worker", by decide,
      "arn:aws:iam::111122223333:role/worker", by decide,
      ⟨"acme", "app", "premium"⟩, by decide, ⟨"globex", "app", "premium"⟩, by decide, by decide⟩
  have hanswer := hsecond.ambiguous hambiguous
  exact absurd hanswer (by decide +kernel)

end A5cCell.Authoriser
