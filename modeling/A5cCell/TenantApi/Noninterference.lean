import A5cCell.TenantApi.Scope
import A5cCell.TenantApi.World

/-!
# What one tenant's requests tell of another's rows

Two runs of the handler on one request, from tables that agree on what the caller's tenant may see:
its own partition, and the rows of no tenant. The request tells nothing of the other rows when both
runs come to the same answer through the same calls, and touches nothing of theirs when those rows
are as before.

What a request asks for is `confines_handleEvent`; the calls of a `World` keep two such runs alike
(`World.serve_agree`). The listing of tenants is where they part: one row of another tenant, or none,
is two different answers.
-/

namespace A5cCell.TenantApi

open Py (Val Items Dict)
open DataAccess

/-! ## The world of a request -/

namespace World

variable {τ : Type} (world : World τ)

/-- A run of the handler on an event. -/
def handle (py : Python) (event : Items) (state : Tables × τ) :
    Prog.Run (Tables × τ) Effect Exc Response :=
  Prog.run world.serve state (handleEvent py event)

variable {world} {t : String}

/-- Tables the tenant cannot tell apart, in one world. -/
def Alike (t : String) (state state' : Tables × τ) : Prop :=
  Table.Agree (Dynamo.Visible t) state.1 state'.1 ∧ state.2 = state'.2

/-- A call that stays is answered alike, and leaves alike what was alike. -/
theorem serve_agree {e : Effect} (he : Stays (world.dynamo.holds "KeyConditionExpression") t e)
    {state state' : Tables × τ} (h : Alike t state state') :
    (world.serve state e).1 = (world.serve state' e).1 ∧
      Alike t (world.serve state e).2 (world.serve state' e).2 := by
  obtain ⟨tables, s⟩ := state
  obtain ⟨tables', s'⟩ := state'
  obtain ⟨htables, rfl⟩ : Table.Agree (Dynamo.Visible t) tables tables' ∧ s = s' := h
  cases e with
  | now => exact ⟨rfl, htables, rfl⟩
  | random source => exact ⟨rfl, htables, rfl⟩
  | service client operation kwargs => exact ⟨rfl, htables, rfl⟩
  | db request =>
    simp only [serve]
    cases world.fault s request with
    | some fault => exact ⟨rfl, htables, rfl⟩
    | none =>
      rcases he with hconfined | hrejected
      · obtain ⟨hanswer, hagree⟩ := Dynamo.serve_agree hconfined htables
        exact ⟨hanswer, hagree, rfl⟩
      · obtain ⟨answer, hserve⟩ := Dynamo.serve_rejected world.dynamo hrejected
        simp only [hserve]
        exact ⟨trivial, htables, rfl⟩

/-- A call that stays writes no other tenant's row. -/
theorem serve_frame {e : Effect} (he : Stays (world.dynamo.holds "KeyConditionExpression") t e)
    (state : Tables × τ) :
    Table.Agree (fun key => ¬ Dynamo.Visible t key) (world.serve state e).2.1 state.1 := by
  cases e with
  | now => exact Table.Agree.refl _ _
  | random source => exact Table.Agree.refl _ _
  | service client operation kwargs => exact Table.Agree.refl _ _
  | db request =>
    simp only [serve]
    cases world.fault state.2 request with
    | some fault => exact Table.Agree.refl _ _
    | none =>
      rcases he with hconfined | hrejected
      · exact Dynamo.serve_frame hconfined state.1
      · obtain ⟨answer, hserve⟩ := Dynamo.serve_rejected world.dynamo hrejected
        simp only [hserve]
        exact Table.Agree.refl _ _

end World

/-- The request tells the tenant nothing of other tenants' rows, and writes none of them. -/
structure Noninterferent (py : Python) (t : String) (event : Items) : Prop where
  alike : ∀ (τ : Type) (world : World τ) (s : τ) (tables tables' : Tables),
    Table.Agree (Dynamo.Visible t) tables tables' →
      (world.handle py event (tables, s)).outcome = (world.handle py event (tables', s)).outcome ∧
      (world.handle py event (tables, s)).calls = (world.handle py event (tables', s)).calls ∧
      Table.Agree (Dynamo.Visible t) (world.handle py event (tables, s)).final.1
        (world.handle py event (tables', s)).final.1
  frame : ∀ (τ : Type) (world : World τ) (s : τ) (tables : Tables),
    Table.Agree (fun key => ¬ Dynamo.Visible t key) (world.handle py event (tables, s)).final.1 tables

variable {py : Python} {event : Items} {t : String} {caller : CallerIdentity}

/-- What the routes ask for decides it. -/
theorem noninterferent_of_confines
    (h : ∀ text : Dict String Arg → Items → Bool, Confines text t (handleEvent py event)) :
    Noninterferent py t event where
  alike := by
    intro τ world s tables tables' htables
    have hrun := @Prog.run_agree _ _ _ _ _ _ _ world.serve (World.Alike t)
      (fun e he state state' hstate => World.serve_agree he hstate) _
      (h (world.dynamo.holds "KeyConditionExpression")) (tables, s) (tables', s) ⟨htables, rfl⟩
    exact ⟨hrun.1, hrun.2.1, hrun.2.2.1⟩
  frame := by
    intro τ world s tables
    refine Prog.run_inv
      (I := fun state : Tables × τ => Table.Agree (fun key => ¬ Dynamo.Visible t key) state.1 tables) ?_
      (h (world.dynamo.holds "KeyConditionExpression")) (Table.Agree.refl _ _)
    intro e he state hstate
    exact (World.serve_frame he state).trans hstate

/-! ## The listing of tenants -/

/-- The handler on a request for the listing is the listing. -/
theorem handleEvent_listsAllTenants {runtime : TenantApiRuntime} {limit : Int} {startKey : Val}
    (hruntime : buildRuntime py event = .ok runtime) (hpath : runtime.path = "/v1/tenants")
    (hmethod : runtime.method = "GET")
    (hshows : ShowsTable py (tenantListInputFromEvent event) runtime.caller limit startKey) :
    handleEvent py event =
      ((some <$> listAllTenants py (tenantListInputFromEvent event) limit startKey >>= fun answer =>
        match answer with
        | some answer => pure answer
        | none => handleUnrouted py runtime event).tryExcept
          fun x => .ret (exceptionResponse x) : Api Response) := by
  obtain ⟨caller, method, path, tenantId, detailType, source⟩ := runtime
  obtain rfl : path = "/v1/tenants" := hpath
  obtain rfl : method = "GET" := hmethod
  obtain ⟨hadmin, hpage, -⟩ : ShowsTable py _ caller limit startKey := hshows
  have hlist : handleListTenants py (tenantListInputFromEvent event) caller =
      listAllTenants py (tenantListInputFromEvent event) limit startKey := by
    simp only [handleListTenants, hadmin, hpage]
    rfl
  rw [handleEvent, hruntime, ← hlist]
  rfl

/-- A row of another tenant, that the listing's filters let through. -/
def strangerRow (request : TenantListInput) : Items :=
  [("status", .str (request.statusFilter.getD "active")),
    ("tier", .str (request.tierFilter.getD "basic"))]

/-- A tenant that is neither this one nor the one a listing starts after. -/
def stranger (t : String) (start : Option RowKey) : String :=
  if (start.map (·.pk)) = some (tenantPk (t ++ "x")) then t ++ "xx" else t ++ "x"

/-- Where the stranger's record is. -/
def strangerKey (py : Python) (t : String) (start : Option RowKey) : RowKey :=
  ⟨tenantsTableName py, tenantPk (stranger t start), "METADATA"⟩

theorem strangerKey_ne (py : Python) (t : String) (start : Option RowKey) :
    start ≠ some (strangerKey py t start) := by
  intro hstart
  have hpk : start.map (·.pk) = some (tenantPk (stranger t start)) :=
    congrArg (Option.map (·.pk)) hstart
  unfold stranger at hpk
  split at hpk
  · rename_i hx
    rw [hx, Option.some.injEq] at hpk
    simp [tenantPk] at hpk
  · rename_i hx
    exact hx hpk

theorem not_visible_strangerKey (py : Python) (t : String) (start : Option RowKey) :
    ¬ Dynamo.Visible t (strangerKey py t start) := by
  have hne : stranger t start ≠ t := by
    unfold stranger
    split <;> simp
  simp [Dynamo.Visible, isForeignPk, strangerKey, tenantPk, Py.startsWith_append, hne]

/-- The stranger's record, alone in the tables. -/
def strangerTables (py : Python) (t : String) (start : Option RowKey) (request : TenantListInput) :
    Tables :=
  Dict.empty.set (strangerKey py t start) (strangerRow request)

/-- A DynamoDB whose scans come by the stranger's record last. -/
def strangerLast (py : Python) (t : String) (start : Option RowKey) : Dynamo where
  fit := fun _ => 1
  placement := fun key => if key = strangerKey py t start then 1 else 0
  holds := fun _ _ _ => false
  update := fun _ _ => .ok []

/-- The arguments of the listing's scan. -/
def listingKwargs (limit : Int) (startKey : Val) : Dict String Arg :=
  setSome "ExclusiveStartKey" (valUnlessNone startKey)
    (setSome "Limit" (some (.val (.int limit))) noKwargs)

/-- A page may start at the table's start, or after a key. -/
theorem startOf_listingKwargs {table : String} (limit : Int) {startKey : Val}
    (hstart : startKey = .none ∨ ((Arg.val startKey).key? table).isSome) :
    Dynamo.startOf table (listingKwargs limit startKey) = .ok ((Arg.val startKey).key? table) := by
  cases startKey with
  | none => rfl
  | dict key =>
    obtain ⟨start, hkey⟩ := Option.isSome_iff_exists.mp (hstart.resolve_left (by simp))
    simp [Dynamo.startOf, listingKwargs, setSome, valUnlessNone, hkey]
  | _ => exact absurd hstart (by simp [Arg.key?, Val.asDict?])

theorem limitOf_listingKwargs {limit : Int} (hlimit : 1 ≤ limit) (startKey : Val) :
    Dynamo.limitOf (listingKwargs limit startKey) = .ok (some limit.toNat) := by
  have hget : (listingKwargs limit startKey).get? "Limit" = some (.val (.int limit)) := by
    rw [listingKwargs, get?_setSome _ (by decide)]
    rfl
  simp [Dynamo.limitOf, hget, hlimit]

/-- The page of a listing that finds one row, after the start. -/
theorem list_singleton (dynamo : Dynamo) {table : String} {kwargs : Dict String Arg} {limit : Nat}
    {start : Option RowKey} (hlimit : Dynamo.limitOf kwargs = .ok (some limit)) (hpos : 1 ≤ limit)
    (hstart : Dynamo.startOf table kwargs = .ok start)
    (hfilter : kwargs.get? "FilterExpression" = none) (hfit : ∀ rows, dynamo.fit rows = 1)
    (key : RowKey) (row : Items) (htable : key.table = table)
    (hafter : ∀ first, start = some first → dynamo.scanRank first < dynamo.scanRank key) :
    ∃ page, dynamo.list dynamo.scanRank (fun _ => true) table kwargs (Dict.empty.set key row) =
      .ok page ∧ page.items = [key.row row] := by
  have hentries : Table.entries dynamo.scanRank
      (fun key _ => decide (key.table = table) && true) (Dict.empty.set key row) = [(key, row)] := by
    simp [Table.entries, Dict.set, Dict.empty, Py.setItem, htable]
  have hrows : Table.after dynamo.scanRank start [(key, row)] = [(key, row)] := by
    cases start with
    | none => rfl
    | some first => simp [Table.after, hafter first rfl]
  have hsize : min limit (max 1 (dynamo.fit [(key, row)])) = 1 := by
    rw [hfit]
    omega
  refine ⟨_, by simp only [Dynamo.list, hlimit, hstart, hentries]; rfl, ?_⟩
  rw [hrows]
  simp [Table.page, hsize, Dynamo.selects, hfilter]

/-- The page of a listing of empty tables. -/
theorem list_empty (dynamo : Dynamo) {table : String} {kwargs : Dict String Arg} {limit : Nat}
    {start : Option RowKey} (hlimit : Dynamo.limitOf kwargs = .ok (some limit))
    (hstart : Dynamo.startOf table kwargs = .ok start) :
    ∃ page, dynamo.list dynamo.scanRank (fun _ => true) table kwargs Dict.empty = .ok page ∧
      page.items = [] := by
  have hrows : Table.after dynamo.scanRank start ([] : List (RowKey × Items)) = [] := by
    cases start <;> rfl
  have hentries : Table.entries dynamo.scanRank
      (fun key _ => decide (key.table = table) && true) (Dict.empty : Tables) = [] := rfl
  refine ⟨_, by simp only [Dynamo.list, hlimit, hstart, hentries]; rfl, ?_⟩
  rw [hrows]
  simp [Table.page]

/-- The records shown of a page. -/
def shownItems : Val → List Val
  | .dict body => ((Items.get body "items").asList?).getD []
  | _ => []

/-- What the listing answers shows the records of the page it read, where they can be encoded. -/
theorem outcome_listing {dynamo : Dynamo} {tables : Tables} {request : TenantListInput}
    {limit : Int} {startKey : Val} {page : PaginatedItems} {p : Api Response}
    (hp : p = (some <$> listAllTenants py request limit startKey >>= fun answer =>
        match answer with
        | some answer => pure answer
        | none => handleUnrouted py runtime event).tryExcept fun x => .ret (exceptionResponse x))
    (hpage : dynamo.list dynamo.scanRank (fun _ => true) (tenantsTableName py)
      (listingKwargs limit startKey) tables = .ok page)
    (hencodes : Val.allObjsList py.encodes ((listedRecords request page.items).map .dict) = true) :
    ∃ answer, (Prog.run (quiet dynamo).serve (tables, ()) p).outcome = .ok answer ∧
      shownItems answer.body = (listedRecords request page.items).map .dict := by
  subst hp
  have hserve : (quiet dynamo).serve (tables, ()) (.db ⟨.scan, tenantsTableName py,
      listingKwargs limit startKey⟩) = (.ok page, (tables, ())) := by
    simp [World.serve, quiet, Dynamo.serve, hpage]
  have hrequest : controlPlaneScan (tenantsTableName py) none (some limit) startKey =
      issue ⟨.scan, tenantsTableName py, listingKwargs limit startKey⟩ := rfl
  rw [listAllTenants, hrequest]
  simp only [issue, Api.dynamodb, Prog.mapCalls, Functor.map, Bind.bind, Prog.bind, Prog.tryExcept,
    Prog.run, hserve]
  have hbody (token : Val) (htoken : token.allObjs py.encodes = true) :
      (Val.dict [("items", .list ((listedRecords request page.items).map .dict)),
        ("nextToken", token)]).allObjs py.encodes = true := by
    simp [Val.allObjs, Val.allObjsItems, hencodes, htoken]
  rw [response, if_pos (hbody _ (by cases nextStartKey page <;> rfl))]
  exact ⟨_, rfl, rfl⟩

/-- The stranger's record is shown, and can be encoded. -/
theorem listedRecords_stranger (py : Python) (t : String) (request : TenantListInput) (encodes : Py.Obj → Bool)
    (start : Option RowKey) :
    ∃ record, listedRecords request [(strangerKey py t start).row (strangerRow request)] =
      [record] ∧ Val.allObjs encodes (.dict record) = true := by
  refine ⟨serializeTenant ((strangerKey py t start).row (strangerRow request)), ?_, rfl⟩
  have hstatus : textOf (serializeTenant ((strangerKey py t start).row (strangerRow request)))
      "status" = some (request.statusFilter.getD "active") := rfl
  have htier : textOf (serializeTenant ((strangerKey py t start).row (strangerRow request)))
      "tier" = some (request.tierFilter.getD "basic") := rfl
  have hsk : textOf ((strangerKey py t start).row (strangerRow request)) "SK" = some "METADATA" := rfl
  unfold listedRecords
  cases hstatusFilter : request.statusFilter <;> cases htierFilter : request.tierFilter <;>
    simp [hsk, hstatus, htier, hstatusFilter, htierFilter]

theorem listedRecords_nil (request : TenantListInput) : listedRecords request [] = [] := by
  unfold listedRecords
  cases request.statusFilter <;> cases request.tierFilter <;> rfl

/-- A page that is read is of one row at least. -/
theorem one_le_of_listingPage {request : TenantListInput} {limit : Int} {startKey : Val}
    (h : listingPage py request = .ok (limit, startKey)) : 1 ≤ limit := by
  simp only [listingPage] at h
  by_cases hrange : request.limit.getD tenantListDefaultPageSize < 1 ∨
      tenantListMaxPageSize < request.limit.getD tenantListDefaultPageSize
  · exact absurd h (by simp [hrange])
  · have hlimit : limit = request.limit.getD tenantListDefaultPageSize := by
      rw [if_neg hrange] at h
      cases htoken : request.nextToken with
      | none =>
        rw [htoken] at h
        cases h
        rfl
      | some token =>
        rw [htoken] at h
        cases hdecode : py.decodePaginationToken token with
        | none => exact absurd h (by simp [hdecode])
        | some key =>
          simp only [hdecode] at h
          cases h
          rfl
    omega

/-- **A listing of the table tells of the other tenants.** -/
theorem not_noninterferent_of_listsAllTenants (t : String) (hlist : ListsAllTenants py event) :
    ¬ Noninterferent py t event := by
  intro hnon
  obtain ⟨runtime, limit, startKey, hruntime, hpath, hmethod, hshows⟩ := hlist
  have hevent := handleEvent_listsAllTenants hruntime hpath hmethod hshows
  obtain ⟨-, hpage, hstartKey⟩ := hshows
  have hpos := one_le_of_listingPage hpage
  let request := tenantListInputFromEvent event
  let start := (Arg.val startKey).key? (tenantsTableName py)
  let dynamo := strangerLast py t start
  have hlimit := limitOf_listingKwargs hpos startKey
  have hstart := startOf_listingKwargs limit hstartKey
  -- the listing of empty tables, and of those that hold the stranger's record
  obtain ⟨page, hlist, hitems⟩ := list_empty dynamo hlimit hstart
  obtain ⟨answer, hanswer, hshown⟩ := outcome_listing hevent hlist
    (by rw [hitems, listedRecords_nil]; rfl)
  obtain ⟨page', hlist', hitems'⟩ := list_singleton dynamo hlimit (by omega) hstart
    (by rw [listingKwargs, get?_setSome _ (by decide), get?_setSome _ (by decide)]; rfl)
    (fun _ => rfl) (strangerKey py t start) (strangerRow request) rfl (by
      intro first hfirst
      have hne : first ≠ strangerKey py t start := by
        rintro rfl
        exact strangerKey_ne py t start hfirst
      simp [dynamo, strangerLast, Dynamo.scanRank, Prod.Lex.toLex_lt_toLex, hne])
  obtain ⟨record, hrecord, hencodes⟩ :=
    listedRecords_stranger py t request py.encodes start
  obtain ⟨answer', hanswer', hshown'⟩ := outcome_listing hevent hlist' (by
    rw [hitems', hrecord]
    simpa [Val.allObjsList] using hencodes)
  have hsame := (hnon.alike Unit (quiet dynamo) () Dict.empty
    (strangerTables py t start request) (Table.Agree.set_of_not (V := Dynamo.Visible t) _
      (not_visible_strangerKey py t start) _ |>.symm)).1
  rw [World.handle, World.handle, hanswer] at hsame
  rw [hitems'] at hshown'
  have : answer = answer' := Except.ok.inj (hsame.trans hanswer')
  subst this
  rw [hshown, hitems, hrecord, listedRecords_nil] at hshown'
  exact absurd hshown' (by simp)

/-! ## Noninterference -/

/-- **Noninterference.** A request of a tenant's caller tells it nothing of the other tenants' rows,
    and writes none of them, exactly when it does not list the tenants of the whole table. -/
theorem noninterferent_iff {py : Python} {event : Items} {t : String} {caller : CallerIdentity}
    (hcaller : callerIdentity py event = .ok caller) (hc : ScopedCaller t caller)
    (hrequest : ¬ IsProvisionerEvent event) :
    Noninterferent py t event ↔ ¬ ListsAllTenants py event := by
  constructor
  · intro hnon hlist
    exact not_noninterferent_of_listsAllTenants t hlist hnon
  · intro hlist
    exact noninterferent_of_confines fun text => confines_handleEvent hcaller hc hrequest hlist

/-- A request for the listing of tenants, by a caller of `acme` with the roles. -/
def listingEvent (roles : List String) : Items :=
  [("httpMethod", .str "GET"), ("path", .str "/v1/tenants"),
    ("requestContext", .dict [("authorizer", .dict [("tenantid", .str "acme"),
      ("roles", .list (roles.map .str))])])]

/-- The caller of the request. -/
def acmeCaller (roles : List String) : CallerIdentity :=
  ⟨some "acme", none, none, none, roles, none⟩

/-- A caller without roles is shown its own record. -/
theorem listingEvent_noninterferent :
    Noninterferent (KnownTexts.python {}) "acme" (listingEvent []) := by
  have hcaller : callerIdentity (KnownTexts.python {}) (listingEvent []) = .ok (acmeCaller []) := rfl
  refine (noninterferent_iff hcaller ⟨rfl, by decide⟩ ?_).mpr ?_
  · rintro ⟨hdetailType, -⟩
    exact absurd hdetailType (by decide)
  · rintro ⟨runtime, limit, startKey, hruntime, -, -, hadmin, -⟩
    obtain ⟨hcaller, -⟩ := buildRuntime_eq_ok hruntime
    have hacme : acmeCaller [] = runtime.caller := Except.ok.inj hcaller
    rw [← hacme] at hadmin
    exact absurd hadmin (by decide)

/-- `acme`'s administrator is shown the other tenants. -/
theorem adminListing_interferes :
    callerIdentity (KnownTexts.python {}) (listingEvent ["Platform.Admin"]) =
        .ok (acmeCaller ["Platform.Admin"]) ∧
      ScopedCaller "acme" (acmeCaller ["Platform.Admin"]) ∧
      ¬ Noninterferent (KnownTexts.python {}) "acme" (listingEvent ["Platform.Admin"]) := by
  refine ⟨rfl, ⟨rfl, by decide⟩, not_noninterferent_of_listsAllTenants "acme" ?_⟩
  exact ⟨⟨acmeCaller ["Platform.Admin"], "GET", "/v1/tenants", none, none, none⟩, 50, .none, rfl, rfl,
    rfl, by decide, rfl, .inl rfl⟩

end A5cCell.TenantApi
