import Mathlib.Data.Rat.Defs
import Mathlib.Algebra.Order.Ring.Rat
import A5cCell.Lib.Interleaving
import A5cCell.Billing.Calls
import A5cCell.TenantApi.World

/-!
# Suspensions and their events

A billing run suspends a tenant and then publishes `platform.tenant.budget_exceeded`. Whatever its calls
are answered, and whoever else uses the tables meanwhile: a suspension that DynamoDB took is followed by
its event, with no call between, and no event is published but after one; and a tenant is suspended only
where the scan of the run showed it active, and the total that the update of its summary answered is over
its budget (`suspensions_announced`). A run that is stopped between the two leaves the one suspension
without its event.
-/

namespace A5cCell.Billing

open Py (Val Items Dict)
open Civil (DateTime)
open DataAccess TenantApi Interleaving

/-- A tenant that was found over its budget. -/
structure Overspend (lib : Library) where
  tenant : BilledTenant lib
  yearMonth : String
  cost : lib.Double

section

variable (lib : Library) (settings : Settings)

/-- The call that publishes the event. -/
def Overspend.event (o : Overspend lib) : Effect :=
  .service "events" "put_events" (budgetExceededEntries lib settings o.tenant.tenantId
    o.tenant.tier.value o.tenant.budget o.cost o.yearMonth)

/-- A suspension of the tenant that DynamoDB took. -/
inductive Suspends (tenantId : String) : Answered Effect Effect.Reply → Prop where
  | taken (updatedAt : String) (row : Items) :
      Suspends tenantId ⟨.db (suspendRequest settings tenantId updatedAt), .ok row⟩

/-- Some page of the run's scan had the row. -/
def Scanned (past : Past) (row : Items) : Prop :=
  ∃ kwargs page, ⟨.db ⟨.scan, settings.tenantsTable, kwargs⟩, .ok page⟩ ∈ past ∧
    row ∈ PaginatedItems.items page

/-- What a run was answered shows the tenant active and over its budget. -/
structure Overspend.Shown (o : Overspend lib) (past : Past) : Prop where
  scanned : ∃ row, Scanned settings past row ∧ billedTenantOf lib row = .ok o.tenant
  active : o.tenant.status.asStr? = some "active"
  budgeted : lib.lt (lib.literal 0) o.tenant.budget
  exceeded : lib.lt o.tenant.budget o.cost
  added : ∃ lastUpdated day response totals,
    ⟨.db (addRequest lib settings o.tenant.tenantId o.yearMonth lastUpdated day), .ok response⟩ ∈ past ∧
      totalsOf lib response day = .ok totals ∧ totals.cost = o.cost

/-- Suspensions and events come in pairs, the event right after its suspension. -/
inductive Paired : Past → Prop where
  | nil : Paired []
  | quiet {answered : Answered Effect Effect.Reply} {past : Past} (h : Paired past)
      (suspends : ∀ tenantId, ¬ Suspends settings tenantId answered)
      (event : ∀ o : Overspend lib, answered.call ≠ o.event lib settings) : Paired (answered :: past)
  | announced {o : Overspend lib} {suspension answered : Answered Effect Effect.Reply} {past : Past}
      (h : Paired past) (shown : o.Shown lib settings past)
      (suspends : Suspends settings o.tenant.tenantId suspension)
      (event : answered.call = o.event lib settings) : Paired (answered :: suspension :: past)

/-- The last call was a suspension, and its event is still to come. -/
def Overspend.Owed (o : Overspend lib) (past : Past) : Prop :=
  ∃ suspension before, past = suspension :: before ∧ Suspends settings o.tenant.tenantId suspension ∧
    Paired lib settings before ∧ o.Shown lib settings before

/-- What a run calls next: the event it owes, or, where it owes none, anything but an event, and a
    suspension only of a tenant that is shown over its budget. -/
def NextCall (past : Past) (e : Effect) : Prop :=
  (∃ o : Overspend lib, o.Owed lib settings past ∧ e = o.event lib settings) ∨
  (Paired lib settings past ∧ (∀ o : Overspend lib, e ≠ o.event lib settings) ∧
    ∀ tenantId updatedAt, e = .db (suspendRequest settings tenantId updatedAt) →
      ∃ o : Overspend lib, o.tenant.tenantId = tenantId ∧ o.Shown lib settings past)

/-- A call that is neither a suspension nor its event. -/
structure Quiet (e : Effect) : Prop where
  suspends : ∀ tenantId updatedAt, e ≠ .db (suspendRequest settings tenantId updatedAt)
  event : ∀ o : Overspend lib, e ≠ o.event lib settings

end

variable {py : Python} {lib : Library} {settings : Settings} {past before : Past} {e : Effect}
  {o : Overspend lib}

/-! ## What is kept -/

theorem Scanned.mono {row : Items} (h : Scanned settings before row) (hpast : before <:+ past) :
    Scanned settings past row := by
  obtain ⟨kwargs, page, hmem, hrow⟩ := h
  exact ⟨kwargs, page, hpast.subset hmem, hrow⟩

/-- DynamoDB took the request. -/
def took : Answered Effect Effect.Reply → Bool
  | ⟨.db _, .ok _⟩ => true
  | _ => false

theorem Suspends.took {tenantId : String} {answered : Answered Effect Effect.Reply}
    (h : Suspends settings tenantId answered) : took answered = true := by
  cases h
  rfl

theorem Overspend.Shown.mono (h : o.Shown lib settings before) (hpast : before <:+ past) :
    o.Shown lib settings past := by
  obtain ⟨row, hrow, hbilled⟩ := h.scanned
  obtain ⟨lastUpdated, day, response, totals, hmem, htotals⟩ := h.added
  exact ⟨⟨row, hrow.mono hpast, hbilled⟩, h.active, h.budgeted, h.exceeded,
    lastUpdated, day, response, totals, hpast.subset hmem, htotals⟩

theorem Quiet.not_suspends (h : Quiet lib settings e) {answer : e.Reply} (tenantId : String) :
    ¬ Suspends settings tenantId ⟨e, answer⟩ := by
  intro hsuspends
  generalize hanswered : (⟨e, answer⟩ : Answered Effect Effect.Reply) = answered at hsuspends
  cases hsuspends with
  | taken updatedAt row => exact h.suspends tenantId updatedAt (congrArg Answered.call hanswered)

theorem Paired.quiet_call (h : Paired lib settings past) (he : Quiet lib settings e)
    (answer : e.Reply) : Paired lib settings (⟨e, answer⟩ :: past) :=
  h.quiet (fun tenantId => he.not_suspends tenantId) he.event

theorem Quiet.nextCall (he : Quiet lib settings e) (h : Paired lib settings past) :
    NextCall lib settings past e :=
  .inr ⟨h, he.event, fun tenantId updatedAt hsuspend => absurd hsuspend (he.suspends tenantId updatedAt)⟩

/-- The calls that write no record leave what was paired before, and go on after it. -/
theorem traced_quiet {α : Type} {p : Api α} {Post : α → Prop} (hp : p.Sat (Quiet lib settings) Post)
    (h : Paired lib settings past) :
    Prog.Traced (NextCall lib settings)
      (fun past' r => (Paired lib settings past' ∧ past <:+ past') ∧ ∀ a, r = .ok a → Post a)
      past p := by
  refine hp.traced ⟨h, List.suffix_refl past⟩ ?_ ?_
  · rintro past' e answer ⟨hpaired, hsuffix⟩ he
    exact ⟨hpaired.quiet_call he answer, hsuffix.trans (List.suffix_cons _ _)⟩
  · rintro past' e ⟨hpaired, -⟩ he
    exact he.nextCall hpaired

/-! ## The quiet calls -/

theorem quiet_now : Quiet lib settings .now := by
  refine ⟨fun _ _ h => ?_, fun _ h => ?_⟩
  · cases h
  · cases h

/-- A read is neither. -/
theorem quiet_read {r : Request} (h : r.operation ≠ .updateItem) : Quiet lib settings (.db r) := by
  refine ⟨fun _ _ hsuspend => ?_, fun _ hevent => ?_⟩
  · exact h (congrArg Request.operation (Effect.db.inj hsuspend))
  · cases hevent

theorem quiet_service {client operation : String} (kwargs : Items) (h : client ≠ "events") :
    Quiet lib settings (.service client operation kwargs) := by
  refine ⟨fun _ _ hdb => ?_, fun _ hevent => ?_⟩
  · cases hdb
  · cases hevent
    exact h rfl

theorem quiet_add {tenantId yearMonth lastUpdated : String} {day : DayUsage lib} :
    Quiet lib settings (.db (addRequest lib settings tenantId yearMonth lastUpdated day)) := by
  refine ⟨fun _ _ h => addRequest_ne_suspendRequest (Effect.db.inj h), fun _ hevent => ?_⟩
  cases hevent

/-! ## A run -/

/-- The rows that are collected are those of the pages. -/
theorem traced_scanPages {filter : Option Arg} (pages : Nat) (startKey : Val)
    (h : Paired lib settings past) :
    Prog.Traced (NextCall lib settings)
      (fun past' r => (Paired lib settings past' ∧ past <:+ past') ∧
        ∀ rows, r = .ok rows → ∀ row ∈ rows, Scanned settings past' row)
      past (Api.dynamodb (allPages (fun startKey => controlPlaneScan settings.tenantsTable filter none
        startKey) pages startKey)) := by
  induction pages generalizing past startKey with
  | zero =>
    refine Prog.traced_raise.mpr ⟨⟨h, List.suffix_refl past⟩, fun rows hrows => ?_⟩
    cases hrows
  | succ pages ih =>
    have hquiet (kwargs : Dict String Arg) :
        Quiet lib settings (.db ⟨.scan, settings.tenantsTable, kwargs⟩) := quiet_read (fun h => nomatch h)
    rw [allPages, Api.dynamodb, Prog.mapCalls_bind]
    refine traced_issue ((hquiet _).nextCall h) (fun fault exc => ?_) fun page => ?_
    · refine ⟨⟨h.quiet_call (hquiet _) _, List.suffix_cons _ past⟩, fun rows hrows => ?_⟩
      cases hrows
    · have hpaired := h.quiet_call (hquiet _) (.ok page)
      have hpage (row : Items) (hrow : row ∈ page.items) :
          Scanned settings (⟨.db ⟨.scan, settings.tenantsTable, _⟩, .ok page⟩ :: past) row :=
        ⟨_, page, List.mem_cons_self, hrow⟩
      split
      · refine Prog.traced_pure.mpr ⟨⟨hpaired, List.suffix_cons _ past⟩, fun rows hrows => ?_⟩
        cases hrows
        exact hpage
      · rename_i key _
        rw [Prog.mapCalls_bind]
        refine (ih (.dict key) hpaired).bind ?_ ?_
        · rintro past' exc ⟨⟨hpaired', hsuffix⟩, -⟩
          refine ⟨⟨hpaired', (List.suffix_cons _ past).trans hsuffix⟩, fun rows hrows => ?_⟩
          cases hrows
        · rintro past' items ⟨⟨hpaired', hsuffix⟩, hitems⟩
          refine Prog.traced_pure.mpr
            ⟨⟨hpaired', (List.suffix_cons _ past).trans hsuffix⟩, fun rows hrows => ?_⟩
          cases hrows
          intro row hrow
          rcases List.mem_append.mp hrow with hfirst | hrest
          · exact (hpage row hfirst).mono hsuffix
          · exact hitems items rfl row hrest

theorem traced_getActiveTenants (h : Paired lib settings past) :
    Prog.Traced (NextCall lib settings)
      (fun past' r => Paired lib settings past' ∧
        ∀ rows, r = .ok rows → ∀ row ∈ rows, Scanned settings past' row)
      past (getActiveTenants py settings) :=
  (traced_scanPages _ _ h).mono (fun _ _ => id) fun _ _ h => ⟨h.1.1, h.2⟩

/-- A day added to the summary stays in what was answered. -/
theorem traced_addToSummary {tenantId yearMonth : String} {day : DayUsage lib}
    (h : Paired lib settings past) :
    Prog.Traced (NextCall lib settings)
      (fun past' r => (Paired lib settings past' ∧ past <:+ past') ∧ ∀ totals, r = .ok totals →
        ∃ lastUpdated response, ⟨.db (addRequest lib settings tenantId yearMonth lastUpdated day),
          .ok response⟩ ∈ past' ∧ totalsOf lib response day = .ok totals)
      past (addToSummary lib settings tenantId yearMonth day) := by
  unfold addToSummary
  refine traced_now (quiet_now.nextCall h) fun now => ?_
  have hnow : Paired lib settings (⟨.now, now⟩ :: past) := h.quiet_call quiet_now now
  rw [updateItem_summary]
  refine traced_issue (quiet_add.nextCall hnow) (fun fault exc => ?_) fun response => ?_
  · refine ⟨⟨hnow.quiet_call quiet_add _, List.suffix_append [_, _] past⟩, fun _ hok => ?_⟩
    cases hok
  · refine traced_ofExcept.mpr ⟨⟨hnow.quiet_call quiet_add _, List.suffix_append [_, _] past⟩, ?_⟩
    intro totals htotals
    exact ⟨_, response, List.mem_cons_self, htotals⟩

/-- The suspension of a tenant that is shown over its budget, and its event. -/
theorem traced_suspendTenant {o : Overspend lib} (h : Paired lib settings past)
    (hshown : o.Shown lib settings past) :
    Prog.Traced (NextCall lib settings) (fun past' _ => Paired lib settings past' ∧ past <:+ past') past
      (suspendTenant lib settings o.tenant o.yearMonth o.cost) := by
  unfold suspendTenant
  refine traced_now (quiet_now.nextCall h) fun now => ?_
  have hnow : Paired lib settings (⟨.now, now⟩ :: past) := h.quiet_call quiet_now now
  have hlater := hshown.mono (List.suffix_cons ⟨.now, now⟩ past)
  extract_lets updatedAt
  rw [updateItem_suspend]
  refine traced_issue ?_ (fun fault _ => ?_) fun row => ?_
  · refine .inr ⟨hnow, fun o' h' => ?_, fun tenantId updatedAt' h' => ⟨o, ?_, hlater⟩⟩
    · cases h'
    · exact suspendRequest_inj (Effect.db.inj h')
  · refine ⟨hnow.quiet (fun tenantId htaken => ?_) fun o' h' => ?_, List.suffix_append [_, _] past⟩
    · cases htaken.took
    · cases h'
  · have hannounced (answer : (o.event lib settings).Reply) : Paired lib settings
        (⟨o.event lib settings, answer⟩ :: ⟨.db (suspendRequest settings o.tenant.tenantId _), .ok row⟩ ::
          ⟨.now, now⟩ :: past) :=
      hnow.announced hlater (.taken _ row) rfl
    refine traced_service (.inl ⟨o, ⟨_, _, rfl, .taken _ row, hnow, hlater⟩, rfl⟩)
      (fun fault _ => ?_) fun value => ?_
    · exact ⟨hannounced _, List.suffix_append [_, _, _] past⟩
    · exact Prog.traced_pure.mpr ⟨hannounced _, List.suffix_append [_, _, _] past⟩

/-- One tenant of the scan. -/
theorem traced_processTenant {dateToProcess : DateTime} {row : Items} (h : Paired lib settings past)
    (hrow : Scanned settings past row) :
    Prog.Traced (NextCall lib settings) (fun past' _ => Paired lib settings past' ∧ past <:+ past') past
      (processTenant py lib settings row dateToProcess) := by
  unfold processTenant
  refine traced_check (fun _ => ⟨h, List.suffix_refl past⟩) fun billed hbilled => ?_
  extract_lets yearMonth
  have hquery (kwargs : Dict String Arg) :
      Quiet lib settings (.db ⟨.query, settings.invocationsTable, kwargs⟩) :=
    quiet_read (fun h => nomatch h)
  refine (traced_quiet (calls_dayUsageOf hquery fun kwargs => quiet_service kwargs (by decide)) h).bind
    (fun _ _ h => h.1) ?_
  rintro past₁ day ⟨⟨hpaired₁, hsuffix₁⟩, -⟩
  refine (traced_addToSummary hpaired₁).bind (fun _ _ h => ⟨h.1.1, hsuffix₁.trans h.1.2⟩) ?_
  rintro past₂ totals ⟨⟨hpaired₂, hsuffix₂⟩, htotals⟩
  obtain ⟨lastUpdated, response, hadded, htotals⟩ := htotals totals rfl
  refine (traced_quiet (calls_putMetrics fun kwargs => quiet_service kwargs (by decide)).attempt
    hpaired₂).bind
    (fun _ _ h => ⟨h.1.1, (hsuffix₁.trans hsuffix₂).trans h.1.2⟩) ?_
  rintro past₃ _ ⟨⟨hpaired₃, hsuffix₃⟩, -⟩
  have hsuffix := (hsuffix₁.trans hsuffix₂).trans hsuffix₃
  split
  · rename_i hover
    have hshown : (⟨billed, yearMonth, totals.cost⟩ : Overspend lib).Shown lib settings past₃ := {
      scanned := ⟨row, hrow.mono hsuffix, hbilled⟩
      active := hover.2.2
      budgeted := hover.1
      exceeded := hover.2.1
      added := ⟨lastUpdated, day, response, totals, hsuffix₃.subset hadded, htotals, rfl⟩ }
    exact (traced_suspendTenant hpaired₃ hshown).mono (fun _ _ => id)
      fun _ _ h => ⟨h.1, hsuffix.trans h.2⟩
  · exact Prog.traced_pure.mpr ⟨hpaired₃, hsuffix⟩

/-- The loop over the tenants of the scan. -/
theorem traced_processTenants {dateToProcess : DateTime} {rows : List Items}
    (h : Paired lib settings past) (hrows : ∀ row ∈ rows, Scanned settings past row) :
    Prog.Traced (NextCall lib settings) (fun past' _ => Paired lib settings past') past
      (processTenants py lib settings dateToProcess rows) := by
  induction rows generalizing past with
  | nil => exact Prog.traced_pure.mpr h
  | cons row rows ih =>
    rw [List.forall_mem_cons] at hrows
    unfold processTenants
    refine (traced_processTenant h hrows.1).attempt.bind ?_ ?_
    · rintro past' exc ⟨result, hresult, -⟩
      cases hresult
    · rintro past' result ⟨result', hresult, hpaired, hsuffix⟩
      cases hresult
      have hrest := ih hpaired fun row' hrow' => (hrows.2 row' hrow').mono hsuffix
      split
      · exact hrest.bind (fun _ _ => id) fun _ (_, _) hpaired => Prog.traced_pure.mpr hpaired
      · split
        · exact Prog.traced_raise.mpr hpaired
        · exact hrest.bind (fun _ _ => id) fun _ (_, _) hpaired => Prog.traced_pure.mpr hpaired

/-- **A run** pairs its suspensions with their events, whatever it is answered. -/
theorem traced_lambdaHandler (hsettings : settingsOf py = .ok settings) (event : Items) :
    Prog.Traced (NextCall lib settings) (fun past' _ => Paired lib settings past') []
      (lambdaHandler py lib event) := by
  unfold lambdaHandler
  rw [hsettings, ofExcept_ok_bind]
  refine (traced_quiet (calls_dateOf quiet_now) .nil).bind (fun _ _ h => h.1.1)
    fun past' dateToProcess h => ?_
  refine (traced_getActiveTenants h.1.1).bind (fun _ _ h => h.1) fun past' rows h => ?_
  refine (traced_processTenants h.1 (h.2 rows rfl)).bind (fun _ _ => id) fun past' counts h => ?_
  exact Prog.traced_pure.mpr h

/-! ## Runs among others -/

/-- A run of the pipeline, or whatever else uses the services. -/
inductive Caller (κ : Type) where
  | billing (event : Items)
  | other (request : κ)

/-- What a caller does. -/
def Caller.program {κ : Type} (py : Python) (lib : Library) (others : κ → Api Unit) :
    Caller κ → Api Unit
  | .billing event => (fun _ => ()) <$> lambdaHandler py lib event
  | .other request => others request

/-- What a caller calls next, of what it was answered. -/
def Caller.Calls {κ : Type} (lib : Library) (settings : Settings) : Caller κ → Past → Effect → Prop
  | .billing _ => NextCall lib settings
  | .other _ => fun _ _ => True

/-- What it was answered when it ends. -/
def Caller.Ends {κ : Type} (lib : Library) (settings : Settings) :
    Caller κ → Past → Except Exc Unit → Prop
  | .billing _ => fun past _ => Paired lib settings past
  | .other _ => fun _ _ => True

/-- Every suspension that was taken is followed by its event; one event may be owed, and is then the
    next call. -/
def Accompanied {κ : Type} (lib : Library) (settings : Settings)
    (thread : Thread Effect Effect.Reply Exc Unit (Caller κ)) : Prop :=
  Paired lib settings thread.past ∨
    ∃ (o : Overspend lib) (next : (o.event lib settings).Reply → Api Unit),
      o.Owed lib settings thread.past ∧ thread.rest = .call (o.event lib settings) next

theorem traced_caller {κ : Type} {others : κ → Api Unit} (hsettings : settingsOf py = .ok settings)
    (caller : Caller κ) : Prog.Traced (caller.Calls lib settings) (caller.Ends lib settings) []
      (caller.program py lib others) := by
  cases caller with
  | billing event =>
    exact (traced_lambdaHandler hsettings event).bind (fun _ _ => id)
      fun _ _ hpaired => Prog.traced_ret.mpr hpaired
  | other request => exact Prog.traced_trivial _ _

/-- **Suspensions are announced**, by every run of every interleaving. -/
theorem suspensions_announced {κ τ : Type} {others : κ → Api Unit} {world : World τ}
    {state : Tables × τ} (hsettings : settingsOf py = .ok settings) (moves : List (Move (Caller κ))) :
    ∀ thread ∈ (Runs.final (Interleaving.step (Caller.program py lib others) world.serve)
      (Pool.initial state) moves).threads, (∃ event, thread.request = .billing event) →
        Accompanied lib settings thread := by
  rintro thread hthread ⟨event, hrequest⟩
  have htraced := (wellTraced_run (traced_caller hsettings) state moves).2 thread hthread
  rw [hrequest] at htraced
  rcases hrest : thread.rest with a | exc | ⟨e, next⟩
  · rw [hrest] at htraced
    exact .inl htraced
  · rw [hrest] at htraced
    exact .inl htraced
  · rw [hrest] at htraced
    rcases htraced.1 with ⟨o, howed, rfl⟩ | ⟨hpaired, -⟩
    · exact .inr ⟨o, next, howed, hrest⟩
    · exact .inl hpaired

/-! ## One tenant over its budget -/

/-- A library whose floats are fractions, as on numbers that no float has to round, and which keeps a
    decimal as one, on the last day of January. -/
def januaryLibrary : Library where
  Double := ℚ
  float := fun
    | .int n => .ok n
    | .list [.int n, .int d] => .ok (n / d)
    | _ => .error (.typeError "float() argument must be a string or a real number")
  literal := fun n => n
  add := fun x y => x + y
  mul := fun x y => x * y
  div := fun x y => x / y
  lt := fun x y => x < y
  round := fun x _ => x
  ofFloat := fun x => .list [.int x.num, .int x.den]
  decimal := fun x => .list [.int x.num, .int x.den]
  fromIsoformat := fun _ => .ok lastOfJanuary
  utc := fun _ => lastOfJanuary

/-- The text that makes a tenant active. -/
def activeText : String := "\x7b\"status\": \"active\"\x7d"

def billingPython : Python :=
  { KnownTexts.python {
      json := [(activeText, .dict [("status", .str "active")])]
      environ := [("TENANTS_TABLE_NAME", "tenants"), ("INVOCATIONS_TABLE_NAME", "invocations")] } with
    pages := 2 }

def billingSettings : Settings :=
  { tenantsTable := "tenants", invocationsTable := "invocations", eventBusName := "default" }

/-- A DynamoDB whose conditions hold of the rows that are there. -/
def billingRows : Dynamo := { settingRows with holds := fun _ _ row => row.has "PK" }

/-- Services that answer, with prices. -/
def priced (dynamo : Dynamo) : World Unit :=
  { quiet dynamo with
    service := fun _ client _ _ => .ok (if client = "pricing_provider" then
      .dict [("input_1k", .int 1), ("output_1k", .int 2)] else .none) }

/-- A tenant with a budget of one dollar, and an invocation of seven. -/
def overspent : Tables :=
  (Dict.empty.set ⟨"tenants", "TENANT#acme", "METADATA"⟩
    [("tenantId", .str "acme"), ("tier", .str "basic"), ("status", .str "active"),
      ("monthlyBudgetUsd", .int 1)]).set
    ⟨"invocations", "TENANT#acme", "INV#2026-01-31T12:00:00+00:00#a"⟩
    [("input_tokens", .int 5000), ("output_tokens", .int 1000)]

/-- A run from its start to its answer. -/
def billedThreads : List (Thread Effect Effect.Reply Exc Unit (Caller Empty)) :=
  (Runs.final (Interleaving.step (Caller.program billingPython januaryLibrary
      fun request : Empty => nomatch request) (priced billingRows).serve)
    (Pool.initial (overspent, ()))
    (.start (.billing [("date", .str "2026-01-31")]) :: List.replicate 9 (.advance 0))).threads

def publishes : Answered Effect Effect.Reply → Bool
  | ⟨.service client _ _, _⟩ => client = "events"
  | _ => false

/-- The tenant is suspended, and one event says so. -/
theorem overspent_announced : (billedThreads.map fun thread => thread.past.map publishes) =
      [[true, false, false, false, false, false, false, false, false]] ∧
    ∀ thread ∈ billedThreads, (∃ event, thread.request = .billing event) →
      Accompanied januaryLibrary billingSettings thread :=
  ⟨by decide +kernel, suspensions_announced rfl _⟩

end A5cCell.Billing
