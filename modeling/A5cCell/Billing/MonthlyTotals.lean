import A5cCell.Billing.RecordStatus
import A5cCell.DataAccess.Listing

/-!
# The totals of a month

A month's summary is only ever added to: whoever writes a tenant's partition, in whatever order, each of
its totals is what it was with every addition that DynamoDB took, and each addition is what the tenant's
invocations of a day come to (`month_totals_add_up`). A day that is processed twice is added twice.
-/

namespace A5cCell.Billing

open Py (Val Items Dict)
open Civil (DateTime)
open DataAccess TenantApi Interleaving

/-! ## Totals -/

/-- The totals of a summary, each with the value its update adds. -/
def summaryFields : List (String × String) :=
  [("totalInputTokens", ":di"), ("total_input_tokens", ":di"), ("totalOutputTokens", ":do"),
    ("total_output_tokens", ":do"), ("totalCostUsd", ":dc"), ("total_cost_usd", ":dc")]

/-- A total as the decimal that DynamoDB keeps, which is zero where there is none. -/
def amountOf (number : Val → ℚ) : Option Val → ℚ
  | none => 0
  | some v => number v

/-- A total of a tenant's month. -/
def totalOf (settings : Settings) (tenantId yearMonth field : String) (tables : Tables) : Option Val :=
  (tables.get? (summaryRow settings tenantId yearMonth)).bind fun row => row.lookup field

/-- What an update expression is sent under a name, as a number. -/
def sentValue (number : Val → ℚ) (value : String) (r : Request) : ℚ :=
  match r.kwargs.get? "ExpressionAttributeValues" with
  | some (.val (.dict values)) => amountOf number (values.lookup value)
  | _ => 0

/-- A request updates the summary. -/
def Updates (settings : Settings) (tenantId yearMonth : String) (r : Request) : Prop :=
  r.operation = .updateItem ∧
    (r.kwargs.get? "Key").bind (Arg.key? r.table) = some (summaryRow settings tenantId yearMonth)

instance (settings : Settings) (tenantId yearMonth : String) (r : Request) :
    Decidable (Updates settings tenantId yearMonth r) := inferInstanceAs (Decidable (_ ∧ _))

/-- What a call added to the totals of the month that take the value. -/
def addedBy (number : Val → ℚ) (settings : Settings) (tenantId yearMonth value : String) :
    Answered Effect Effect.Reply → ℚ
  | ⟨.db r, .ok _⟩ => if Updates settings tenantId yearMonth r then sentValue number value r else 0
  | _ => 0

/-- An addition that DynamoDB takes is exact: it refuses one of what is no number, or whose sum has more
    digits than it keeps. -/
def AddsDays (dynamo : Dynamo) (lib : Library) (number : Val → ℚ) (settings : Settings) : Prop :=
  ∀ tenantId yearMonth lastUpdated day row updated,
    dynamo.update (addRequest lib settings tenantId yearMonth lastUpdated day).kwargs row =
      .ok updated →
    ∀ field value, (field, value) ∈ summaryFields →
      amountOf number (updated.lookup field) = amountOf number (row.lookup field) +
        sentValue number value (addRequest lib settings tenantId yearMonth lastUpdated day)

/-! ## The usage of a day -/

/-- The tenant's invocations of a day. -/
def dayRows (settings : Settings) (tables : Tables) (tenantId : String) (date : DateTime) : List Items :=
  (Dynamo.selected tables settings.invocationsTable tenantId (dayWindow date)).map fun row =>
    row.1.row row.2

/-- What the tenant's invocations of a day come to, at some prices. -/
structure IsUsage (lib : Library) (settings : Settings) (tables : Tables) (tenantId : String)
    (date : DateTime) (day : DayUsage lib) : Prop where
  input : tokensOf "input_tokens" (dayRows settings tables tenantId date) = .ok day.input
  output : tokensOf "output_tokens" (dayRows settings tables tenantId date) = .ok day.output
  cost : ∃ pricing, calculateCost lib day.input day.output pricing = .ok day.cost

/-- An invocations query was answered as these tables would. -/
def TruthTold (dynamo : Dynamo) (settings : Settings) (tables : Tables)
    (answered : Answered Effect Effect.Reply) : Prop :=
  ∀ (r : Request) (value : r.operation.Answer), answered = ⟨.db r, .ok value⟩ →
    r.operation = .query → r.table = settings.invocationsTable → dynamo.reply tables r = .ok value

section

variable (dynamo : Dynamo) (lib : Library) (settings : Settings) (tables : Tables)

/-- A call of a billing run. What it adds is a day's usage, as far as the queries were answered from the
    tables. -/
inductive BillingCall (past : Past) : Effect → Prop where
  | other {e : Effect} (call : RunCall lib settings e)
      (updates : ∀ tenantId yearMonth r, e = .db r → ¬ Updates settings tenantId yearMonth r) :
      BillingCall past e
  | add {tenantId yearMonth lastUpdated : String} {day : DayUsage lib}
      (usage : (∀ answered ∈ past, TruthTold dynamo settings tables answered) →
        ∃ date, yearMonthOf date.date = yearMonth ∧ IsUsage lib settings tables tenantId date day) :
      BillingCall past (.db (addRequest lib settings tenantId yearMonth lastUpdated day))

/-- What a writer calls next. -/
def RecordWriter.Adds (py : Python) : RecordWriter → Past → Effect → Prop
  | .api request => request.Calls py
  | .billing _ => BillingCall dynamo lib settings tables

end

variable {py : Python} {lib : Library} {settings : Settings} {dynamo : Dynamo} {tables : Tables}
  {past : Past} {e : Effect} {tenantId yearMonth : String}

/-! ## What updates a summary -/

theorem updates_add {tenantId' yearMonth' lastUpdated : String} {day : DayUsage lib} :
    Updates settings tenantId yearMonth (addRequest lib settings tenantId' yearMonth' lastUpdated day) ↔
      summaryRow settings tenantId' yearMonth' = summaryRow settings tenantId yearMonth := by
  have hkey : ((addRequest lib settings tenantId' yearMonth' lastUpdated day).kwargs.get? "Key").bind
      (Arg.key? settings.tenantsTable) = some (summaryRow settings tenantId' yearMonth') :=
    key?_summaryKey
  constructor
  · rintro ⟨-, hupdates⟩
    exact Option.some.inj (hkey.symm.trans hupdates)
  · rintro hrow
    exact ⟨rfl, hkey.trans (congrArg some hrow)⟩

/-- An update of a tenant's record is of no summary. -/
theorem not_updates_record {tenantId' : String} {r : Request}
    (hkey : (r.kwargs.get? "Key").bind (Arg.key? r.table) = some (recordRow settings tenantId')) :
    ¬ Updates settings tenantId yearMonth r := by
  rintro ⟨-, hupdates⟩
  exact summaryRow_ne_recordRow (Option.some.inj (hkey.symm.trans hupdates))

theorem not_updates_suspend {tenantId' updatedAt : String} :
    ¬ Updates settings tenantId yearMonth (suspendRequest settings tenantId' updatedAt) :=
  not_updates_record key?_recordKey

theorem not_updates_set (hsettings : settingsOf py = .ok settings) {tenantId' : String}
    {attributes : Items} : ¬ Updates settings tenantId yearMonth
      (setRequest (tenantsTableName py) (tenantKey tenantId') attributes) := by
  refine @not_updates_record _ _ _ tenantId' _ ?_
  rw [recordRow_eq hsettings]
  exact key?_tenantKey py tenantId'

/-- A call that updates no summary. -/
structure Leaves (lib : Library) (settings : Settings) (e : Effect) : Prop where
  call : RunCall lib settings e
  updates : ∀ tenantId yearMonth r, e = .db r → ¬ Updates settings tenantId yearMonth r

theorem Leaves.billingCall (h : Leaves lib settings e) : BillingCall dynamo lib settings tables past e :=
  .other h.call h.updates

theorem leaves_now : Leaves lib settings .now := ⟨.now, fun _ _ _ h => by cases h⟩

theorem leaves_service (client operation : String) (kwargs : Items) :
    Leaves lib settings (.service client operation kwargs) := ⟨.service _ _ _, fun _ _ _ h => by cases h⟩

/-- A read updates nothing. -/
theorem leaves_read {r : Request} (call : RunCall lib settings (.db r))
    (hread : r.operation ≠ .updateItem) : Leaves lib settings (.db r) := by
  refine ⟨call, fun _ _ r' hr' hupdates => ?_⟩
  cases hr'
  exact hread hupdates.1

theorem leaves_suspend (tenantId updatedAt : String) :
    Leaves lib settings (.db (suspendRequest settings tenantId updatedAt)) := by
  refine ⟨.suspend _ _, fun _ _ r hr => ?_⟩
  cases hr
  exact not_updates_suspend

/-! ## What a run adds -/

/-- The calls that update no summary, from the past they come to. -/
theorem traced_leaves {α : Type} {p : Api α} {Post : α → Prop} (hp : p.Sat (Leaves lib settings) Post) :
    Prog.Traced (BillingCall dynamo lib settings tables) (fun past' _ => past <:+ past') past p := by
  have hsuffix : Prog.Traced (BillingCall dynamo lib settings tables)
      (fun past' r => past <:+ past' ∧ ∀ a, r = .ok a → Post a) past p :=
    hp.traced (List.suffix_refl past) (fun _ _ _ h _ => h.trans (List.suffix_cons _ _))
      fun _ _ _ he => he.billingCall
  exact hsuffix.mono (fun _ _ => id) fun _ _ h => h.1

/-- The pages of a day, from where the first rows have been read: what is collected is the rest, where
    the pages are what the tables answer. -/
theorem traced_dayPages (hkeyed : tables.Keyed) {date : DateTime} (pages : Nat) (startKey : Val) :
    Prog.Traced (BillingCall dynamo lib settings tables)
      (fun past' r => past <:+ past' ∧ ∀ rows, r = .ok rows →
        (∀ answered ∈ past', TruthTold dynamo settings tables answered) →
        ∀ first rest, startKey = Dynamo.resume first →
          Dynamo.selected tables settings.invocationsTable tenantId (dayWindow date) = first ++ rest →
          rows = rest.map fun row => row.1.row row.2)
      past (Api.dynamodb (allPages (fun startKey => tenantQuery tenantId settings.invocationsTable
        { skCondition := some (dayWindow date), exclusiveStartKey := startKey }) pages startKey)) := by
  induction pages generalizing past startKey with
  | zero => exact Prog.traced_raise.mpr ⟨List.suffix_refl past, fun rows hrows => by cases hrows⟩
  | succ pages ih =>
    let request := tenantQueryRequest tenantId settings.invocationsTable
      { skCondition := some (dayWindow date), exclusiveStartKey := startKey }
    have hleaves : Leaves lib settings (.db request) := leaves_read (.query _) (fun h => nomatch h)
    rw [allPages, Api.dynamodb, Prog.mapCalls_bind]
    refine traced_issue hleaves.billingCall
      (fun fault exc => ⟨List.suffix_cons _ past, fun rows hrows => by cases hrows⟩) fun page => ?_
    -- a page that is told truly is the one the tables have
    have hpage {past' : Past} (hpast : ⟨.db request, .ok page⟩ ∈ past')
        (htold : ∀ answered ∈ past', TruthTold dynamo settings tables answered)
        (first rest : List (RowKey × Items)) (hstart : startKey = Dynamo.resume first)
        (hrows : Dynamo.selected tables settings.invocationsTable tenantId (dayWindow date) =
          first ++ rest) : ∃ taken left, rest = taken ++ left ∧
        page.items = taken.map (fun row => row.1.row row.2) ∧
        ((nextStartKey page = none ∧ left = []) ∨
          ∃ key, nextStartKey page = some key ∧ Dynamo.resume (first ++ taken) = .dict key) := by
      obtain ⟨page', taken, left, hreply, hsplit, hitems, hnext⟩ :=
        @Dynamo.reply_tenantQuery dynamo tables settings.invocationsTable tenantId _ first rest hkeyed
          hrows
      have htrue := htold _ hpast request page rfl rfl rfl
      rw [← hstart] at hreply
      cases htrue.symm.trans hreply
      exact ⟨taken, left, hsplit, hitems, hnext⟩
    split
    · rename_i hlast
      refine Prog.traced_pure.mpr ⟨List.suffix_cons _ past, ?_⟩
      rintro rows hok htold first rest hstart hrows
      cases hok
      obtain ⟨taken, left, rfl, hitems, ⟨-, rfl⟩ | ⟨key, hmore, -⟩⟩ :=
        hpage List.mem_cons_self htold first rest hstart hrows
      · rw [hitems, List.append_nil]
      · cases hlast.symm.trans hmore
    · rename_i key hmore
      rw [Prog.mapCalls_bind]
      refine (ih (.dict key)).bind ?_ ?_
      · rintro past' exc ⟨hsuffix, -⟩
        exact ⟨(List.suffix_cons _ past).trans hsuffix, fun rows hrows => by cases hrows⟩
      · rintro past' items ⟨hsuffix, hitems⟩
        refine Prog.traced_pure.mpr ⟨(List.suffix_cons _ past).trans hsuffix, ?_⟩
        rintro rows hok htold first rest hstart hrows
        cases hok
        obtain ⟨taken, left, rfl, htaken, ⟨hlast, -⟩ | ⟨key', hmore', hresume⟩⟩ :=
          hpage (hsuffix.subset List.mem_cons_self) htold first rest hstart hrows
        · cases hlast.symm.trans hmore
        · cases hmore.symm.trans hmore'
          rw [htaken, hitems items rfl htold (first ++ taken) left hresume.symm
            (by rw [hrows, List.append_assoc]), List.map_append]

/-- A day's usage, where the pages are what the tables answer. -/
theorem traced_dayUsageOf (hkeyed : tables.Keyed) {tenant : BilledTenant lib} {date : DateTime} :
    Prog.Traced (BillingCall dynamo lib settings tables)
      (fun past' r => past <:+ past' ∧ ∀ day, r = .ok day →
        (∀ answered ∈ past', TruthTold dynamo settings tables answered) →
        IsUsage lib settings tables tenant.tenantId date day)
      past (dayUsageOf py lib settings tenant date) := by
  unfold dayUsageOf
  refine (traced_dayPages hkeyed py.pages .none).bind ?_ ?_
  · rintro past' exc ⟨hsuffix, -⟩
    exact ⟨hsuffix, fun day hday => by cases hday⟩
  · rintro past₁ rows ⟨hsuffix₁, hrows⟩
    refine traced_check (fun _ => ⟨hsuffix₁, fun day hday => by cases hday⟩) fun input hinput => ?_
    refine traced_check (fun _ => ⟨hsuffix₁, fun day hday => by cases hday⟩) fun output houtput => ?_
    refine (traced_leaves (calls_getPricing (fun kwargs => leaves_service _ _ kwargs)).attempt).bind
      ?_ ?_
    · rintro past₂ exc hsuffix₂
      exact ⟨hsuffix₁.trans hsuffix₂, fun day hday => by cases hday⟩
    · rintro past₂ priced hsuffix₂
      have hsuffix := hsuffix₁.trans hsuffix₂
      split
      · exact Prog.traced_raise.mpr ⟨hsuffix, fun day hday => by cases hday⟩
      · exact Prog.traced_raise.mpr ⟨hsuffix, fun day hday => by cases hday⟩
      · refine traced_check (fun _ => ⟨hsuffix, fun day hday => by cases hday⟩) fun cost hcost => ?_
        refine Prog.traced_pure.mpr ⟨hsuffix, fun day hday htold => ?_⟩
        cases hday
        obtain rfl := hrows rows rfl (fun answered h => htold answered (hsuffix₂.subset h)) [] _ rfl rfl
        exact ⟨hinput, houtput, _, hcost⟩

/-- One tenant of the scan: a day is added once it is read. -/
theorem traced_billTenant (hkeyed : tables.Keyed) {date : DateTime} {row : Items} :
    Prog.Traced (BillingCall dynamo lib settings tables) (fun past' _ => past <:+ past') past
      (processTenant py lib settings row date) := by
  unfold processTenant
  refine traced_check (fun _ => List.suffix_refl past) fun billed _ => ?_
  extract_lets yearMonth
  refine (traced_dayUsageOf hkeyed).bind (fun _ _ h => h.1) ?_
  rintro past₁ day ⟨hsuffix₁, hday⟩
  have hadd : Prog.Traced (BillingCall dynamo lib settings tables) (fun past' _ => past₁ <:+ past') past₁
      (addToSummary lib settings billed.tenantId yearMonth day) := by
    unfold addToSummary
    refine traced_now leaves_now.billingCall fun now => ?_
    rw [updateItem_summary]
    have husage : (∀ answered ∈ (⟨.now, now⟩ :: past₁ : Past), TruthTold dynamo settings tables answered) →
        ∃ date, yearMonthOf date.date = yearMonth ∧
          IsUsage lib settings tables billed.tenantId date day :=
      fun htold => ⟨date, rfl, hday day rfl fun answered h => htold answered (List.mem_cons_of_mem _ h)⟩
    refine traced_issue (.add husage) (fun fault exc => List.suffix_append [_, _] past₁) fun response => ?_
    exact traced_ofExcept.mpr (List.suffix_append [_, _] past₁)
  refine hadd.bind (fun _ _ hsuffix => hsuffix₁.trans hsuffix) fun past₂ totals hsuffix₂ => ?_
  refine (traced_leaves (calls_putMetrics fun kwargs => leaves_service _ _ kwargs).attempt).bind
    (fun _ _ hsuffix => (hsuffix₁.trans hsuffix₂).trans hsuffix) fun past₃ _ hsuffix₃ => ?_
  have hsuffix := (hsuffix₁.trans hsuffix₂).trans hsuffix₃
  split
  · exact (traced_leaves (calls_suspendTenant leaves_now (leaves_suspend _)
      (leaves_service _ _))).mono (fun _ _ => id) fun _ _ h => hsuffix.trans h
  · exact Prog.traced_pure.mpr hsuffix

/-- The loop over the tenants. -/
theorem traced_billTenants (hkeyed : tables.Keyed) {date : DateTime} {rows : List Items} :
    Prog.Traced (BillingCall dynamo lib settings tables) (fun _ _ => True) past
      (processTenants py lib settings date rows) := by
  induction rows generalizing past with
  | nil => exact Prog.traced_pure.mpr trivial
  | cons row rows ih =>
    unfold processTenants
    refine (traced_billTenant hkeyed).attempt.bind ?_ ?_
    · exact fun _ _ _ => trivial
    · rintro past' result -
      split
      · exact ih.bind (fun _ _ => id) fun _ (_, _) _ => Prog.traced_pure.mpr trivial
      · split
        · exact Prog.traced_raise.mpr trivial
        · exact ih.bind (fun _ _ => id) fun _ (_, _) _ => Prog.traced_pure.mpr trivial

theorem traced_adds (hsettings : settingsOf py = .ok settings) (hkeyed : tables.Keyed)
    (writer : RecordWriter) :
    Prog.Traced (writer.Adds dynamo lib settings tables py) (fun _ _ => True) []
      (writer.program py lib) := by
  cases writer with
  | api request =>
    refine (traced_recordRequest request).bind (fun _ _ _ => trivial) fun _ _ _ => ?_
    exact Prog.traced_ret.mpr trivial
  | billing event =>
    have hread (kwargs : Dict String Arg) :
        Leaves lib settings (.db ⟨.scan, settings.tenantsTable, kwargs⟩) :=
      leaves_read (.scan _) (fun h => nomatch h)
    refine Prog.Traced.bind (Q := fun _ _ => True) ?_ (fun _ _ _ => trivial) fun _ _ _ => ?_
    · unfold lambdaHandler
      rw [hsettings, ofExcept_ok_bind]
      refine (traced_leaves (calls_dateOf leaves_now)).bind (fun _ _ _ => trivial) fun _ date _ => ?_
      refine (traced_leaves (calls_getActiveTenants hread)).bind (fun _ _ _ => trivial)
        fun _ rows _ => ?_
      refine (traced_billTenants hkeyed).bind (fun _ _ _ => trivial) fun _ counts _ => ?_
      exact Prog.traced_pure.mpr trivial
    · exact Prog.traced_ret.mpr trivial

/-! ## What the writers do to the tables -/

section

variable {τ : Type} {world : World τ} {state : Tables × τ} {writer : RecordWriter}

/-- A call of a writer writes rows of the tenants table, or none. -/
theorem serve_invocations (hsettings : settingsOf py = .ok settings)
    (hseparate : settings.invocationsTable ≠ settings.tenantsTable)
    (hcall : writer.Adds dynamo lib settings tables py past e) :
    Table.Agree (fun key : RowKey => key.table = settings.invocationsTable)
      (world.serve state e).2.1 state.1 := by
  have htenants {r : Request} (htable : r.table = settings.tenantsTable) :
      Table.Agree (fun key : RowKey => key.table = settings.invocationsTable)
        (world.serve state (.db r)).2.1 state.1 := by
    intro key hkey
    rcases serve_db world state r with ⟨fault, hserve⟩ | hserve
    · rw [hserve]
    · rw [hserve]
      refine Dynamo.serve_frame_table r state.1 key ?_
      show key.table ≠ r.table
      rw [hkey, htable]
      exact hseparate
  have htable := tenantsTable_eq hsettings
  cases writer with
  | api request =>
    cases hcall with
    | now => exact Table.Agree.refl _ _
    | random source => exact Table.Agree.refl _ _
    | service client operation kwargs => exact Table.Agree.refl _ _
    | get key => exact htenants htable.symm
    | put creates active absent => exact htenants htable.symm
    | set sets => exact htenants htable.symm
  | billing event =>
    cases hcall with
    | add usage => exact htenants rfl
    | other call updates =>
      cases call with
      | now => exact Table.Agree.refl _ _
      | service client operation kwargs => exact Table.Agree.refl _ _
      | scan kwargs => exact htenants rfl
      | query kwargs =>
        rw [serve_read world state (.inl rfl)]
        exact Table.Agree.refl _ _
      | add tenantId yearMonth lastUpdated day => exact htenants rfl
      | suspend tenantId updatedAt => exact htenants rfl

/-- What the invocations table is answers the queries. -/
theorem truthTold_serve (h : Table.Agree (fun key : RowKey => key.table = settings.invocationsTable)
    state.1 tables) (e : Effect) :
    TruthTold world.dynamo settings tables ⟨e, (world.serve state e).1⟩ := by
  rintro r value hanswered hquery htable
  cases congrArg Answered.call hanswered
  have hanswer : (world.serve state (.db r)).1 = .ok value :=
    eq_of_heq (Answered.mk.inj hanswered).2
  rcases serve_db world state r with ⟨fault, hserve⟩ | hserve
  · rw [hserve] at hanswer
    cases hanswer
  · rw [hserve] at hanswer
    rw [Dynamo.reply, ← hanswer]
    refine (Dynamo.serve_query_congr hquery fun key hkey => ?_).symm
    exact h key (hkey.trans htable)

variable {number : Val → ℚ} {field value : String}

theorem isAttribute_of_summaryField (h : (field, value) ∈ summaryFields) : IsAttribute field := by
  have hall : ∀ named ∈ summaryFields, IsAttribute named.1 := by decide
  exact hall _ h

theorem addedBy_of_not {r : Request} (h : ¬ Updates settings tenantId yearMonth r) (answer : Answer r) :
    addedBy number settings tenantId yearMonth value ⟨.db r, answer⟩ = 0 := by
  cases answer with
  | error fault => rfl
  | ok row => exact if_neg h

/-- A row elsewhere leaves the total as it was. -/
theorem totalOf_set_ne {key : RowKey} {attributes : Items}
    (h : summaryRow settings tenantId yearMonth ≠ key) (tables : Tables) :
    totalOf settings tenantId yearMonth field (tables.set key attributes) =
      totalOf settings tenantId yearMonth field tables := by
  rw [totalOf, totalOf, Dict.get?_set_ne _ _ h]

/-- A call that updates no summary, and leaves this one as it was. -/
theorem amountOf_same {r : Request} (hnot : ¬ Updates settings tenantId yearMonth r)
    (hsame : totalOf settings tenantId yearMonth field (world.serve state (.db r)).2.1 =
      totalOf settings tenantId yearMonth field state.1) :
    amountOf number (totalOf settings tenantId yearMonth field (world.serve state (.db r)).2.1) =
      amountOf number (totalOf settings tenantId yearMonth field state.1) +
        addedBy number settings tenantId yearMonth value ⟨.db r, (world.serve state (.db r)).1⟩ := by
  rw [addedBy_of_not hnot, hsame, add_zero]

/-- **One addition** moves the totals of its month, and of no other. -/
theorem amountOf_add (hadds : AddsDays world.dynamo lib number settings)
    (hfield : (field, value) ∈ summaryFields) {tenantId' yearMonth' lastUpdated : String}
    {day : DayUsage lib} :
    amountOf number (totalOf settings tenantId yearMonth field (world.serve state
        (.db (addRequest lib settings tenantId' yearMonth' lastUpdated day))).2.1) =
      amountOf number (totalOf settings tenantId yearMonth field state.1) +
        addedBy number settings tenantId yearMonth value
          ⟨.db (addRequest lib settings tenantId' yearMonth' lastUpdated day),
            (world.serve state
              (.db (addRequest lib settings tenantId' yearMonth' lastUpdated day))).1⟩ := by
  by_cases hrow : summaryRow settings tenantId' yearMonth' = summaryRow settings tenantId yearMonth
  · rcases serve_add world state lastUpdated day with
      ⟨hsame, fault, hanswer⟩ | ⟨updated, hupdate, hset, hanswer⟩
    · rw [hsame, hanswer]
      exact (add_zero _).symm
    · have hattribute := isAttribute_of_summaryField hfield
      have hsent : addedBy number settings tenantId yearMonth value
          ⟨.db (addRequest lib settings tenantId' yearMonth' lastUpdated day), .ok [("Attributes",
            .dict ((summaryRow settings tenantId' yearMonth').row (attributesOf updated)))]⟩ =
          sentValue number value (addRequest lib settings tenantId' yearMonth' lastUpdated day) :=
        if_pos (updates_add.mpr hrow)
      rw [hanswer, hset, hsent, totalOf, ← hrow, Dict.get?_set_self, Option.bind_some,
        lookup_attributesOf hattribute]
      refine (hadds _ _ _ _ _ _ hupdate field value hfield).trans ?_
      rw [lookup_row_getD hattribute, hrow]
      rfl
  · have hne : summaryRow settings tenantId yearMonth ≠ summaryRow settings tenantId' yearMonth' :=
      Ne.symm hrow
    refine amountOf_same (fun h => hrow (updates_add.mp h)) ?_
    rcases serve_add world state lastUpdated day with ⟨hsame, -⟩ | ⟨updated, -, hset, -⟩
    · rw [hsame]
    · rw [hset, totalOf_set_ne hne]

/-- **One call** of a writer moves the totals by what it adds. -/
theorem amountOf_serve (hsettings : settingsOf py = .ok settings)
    (hadds : AddsDays world.dynamo lib number settings) (hfield : (field, value) ∈ summaryFields)
    (hcall : writer.Adds dynamo lib settings tables py past e) :
    amountOf number (totalOf settings tenantId yearMonth field (world.serve state e).2.1) =
      amountOf number (totalOf settings tenantId yearMonth field state.1) +
        addedBy number settings tenantId yearMonth value ⟨e, (world.serve state e).1⟩ := by
  have hquiet : amountOf number (totalOf settings tenantId yearMonth field state.1) =
      amountOf number (totalOf settings tenantId yearMonth field state.1) + 0 := (add_zero _).symm
  have hrecord {tenantId' : String} :
      summaryRow settings tenantId yearMonth ≠ metadataKey py tenantId' := by
    rw [← recordRow_eq hsettings]
    exact summaryRow_ne_recordRow.symm
  cases writer with
  -- The tenant API writes tenant records; no summary is one.
  | api request =>
    cases hcall with
    | now => exact hquiet
    | random source => exact hquiet
    | service client operation kwargs => exact hquiet
    | get key =>
      refine amountOf_same (fun h => nomatch h.1) ?_
      rw [serve_get]
    | @put event caller tenant rest creates active absent =>
      refine amountOf_same (fun h => nomatch h.1) ?_
      rcases serve_put world state (tenantsTableName py) (tenantKey tenant ++ rest) with
        ⟨hsame, -⟩ | ⟨key, attributes, hitem, hset, -⟩
      · rw [hsame]
      · cases (item?_record rest).symm.trans hitem
        rw [hset, totalOf_set_ne hrecord]
    | @set tenant attributes sets =>
      refine amountOf_same (not_updates_set hsettings) ?_
      rcases serve_set world state (tenantsTableName py) (tenantKey tenant) attributes with
        ⟨hsame, -⟩ | ⟨key, updated, hkey, -, hset, -⟩
      · rw [hsame]
      · cases (key?_tenantKey py tenant).symm.trans hkey
        rw [hset, totalOf_set_ne hrecord]
  | billing event =>
    cases hcall with
    | add usage => exact amountOf_add hadds hfield
    | other call updates =>
      cases call with
      | now => exact hquiet
      | service client operation kwargs => exact hquiet
      | scan kwargs =>
        refine amountOf_same (fun h => nomatch h.1) ?_
        rw [serve_read world state (.inr rfl)]
      | query kwargs =>
        refine amountOf_same (fun h => nomatch h.1) ?_
        rw [serve_read world state (.inl rfl)]
      | add tenantId yearMonth lastUpdated day => exact amountOf_add hadds hfield
      | suspend tenant updatedAt =>
        refine amountOf_same not_updates_suspend ?_
        rcases serve_suspend world state updatedAt with ⟨hsame, -⟩ | ⟨updated, -, hset⟩
        · rw [hsame]
        · rw [hset, totalOf_set_ne summaryRow_ne_recordRow.symm]

theorem summaryRow_inj {tenantId' yearMonth' : String}
    (h : summaryRow settings tenantId yearMonth = summaryRow settings tenantId' yearMonth') :
    tenantId = tenantId' ∧ yearMonth = yearMonth' := by
  simpa [summaryRow, tenantPk] using h

/-- What an addition sends is its day. -/
theorem sentValue_add (hnumber : ∀ n : Int, number (.int n) = n) {lastUpdated : String}
    {day : DayUsage lib} :
    sentValue number ":di" (addRequest lib settings tenantId yearMonth lastUpdated day) = day.input ∧
    sentValue number ":do" (addRequest lib settings tenantId yearMonth lastUpdated day) = day.output ∧
    sentValue number ":dc" (addRequest lib settings tenantId yearMonth lastUpdated day) =
      number (lib.decimal (lib.round day.cost 4)) :=
  ⟨hnumber day.input, hnumber day.output, rfl⟩

/-- An addition to the month is the usage of one of its days; other calls add nothing to it. -/
theorem addedBy_call (hsettings : settingsOf py = .ok settings) (hnumber : ∀ n : Int, number (.int n) = n)
    (hcall : writer.Adds dynamo lib settings tables py past e)
    (htold : ∀ answered ∈ past, TruthTold dynamo settings tables answered) (answer : e.Reply) :
    (∀ value, addedBy number settings tenantId yearMonth value ⟨e, answer⟩ = 0) ∨
    ∃ date day, yearMonthOf date.date = yearMonth ∧ IsUsage lib settings tables tenantId date day ∧
      addedBy number settings tenantId yearMonth ":di" ⟨e, answer⟩ = day.input ∧
      addedBy number settings tenantId yearMonth ":do" ⟨e, answer⟩ = day.output ∧
      addedBy number settings tenantId yearMonth ":dc" ⟨e, answer⟩ =
        number (lib.decimal (lib.round day.cost 4)) := by
  cases writer with
  | api request =>
    refine .inl fun value => ?_
    cases hcall with
    | now => rfl
    | random source => rfl
    | service client operation kwargs => rfl
    | get key => exact addedBy_of_not (fun h => by cases h.1) _
    | put creates active absent => exact addedBy_of_not (fun h => by cases h.1) _
    | set sets => exact addedBy_of_not (not_updates_set hsettings) _
  | billing event =>
    cases hcall with
    | other call updates =>
      refine .inl fun value => ?_
      cases e with
      | db r => exact addedBy_of_not (updates _ _ r rfl) _
      | now => rfl
      | random source => rfl
      | service client operation kwargs => rfl
    | @add tenant month lastUpdated day usage =>
      by_cases hrow : summaryRow settings tenant month = summaryRow settings tenantId yearMonth
      · cases answer with
        | error fault => exact .inl fun value => rfl
        | ok row =>
          obtain ⟨rfl, rfl⟩ := summaryRow_inj hrow
          obtain ⟨date, hmonth, husage⟩ := usage htold
          have hadded (value : String) : addedBy number settings tenant month value
              ⟨.db (addRequest lib settings tenant month lastUpdated day), .ok row⟩ =
              sentValue number value (addRequest lib settings tenant month lastUpdated day) :=
            if_pos (updates_add.mpr rfl)
          have hsent := @sentValue_add lib settings tenant month number hnumber lastUpdated day
          refine .inr ⟨date, day, hmonth, husage, ?_⟩
          rw [hadded, hadded, hadded]
          exact hsent
      · exact .inl fun value => addedBy_of_not (fun h => hrow (updates_add.mp h)) _

/-- **The totals of a month add up**, in every interleaving of the writers: a total is what it was with
    all that was added to it, and each addition is what the tenant's invocations of one of the month's days
    come to, the cost as Python computes and rounds it. -/
theorem month_totals_add_up (hsettings : settingsOf py = .ok settings)
    (hseparate : settings.invocationsTable ≠ settings.tenantsTable)
    (hnumber : ∀ n : Int, number (.int n) = n) (hadds : AddsDays world.dynamo lib number settings)
    (hkeyed : state.1.Keyed) (moves : List (Move RecordWriter)) (tenantId yearMonth : String) :
    let step := Interleaving.step (RecordWriter.program py lib) world.serve
    (∀ field value, (field, value) ∈ summaryFields →
      amountOf number (totalOf settings tenantId yearMonth field
          (Runs.final step (Pool.initial state) moves).services.1) =
        amountOf number (totalOf settings tenantId yearMonth field state.1) +
          ((Runs.trace step (Pool.initial state) moves).map fun m =>
            m.response.elim 0 (addedBy number settings tenantId yearMonth value)).sum) ∧
    ∀ m ∈ Runs.trace step (Pool.initial state) moves, ∀ answered, m.response = some answered →
      (∀ value, addedBy number settings tenantId yearMonth value answered = 0) ∨
      ∃ date day, yearMonthOf date.date = yearMonth ∧ IsUsage lib settings state.1 tenantId date day ∧
        addedBy number settings tenantId yearMonth ":di" answered = day.input ∧
        addedBy number settings tenantId yearMonth ":do" answered = day.output ∧
        addedBy number settings tenantId yearMonth ":dc" answered =
          number (lib.decimal (lib.round day.cost 4)) := by
  intro step
  have hprogram := @traced_adds py lib settings world.dynamo state.1 hsettings hkeyed
  refine ⟨fun field value hfield => ?_, fun m hm answered hanswered => ?_⟩
  -- A total is a measure of the state that each call moves by what it adds.
  · have hcall (writer : RecordWriter) (past : Past) (e : Effect) (services : Tables × τ)
        (hcall : writer.Adds world.dynamo lib settings state.1 py past e) (_ : True) :
        True ∧ amountOf number (totalOf settings tenantId yearMonth field
            (world.serve services e).2.1) =
          amountOf number (totalOf settings tenantId yearMonth field services.1) +
            addedBy number settings tenantId yearMonth value ⟨e, (world.serve services e).1⟩ :=
      ⟨trivial, amountOf_serve hsettings hadds hfield hcall⟩
    exact (measure_run (fun _ => True)
      (fun services : Tables × τ =>
        amountOf number (totalOf settings tenantId yearMonth field services.1))
      (addedBy number settings tenantId yearMonth value) hprogram hcall trivial moves).2
  -- No writer touches the invocations, so a page that was read is still what the table holds.
  · have hcall (writer : RecordWriter) (past : Past) (e : Effect) (services : Tables × τ)
        (hcall : writer.Adds world.dynamo lib settings state.1 py past e)
        (hkept : Table.Agree (fun key : RowKey => key.table = settings.invocationsTable)
          services.1 state.1) :
        Table.Agree (fun key : RowKey => key.table = settings.invocationsTable)
          (world.serve services e).2.1 state.1 ∧
        TruthTold world.dynamo settings state.1 ⟨e, (world.serve services e).1⟩ :=
      ⟨(serve_invocations hsettings hseparate hcall).trans hkept, truthTold_serve hkept e⟩
    obtain ⟨hpool, hkept⟩ := (kept_run _ _ hprogram hcall (Table.Agree.refl _ _) moves).1 m hm
    rw [Runs.response_of_mem_trace hm] at hanswered
    rcases step_cases (RecordWriter.program py lib) world.serve m.before m.event with
      hstep | ⟨request, -, hstep⟩ | ⟨i, thread, e, next, -, hcalls, hstep⟩
    · simp only [step, hstep] at hanswered
      cases hanswered
    · simp only [step, hstep] at hanswered
      cases hanswered
    · simp only [step, hstep] at hanswered
      cases hanswered
      exact addedBy_call hsettings hnumber (hpool.call hcalls).1
        (hkept.past thread (List.mem_of_getElem? hcalls.running)) _

end

/-! ## Two runs for one day -/

/-- A decimal that is kept as a fraction. -/
def fractionOf : Val → ℚ
  | .int n => n
  | .list [.int n, .int d] => n / d
  | _ => 0

/-- What an `ADD` makes of a summary: each total with the value that is sent for it. -/
def addedTo (kwargs : Dict String Arg) (row : Items) : Items :=
  row.merge (summaryFields.map fun (field, value) => (field, januaryLibrary.decimal
    (amountOf fractionOf (row.lookup field) + sentValue fractionOf value ⟨.updateItem, "", kwargs⟩)))

/-- A DynamoDB that adds to a summary, and sets the attributes of a record. -/
def ledgerRows : Dynamo :=
  { billingRows with
    update := fun kwargs row => match kwargs.get? "ExpressionAttributeNames" with
      | none => .ok (addedTo kwargs row)
      | some _ => billingRows.update kwargs row }

theorem ledgerRows_addsDays : AddsDays ledgerRows januaryLibrary fractionOf billingSettings := by
  intro tenantId yearMonth lastUpdated day row updated hupdate field value hfield
  have hrow : ledgerRows.update (addRequest januaryLibrary billingSettings tenantId yearMonth
      lastUpdated day).kwargs row = .ok (addedTo (addRequest januaryLibrary
        billingSettings tenantId yearMonth lastUpdated day).kwargs row) := rfl
  cases hrow.symm.trans hupdate
  have hlookup : (addedTo (addRequest januaryLibrary billingSettings tenantId yearMonth
      lastUpdated day).kwargs row).lookup field = some (januaryLibrary.decimal
        (amountOf fractionOf (row.lookup field) + sentValue fractionOf value
          (addRequest januaryLibrary billingSettings tenantId yearMonth lastUpdated day))) := by
    refine Items.lookup_merge_of_mem row ?_ (List.mem_map_of_mem hfield)
    rw [List.map_map]
    exact (by decide : (summaryFields.map Prod.fst).Nodup)
  rw [hlookup]
  exact Rat.num_div_den _

theorem overspent_keyed : overspent.Keyed := by
  intro key attributes h
  simp only [overspent, Dict.get?_set] at h
  split at h
  · rename_i hkey
    rw [hkey]
    exact ⟨by simp, by simp⟩
  · split at h
    · rename_i hkey
      rw [hkey]
      exact ⟨by simp, by simp⟩
    · cases h

/-- Two runs for the last day of January, the second after the first. -/
def dayTwice : List (Move RecordWriter) :=
  .start (.billing [("date", .str "2026-01-31")]) :: .start (.billing [("date", .str "2026-01-31")]) ::
    (List.replicate 9 (.advance 0) ++ List.replicate 7 (.advance 1))

/-- The day is added twice. -/
theorem dayTwice_adds_up :
    let step := Interleaving.step (RecordWriter.program billingPython januaryLibrary)
      (priced ledgerRows).serve
    let total (field : String) (tables : Tables) :=
      amountOf fractionOf (totalOf billingSettings "acme" "2026-01" field tables)
    (total "totalInputTokens" (Runs.final step (Pool.initial (overspent, ())) dayTwice).services.1 =
        10000 ∧
      total "totalCostUsd" (Runs.final step (Pool.initial (overspent, ())) dayTwice).services.1 = 14) ∧
    (∀ field value, (field, value) ∈ summaryFields →
      total field (Runs.final step (Pool.initial (overspent, ())) dayTwice).services.1 =
        total field overspent +
          ((Runs.trace step (Pool.initial (overspent, ())) dayTwice).map fun m =>
            m.response.elim 0 (addedBy fractionOf billingSettings "acme" "2026-01" value)).sum) ∧
    ∀ m ∈ Runs.trace step (Pool.initial (overspent, ())) dayTwice, ∀ answered,
      m.response = some answered →
      (∀ value, addedBy fractionOf billingSettings "acme" "2026-01" value answered = 0) ∨
      ∃ date day, yearMonthOf date.date = "2026-01" ∧
        IsUsage januaryLibrary billingSettings overspent "acme" date day ∧
        addedBy fractionOf billingSettings "acme" "2026-01" ":di" answered = day.input ∧
        addedBy fractionOf billingSettings "acme" "2026-01" ":do" answered = day.output ∧
        addedBy fractionOf billingSettings "acme" "2026-01" ":dc" answered =
          fractionOf (januaryLibrary.decimal (januaryLibrary.round day.cost 4)) :=
  ⟨by decide +kernel, @month_totals_add_up billingPython januaryLibrary billingSettings Unit
    (priced ledgerRows) (overspent, ()) fractionOf rfl (by decide) (fun _ => rfl) ledgerRows_addsDays
    overspent_keyed dayTwice "acme" "2026-01"⟩

end A5cCell.Billing
