import A5cCell.DataAccess.Pages
import A5cCell.DataAccess.Rows
import A5cCell.TenantApi.Calls
import A5cCell.TenantApi.Invites
import A5cCell.TenantApi.World

/-!
# The rows of an invite

The lookup row of an email, the invite rows of its tenant, and what the operations of
`handle_invite_user` make of them in a world: each fails and leaves the tables, or does what it says.
-/

namespace A5cCell.TenantApi

open Py (Val Items Dict)
open DataAccess

/-! ## Where the rows are -/

section

variable (py : Python) (invitation : Invitation)

def Invitation.lookupRow : RowKey :=
  ⟨tenantsTableName py, tenantPk invitation.tenantId, "INVITEEMAIL#" ++ invitation.normalizedEmail⟩

/-- The row of an invite, by its id. -/
def Invitation.inviteRow (inviteId : String) : RowKey :=
  ⟨tenantsTableName py, tenantPk invitation.tenantId, "INVITE#" ++ inviteId⟩

theorem Invitation.inviteRow_ne_lookupRow (inviteId : String) :
    invitation.inviteRow py inviteId ≠ invitation.lookupRow py := by
  intro h
  have hsk := congrArg String.toList (congrArg RowKey.sk h)
  simp [Invitation.inviteRow, Invitation.lookupRow] at hsk

variable {py invitation} in
theorem Invitation.inviteRow_inj {inviteId inviteId' : String}
    (h : invitation.inviteRow py inviteId = invitation.inviteRow py inviteId') :
    inviteId = inviteId' := by
  have hsk := congrArg String.toList (congrArg RowKey.sk h)
  simp only [Invitation.inviteRow, String.toList_append, List.append_cancel_left_eq] at hsk
  exact String.toList_inj.mp hsk

end

/-- A row of a tenant, and what names it. -/
theorem tenantPk_ne (tenantId : String) : tenantPk tenantId ≠ "" := by
  simp [tenantPk, tenantPkPrefix]

theorem key?_tenantRow (table tenantId : String) {sk : String} (hsk : sk ≠ "") :
    Arg.key? table (.val (.dict [("PK", .str (tenantPk tenantId)), ("SK", .str sk)])) =
      some ⟨table, tenantPk tenantId, sk⟩ :=
  @Dynamo.key?_item ⟨table, tenantPk tenantId, sk⟩ (tenantPk_ne tenantId) hsk

theorem validatePk_tenantRow (tenantId : String) (rest : Items) :
    (Client.tenantScoped tenantId).validatePk (("PK", .str (tenantPk tenantId)) :: rest) = .ok () := by
  simp [Client.validatePk, Items.get, isForeignPk, tenantPk]

/-! ## What an outcome of a notification sets -/

/-- What is recorded of a notification, and when. -/
inductive Notified where
  | sent (time : String)
  | failed (errorCode time : String)

namespace Notified

def status : Notified → String
  | sent _ => "sent"
  | failed .. => "failed"

def expression : Notified → String
  | sent _ => "SET notificationStatus = :status, notificationError = :error, " ++
      "notifiedAt = :notified_at, updatedAt = :updated_at"
  | failed .. => "SET notificationStatus = :status, notificationError = :error, " ++
      "notificationFailedAt = :failed_at, updatedAt = :updated_at"

def values : Notified → Items
  | sent time => [(":status", .str "sent"), (":error", .none), (":notified_at", .str time),
      (":updated_at", .str time)]
  | failed errorCode time => [(":status", .str "failed"), (":error", .str errorCode),
      (":failed_at", .str time), (":updated_at", .str time)]

/-- What the expression sets of a row. -/
def attributes : Notified → Items
  | sent time => [("notificationStatus", .str "sent"), ("notificationError", .none),
      ("notifiedAt", .str time), ("updatedAt", .str time)]
  | failed errorCode time => [("notificationStatus", .str "failed"),
      ("notificationError", .str errorCode), ("notificationFailedAt", .str time),
      ("updatedAt", .str time)]

theorem mem_status (notified : Notified) :
    ("notificationStatus", Val.str notified.status) ∈ notified.attributes := by
  cases notified <;> exact List.mem_cons_self

theorem nodup_attributes (notified : Notified) : (notified.attributes.map Prod.fst).Nodup := by
  cases notified with
  | sent time =>
    show ["notificationStatus", "notificationError", "notifiedAt", "updatedAt"].Nodup
    decide
  | failed errorCode time =>
    show ["notificationStatus", "notificationError", "notificationFailedAt", "updatedAt"].Nodup
    decide

end Notified

/-! ## The requests -/

/-- A put of a row that must be new. -/
def putNewRequest (table : String) (item : Items) : Request :=
  ⟨.putItem, table, (noKwargs.set "Item" (.val (.dict item))).set
    "ConditionExpression" (.val (.str "attribute_not_exists(PK)"))⟩

/-- An update of a row that must be there. -/
def recordRequest (table : String) (key : Items) (notified : Notified) : Request :=
  ⟨.updateItem, table, ((((noKwargs.set "Key" (.val (.dict key))).set
    "UpdateExpression" (.val (.str notified.expression))).set
    "ExpressionAttributeValues" (.val (.dict notified.values))).set
    "ReturnValues" (.val (.str "ALL_NEW"))).set
    "ConditionExpression" (.val (.str "attribute_exists(PK)"))⟩

def deleteRequest (table : String) (key : Items) : Request :=
  ⟨.deleteItem, table, noKwargs.set "Key" (.val (.dict key))⟩

section

variable (table tenantId : String) (rest : Items)

theorem getItem_tenantRow : (Client.tenantScoped tenantId).getItem table
    (("PK", .str (tenantPk tenantId)) :: rest) =
      issue (getRequest table (("PK", .str (tenantPk tenantId)) :: rest)) := by
  unfold Client.getItem
  rw [validatePk_tenantRow]
  rfl

theorem putItem_tenantRow : (Client.tenantScoped tenantId).putItem table
    (("PK", .str (tenantPk tenantId)) :: rest) notExists =
      issue (putNewRequest table (("PK", .str (tenantPk tenantId)) :: rest)) := by
  unfold Client.putItem
  rw [validatePk_tenantRow]
  rfl

theorem updateItem_tenantRow (notified : Notified) : (Client.tenantScoped tenantId).updateItem table
    (("PK", .str (tenantPk tenantId)) :: rest) notified.expression notified.values none doesExist =
      issue (recordRequest table (("PK", .str (tenantPk tenantId)) :: rest) notified) := by
  unfold Client.updateItem
  rw [validatePk_tenantRow]
  rfl

theorem deleteItem_tenantRow : (Client.tenantScoped tenantId).deleteItem table
    (("PK", .str (tenantPk tenantId)) :: rest) =
      issue (deleteRequest table (("PK", .str (tenantPk tenantId)) :: rest)) := by
  unfold Client.deleteItem
  rw [validatePk_tenantRow]
  rfl

end

/-! ## What DynamoDB makes of the expressions -/

/-- What an update left of a row's attributes: those of the outcome are set, and the others are as they
    were. -/
def Records (notified : Notified) (attributes attributes' : Items) : Prop :=
  (∀ field, IsAttribute field →
    attributes'.lookup field = (Items.merge attributes notified.attributes).lookup field) ∧
  ∀ kv ∈ attributes', kv ∈ attributes ∨ kv ∈ notified.attributes

/-- DynamoDB does what the expressions of an invite say. -/
structure InviteExpressions (dynamo : Dynamo) : Prop where
  notExists : ∀ (kwargs : Dict String Arg) (row : Items),
    kwargs.get? "ConditionExpression" = some (.val (.str "attribute_not_exists(PK)")) →
    dynamo.holds "ConditionExpression" kwargs row = !row.has "PK"
  doesExist : ∀ (kwargs : Dict String Arg) (row : Items),
    kwargs.get? "ConditionExpression" = some (.val (.str "attribute_exists(PK)")) →
    dynamo.holds "ConditionExpression" kwargs row = row.has "PK"
  records : ∀ (table : String) (key : Items) (notified : Notified) (row : Items),
    ∃ updated, dynamo.update (recordRequest table key notified).kwargs row = .ok updated ∧
      (∀ field, IsAttribute field →
        updated.lookup field = (Items.merge row notified.attributes).lookup field) ∧
      ∀ kv ∈ updated, kv ∈ row ∨ kv ∈ notified.attributes

section

variable {dynamo : Dynamo} (hdynamo : InviteExpressions dynamo) (tables : Tables)
  (table tenantId : String) {sk : String} (hsk : sk ≠ "")

include hsk

theorem serve_getRow : dynamo.serve tables
    (getRequest table [("PK", .str (tenantPk tenantId)), ("SK", .str sk)]) =
      (.ok ((tables.get? ⟨table, tenantPk tenantId, sk⟩).map (RowKey.row ⟨table, tenantPk tenantId, sk⟩)),
        tables) := by
  have hget : (getRequest table [("PK", .str (tenantPk tenantId)), ("SK", .str sk)]).kwargs.get? "Key" =
      some (.val (.dict [("PK", .str (tenantPk tenantId)), ("SK", .str sk)])) := rfl
  simp only [getRequest, Dynamo.serve] at hget ⊢
  simp only [hget, Option.bind_some, key?_tenantRow table tenantId hsk]

theorem serve_deleteRow : dynamo.serve tables
    (deleteRequest table [("PK", .str (tenantPk tenantId)), ("SK", .str sk)]) =
      (.ok (), tables.erase ⟨table, tenantPk tenantId, sk⟩) := by
  have hget : (deleteRequest table [("PK", .str (tenantPk tenantId)), ("SK", .str sk)]).kwargs.get?
      "Key" = some (.val (.dict [("PK", .str (tenantPk tenantId)), ("SK", .str sk)])) := rfl
  have hcondition (row : Option Items) : dynamo.conditionHolds
      (deleteRequest table [("PK", .str (tenantPk tenantId)), ("SK", .str sk)]).kwargs row = true := rfl
  simp only [deleteRequest, Dynamo.serve] at hget hcondition ⊢
  simp only [hget, Option.bind_some, key?_tenantRow table tenantId hsk, hcondition, if_true]

include hdynamo

/-- A row that is not there is put. -/
theorem serve_putNew (rest : Items) (hnew : tables.get? ⟨table, tenantPk tenantId, sk⟩ = none) :
    dynamo.serve tables
      (putNewRequest table (("PK", .str (tenantPk tenantId)) :: ("SK", .str sk) :: rest)) =
    (.ok (), tables.set ⟨table, tenantPk tenantId, sk⟩ (attributesOf rest)) := by
  have hget : (putNewRequest table (("PK", .str (tenantPk tenantId)) :: ("SK", .str sk) :: rest)).kwargs.get?
      "Item" = some (.val (.dict (("PK", .str (tenantPk tenantId)) :: ("SK", .str sk) :: rest))) := by
    simp [putNewRequest, Dict.get?_set]
  have hitem : Arg.item? table
      (.val (.dict (("PK", .str (tenantPk tenantId)) :: ("SK", .str sk) :: rest))) =
      some (⟨table, tenantPk tenantId, sk⟩, attributesOf rest) := by
    have hpk : textOf (("PK", .str (tenantPk tenantId)) :: ("SK", .str sk) :: rest) "PK" =
        some (tenantPk tenantId) := rfl
    have hskText : textOf (("PK", .str (tenantPk tenantId)) :: ("SK", .str sk) :: rest) "SK" =
        some sk := rfl
    have hne : ¬ (tenantPk tenantId = "" ∨ sk = "") := not_or.mpr ⟨tenantPk_ne tenantId, hsk⟩
    simp only [Arg.item?, Val.asDict?_dict, Option.bind_some, keyOf?, hpk, hskText, if_neg hne]
    rfl
  have hcondition : dynamo.conditionHolds
      (putNewRequest table (("PK", .str (tenantPk tenantId)) :: ("SK", .str sk) :: rest)).kwargs
      none = true := by
    have hexpression : (putNewRequest table
        (("PK", .str (tenantPk tenantId)) :: ("SK", .str sk) :: rest)).kwargs.get?
        "ConditionExpression" = some (.val (.str "attribute_not_exists(PK)")) := by
      simp [putNewRequest]
    unfold Dynamo.conditionHolds Dynamo.selects
    rw [hexpression]
    exact hdynamo.notExists _ _ hexpression
  simp only [putNewRequest, Dynamo.serve] at hget hcondition ⊢
  simp only [hget, Option.bind_some, hitem, hnew, Option.map_none, hcondition, if_true]

/-- A row that is there is updated, and another one is not. -/
theorem serve_record (notified : Notified) :
    (tables.get? ⟨table, tenantPk tenantId, sk⟩ = none ∧ dynamo.serve tables
      (recordRequest table [("PK", .str (tenantPk tenantId)), ("SK", .str sk)] notified) =
        (.error Dynamo.conditionalCheckFailed, tables)) ∨
    ∃ attributes attributes' answer, tables.get? ⟨table, tenantPk tenantId, sk⟩ = some attributes ∧
      Records notified attributes attributes' ∧ dynamo.serve tables
        (recordRequest table [("PK", .str (tenantPk tenantId)), ("SK", .str sk)] notified) =
          (.ok answer, tables.set ⟨table, tenantPk tenantId, sk⟩ attributes') := by
  have hget : (recordRequest table [("PK", .str (tenantPk tenantId)), ("SK", .str sk)]
      notified).kwargs.get? "Key" =
        some (.val (.dict [("PK", .str (tenantPk tenantId)), ("SK", .str sk)])) := by
    simp [recordRequest, Dict.get?_set]
  have hcondition (row : Option Items) : dynamo.conditionHolds
      (recordRequest table [("PK", .str (tenantPk tenantId)), ("SK", .str sk)] notified).kwargs row =
        (row.getD []).has "PK" := by
    have hexpression : (recordRequest table [("PK", .str (tenantPk tenantId)), ("SK", .str sk)]
        notified).kwargs.get? "ConditionExpression" =
          some (.val (.str "attribute_exists(PK)")) := by
      simp [recordRequest]
    unfold Dynamo.conditionHolds Dynamo.selects
    rw [hexpression]
    exact hdynamo.doesExist _ _ hexpression
  cases hrow : tables.get? ⟨table, tenantPk tenantId, sk⟩ with
  | none =>
    refine .inl ⟨rfl, ?_⟩
    simp only [recordRequest, Dynamo.serve] at hget hcondition ⊢
    simp [hget, key?_tenantRow table tenantId hsk, hrow, hcondition, Items.has]
  | some attributes =>
    obtain ⟨updated, hupdate, hlookup, hmem⟩ := hdynamo.records table
      [("PK", .str (tenantPk tenantId)), ("SK", .str sk)] notified
      (RowKey.row ⟨table, tenantPk tenantId, sk⟩ attributes)
    refine .inr ⟨attributes, attributesOf updated, [("Attributes", .dict
      (RowKey.row ⟨table, tenantPk tenantId, sk⟩ (attributesOf updated)))], rfl,
      ⟨fun field hfield => ?_, fun kv hkv => ?_⟩, ?_⟩
    · rw [lookup_attributesOf hfield, hlookup field hfield]
      exact Items.lookup_merge_congr _ (lookup_row hfield _ _)
    · obtain ⟨hin, hname⟩ := List.mem_filter.mp hkv
      rcases hmem kv hin with hrowMem | hset
      · rcases List.mem_append.mp hrowMem with hkey | hattribute
        · simp only [RowKey.item, List.mem_cons, List.not_mem_nil, or_false] at hkey
          rcases hkey with rfl | rfl <;> simp at hname
        · exact .inl hattribute
      · exact .inr hset
    · have hhas : Items.has (RowKey.row ⟨table, tenantPk tenantId, sk⟩ attributes) "PK" = true := rfl
      simp only [recordRequest, Dynamo.serve] at hget hcondition hupdate ⊢
      simp only [hget, Option.bind_some, key?_tenantRow table tenantId hsk, hrow, Option.map_some,
        hcondition, Option.getD_some, hhas, if_true, hupdate]

end

/-! ## What a program makes of the tables -/

/-- Whatever state the world is in, a run from the tables leaves tables that meet `Inv`, whether it
    returns or raises; and what it returns, the tables it leaves and its calls meet `Q`. -/
def Upholds {τ α : Type} (world : World τ) (tables : Tables) (p : Api α) (Inv : Tables → Prop)
    (Q : α → Tables → List Effect → Prop) : Prop :=
  ∀ w, Prog.Ends world.serve (tables, w) p (fun state => Inv state.1) fun a state calls =>
    Q a state.1 calls

section

variable {τ α β : Type} {world : World τ} {tables : Tables} {p : Api α} {Inv : Tables → Prop}
  {Q Q' : α → Tables → List Effect → Prop} {R : β → Tables → List Effect → Prop}

theorem upholds_pure {a : α} (hinv : Inv tables) (ha : Q a tables []) :
    Upholds world tables (pure a) Inv Q := fun _ => Prog.ends_pure hinv ha

theorem upholds_raise {exc : Exc} (hinv : Inv tables) :
    Upholds world tables (.raise exc : Api α) Inv Q := fun _ => Prog.ends_raise hinv

theorem Upholds.mono (hp : Upholds world tables p Inv Q) (h : ∀ a tables calls, Q a tables calls →
    Q' a tables calls) : Upholds world tables p Inv Q' :=
  fun w => (hp w).mono fun a state calls => h a state.1 calls

/-- **Sequencing.** -/
theorem Upholds.bind {f : α → Api β} (hp : Upholds world tables p Inv Q)
    (hf : ∀ a tables' calls, Inv tables' → Q a tables' calls →
      Upholds world tables' (f a) Inv fun b tables'' calls' => R b tables'' (calls ++ calls')) :
    Upholds world tables (p >>= f) Inv R :=
  fun w => (hp w).bind fun a state calls hinv ha => hf a state.1 calls hinv ha state.2

theorem Upholds.map {f : α → β} (hp : Upholds world tables p Inv fun a tables' calls => R (f a) tables' calls) :
    Upholds world tables (f <$> p) Inv R := by
  show Upholds world tables (p >>= fun a => pure (f a)) Inv R
  refine Upholds.bind hp fun a tables' calls hinv ha => upholds_pure hinv ?_
  rw [List.append_nil]
  exact ha

/-- A check goes on where it passes. -/
theorem Upholds.check {e : Except Exc α} {f : α → Api β} (hinv : Inv tables)
    (hf : ∀ a, e = .ok a → Upholds world tables (f a) Inv R) :
    Upholds world tables (Api.ofExcept e >>= f) Inv R := by
  cases e with
  | ok a => exact hf a rfl
  | error exc => exact upholds_raise hinv

theorem upholds_now (hinv : Inv tables) : Upholds world tables Api.now Inv fun now tables' _ =>
    tables' = tables ∧ ∃ w, now = world.now w := by
  intro w
  refine ⟨hinv, fun now hnow => ?_⟩
  cases hnow
  exact ⟨rfl, w, rfl⟩

theorem upholds_random {source : String} (hinv : Inv tables) :
    Upholds world tables (Api.random source) Inv fun text tables' _ =>
      tables' = tables ∧ ∃ w, text = world.random w source := by
  intro w
  refine ⟨hinv, fun text htext => ?_⟩
  cases htext
  exact ⟨rfl, w, rfl⟩

/-- An attempt at a service. -/
theorem upholds_service_attempt {client operation : String} {kwargs : Items} (hinv : Inv tables) :
    Upholds world tables (Api.service client operation kwargs).attempt Inv fun _ tables' calls =>
      tables' = tables ∧ .service client operation kwargs ∈ calls := by
  intro w
  obtain ⟨hfinal, hcalls⟩ :
      (Prog.run world.serve (tables, w) (Api.service client operation kwargs)).final.1 = tables ∧
      Effect.service client operation kwargs ∈
        (Prog.run world.serve (tables, w) (Api.service client operation kwargs)).calls := by
    simp only [Api.service, Prog.run, World.serve]
    cases world.service w client operation kwargs <;> exact ⟨rfl, List.mem_cons_self⟩
  exact Prog.ends_attempt (hfinal.symm ▸ hinv) ⟨hfinal, hcalls⟩

/-- One request: what it is answered is what it comes to. -/
theorem run_dynamodb_issue (world : World τ) (tables : Tables) (w : τ) (r : Request) :
    Prog.run world.serve (tables, w) (Api.dynamodb (issue r)) =
      ⟨(world.serve (tables, w) (.db r)).1.mapError Fault.exc, (world.serve (tables, w) (.db r)).2,
        [.db r]⟩ := by
  show Prog.run world.serve (tables, w) (.call (.db r) _) = _
  simp only [Prog.run]
  rcases world.serve (tables, w) (.db r) with ⟨_ | value, state⟩ <;> rfl

/-- One request to DynamoDB fails, or is served. -/
theorem upholds_issue {r : Request} {Q : r.operation.Answer → Tables → List Effect → Prop}
    (hinv : Inv tables) (hrefused : ∀ fault tables',
      world.dynamo.serve tables r = (.error fault, tables') → Inv tables')
    (hserved : ∀ value tables', world.dynamo.serve tables r = (.ok value, tables') →
      Inv tables' ∧ Q value tables' [.db r]) :
    Upholds world tables (Api.dynamodb (issue r)) Inv Q := by
  intro w
  unfold Prog.Ends
  rw [run_dynamodb_issue]
  simp only [World.serve]
  cases world.fault w r with
  | some fault =>
    refine ⟨hinv, fun value hvalue => ?_⟩
    cases hvalue
  | none =>
    rcases hserve : world.dynamo.serve tables r with ⟨fault | value, tables'⟩
    · refine ⟨hrefused fault tables' hserve, fun value hvalue => ?_⟩
      cases hvalue
    · refine ⟨(hserved value tables' hserve).1, fun value' hvalue => ?_⟩
      cases hvalue
      exact (hserved value tables' hserve).2

/-- An attempt at a request that DynamoDB serves. -/
theorem upholds_issue_attempt {r : Request} {value : r.operation.Answer} {tables' : Tables}
    {Q : Except Exc r.operation.Answer → Tables → List Effect → Prop}
    (hserve : world.dynamo.serve tables r = (.ok value, tables')) (hinv : Inv tables)
    (hinv' : Inv tables') (hserved : Q (.ok value) tables' [.db r])
    (hfault : ∀ w fault, world.fault w r = some fault → Q (.error fault.exc) tables [.db r]) :
    Upholds world tables (Api.dynamodb (issue r)).attempt Inv Q := by
  intro w
  refine Prog.ends_attempt ?_ ?_
  · rw [run_dynamodb_issue]
    simp only [World.serve]
    cases world.fault w r with
    | some fault => exact hinv
    | none =>
      rw [hserve]
      exact hinv'
  · rw [run_dynamodb_issue]
    simp only [World.serve]
    cases hw : world.fault w r with
    | some fault => exact hfault w fault hw
    | none =>
      rw [hserve]
      exact hserved

end

/-! ## The operations on the rows -/

/-- No fault is that of a condition, which is DynamoDB's to decide. -/
def PlainFaults {τ : Type} (world : World τ) : Prop :=
  ∀ w r, world.fault w r ≠ some Dynamo.conditionalCheckFailed

section

variable {τ : Type} {world : World τ} (hdynamo : InviteExpressions world.dynamo) {tables : Tables}
  {Inv : Tables → Prop} (table tenantId : String) {sk : String} (hsk : sk ≠ "") (hinv : Inv tables)

include hsk hinv

theorem upholds_readRow : Upholds world tables (Api.dynamodb ((Client.tenantScoped tenantId).getItem table
    [("PK", .str (tenantPk tenantId)), ("SK", .str sk)])) Inv fun row tables' _ =>
      tables' = tables ∧ row = (tables.get? ⟨table, tenantPk tenantId, sk⟩).map
        (RowKey.row ⟨table, tenantPk tenantId, sk⟩) := by
  rw [getItem_tenantRow]
  refine upholds_issue hinv (fun fault tables' h => ?_) fun row tables' h => ?_
  · rw [serve_getRow tables table tenantId hsk] at h
    cases h
  · rw [serve_getRow tables table tenantId hsk] at h
    cases h
    exact ⟨hinv, rfl, rfl⟩

theorem upholds_deleteRow (herased : Inv (tables.erase ⟨table, tenantPk tenantId, sk⟩)) :
    Upholds world tables (Api.dynamodb ((Client.tenantScoped tenantId).deleteItem table
      [("PK", .str (tenantPk tenantId)), ("SK", .str sk)])) Inv fun _ tables' _ =>
        tables' = tables.erase ⟨table, tenantPk tenantId, sk⟩ := by
  rw [deleteItem_tenantRow]
  refine upholds_issue hinv (fun fault tables' h => ?_) fun _ tables' h => ?_
  · rw [serve_deleteRow tables table tenantId hsk] at h
    cases h
  · rw [serve_deleteRow tables table tenantId hsk] at h
    cases h
    exact ⟨herased, rfl⟩

include hdynamo

/-- An update of a row that is there. -/
theorem upholds_recordRow (notified : Notified) (hset : ∀ attributes attributes',
    tables.get? ⟨table, tenantPk tenantId, sk⟩ = some attributes →
    Records notified attributes attributes' →
    Inv (tables.set ⟨table, tenantPk tenantId, sk⟩ attributes')) :
    Upholds world tables (Api.dynamodb ((Client.tenantScoped tenantId).updateItem table
      [("PK", .str (tenantPk tenantId)), ("SK", .str sk)] notified.expression notified.values none
      doesExist)) Inv fun _ tables' _ => ∃ attributes attributes',
        tables.get? ⟨table, tenantPk tenantId, sk⟩ = some attributes ∧
        Records notified attributes attributes' ∧
        tables' = tables.set ⟨table, tenantPk tenantId, sk⟩ attributes' := by
  rw [updateItem_tenantRow]
  have hserve := serve_record hdynamo tables table tenantId hsk notified
  refine upholds_issue hinv (fun fault tables' h => ?_) fun answer tables' h => ?_
  · rcases hserve with ⟨-, hserve⟩ | ⟨attributes, attributes', answer, -, -, hserve⟩
    · rw [hserve] at h
      cases h
      exact hinv
    · rw [hserve] at h
      cases h
  · rcases hserve with ⟨-, hserve⟩ | ⟨attributes, attributes', answer, hrow, hrecords, hserve⟩
    · rw [hserve] at h
      cases h
    · rw [hserve] at h
      cases h
      exact ⟨hset attributes attributes' hrow hrecords, attributes, attributes', hrow, hrecords, rfl⟩

/-- A put of a row that is new is made, or fails for another reason than its condition. -/
theorem upholds_putNew_attempt (hplain : PlainFaults world) (rest : Items)
    (hnew : tables.get? ⟨table, tenantPk tenantId, sk⟩ = none)
    (hset : Inv (tables.set ⟨table, tenantPk tenantId, sk⟩ (attributesOf rest))) :
    Upholds world tables (Api.dynamodb ((Client.tenantScoped tenantId).putItem table
      (("PK", .str (tenantPk tenantId)) :: ("SK", .str sk) :: rest) notExists)).attempt Inv
      fun result tables' _ =>
        (result = .ok () ∧ tables' = tables.set ⟨table, tenantPk tenantId, sk⟩ (attributesOf rest)) ∨
        ∃ exc, result = .error exc ∧ isConditionalFailure exc = false ∧ tables' = tables := by
  rw [putItem_tenantRow]
  refine upholds_issue_attempt (serve_putNew hdynamo tables table tenantId hsk rest hnew) hinv hset
    (.inl ⟨rfl, rfl⟩) fun w fault hfault => .inr ⟨fault.exc, rfl, decide_eq_false fun hexc => ?_, rfl⟩
  cases fault with
  | clientError code =>
    cases hexc
    exact hplain w _ hfault
  | botoCoreError name => cases hexc

end

end A5cCell.TenantApi
