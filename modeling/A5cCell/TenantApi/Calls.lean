import A5cCell.Lib.Interleaving
import A5cCell.TenantApi.Records

/-!
# The calls of the operations

A handler goes through its operations one after the other, and an exception ends it. Each lemma here
says of one operation which calls it makes, and that the handler goes on from its answer: what is
then left to show of a handler is what its writes meet.
-/

namespace A5cCell.TenantApi

open Py (Val Items Dict)
open DataAccess

/-! ## The requests -/

/-- What `get_item` sends. -/
def getRequest (table : String) (key : Items) : Request :=
  ⟨.getItem, table, noKwargs.set "Key" (.val (.dict key))⟩

/-- What `put_item` sends, without a condition. -/
def putRequest (table : String) (item : Items) : Request :=
  ⟨.putItem, table, noKwargs.set "Item" (.val (.dict item))⟩

/-- What `update_item` sends to set the attributes. -/
def setRequest (table : String) (key attributes : Items) : Request :=
  ⟨.updateItem, table, ((((noKwargs.set "Key" (.val (.dict key))).set
    "UpdateExpression" (.val (.str (buildUpdateExpression attributes).1))).set
    "ExpressionAttributeValues" (.val (.dict (buildUpdateExpression attributes).2.2))).set
    "ReturnValues" (.val (.str "ALL_NEW"))).set
    "ExpressionAttributeNames" (.val (.dict (buildUpdateExpression attributes).2.1))⟩

theorem putRequest_inj {table : String} {item item' : Items}
    (h : putRequest table item = putRequest table item') : item = item' := by
  have hkwargs : noKwargs.set "Item" (.val (.dict item)) = noKwargs.set "Item" (.val (.dict item')) :=
    congrArg Request.kwargs h
  have hitem := congrArg (Dict.get? · "Item") hkwargs
  simpa using hitem

/-- The key of an update is the one it was given. -/
theorem setRequest_inj {table : String} {key key' attributes attributes' : Items}
    (h : setRequest table key attributes = setRequest table key' attributes') : key = key' := by
  have hkey := congrArg (fun r : Request => r.kwargs.get? "Key") h
  simpa [setRequest, Dict.get?_set] using hkey

theorem getItem_eq (client : Client) (table : String) (key : Items) :
    (∃ exc, client.getItem table key = .raise exc) ∨
      client.getItem table key = issue (getRequest table key) := by
  unfold Client.getItem
  cases client.validatePk key with
  | error exc => exact .inl ⟨exc, rfl⟩
  | ok _ => exact .inr rfl

theorem putItem_eq (client : Client) (table : String) (item : Items) :
    (∃ exc, client.putItem table item = .raise exc) ∨
      client.putItem table item = issue (putRequest table item) := by
  unfold Client.putItem
  cases client.validatePk item with
  | error exc => exact .inl ⟨exc, rfl⟩
  | ok _ => exact .inr rfl

theorem setAttributes_eq (client : Client) (table : String) (key attributes : Items) :
    (∃ exc, setAttributes client table key attributes = .raise exc) ∨
      setAttributes client table key attributes =
        (Api.dynamodb (issue (setRequest table key attributes)) >>= fun _ => pure ()) := by
  unfold setAttributes Client.updateItem
  cases client.validatePk key with
  | error exc => exact .inl ⟨exc, rfl⟩
  | ok _ => exact .inr rfl

/-! ## Runs of one operation -/

section

variable {σ α : Type} {serve : σ → (e : Effect) → e.Reply × σ} {s s' : σ}

theorem comesTo_ofExcept (s : σ) (e : Except Exc α) : Prog.ComesTo serve s (Api.ofExcept e) e s := by
  cases e <;> exact ⟨rfl, rfl⟩

theorem comesTo_service {client operation : String} {kwargs : Items} {reply : Except Fault Val}
    (h : serve s (.service client operation kwargs) = (reply, s')) :
    Prog.ComesTo serve s (Api.service client operation kwargs) (reply.mapError Fault.exc) s' := by
  unfold Prog.ComesTo Api.service Prog.run
  rw [h]
  cases reply <;> exact ⟨rfl, rfl⟩

end

/-! ## One operation, and what goes on from it -/

abbrev Past : Type := List (Answered Effect Effect.Reply)

section

variable {α β : Type} {P : Past → Effect → Prop} {R : Past → Except Exc β → Prop} {past : Past}
  {f : α → Api β}

/-- A check makes no call. -/
theorem traced_ofExcept {e : Except Exc α} {Q : Past → Except Exc α → Prop} :
    Prog.Traced P Q past (Api.ofExcept e) ↔ Q past e := by
  cases e <;> exact Iff.rfl

theorem traced_now {f : Instant → Api β} (hP : P past .now)
    (hf : ∀ now, Prog.Traced P R (⟨.now, now⟩ :: past) (f now)) :
    Prog.Traced P R past (Api.now >>= f) := ⟨hP, hf⟩

theorem traced_random {source : String} {f : String → Api β} (hP : P past (.random source))
    (hf : ∀ text, Prog.Traced P R (⟨.random source, text⟩ :: past) (f text)) :
    Prog.Traced P R past (Api.random source >>= f) := ⟨hP, hf⟩

/-- A check that may fail. -/
theorem traced_checked {e : Except Exc α} (hraise : ∀ exc, e = .error exc → R past (.error exc))
    (hf : ∀ a, e = .ok a → Prog.Traced P R past (f a)) :
    Prog.Traced P R past (Api.ofExcept e >>= f) := by
  cases e with
  | ok a => exact hf a rfl
  | error exc => exact hraise exc rfl

/-- A client for the tenant, for a caller who has had one. -/
theorem traced_dbForTenant_allowed {tenantId : String} {caller : CallerIdentity} {f : Client → Api β}
    (h : requireTenantScopeAllowed tenantId caller = .ok ())
    (hf : Prog.Traced P R past (f (.tenantScoped tenantId))) :
    Prog.Traced P R past (dbForTenant tenantId caller >>= f) := by
  unfold dbForTenant
  rw [h]
  exact hf

variable (hraise : ∀ exc, R past (.error exc))

include hraise

theorem traced_check {e : Except Exc α} (hf : ∀ a, e = .ok a → Prog.Traced P R past (f a)) :
    Prog.Traced P R past (Api.ofExcept e >>= f) :=
  traced_checked (fun exc _ => hraise exc) hf

/-- A client for the tenant, where the caller is given one. -/
theorem traced_dbForTenant {tenantId : String} {caller : CallerIdentity} {f : Client → Api β}
    (hf : Prog.Traced P R past (f (.tenantScoped tenantId))) :
    Prog.Traced P R past (dbForTenant tenantId caller >>= f) := by
  unfold dbForTenant
  cases requireTenantScopeAllowed tenantId caller with
  | ok _ => exact hf
  | error exc => exact hraise exc

omit hraise in
/-- A call to DynamoDB. -/
theorem traced_issue {r : Request} {f : r.operation.Answer → Api β} (hP : P past (.db r))
    (hfault : ∀ fault exc, R (⟨.db r, .error fault⟩ :: past) (.error exc))
    (hf : ∀ value, Prog.Traced P R (⟨.db r, .ok value⟩ :: past) (f value)) :
    Prog.Traced P R past (Api.dynamodb (issue r) >>= f) := by
  refine ⟨hP, fun answer => ?_⟩
  cases answer with
  | ok value => exact hf value
  | error fault => exact hfault fault _

theorem traced_getItem {client : Client} {table : String} {key : Items}
    {f : Option Items → Api β} (hP : P past (.db (getRequest table key)))
    (hfault : ∀ fault exc, R (⟨.db (getRequest table key), .error fault⟩ :: past) (.error exc))
    (hf : ∀ row, Prog.Traced P R (⟨.db (getRequest table key), .ok row⟩ :: past) (f row)) :
    Prog.Traced P R past (Api.dynamodb (client.getItem table key) >>= f) := by
  rcases getItem_eq client table key with ⟨exc, hexc⟩ | hissue
  · rw [hexc]
    exact hraise exc
  · rw [hissue]
    exact traced_issue hP hfault hf

theorem traced_putItem {client : Client} {table : String} {item : Items} {f : Unit → Api β}
    (hP : P past (.db (putRequest table item)))
    (hfault : ∀ fault exc, R (⟨.db (putRequest table item), .error fault⟩ :: past) (.error exc))
    (hf : ∀ value, Prog.Traced P R (⟨.db (putRequest table item), .ok value⟩ :: past) (f ())) :
    Prog.Traced P R past (Api.dynamodb (client.putItem table item) >>= f) := by
  rcases putItem_eq client table item with ⟨exc, hexc⟩ | hissue
  · rw [hexc]
    exact hraise exc
  · rw [hissue]
    exact traced_issue hP hfault hf

theorem traced_setAttributes {client : Client} {table : String} {key attributes : Items}
    {f : Unit → Api β} (hP : P past (.db (setRequest table key attributes)))
    (hfault : ∀ fault exc,
      R (⟨.db (setRequest table key attributes), .error fault⟩ :: past) (.error exc))
    (hf : ∀ row, Prog.Traced P R (⟨.db (setRequest table key attributes), .ok row⟩ :: past) (f ())) :
    Prog.Traced P R past (setAttributes client table key attributes >>= f) := by
  rcases setAttributes_eq client table key attributes with ⟨exc, hexc⟩ | hissue
  · rw [hexc]
    exact hraise exc
  · rw [hissue]
    refine ⟨hP, fun answer => ?_⟩
    cases answer with
    | ok row => exact hf row
    | error fault => exact hfault fault _

/-- A tenant's record, where the caller may have a client for it. -/
theorem traced_readTenantRecord {py : Python} {tenantId : String} {caller : CallerIdentity}
    {f : Option Items → Api β}
    (hP : P past (.db (getRequest (tenantsTableName py) (tenantKey tenantId))))
    (hfault : ∀ fault exc, R (⟨.db (getRequest (tenantsTableName py) (tenantKey tenantId)),
      .error fault⟩ :: past) (.error exc))
    (hf : requireTenantScopeAllowed tenantId caller = .ok () → ∀ row, Prog.Traced P R
      (⟨.db (getRequest (tenantsTableName py) (tenantKey tenantId)), .ok row⟩ :: past) (f row)) :
    Prog.Traced P R past (readTenantRecord py tenantId caller >>= f) := by
  unfold readTenantRecord dbForTenant
  cases hscope : requireTenantScopeAllowed tenantId caller with
  | ok _ => exact traced_getItem hraise hP hfault (hf hscope)
  | error exc => exact hraise exc

omit hraise in
/-- A put of the client's own tenant. -/
theorem traced_putOwn {tenantId table : String} {item : Items} {f : Unit → Api β}
    (hown : item.get "PK" (.str "") = .str (tenantPk tenantId))
    (hP : P past (.db (putRequest table item)))
    (hfault : ∀ fault exc, R (⟨.db (putRequest table item), .error fault⟩ :: past) (.error exc))
    (hf : ∀ value, Prog.Traced P R (⟨.db (putRequest table item), .ok value⟩ :: past) (f ())) :
    Prog.Traced P R past
      (Api.dynamodb ((Client.tenantScoped tenantId).putItem table item) >>= f) := by
  have hvalid : (Client.tenantScoped tenantId).validatePk item = .ok () := by
    simp [Client.validatePk, hown, isForeignPk, tenantPk]
  have hissue : (Client.tenantScoped tenantId).putItem table item = issue (putRequest table item) := by
    unfold Client.putItem
    rw [hvalid]
    rfl
  rw [hissue]
  exact traced_issue hP hfault hf

omit hraise in
theorem traced_service {client operation : String} {kwargs : Items} {f : Val → Api β}
    (hP : P past (.service client operation kwargs))
    (hfault : ∀ fault exc,
      R (⟨.service client operation kwargs, .error fault⟩ :: past) (.error exc))
    (hf : ∀ value, Prog.Traced P R (⟨.service client operation kwargs, .ok value⟩ :: past)
      (f value)) :
    Prog.Traced P R past (Api.service client operation kwargs >>= f) := by
  refine ⟨hP, fun answer => ?_⟩
  cases answer with
  | ok value => exact hf value
  | error fault => exact hfault fault _

/-- The entries of an event. -/
def eventEntries (py : Python) (detailType : String) (detail : Items) : Items :=
  [("Entries", .list [.dict [
    ("Source", .str "platform.tenant_api"),
    ("DetailType", .str detailType),
    ("Detail", .dict detail),
    ("EventBusName", .str (eventBusName py))]])]

omit hraise in
theorem traced_putEvent {py : Python} {detailType : String} {detail : Items} {f : Val → Api β}
    (hencode : (Val.dict detail).allObjs py.encodes = false → ∀ exc, R past (.error exc))
    (hP : P past (.service "events" "put_events" (eventEntries py detailType detail)))
    (hfault : ∀ fault exc, R (⟨.service "events" "put_events" (eventEntries py detailType detail),
      .error fault⟩ :: past) (.error exc))
    (hf : ∀ value, Prog.Traced P R
      (⟨.service "events" "put_events" (eventEntries py detailType detail), .ok value⟩ :: past)
      (f value)) :
    Prog.Traced P R past (putEvent py detailType detail >>= f) := by
  unfold putEvent
  split
  · exact traced_service hP hfault hf
  · rename_i h
    exact hencode (Bool.not_eq_true _ ▸ h) _

end

/-- A response, where its body can be encoded. -/
theorem traced_response {P : Past → Effect → Prop} {Q : Past → Except Exc Response → Prop}
    {past : Past} {py : Python} {statusCode : Nat} {body : Items}
    (hencode : (Val.dict body).allObjs py.encodes = false → ∀ exc, Q past (.error exc))
    (hret : Q past (.ok ⟨statusCode, .dict body⟩)) :
    Prog.Traced P Q past (response py statusCode body) := by
  unfold response
  split
  · exact hret
  · rename_i h
    exact hencode (Bool.not_eq_true _ ▸ h) _

/-! ## The calls of one operation -/

section

variable {P : Effect → Prop}

theorem ofExcept_ok_bind {α β : Type} (a : α) (f : α → Api β) :
    (Api.ofExcept (.ok a) >>= f) = f a := rfl

theorem ofExcept_error_bind {α β : Type} (exc : Exc) (f : α → Api β) :
    (Api.ofExcept (.error exc) >>= f) = .raise exc := rfl

theorem calls_ofExcept {α : Type} {e : Except Exc α} :
    (Api.ofExcept e).Sat P fun a => e = .ok a := by
  cases e with
  | ok a => exact rfl
  | error exc => trivial

theorem calls_dbForTenant {tenantId : String} {caller : CallerIdentity} :
    (dbForTenant tenantId caller).Sat P fun db => db = .tenantScoped tenantId := by
  unfold dbForTenant
  cases requireTenantScopeAllowed tenantId caller with
  | ok _ => exact rfl
  | error exc => trivial

theorem calls_issue {r : Request} (hP : P (.db r)) :
    (Api.dynamodb (issue r)).Sat P fun _ => True := by
  refine ⟨hP, fun answer => ?_⟩
  cases answer with
  | ok value => trivial
  | error fault => trivial

theorem calls_setAttributes {client : Client} {table : String} {key attributes : Items}
    (hP : P (.db (setRequest table key attributes))) :
    (setAttributes client table key attributes).Sat P fun _ => True := by
  rcases setAttributes_eq client table key attributes with ⟨exc, hexc⟩ | hissue
  · rw [hexc]
    trivial
  · rw [hissue]
    exact (calls_issue hP).seq fun _ => trivial

theorem calls_readTenantRecord {py : Python} {tenantId : String} {caller : CallerIdentity}
    (hP : P (.db (getRequest (tenantsTableName py) (tenantKey tenantId)))) :
    (readTenantRecord py tenantId caller).Sat P fun _ => True := by
  unfold readTenantRecord
  refine calls_dbForTenant.bind fun db _ => ?_
  rcases getItem_eq db (tenantsTableName py) (tenantKey tenantId) with ⟨exc, hexc⟩ | hissue
  · rw [hexc]
    trivial
  · rw [hissue]
    exact calls_issue hP

theorem calls_putEvent {py : Python} {detailType : String} {detail : Items}
    (hP : P (.service "events" "put_events" (eventEntries py detailType detail))) :
    (putEvent py detailType detail).Sat P fun _ => True := by
  unfold putEvent
  split
  · refine ⟨hP, fun answer => ?_⟩
    cases answer with
    | ok value => trivial
    | error fault => trivial
  · trivial

theorem calls_response {py : Python} {statusCode : Nat} {body : Items} :
    (response py statusCode body).Sat P fun _ => True := by
  unfold response
  split
  · trivial
  · trivial

end

end A5cCell.TenantApi
