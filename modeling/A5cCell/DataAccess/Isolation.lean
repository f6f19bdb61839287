import A5cCell.DataAccess.Client

/-!
# Tenant isolation of the scoped client

What the client scoped to a tenant may ask of DynamoDB: keys of the tenant's own partition or of
no tenant's, and queries confined to the tenant's partition. The key a method is given is checked,
but `put_item` and `query` merge the caller's extra keyword arguments over their own after the
check, so that an extra `Item` or `KeyConditionExpression` is what is sent.

`isolated_iff` says for every operation exactly when it is isolated. A key condition may also be
a text in DynamoDB's expression language; `text` says what it selects, from all the arguments of
the request.
-/

namespace A5cCell.DataAccess

open Py (Val Items Dict)

/-- The partition key in a key or an item passed as an argument. -/
def Arg.pk? : Arg → Option String
  | .val v => v.asDict?.bind fun key => textOf key "PK"
  | .condition _ => none

/-- The partition key is the tenant's own, or no tenant's. -/
def OwnPk (tenantId : String) (pk : Option String) : Prop :=
  ∀ p, pk = some p → isForeignPk tenantId p = false

/-- Every row selected is in the tenant's partition. -/
def ConfinedTo (tenantId : String) (selects : Items → Bool) : Prop :=
  ∀ row, selects row = true → textOf row "PK" = some (tenantPkPrefix ++ tenantId)

variable (text : Dict String Arg → Items → Bool)

/-- What a key condition selects, among all the arguments of its request. -/
def Arg.selects (kwargs : Dict String Arg) : Arg → Items → Bool
  | .condition selects => selects
  | .val _ => text kwargs

/-- What a query selects. -/
def Request.selects (r : Request) : Items → Bool :=
  match r.kwargs.get? "KeyConditionExpression" with
  | some arg => arg.selects text r.kwargs
  | none => fun _ => true

/-- A request that stays in the tenant's partition, or in no tenant's. -/
def Request.Confined (tenantId : String) (r : Request) : Prop :=
  match r.operation with
  | .getItem => OwnPk tenantId ((r.kwargs.get? "Key").bind Arg.pk?)
  | .putItem => OwnPk tenantId ((r.kwargs.get? "Item").bind Arg.pk?)
  | .updateItem => OwnPk tenantId ((r.kwargs.get? "Key").bind Arg.pk?)
  | .deleteItem => OwnPk tenantId ((r.kwargs.get? "Key").bind Arg.pk?)
  | .query => ConfinedTo tenantId (r.selects text)
  | .scan => False

/-! ## The operations and their arguments -/

/-- An operation of the scoped client with its arguments. -/
inductive Access where
  | getItem (table : String) (key : Items) (extraKwargs : Dict String Arg)
  | putItem (table : String) (item : Items) (conditionExpression : Option String)
      (extraKwargs : Dict String Arg)
  | updateItem (table : String) (key : Items) (updateExpression : String)
      (expressionAttributeValues : Items) (expressionAttributeNames : Option Items)
      (conditionExpression : Option String)
  | deleteItem (table : String) (key : Items) (extraKwargs : Dict String Arg)
  | query (table : String) (args : QueryArgs)
  | queryAll (table : String) (skCondition : Option (Items → Bool)) (filterExpression : Option Arg)
      (indexName : Option String) (scanIndexForward : Bool) (pages : Nat)

/-- What the operation does, whatever it returns. -/
def Access.program (tenantId : String) : Access → Db Unit
  | .getItem table key extraKwargs => do
      let _ ← Client.getItem (.tenantScoped tenantId) table key extraKwargs
  | .putItem table item conditionExpression extraKwargs =>
      Client.putItem (.tenantScoped tenantId) table item conditionExpression extraKwargs
  | .updateItem table key updateExpression values names conditionExpression => do
      let _ ← Client.updateItem (.tenantScoped tenantId) table key updateExpression values names
        conditionExpression
  | .deleteItem table key extraKwargs =>
      Client.deleteItem (.tenantScoped tenantId) table key extraKwargs
  | .query table args => do
      let _ ← tenantQuery tenantId table args
  | .queryAll table skCondition filterExpression indexName scanIndexForward pages => do
      let _ ← tenantQueryAll tenantId table skCondition filterExpression indexName
        scanIndexForward pages

/-- A key or an item of another tenant's partition. -/
def ForeignArg (tenantId : String) (arg : Arg) : Prop :=
  ∃ pk, arg.pk? = some pk ∧ isForeignPk tenantId pk = true

/-- The extra keyword arguments carry a key or an item of another tenant's partition. -/
def ForeignExtra (tenantId name : String) (extraKwargs : Dict String Arg) : Prop :=
  ∃ arg, extraKwargs.get? name = some arg ∧ ForeignArg tenantId arg

/-- The extra keyword arguments of a query carry a key condition that leaves the partition. -/
def UnconfinedExtra (tenantId table : String) (args : QueryArgs) : Prop :=
  ∃ arg, args.extraKwargs.get? "KeyConditionExpression" = some arg ∧
    ¬ ConfinedTo tenantId (arg.selects text (tenantQueryRequest tenantId table args).kwargs)

/-- An argument would make the request address another tenant's partition. -/
def Access.AddressesForeign (tenantId : String) : Access → Prop
  | .getItem _ key extraKwargs =>
      ForeignArg tenantId (.val (.dict key)) ∨ ForeignExtra tenantId "Key" extraKwargs
  | .putItem _ item _ extraKwargs =>
      ForeignArg tenantId (.val (.dict item)) ∨ ForeignExtra tenantId "Item" extraKwargs
  | .updateItem _ key _ _ _ _ => ForeignArg tenantId (.val (.dict key))
  | .deleteItem _ key extraKwargs =>
      ForeignArg tenantId (.val (.dict key)) ∨ ForeignExtra tenantId "Key" extraKwargs
  | .query table args => UnconfinedExtra text tenantId table args
  | .queryAll .. => False

/-- The operation is isolated: whatever DynamoDB answers, its requests stay in the tenant's
    partition, and where an argument would have them leave it, it raises and requests nothing. -/
structure Isolated (tenantId : String) (access : Access) : Prop where
  confined : ∀ (σ : Type) (serve : σ → (r : Request) → Answer r × σ) (s : σ),
    ∀ r ∈ (Prog.run serve s (access.program tenantId)).calls, r.Confined text tenantId
  refused : access.AddressesForeign text tenantId → ∃ x, access.program tenantId = .raise x

/-- No extra keyword argument overrides what was checked: the `Item` of a `put_item` whose own item
    is the tenant's, or the key condition of a `query`. -/
def Access.NoOverride (tenantId : String) : Access → Prop
  | .putItem _ item _ extraKwargs =>
      ForeignArg tenantId (.val (.dict item)) ∨ ¬ ForeignExtra tenantId "Item" extraKwargs
  | .query table args => ¬ UnconfinedExtra text tenantId table args
  | _ => True

/-! ## What is checked -/

variable {text} {tenantId : String}

theorem ownPk_of_not_foreign {arg : Arg} (h : ¬ ForeignArg tenantId arg) :
    OwnPk tenantId arg.pk? := by
  intro pk hpk
  rw [← Bool.not_eq_true]
  exact fun hforeign => h ⟨pk, hpk, hforeign⟩

/-- The check raises on a key of another tenant, and only there. -/
theorem validatePk_tenantScoped (tenantId : String) (key : Items) :
    (ForeignArg tenantId (.val (.dict key)) ∧
      ∃ x, Client.validatePk (.tenantScoped tenantId) key = .error x) ∨
    (¬ ForeignArg tenantId (.val (.dict key)) ∧
      Client.validatePk (.tenantScoped tenantId) key = .ok ()) := by
  have hpk : Arg.pk? (.val (.dict key)) = (key.get "PK").asStr? := rfl
  simp only [ForeignArg, hpk, Client.validatePk, Items.get]
  cases key.lookup "PK" with
  | none => exact .inr ⟨by simp [Val.asStr?], by simp [isForeignPk, Py.startsWith, tenantPkPrefix]⟩
  | some v =>
    cases v with
    | str pk =>
      by_cases hforeign : isForeignPk tenantId pk = true
      · exact .inl ⟨⟨pk, by simp [Val.asStr?], hforeign⟩, by simp [hforeign]⟩
      · exact .inr ⟨by simpa [Val.asStr?] using hforeign, by simp [hforeign]⟩
    | _ => exact .inr ⟨by simp [Val.asStr?], by simp⟩

/-- A call sent as it was built, with whatever answers it. -/
theorem sat_issue {P : Request → Prop} {r : Request} (h : P r) :
    (issue r).Sat P fun _ => True := by
  refine Prog.sat_call.mpr ⟨h, fun answer => ?_⟩
  cases answer <;> simp

/-- What is sent under a name when extra keyword arguments are merged over a call's own. -/
theorem bind_get?_update {kwargs extraKwargs : Dict String Arg} {name : String} {arg : Arg}
    (hown : kwargs.get? name = some arg) (hok : ¬ ForeignArg tenantId arg)
    (hextra : ¬ ForeignExtra tenantId name extraKwargs) :
    OwnPk tenantId (((kwargs.update extraKwargs.items).get? name).bind Arg.pk?) := by
  rw [Dict.get?_update_items, hown]
  cases hget : extraKwargs.get? name with
  | none => exact ownPk_of_not_foreign hok
  | some extra => exact ownPk_of_not_foreign fun hforeign => hextra ⟨extra, hget, hforeign⟩

/-- A program whose every request is confined is isolated where it raises when it must. -/
theorem Isolated.of_sat {access : Access}
    (hsat : (access.program tenantId).Sat (fun r => r.Confined text tenantId) fun _ => True)
    (hrefused : access.AddressesForeign text tenantId → ∃ x, access.program tenantId = .raise x) :
    Isolated text tenantId access :=
  ⟨fun _ _ s => Prog.run_calls hsat s, hrefused⟩

/-- A program that raises at once asks for nothing. -/
theorem Isolated.of_raise {access : Access} {x : Exc}
    (h : access.program tenantId = .raise x) : Isolated text tenantId access := by
  refine .of_sat ?_ fun _ => ⟨x, h⟩
  rw [h]
  exact Prog.sat_raise

/-! ## The operations -/

/-- A call that names a key: it raises, or the key is sent as it was checked. -/
theorem keyed_cases (tenantId : String) {β : Type} (key : Items) (extraKwargs : Dict String Arg)
    (request : Db β) :
    (∃ x, (match Client.validatePk (.tenantScoped tenantId) key with
      | .error x => .raise x
      | .ok () =>
          if (extraKwargs.get? "Key").isSome then .raise (multipleValues "Key")
          else request) = Prog.raise x) ∨
    (¬ ForeignArg tenantId (.val (.dict key)) ∧ ¬ ForeignExtra tenantId "Key" extraKwargs ∧
      (match Client.validatePk (.tenantScoped tenantId) key with
      | .error x => .raise x
      | .ok () =>
          if (extraKwargs.get? "Key").isSome then .raise (multipleValues "Key")
          else request) = request) := by
  rcases validatePk_tenantScoped tenantId key with ⟨_, x, hx⟩ | ⟨hok, hvalid⟩
  · exact .inl ⟨x, by rw [hx]⟩
  · rw [hvalid]
    cases hextra : extraKwargs.get? "Key" with
    | some arg => exact .inl ⟨multipleValues "Key", rfl⟩
    | none =>
      refine .inr ⟨hok, ?_, rfl⟩
      rintro ⟨arg, harg, -⟩
      rw [hextra] at harg
      exact absurd harg (by simp)

theorem getItem_cases (tenantId table : String) (key : Items) (extraKwargs : Dict String Arg) :
    (∃ x, Client.getItem (.tenantScoped tenantId) table key extraKwargs = .raise x) ∨
    (¬ ForeignArg tenantId (.val (.dict key)) ∧ ¬ ForeignExtra tenantId "Key" extraKwargs ∧
      Client.getItem (.tenantScoped tenantId) table key extraKwargs = issue ⟨.getItem, table,
        (noKwargs.set "Key" (.val (.dict key))).update extraKwargs.items⟩) :=
  keyed_cases tenantId key extraKwargs _

theorem sat_getItem (table : String) (key : Items) (extraKwargs : Dict String Arg) :
    (Client.getItem (.tenantScoped tenantId) table key extraKwargs).Sat
      (fun r => r.Confined text tenantId) fun _ => True := by
  rcases getItem_cases tenantId table key extraKwargs with
    ⟨x, hraise⟩ | ⟨hok, hextra, hissue⟩
  · rw [hraise]
    exact Prog.sat_raise
  · rw [hissue]
    exact sat_issue (bind_get?_update rfl hok hextra)

theorem getItem_isolated (table : String) (key : Items) (extraKwargs : Dict String Arg) :
    Isolated text tenantId (.getItem table key extraKwargs) := by
  refine .of_sat ((sat_getItem table key extraKwargs).bind fun _ _ => .done) fun hforeign => ?_
  rcases getItem_cases tenantId table key extraKwargs with
    ⟨x, hraise⟩ | ⟨hok, hextra, -⟩
  · refine ⟨x, ?_⟩
    simp only [Access.program, hraise]
    rfl
  · exact absurd hforeign (not_or.mpr ⟨hok, hextra⟩)

theorem deleteItem_cases (tenantId table : String) (key : Items) (extraKwargs : Dict String Arg) :
    (∃ x, Client.deleteItem (.tenantScoped tenantId) table key extraKwargs = .raise x) ∨
    (¬ ForeignArg tenantId (.val (.dict key)) ∧ ¬ ForeignExtra tenantId "Key" extraKwargs ∧
      Client.deleteItem (.tenantScoped tenantId) table key extraKwargs = issue ⟨.deleteItem, table,
        (noKwargs.set "Key" (.val (.dict key))).update extraKwargs.items⟩) :=
  keyed_cases tenantId key extraKwargs _

theorem sat_deleteItem (table : String) (key : Items) (extraKwargs : Dict String Arg) :
    (Client.deleteItem (.tenantScoped tenantId) table key extraKwargs).Sat
      (fun r => r.Confined text tenantId) fun _ => True := by
  rcases deleteItem_cases tenantId table key extraKwargs with
    ⟨x, hraise⟩ | ⟨hok, hextra, hissue⟩
  · rw [hraise]
    exact Prog.sat_raise
  · rw [hissue]
    exact sat_issue (bind_get?_update rfl hok hextra)

theorem deleteItem_isolated (table : String) (key : Items) (extraKwargs : Dict String Arg) :
    Isolated text tenantId (.deleteItem table key extraKwargs) := by
  refine .of_sat (sat_deleteItem table key extraKwargs) fun hforeign => ?_
  rcases deleteItem_cases tenantId table key extraKwargs with
    hraise | ⟨hok, hextra, -⟩
  · exact hraise
  · exact absurd hforeign (not_or.mpr ⟨hok, hextra⟩)

theorem sat_updateItem (table : String) (key : Items) (updateExpression : String)
    (values : Items) (names : Option Items) (conditionExpression : Option String) :
    (Client.updateItem (.tenantScoped tenantId) table key updateExpression values names
      conditionExpression).Sat (fun r => r.Confined text tenantId) fun _ => True := by
  rcases validatePk_tenantScoped tenantId key with ⟨_, x, hx⟩ | ⟨hok, hvalid⟩
  · simp only [Client.updateItem, hx]
    exact Prog.sat_raise
  · simp only [Client.updateItem, hvalid]
    refine sat_issue ?_
    have hkey : ∀ kwargs : Dict String Arg,
        kwargs.get? "Key" = some (.val (.dict key)) →
          OwnPk tenantId ((kwargs.get? "Key").bind Arg.pk?) := by
      intro kwargs hget
      rw [hget]
      exact ownPk_of_not_foreign hok
    apply hkey
    cases names <;> cases conditionExpression <;> rfl

theorem updateItem_isolated (table : String) (key : Items) (updateExpression : String)
    (values : Items) (names : Option Items) (conditionExpression : Option String) :
    Isolated text tenantId
      (.updateItem table key updateExpression values names conditionExpression) := by
  refine .of_sat ((sat_updateItem table key updateExpression values names
    conditionExpression).bind fun _ _ => .done) fun hforeign => ?_
  rcases validatePk_tenantScoped tenantId key with ⟨_, x, hx⟩ | ⟨hok, -⟩
  · refine ⟨x, ?_⟩
    simp only [Access.program, Client.updateItem, hx]
    rfl
  · exact absurd hforeign hok

/-- What `put_item` does with an item it takes: the item sent is the extra `Item`, where there is
    one. -/
theorem putItem_of_valid {item : Items}
    (hvalid : Client.validatePk (.tenantScoped tenantId) item = .ok ()) (table : String)
    (conditionExpression : Option String) (extraKwargs : Dict String Arg) :
    ∃ kwargs : Dict String Arg, kwargs.get? "Item" = some (.val (.dict item)) ∧
      Client.putItem (.tenantScoped tenantId) table item conditionExpression extraKwargs =
        issue ⟨.putItem, table, kwargs.update extraKwargs.items⟩ := by
  refine ⟨_, ?_, by simp only [Client.putItem, hvalid]; rfl⟩
  cases Py.truthyText conditionExpression <;> rfl

theorem sat_putItem (table : String) (item : Items) (conditionExpression : Option String)
    {extraKwargs : Dict String Arg} (hextra : ¬ ForeignExtra tenantId "Item" extraKwargs) :
    (Client.putItem (.tenantScoped tenantId) table item conditionExpression extraKwargs).Sat
      (fun r => r.Confined text tenantId) fun _ => True := by
  rcases validatePk_tenantScoped tenantId item with ⟨_, x, hx⟩ | ⟨hok, hvalid⟩
  · simp only [Client.putItem, hx]
    exact Prog.sat_raise
  · obtain ⟨kwargs, hitem, hissue⟩ :=
      putItem_of_valid hvalid table conditionExpression extraKwargs
    rw [hissue]
    exact sat_issue (bind_get?_update hitem hok hextra)

/-- `put_item` is isolated where it raises, and where no extra `Item` is another tenant's. -/
theorem putItem_isolated_iff (table : String) (item : Items) (conditionExpression : Option String)
    (extraKwargs : Dict String Arg) :
    Isolated text tenantId (.putItem table item conditionExpression extraKwargs) ↔
      (ForeignArg tenantId (.val (.dict item)) ∨ ¬ ForeignExtra tenantId "Item" extraKwargs) := by
  rcases validatePk_tenantScoped tenantId item with ⟨hforeign, x, hx⟩ | ⟨hok, hvalid⟩
  · refine ⟨fun _ => .inl hforeign, fun _ => .of_raise (x := x) ?_⟩
    simp only [Access.program, Client.putItem, hx]
  · constructor
    · intro hisolated
      refine .inr fun hextra => ?_
      obtain ⟨x, hraise⟩ := hisolated.refused (.inr hextra)
      obtain ⟨kwargs, -, hissue⟩ := putItem_of_valid hvalid table conditionExpression extraKwargs
      exact absurd (hissue.symm.trans hraise) (by simp [issue])
    · rintro (hforeign | hextra)
      · exact absurd hforeign hok
      · exact .of_sat (sat_putItem table item conditionExpression hextra)
          fun h => h.elim (absurd · hok) (absurd · hextra)

/-! ## Queries -/

theorem get?_setSome {kwargs : Dict String Arg} {name key : String} (arg : Option Arg)
    (hne : key ≠ name) : (setSome name arg kwargs).get? key = kwargs.get? key := by
  cases arg with
  | none => rfl
  | some arg => exact Dict.get?_set_ne kwargs arg hne

/-- The key condition a query sends: the extra one, where there is one. -/
theorem tenantQueryRequest_keyCondition (tenantId table : String) (args : QueryArgs) :
    ∃ own, ConfinedTo tenantId own ∧
      (tenantQueryRequest tenantId table args).kwargs.get? "KeyConditionExpression" =
        (args.extraKwargs.get? "KeyConditionExpression").or (some (.condition own)) := by
  refine ⟨args.skCondition.elim (keyEq "PK" (tenantPkPrefix ++ tenantId))
    (conditionAnd (keyEq "PK" (tenantPkPrefix ++ tenantId))), ?_, ?_⟩
  · intro row hrow
    cases hsk : args.skCondition with
    | none =>
      rw [hsk] at hrow
      exact of_decide_eq_true hrow
    | some skCondition =>
      rw [hsk] at hrow
      exact of_decide_eq_true (Bool.and_eq_true_iff.mp hrow).1
  · unfold tenantQueryRequest
    rw [Dict.get?_update_items, get?_setSome _ (by decide), get?_setSome _ (by decide),
      get?_setSome _ (by decide), get?_setSome _ (by decide), Dict.get?_set_ne _ _ (by decide),
      Dict.get?_set_self]
    cases args.skCondition <;> rfl

/-- A query stays in the partition exactly when no extra key condition leaves it. -/
theorem tenantQueryRequest_confined (table : String) (args : QueryArgs) :
    (tenantQueryRequest tenantId table args).Confined text tenantId ↔
      ¬ UnconfinedExtra text tenantId table args := by
  obtain ⟨own, hown, hget⟩ := tenantQueryRequest_keyCondition tenantId table args
  have hconfined : (tenantQueryRequest tenantId table args).Confined text tenantId ↔
      ConfinedTo tenantId ((tenantQueryRequest tenantId table args).selects text) := Iff.rfl
  rw [hconfined, Request.selects, hget]
  cases hextra : args.extraKwargs.get? "KeyConditionExpression" with
  | none => simpa [UnconfinedExtra, hextra, Arg.selects] using hown
  | some arg => simp [UnconfinedExtra, hextra]

theorem sat_query (table : String) {args : QueryArgs}
    (hextra : ¬ UnconfinedExtra text tenantId table args) :
    (tenantQuery tenantId table args).Sat (fun r => r.Confined text tenantId) fun _ => True :=
  sat_issue ((tenantQueryRequest_confined table args).mpr hextra)

theorem query_isolated_iff (table : String) (args : QueryArgs) :
    Isolated text tenantId (.query table args) ↔ ¬ UnconfinedExtra text tenantId table args := by
  constructor
  · intro hisolated hextra
    obtain ⟨x, hraise⟩ := hisolated.refused hextra
    exact absurd hraise (by simp [Access.program, tenantQuery, issue, Bind.bind, Prog.bind])
  · intro hextra
    exact .of_sat ((sat_query table hextra).bind fun _ _ => .done) fun h => absurd h hextra

theorem not_unconfinedExtra_noKwargs {table : String} {args : QueryArgs}
    (hargs : args.extraKwargs = noKwargs) : ¬ UnconfinedExtra text tenantId table args := by
  rintro ⟨arg, harg, -⟩
  rw [hargs] at harg
  exact absurd harg (by simp [noKwargs])

/-- Every page of a loop is asked for as its first one. -/
theorem sat_allPages {P : Request → Prop} {fetch : Val → Db PaginatedItems}
    (hfetch : ∀ startKey, (fetch startKey).Sat P fun _ => True) (pages : Nat) (startKey : Val) :
    (allPages fetch pages startKey).Sat P fun _ => True := by
  induction pages generalizing startKey with
  | zero => exact Prog.sat_raise
  | succ pages ih =>
    refine (hfetch startKey).bind fun page _ => ?_
    cases nextStartKey page with
    | none => exact .done
    | some key => exact (ih (.dict key)).bind fun _ _ => .done

theorem queryAll_isolated (table : String) (skCondition : Option (Items → Bool))
    (filterExpression : Option Arg) (indexName : Option String) (scanIndexForward : Bool)
    (pages : Nat) :
    Isolated text tenantId
      (.queryAll table skCondition filterExpression indexName scanIndexForward pages) := by
  refine .of_sat ?_ False.elim
  exact (sat_allPages (fun startKey => sat_query table (not_unconfinedExtra_noKwargs rfl)) pages
    .none).bind fun _ _ => .done

/-! ## Isolation -/

/-- **Isolation.** An operation stays in the tenant's partition, and raises where an argument would
    have it leave, exactly when no extra keyword argument overrides what was checked. -/
theorem isolated_iff (text : Dict String Arg → Items → Bool) (tenantId : String) (access : Access) :
    Isolated text tenantId access ↔ access.NoOverride text tenantId := by
  cases access with
  | getItem table key extraKwargs => exact iff_of_true (getItem_isolated ..) trivial
  | putItem table item conditionExpression extraKwargs => exact putItem_isolated_iff ..
  | updateItem table key updateExpression values names conditionExpression =>
    exact iff_of_true (updateItem_isolated ..) trivial
  | deleteItem table key extraKwargs => exact iff_of_true (deleteItem_isolated ..) trivial
  | query table args => exact query_isolated_iff ..
  | queryAll table skCondition filterExpression indexName scanIndexForward pages =>
    exact iff_of_true (queryAll_isolated ..) trivial

/-- The item of `acme` that is checked, and the item of `globex` that is written. -/
def overriddenPut : Access :=
  .putItem "tenants" [("PK", .str "TENANT#acme")] none
    (noKwargs.set "Item" (.val (.dict [("PK", .str "TENANT#globex")])))

/-- `acme`'s client writes a row of `globex`. -/
theorem overriddenPut_not_isolated :
    ¬ Isolated (fun _ _ => false) "acme" overriddenPut := by
  intro hisolated
  obtain ⟨x, hraise⟩ := hisolated.refused
    (.inr ⟨_, rfl, "TENANT#globex", by decide, by decide⟩)
  exact absurd hraise (by simp [overriddenPut, Access.program, Client.putItem, issue,
    Client.validatePk, Items.get, isForeignPk, Py.startsWith, tenantPkPrefix])

end A5cCell.DataAccess
