import A5cCell.Lib.Value
import A5cCell.Lib.Prog

/-!
# The DynamoDB clients

`data_access.client`: the client scoped to one tenant, which checks every key it is given, and the
control-plane client, which does not. An operation is a program that calls DynamoDB through boto3:
a `Request` is the method of the table called, and its keyword arguments.

A condition (`boto3.dynamodb.conditions`) is what it selects: a predicate on rows.
-/

namespace A5cCell.DataAccess

open Py (Val Items Dict)

/-- The exceptions the code tells apart. -/
inductive Exc where
  | tenantAccessViolation (tenantId callerTenantId attemptedKey : String)
  | clientError (code : String)
  | botoCoreError (name : String)
  | permissionError (message : String)
  | valueError (message : String)
  | typeError (message : String)
  | runtimeError (message : String)
  | keyError (key : String)
  | other (name : String)
  deriving DecidableEq

/-! ## Requests -/

/-- A keyword argument of a boto3 call. -/
inductive Arg where
  | val (v : Val)
  | condition (selects : Items → Bool)

/-- The keyword arguments of a call, before any is set. -/
def noKwargs : Dict String Arg := Dict.empty

inductive Operation where
  | getItem
  | putItem
  | updateItem
  | deleteItem
  | query
  | scan
  deriving DecidableEq

/-- A method of `dynamodb.Table(table)` called with keyword arguments. -/
structure Request where
  operation : Operation
  table : String
  kwargs : Dict String Arg

/-- `PaginatedItems`. -/
structure PaginatedItems where
  items : List Items
  lastEvaluatedKey : Option Items

/-- What a method answers when it does not raise. -/
abbrev Operation.Answer : Operation → Type
  | .getItem => Option Items
  | .putItem => Unit
  | .updateItem => Items
  | .deleteItem => Unit
  | .query => PaginatedItems
  | .scan => PaginatedItems

/-- Why boto3 raised: the service refused, with a code, or it was not reached. -/
inductive Fault where
  | clientError (code : String)
  | botoCoreError (name : String)
  deriving DecidableEq

def Fault.exc : Fault → Exc
  | .clientError code => .clientError code
  | .botoCoreError name => .botoCoreError name

abbrev Answer (r : Request) : Type := Except Fault r.operation.Answer

/-- A program that calls DynamoDB. -/
abbrev Db (α : Type) : Type := Prog Request Answer Exc α

/-- One call. -/
def issue (r : Request) : Db r.operation.Answer :=
  .call r fun answer => match answer with
    | .ok value => .ret value
    | .error fault => .raise fault.exc

/-! ## Conditions -/

/-- What a row holds under a name, when it is a text. -/
def textOf (row : Items) (name : String) : Option String := (row.get name).asStr?

/-- `Key(name).eq(text)`. -/
def keyEq (name text : String) : Items → Bool := fun row => textOf row name = some text

/-- `Key(name).begins_with(text)`. -/
def keyBeginsWith (name text : String) : Items → Bool :=
  fun row => (textOf row name).any (Py.startsWith · text)

/-- `Key(name).between(low, high)`, with either bound left out: `gte(low)` and `lte(high)`. -/
def keyBetween (name : String) (low high : Option String) : Items → Bool :=
  fun row => (textOf row name).any fun text => low.all (· ≤ text) && high.all (text ≤ ·)

/-- `a & b`. -/
def conditionAnd (a b : Items → Bool) : Items → Bool := fun row => a row && b row

/-! ## The clients -/

/-- A client, by its `_validate_pk`: `TenantScopedDynamoDB` or `ControlPlaneDynamoDB`. -/
inductive Client where
  | tenantScoped (tenantId : String)
  | controlPlane

def tenantPkPrefix : String := "TENANT#"

/-- A partition key of another tenant than `tenantId`. -/
def isForeignPk (tenantId pk : String) : Bool :=
  Py.startsWith pk tenantPkPrefix && pk ≠ tenantPkPrefix ++ tenantId

/-- `_validate_pk`, with `_raise_violation`. -/
def Client.validatePk : Client → Items → Except Exc Unit
  | .tenantScoped tenantId, key =>
      match key.get "PK" (.str "") with
      | .str pk =>
          if isForeignPk tenantId pk then
            .error (.tenantAccessViolation (Py.removePrefix pk tenantPkPrefix) tenantId
              (Val.dict key).repr)
          else .ok ()
      | _ => .ok ()
  | .controlPlane, _ => .ok ()

/-- A keyword argument the caller passes besides one that the method passes itself. -/
def multipleValues (name : String) : Exc :=
  .typeError ("got multiple values for keyword argument '" ++ name ++ "'")

/-- `get_item`. -/
def Client.getItem (client : Client) (table : String) (key : Items)
    (extraKwargs : Dict String Arg := noKwargs) : Db (Option Items) :=
  match client.validatePk key with
  | .error x => .raise x
  | .ok () =>
      if (extraKwargs.get? "Key").isSome then .raise (multipleValues "Key")
      else issue ⟨.getItem, table,
        (noKwargs.set "Key" (.val (.dict key))).update extraKwargs.items⟩

/-- `put_item`. -/
def Client.putItem (client : Client) (table : String) (item : Items)
    (conditionExpression : Option String := none) (extraKwargs : Dict String Arg := noKwargs) :
    Db Unit :=
  match client.validatePk item with
  | .error x => .raise x
  | .ok () =>
      let kwargs := noKwargs.set "Item" (.val (.dict item))
      let kwargs := match Py.truthyText conditionExpression with
        | some expression => kwargs.set "ConditionExpression" (.val (.str expression))
        | none => kwargs
      issue ⟨.putItem, table, kwargs.update extraKwargs.items⟩

/-- `update_item`. -/
def Client.updateItem (client : Client) (table : String) (key : Items) (updateExpression : String)
    (expressionAttributeValues : Items) (expressionAttributeNames : Option Items := none)
    (conditionExpression : Option String := none) : Db Items :=
  match client.validatePk key with
  | .error x => .raise x
  | .ok () =>
      let kwargs := (((noKwargs.set "Key" (.val (.dict key))).set
        "UpdateExpression" (.val (.str updateExpression))).set
        "ExpressionAttributeValues" (.val (.dict expressionAttributeValues))).set
        "ReturnValues" (.val (.str "ALL_NEW"))
      let kwargs := match expressionAttributeNames with
        | some names => kwargs.set "ExpressionAttributeNames" (.val (.dict names))
        | none => kwargs
      let kwargs := match conditionExpression with
        | some expression => kwargs.set "ConditionExpression" (.val (.str expression))
        | none => kwargs
      issue ⟨.updateItem, table, kwargs⟩

/-- `delete_item`. -/
def Client.deleteItem (client : Client) (table : String) (key : Items)
    (extraKwargs : Dict String Arg := noKwargs) : Db Unit :=
  match client.validatePk key with
  | .error x => .raise x
  | .ok () =>
      if (extraKwargs.get? "Key").isSome then .raise (multipleValues "Key")
      else issue ⟨.deleteItem, table,
        (noKwargs.set "Key" (.val (.dict key))).update extraKwargs.items⟩

/-- The arguments of `query` besides the table. -/
structure QueryArgs where
  skCondition : Option (Items → Bool) := none
  filterExpression : Option Arg := none
  indexName : Option String := none
  limit : Option Int := none
  scanIndexForward : Bool := true
  exclusiveStartKey : Val := .none
  extraKwargs : Dict String Arg := noKwargs

/-- A keyword argument passed only where there is one. -/
def setSome (name : String) (arg : Option Arg) (kwargs : Dict String Arg) : Dict String Arg :=
  match arg with
  | some arg => kwargs.set name arg
  | none => kwargs

def valUnlessNone : Val → Option Arg
  | .none => none
  | v => some (.val v)

/-- The request of `TenantScopedDynamoDB.query`. -/
def tenantQueryRequest (tenantId table : String) (args : QueryArgs) : Request :=
  let pkCondition := keyEq "PK" (tenantPkPrefix ++ tenantId)
  let keyCondition := match args.skCondition with
    | some skCondition => conditionAnd pkCondition skCondition
    | none => pkCondition
  let kwargs := (noKwargs.set "KeyConditionExpression" (.condition keyCondition)).set
    "ScanIndexForward" (.val (.bool args.scanIndexForward))
  let kwargs := setSome "FilterExpression" args.filterExpression kwargs
  let kwargs := setSome "IndexName" (args.indexName.map fun name => .val (.str name)) kwargs
  let kwargs := setSome "Limit" (args.limit.map fun n => .val (.int n)) kwargs
  let kwargs := setSome "ExclusiveStartKey" (valUnlessNone args.exclusiveStartKey) kwargs
  ⟨.query, table, kwargs.update args.extraKwargs.items⟩

/-- `TenantScopedDynamoDB.query`. -/
def tenantQuery (tenantId table : String) (args : QueryArgs) : Db PaginatedItems :=
  issue (tenantQueryRequest tenantId table args)

/-- `query`, with the arguments both clients take. The control-plane client asks for a key
    condition of its own. -/
def Client.query (client : Client) (table : String) (args : QueryArgs) : Db PaginatedItems :=
  match client with
  | .tenantScoped tenantId => tenantQuery tenantId table args
  | .controlPlane =>
      .raise (.valueError "ControlPlaneDynamoDB.query requires pk_value or key_condition")

/-- The exception a loop over pages comes to when the function's time is up. -/
def timedOut : Exc := .other "Task timed out"

/-- The key the next page starts after, or `none` when there is no next page. -/
def nextStartKey (page : PaginatedItems) : Option Items :=
  page.lastEvaluatedKey.filter fun key => !key.isEmpty

/-- The loop of `query_all` and `scan_all`, for as many pages as there is time for. -/
def allPages (fetch : Val → Db PaginatedItems) : Nat → Val → Db (List Items)
  | 0, _ => .raise timedOut
  | pages + 1, startKey => do
      let page ← fetch startKey
      match nextStartKey page with
      | none => pure page.items
      | some key =>
          let items ← allPages fetch pages (.dict key)
          pure (page.items ++ items)

/-- `TenantScopedDynamoDB.query_all`. -/
def tenantQueryAll (tenantId table : String) (skCondition : Option (Items → Bool))
    (filterExpression : Option Arg) (indexName : Option String) (scanIndexForward : Bool)
    (pages : Nat) : Db (List Items) :=
  allPages (fun startKey => tenantQuery tenantId table
    { skCondition, filterExpression, indexName, scanIndexForward, exclusiveStartKey := startKey })
    pages .none

/-- `ControlPlaneDynamoDB.query`, of one partition. -/
def controlPlaneQuery (table pkValue : String) : Db PaginatedItems :=
  issue ⟨.query, table, (noKwargs.set "KeyConditionExpression" (.condition (keyEq "PK" pkValue))).set
    "ScanIndexForward" (.val (.bool true))⟩

/-- What `ControlPlaneDynamoDB.query` is called with. -/
structure ControlPlaneQueryArgs extends QueryArgs where
  pkValue : Option String := none
  keyCondition : Option (Items → Bool) := none

/-- The key condition of `ControlPlaneDynamoDB.query`: one of its own, or a partition, with a condition
    on the sort key. -/
def controlPlaneKeyCondition (args : ControlPlaneQueryArgs) : Except Exc (Items → Bool) :=
  match args.keyCondition, args.pkValue with
  | some keyCondition, _ => .ok keyCondition
  | none, some pkValue => .ok (match args.skCondition with
      | some skCondition => conditionAnd (keyEq "PK" pkValue) skCondition
      | none => keyEq "PK" pkValue)
  | none, none =>
      .error (.valueError "ControlPlaneDynamoDB.query requires pk_value or key_condition")

/-- `ControlPlaneDynamoDB.query`, with all its arguments. -/
def controlPlaneQueryWith (table : String) (args : ControlPlaneQueryArgs) : Db PaginatedItems :=
  match controlPlaneKeyCondition args with
  | .error exc => .raise exc
  | .ok keyCondition =>
      let kwargs := (noKwargs.set "KeyConditionExpression" (.condition keyCondition)).set
        "ScanIndexForward" (.val (.bool args.scanIndexForward))
      let kwargs := setSome "FilterExpression" args.filterExpression kwargs
      let kwargs := setSome "IndexName" (args.indexName.map fun name => .val (.str name)) kwargs
      let kwargs := setSome "Limit" (args.limit.map fun n => .val (.int n)) kwargs
      let kwargs := setSome "ExclusiveStartKey" (valUnlessNone args.exclusiveStartKey) kwargs
      issue ⟨.query, table, kwargs.update args.extraKwargs.items⟩

/-- `ControlPlaneDynamoDB.query_all`. -/
def controlPlaneQueryAll (table : String) (args : ControlPlaneQueryArgs) (pages : Nat) :
    Db (List Items) :=
  allPages (fun startKey => controlPlaneQueryWith table
    { args with limit := none, exclusiveStartKey := startKey }) pages .none

/-- `ControlPlaneDynamoDB.scan`. -/
def controlPlaneScan (table : String) (filterExpression : Option Arg) (limit : Option Int)
    (exclusiveStartKey : Val) : Db PaginatedItems :=
  let kwargs := setSome "FilterExpression" filterExpression noKwargs
  let kwargs := setSome "Limit" (limit.map fun n => .val (.int n)) kwargs
  let kwargs := setSome "ExclusiveStartKey" (valUnlessNone exclusiveStartKey) kwargs
  issue ⟨.scan, table, kwargs⟩

/-- `ControlPlaneDynamoDB.scan_all`. -/
def controlPlaneScanAll (table : String) (filterExpression : Option Arg) (pages : Nat) :
    Db (List Items) :=
  allPages (fun startKey => controlPlaneScan table filterExpression none startKey) pages .none

/-- What `ControlPlaneDynamoDB.scan_all` is called with. -/
structure ScanArgs where
  filterExpression : Option Arg := none
  expressionAttributeNames : Option Items := none
  expressionAttributeValues : Option Items := none

/-- `ControlPlaneDynamoDB.scan`, with all its arguments. -/
def controlPlaneScanWith (table : String) (args : ScanArgs) (limit : Option Int)
    (exclusiveStartKey : Val) : Db PaginatedItems :=
  let dictOf (items : Option Items) : Option Arg := items.map fun kvs => .val (.dict kvs)
  let kwargs := setSome "FilterExpression" args.filterExpression noKwargs
  let kwargs := setSome "Limit" (limit.map fun n => .val (.int n)) kwargs
  let kwargs := setSome "ExclusiveStartKey" (valUnlessNone exclusiveStartKey) kwargs
  let kwargs := setSome "ExpressionAttributeNames" (dictOf args.expressionAttributeNames) kwargs
  let kwargs := setSome "ExpressionAttributeValues" (dictOf args.expressionAttributeValues) kwargs
  issue ⟨.scan, table, kwargs⟩

/-- `ControlPlaneDynamoDB.scan_all`, with all its arguments. -/
def controlPlaneScanAllWith (table : String) (args : ScanArgs) (pages : Nat) : Db (List Items) :=
  allPages (fun startKey => controlPlaneScanWith table args none startKey) pages .none

/-! ## The S3 client -/

def s3TenantDir : String := "tenants/"

/-- `TenantScopedS3._validate_key`, with `_raise_violation`. -/
def s3ValidateKey (tenantId key : String) : Except Exc Unit :=
  if Py.startsWith key (s3TenantDir ++ tenantId ++ "/") then .ok ()
  else
    let target := if Py.startsWith key s3TenantDir then ((Py.splitOn '/' key)[1]?).getD "unknown"
      else "unknown"
    .error (.tenantAccessViolation target tenantId key)

end A5cCell.DataAccess
