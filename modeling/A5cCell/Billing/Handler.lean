import Mathlib.Algebra.Ring.Int.Defs
import A5cCell.Billing.Windows
import A5cCell.TenantApi.Records

/-!
# The billing pipeline

`billing.handler`: once a day the tokens of each tenant are summed, priced, and added to the summary of
its month; an active tenant over its budget is suspended, and an event says so. What the scan read of a
tenant is what the run knows of it to the end. Floats, and how they round, are the library's.
-/

namespace A5cCell.Billing

open Py (Val Items)
open Civil (DateTime)
open DataAccess TenantApi

/-- The numbers and the dates of Python's library. -/
structure Library where
  /-- `float`, with its infinities and its `nan`. -/
  Double : Type
  /-- `float(value)`, and what an integer becomes next to a float. -/
  float : Val → Except Exc Double
  /-- A literal such as `1000.0`. -/
  literal : Nat → Double
  add : Double → Double → Double
  mul : Double → Double → Double
  div : Double → Double → Double
  /-- `x < y`, which no `nan` is in. -/
  lt : Double → Double → Bool
  /-- `round(x, digits)`. -/
  round : Double → Nat → Double
  /-- A float, as a value. -/
  ofFloat : Double → Val
  /-- `Decimal(str(x))`. -/
  decimal : Double → Val
  /-- `datetime.fromisoformat(value).replace(tzinfo=UTC)`. -/
  fromIsoformat : Val → Except Exc DateTime
  /-- The date and time of an instant, in UTC. -/
  utc : Instant → DateTime

/-- What the module reads from its environment when it is imported. -/
structure Settings where
  tenantsTable : String
  invocationsTable : String
  eventBusName : String

/-- `os.environ[name]`. -/
def environOf (py : Python) (name : String) : Except Exc String :=
  match py.environ name with
  | some value => .ok value
  | none => .error (.keyError name)

/-- The constants of the module. -/
def settingsOf (py : Python) : Except Exc Settings := do
  let tenantsTable ← environOf py "TENANTS_TABLE_NAME"
  let invocationsTable ← environOf py "INVOCATIONS_TABLE_NAME"
  pure { tenantsTable, invocationsTable, eventBusName := TenantApi.eventBusName py }

/-! ## Fields -/

/-- `_read_str_field`. -/
def readStrField (record : Items) (names : List String) : Option String :=
  names.findSome? fun name => (record.get name).strOrNone

/-- `_read_float_field` and `_read_int_field`: the first field that is there, as a number. -/
def readField {α : Type} (number : Val → Except Exc α) (record : Items) (names : List String)
    (default : α) : Except Exc α :=
  match names.find? fun name => !(record.get name).isNone with
  | some name => number (record.get name)
  | none => .ok default

/-- `int(value)`. -/
def intOf (value : Val) : Except Exc Int :=
  match value.toInt with
  | .ok n => .ok n
  | .invalid => .error (.valueError "invalid literal for int() with base 10")
  | .overflow => .error (.other "OverflowError")

def readFloatField (lib : Library) : Items → List String → lib.Double → Except Exc lib.Double :=
  readField lib.float

def readIntField : Items → List String → Int → Except Exc Int := readField intOf

/-! ## Prices -/

structure Pricing (lib : Library) where
  input1k : lib.Double
  output1k : lib.Double

def pricingPath (tier : String) : String := "/platform/billing/pricing/" ++ tier

/-- `type(value).__name__`, of what JSON text decodes to. -/
def typeName : Val → String
  | .none => "NoneType"
  | .bool _ => "bool"
  | .int _ => "int"
  | .str _ => "str"
  | .list _ => "list"
  | .dict _ => "dict"
  | .obj _ => "float"

/-- A price of the parameter; an exception that is none of the two caught goes on. -/
def priceOf (lib : Library) (path : String) (parsed : Items) (field : String) :
    Except Exc lib.Double :=
  match parsed.get field with
  | .none => .error (.runtimeError ("Pricing parameter " ++ path ++ " is missing " ++ field))
  | raw => match lib.float raw with
    | .error (.typeError _) | .error (.valueError _) => .error (.runtimeError
        ("Pricing parameter " ++ path ++ " has non-numeric " ++ field ++ ": " ++ raw.repr))
    | read => read

/-- `_get_pricing`. -/
def getPricing (lib : Library) (tier : String) : Api (Pricing lib) := do
  let path := pricingPath tier
  match ← (Api.service "pricing_provider" "get"
      [("name", .str path), ("max_age", .int 300), ("transform", .str "json")]).attempt with
  | .error _ => .raise (.runtimeError ("Failed to fetch pricing parameter " ++ path ++ " from SSM"))
  | .ok (.dict parsed) =>
      let input1k ← Api.ofExcept (priceOf lib path parsed "input_1k")
      let output1k ← Api.ofExcept (priceOf lib path parsed "output_1k")
      pure { input1k, output1k }
  | .ok parsed => .raise (.runtimeError
      ("Pricing parameter " ++ path ++ " must be a JSON object, got " ++ typeName parsed))

/-- `_calculate_cost`: an integer that no float can hold is an `OverflowError`. -/
def calculateCost (lib : Library) (inputTokens outputTokens : Int) (pricing : Pricing lib) :
    Except Exc lib.Double := do
  let inputTokens ← lib.float (.int inputTokens)
  let inputCost := lib.mul (lib.div inputTokens (lib.literal 1000)) pricing.input1k
  let outputTokens ← lib.float (.int outputTokens)
  let outputCost := lib.mul (lib.div outputTokens (lib.literal 1000)) pricing.output1k
  pure (lib.add inputCost outputCost)

/-! ## One tenant -/

/-- `_get_active_tenants`. -/
def getActiveTenants (py : Python) (settings : Settings) : Api (List Items) :=
  Api.dynamodb (controlPlaneScanAll settings.tenantsTable (some (.condition fun row =>
    keyEq "SK" "METADATA" row && (keyEq "status" "active" row || keyEq "status" "suspended" row)))
    py.pages)

/-- `sum(int(inv.get(field, 0)) for inv in invocations)`. -/
def tokensOf (field : String) (invocations : List Items) : Except Exc Int := do
  let counts ← invocations.mapM fun inv => intOf (inv.get field (.int 0))
  pure counts.sum

/-- `date_to_process.strftime("%Y-%m")`. -/
def yearMonthOf (date : Civil.Date) : String :=
  String.ofList (Civil.padded 4 date.year ++ '-' :: Civil.padded 2 date.month)

/-- The key of a tenant's summary of a month. -/
def summaryKey (tenantId yearMonth : String) : Items :=
  [("PK", .str (tenantPk tenantId)), ("SK", .str ("BILLING#" ++ yearMonth))]

def summaryExpression : String :=
  "SET tenantId = :tid, tenant_id = :tid, yearMonth = :ym, year_month = :ym, " ++
  "updatedAt = :lu, last_updated = :lu " ++
  "ADD totalInputTokens :di, total_input_tokens :di, totalOutputTokens :do, " ++
  "total_output_tokens :do, totalCostUsd :dc, total_cost_usd :dc"

/-- What a day of a tenant comes to. -/
structure DayUsage (lib : Library) where
  input : Int
  output : Int
  cost : lib.Double

/-- The attributes added for a day, with their values in the expression. -/
def summaryValues (lib : Library) (tenantId yearMonth lastUpdated : String) (day : DayUsage lib) :
    Items :=
  [(":tid", .str tenantId), (":ym", .str yearMonth), (":lu", .str lastUpdated),
    (":di", .int day.input), (":do", .int day.output), (":dc", lib.decimal (lib.round day.cost 4))]

/-- The totals of a month, as the update of its summary leaves them. -/
structure MonthTotals (lib : Library) where
  input : Int
  output : Int
  cost : lib.Double

def totalsOf (lib : Library) (updateResponse : Items) (day : DayUsage lib) :
    Except Exc (MonthTotals lib) := do
  let updated : Items := (updateResponse.get "Attributes" (.dict [])).asDict?.getD []
  let input ← readIntField updated ["totalInputTokens", "total_input_tokens"] day.input
  let output ← readIntField updated ["totalOutputTokens", "total_output_tokens"] day.output
  let cost ← readFloatField lib updated ["totalCostUsd", "total_cost_usd"] day.cost
  pure { input, output, cost }

/-- The metrics of a tenant. -/
def metricsOf (lib : Library) (tenantId tier : String) (day : DayUsage lib)
    (totals : MonthTotals lib) : Except Exc Items := do
  let dimensions : Val := .list [
    .dict [("Name", .str "TenantId"), ("Value", .str tenantId)],
    .dict [("Name", .str "Tier"), ("Value", .str tier)]]
  let metric (name : String) (value : lib.Double) : Val := .dict [
    ("MetricName", .str name), ("Value", lib.ofFloat value), ("Unit", .str "None"),
    ("Dimensions", dimensions)]
  let input ← lib.float (.int totals.input)
  let output ← lib.float (.int totals.output)
  pure [("Namespace", .str "Platform/Billing"),
    ("MetricData", .list [
      metric "MonthlyCost" totals.cost,
      metric "DailyCost" day.cost,
      metric "InputTokens" input,
      metric "OutputTokens" output])]

/-- The event of a tenant that is over its budget. -/
def budgetExceededEntries (lib : Library) (settings : Settings) (tenantId tier : String)
    (budget cost : lib.Double) (yearMonth : String) : Items :=
  [("Entries", .list [.dict [
    ("Source", .str "platform.billing"),
    ("DetailType", .str "platform.tenant.budget_exceeded"),
    ("Detail", .dict [
      ("tenantId", .str tenantId),
      ("tier", .str tier),
      ("budget", lib.ofFloat budget),
      ("cost", lib.ofFloat cost),
      ("yearMonth", .str yearMonth)]),
    ("EventBusName", .str settings.eventBusName)]])]

/-- What a run knows of a tenant from the scan. -/
structure BilledTenant (lib : Library) where
  tenantId : String
  tier : TenantTier
  budget : lib.Double
  status : Val

/-- The head of `_process_tenant`. The status is read only of a tenant over its budget, and the filter
    of the scan is on it, so it is there. -/
def billedTenantOf (lib : Library) (tenant : Items) : Except Exc (BilledTenant lib) := do
  let some tenantId := readStrField tenant ["tenantId", "tenant_id"]
    | .error (.valueError "tenant record is missing tenantId")
  let some tier := readStrField tenant ["tier"]
    | .error (.valueError ("tenant " ++ tenantId ++ " is missing tier"))
  let budget ← readFloatField lib tenant ["monthlyBudgetUsd", "monthly_budget_usd"] (lib.literal 0)
  let some tier := TenantTier.ofValue? tier
    | .error (.valueError ("'" ++ tier ++ "' is not a valid TenantTier"))
  pure { tenantId, tier, budget, status := tenant.get "status" }

/-- What a day's invocations come to, at the prices of the tier. -/
def dayUsageOf (py : Python) (lib : Library) (settings : Settings) (tenant : BilledTenant lib)
    (dateToProcess : DateTime) : Api (DayUsage lib) := do
  let invocations ← Api.dynamodb (tenantQueryAll tenant.tenantId settings.invocationsTable
    (some (dayWindow dateToProcess)) none none true py.pages)
  let input ← Api.ofExcept (tokensOf "input_tokens" invocations)
  let output ← Api.ofExcept (tokensOf "output_tokens" invocations)
  let priced ← (getPricing lib tenant.tier.value).attempt
  match priced with
  | .error (.runtimeError _) =>
      .raise (.runtimeError ("Unable to price tenant " ++ tenant.tenantId))
  | .error exc => .raise exc
  | .ok pricing =>
      let cost ← Api.ofExcept (calculateCost lib input output pricing)
      pure { input, output, cost }

/-- The atomic update of the month's summary. -/
def addToSummary (lib : Library) (settings : Settings) (tenantId yearMonth : String)
    (day : DayUsage lib) : Api (MonthTotals lib) := do
  let now ← Api.now
  let updateResponse ← Api.dynamodb ((Client.tenantScoped tenantId).updateItem settings.tenantsTable
    (summaryKey tenantId yearMonth) summaryExpression
    (summaryValues lib tenantId yearMonth (lib.utc now).isoformat day))
  Api.ofExcept (totalsOf lib updateResponse day)

/-- The suspension of a tenant, and its event. -/
def suspendTenant (lib : Library) (settings : Settings) (tenant : BilledTenant lib)
    (yearMonth : String) (cost : lib.Double) : Api Unit := do
  let now ← Api.now
  let updatedAt : Val := .str (lib.utc now).isoformat
  let _ ← Api.dynamodb ((Client.tenantScoped tenant.tenantId).updateItem settings.tenantsTable
    (tenantKey tenant.tenantId) "SET #s = :s, updatedAt = :u, updated_at = :u"
    [(":s", .str "suspended"), (":u", updatedAt)] (some [("#s", .str "status")])
    (some "attribute_exists(PK)"))
  let _ ← Api.service "events" "put_events" (budgetExceededEntries lib settings tenant.tenantId
    tenant.tier.value tenant.budget cost yearMonth)

/-- The metrics of a tenant, as they are sent. -/
def putMetrics (lib : Library) (tenant : BilledTenant lib) (day : DayUsage lib)
    (totals : MonthTotals lib) : Api Unit := do
  let metrics ← Api.ofExcept (metricsOf lib tenant.tenantId tenant.tier.value day totals)
  let _ ← Api.service "cloudwatch" "put_metric_data" metrics

/-- `_process_tenant`. -/
def processTenant (py : Python) (lib : Library) (settings : Settings) (tenant : Items)
    (dateToProcess : DateTime) : Api Unit := do
  let billed ← Api.ofExcept (billedTenantOf lib tenant)
  let yearMonth := yearMonthOf dateToProcess.date
  let day ← dayUsageOf py lib settings billed dateToProcess
  let totals ← addToSummary lib settings billed.tenantId yearMonth day
  let _ ← (putMetrics lib billed day totals).attempt
  if lib.lt (lib.literal 0) billed.budget ∧ lib.lt billed.budget totals.cost ∧
      billed.status.asStr? = some "active" then
    suspendTenant lib settings billed yearMonth totals.cost

/-! ## The run -/

/-- The loop over the tenants: how many were processed, and how many failed. No `except` sees that the
    function's time is up. -/
def processTenants (py : Python) (lib : Library) (settings : Settings) (dateToProcess : DateTime) :
    List Items → Api (Nat × Nat)
  | [] => pure (0, 0)
  | tenant :: tenants => do
      match ← (processTenant py lib settings tenant dateToProcess).attempt with
      | .ok _ =>
          let (processed, errors) ← processTenants py lib settings dateToProcess tenants
          pure (processed + 1, errors)
      | .error exc =>
          if exc = timedOut then .raise exc
          else
            let (processed, errors) ← processTenants py lib settings dateToProcess tenants
            pure (processed, errors + 1)

/-- The date a run is for: that of the event, or yesterday. -/
def dateOf (lib : Library) (event : Items) : Api DateTime :=
  match event.lookup "date" with
  | some date => Api.ofExcept (lib.fromIsoformat date)
  | none => do
      let now ← Api.now
      pure (lib.utc (now - days 1))

/-- `lambda_handler`. -/
def lambdaHandler (py : Python) (lib : Library) (event : Items) : Api Items := do
  let settings ← Api.ofExcept (settingsOf py)
  let dateToProcess ← dateOf lib event
  let tenants ← getActiveTenants py settings
  let (processed, errors) ← processTenants py lib settings dateToProcess tenants
  pure [
    ("status", .str (if errors = 0 then "success" else "partial_failure")),
    ("processed", .int processed),
    ("errors", .int errors),
    ("date", .str (String.ofList dateToProcess.date.iso))]

end A5cCell.Billing
