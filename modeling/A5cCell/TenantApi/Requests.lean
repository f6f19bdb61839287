import A5cCell.TenantApi.Effects
import A5cCell.DataAccess.Models

/-!
# Requests to the tenant API

`http_utils`, `models`, `auth`, `validation` and `bootstrap`: who calls, with which method and
path, and for which tenant; and the checks a request goes through.
-/

namespace A5cCell.TenantApi

open Py (Val Items Dict)
open DataAccess

/-! ## The caller -/

def platformTenantId : String := "platform"
def adminRoles : List String := ["Platform.Admin"]
def platformSelfServiceAdminRoles : List String := ["Platform.Admin", "Platform.Operator"]
def selfServiceAdminRoles : List String := ["Platform.Admin", "Platform.Operator", "SelfService.Admin"]

/-- `CallerIdentity`. -/
structure CallerIdentity where
  tenantId : Option String
  appId : Option String
  tier : Option String
  sub : Option String
  roles : List String
  usageIdentifierKey : Option String

/-- `bool(caller.roles & allowed)`. -/
def CallerIdentity.hasRole (caller : CallerIdentity) (allowed : List String) : Bool :=
  caller.roles.any allowed.contains

/-- `is_admin`. -/
def CallerIdentity.isAdmin (caller : CallerIdentity) : Bool := caller.hasRole adminRoles

/-- `is_platform_actor`. -/
def CallerIdentity.isPlatformActor (caller : CallerIdentity) : Bool :=
  caller.tenantId = some platformTenantId

/-- An administrator of the platform, for examples. -/
def platformAdmin : CallerIdentity where
  tenantId := some "platform"
  appId := none
  tier := none
  sub := some "ops"
  roles := ["Platform.Admin"]
  usageIdentifierKey := none

/-- `value.get(key, default)`; only a dictionary has a `get`. -/
def getAttr (value : Val) (key : String) (default : Val := .none) : Except Exc Val :=
  match value with
  | .dict kvs => .ok (Items.get kvs key default)
  | _ => .error (.other "AttributeError")

/-- `get_authorizer_map`. -/
def getAuthorizerMap (event : Items) : Except Exc Items := do
  let authorizer ← getAttr (event.get "requestContext" (.dict [])) "authorizer" (.dict [])
  match authorizer with
  | .dict kvs => match Items.get kvs "lambda" with
    | .dict inner => pure inner
    | _ => pure kvs
  | _ => pure []

/-- The stripped texts of a list that are not blank. -/
def roleTexts (values : List Val) : List String :=
  (values.map fun v => Py.strip v.toStr).filter (· ≠ "")

/-- `parse_roles`. -/
def parseRoles (py : Python) : Val → List String
  | .list values => roleTexts values
  | .str text => match py.jsonLoads text with
    | some (.list values) => roleTexts values
    | _ => Py.splitSpace (Py.replace text "," " ")
  | _ => []

/-- `caller_identity`. -/
def callerIdentity (py : Python) (event : Items) : Except Exc CallerIdentity := do
  let auth ← getAuthorizerMap event
  pure {
    tenantId := ((auth.get "tenantid").or (auth.get "tenantId")).strOrNone
    appId := ((auth.get "appid").or (auth.get "appId")).strOrNone
    tier := (auth.get "tier").strOrNone
    sub := (auth.get "sub").strOrNone
    roles := parseRoles py (auth.get "roles")
    usageIdentifierKey :=
      ((auth.get "usageIdentifierKey").or (auth.get "usage_identifier_key")).strOrNone }

/-! ## Authorisation -/

/-- `require_admin`. -/
def requireAdmin (caller : CallerIdentity) : Except Exc Unit :=
  if caller.isAdmin then .ok ()
  else .error (.permissionError "Platform.Admin or Platform.Operator role required")

/-- `require_platform_actor`. -/
def requirePlatformActor (caller : CallerIdentity) : Except Exc Unit :=
  if caller.isPlatformActor then .ok ()
  else .error (.permissionError "Platform tenant context required")

/-- `can_read_tenant`. -/
def canReadTenant (caller : CallerIdentity) (tenantId : String) : Bool :=
  caller.isAdmin || caller.tenantId = some tenantId

/-- `is_self_service_admin`. -/
def isSelfServiceAdmin (caller : CallerIdentity) : Bool := caller.hasRole selfServiceAdminRoles

/-- `can_manage_tenant_self_service`. -/
def canManageTenantSelfService (caller : CallerIdentity) (tenantId : String) : Bool :=
  if !isSelfServiceAdmin caller then false
  else if caller.tenantId = some tenantId then true
  else caller.isPlatformActor && caller.hasRole platformSelfServiceAdminRoles

/-! ## Validation -/

def reservedTenantIds : List String := ["platform", "admin", "root", "system", "stub"]

def isTenantIdChar (c : Char) : Bool := c.isLower || c.isDigit || c == '-'

/-- `TENANT_ID_PATTERN.fullmatch`. -/
def matchesTenantId (text : String) : Bool :=
  match text.toList with
  | [] => false
  | first :: rest =>
      first.isLower && 2 ≤ rest.length && rest.length ≤ 31 && rest.dropLast.all isTenantIdChar &&
        rest.getLast?.any fun c => c.isLower || c.isDigit

/-- `canonical_tenant_id`. -/
def canonicalTenantId (value : Val) (allowReserved : Bool := false) : Except Exc String :=
  match value.strOrNone with
  | none => .error (.valueError "tenantId is required")
  | some tenantId =>
      let normalized := Py.lower tenantId
      if normalized.length < 3 ∨ 32 < normalized.length then
        .error (.valueError "tenantId must be 3-32 characters")
      else if Py.hasSub normalized "--" then
        .error (.valueError "tenantId must not contain consecutive hyphens")
      else if reservedTenantIds.contains normalized ∧
          ¬ (allowReserved = true ∧ normalized = "platform") then
        .error (.valueError "tenantId is reserved")
      else if !matchesTenantId normalized then
        .error (.valueError
          "tenantId must match ^[a-z](?:[a-z0-9-]\x7b1,30\x7d[a-z0-9])$")
      else .ok normalized

/-- An id in canonical spelling has letters, digits and hyphens only. -/
theorem isTenantIdChar_of_matchesTenantId {tenantId : String} (h : matchesTenantId tenantId = true) :
    ∀ c ∈ tenantId.toList, isTenantIdChar c = true := by
  intro c hc
  unfold matchesTenantId at h
  cases hlist : tenantId.toList with
  | nil => simp [hlist] at hc
  | cons first rest =>
    rw [hlist] at h hc
    simp only [Bool.and_eq_true, Option.any_eq_true, Bool.or_eq_true] at h
    obtain ⟨⟨⟨⟨hfirst, -⟩, -⟩, hmiddle⟩, last, hlast, hlastChar⟩ := h
    rcases List.mem_cons.mp hc with rfl | hrest
    · simp [isTenantIdChar, hfirst]
    · obtain ⟨init, hinit⟩ := List.getLast?_eq_some_iff.mp hlast
      rw [hinit, List.dropLast_concat] at hmiddle
      rw [hinit, List.mem_append, List.mem_singleton] at hrest
      rcases hrest with hmem | rfl
      · exact List.all_eq_true.mp hmiddle c hmem
      · rcases hlastChar with hchar | hchar <;> simp [isTenantIdChar, hchar]

theorem isTenantIdChar_of_canonicalTenantId {value : Val} {allowReserved : Bool} {tenantId : String}
    (h : canonicalTenantId value allowReserved = .ok tenantId) :
    ∀ c ∈ tenantId.toList, isTenantIdChar c = true := by
  unfold canonicalTenantId at h
  cases htext : value.strOrNone with
  | none =>
    rw [htext] at h
    cases h
  | some text =>
    rw [htext] at h
    simp only at h
    split_ifs at h with _ _ _ hmatch
    cases h
    exact isTenantIdChar_of_matchesTenantId (by simpa using hmatch)

/-- `AWS_ACCOUNT_ID_PATTERN.fullmatch`. -/
def matchesAwsAccountId (text : String) : Bool :=
  text.toList.length = 12 && text.toList.all Char.isDigit

/-- `require_aws_account_id`. -/
def requireAwsAccountId (value : Val) (field : String) : Except Exc String :=
  match value.strOrNone with
  | none => .error (.valueError (field ++ " is required"))
  | some accountId =>
      if matchesAwsAccountId accountId then .ok accountId
      else .error (.valueError (field ++ " must match ^[0-9]\x7b12\x7d$"))

/-- An environment variable as a value. -/
def Python.environVal (py : Python) (name : String) : Val :=
  match py.environ name with
  | some text => .str text
  | none => .none

/-- `require_platform_home_account_id`. -/
def requirePlatformHomeAccountId (py : Python) (value : Val) (field : String := "accountId") :
    Except Exc String := do
  let accountId ← requireAwsAccountId value field
  let homeAccountId ← requireAwsAccountId (py.environVal "PLATFORM_ACCOUNT_ID") "PLATFORM_ACCOUNT_ID"
  if accountId = homeAccountId then pure accountId
  else throw (.valueError (field ++ " must equal the platform home account"))

/-- `parse_optional_utc_timestamp`, with `parse_utc_timestamp`. -/
def parseOptionalUtcTimestamp (py : Python) (value : Val) (field : String) :
    Except Exc (Option Instant) :=
  match value.strOrNone with
  | none => .ok none
  | some text => match py.fromIsoformat (Py.replace text "Z" "+00:00") with
    | none => .error (.valueError (field ++ " must be an ISO 8601 UTC timestamp"))
    | some none => .error (.valueError (field ++ " must include a timezone"))
    | some (some instant) => .ok (some instant)

/-- `utils.as_float`. -/
def asFloat (py : Python) (value : Val) (field : String) : Except Exc Val :=
  match value with
  | .bool _ => .error (.valueError (field ++ " must be a number"))
  | value => match py.float value with
    | .error (.typeError _) => .error (.valueError (field ++ " must be a number"))
    | .error (.valueError _) => .error (.valueError (field ++ " must be a number"))
    | answer => answer

/-- `int(value)`. -/
def intOf (value : Val) : Except Exc Int :=
  match value.toInt with
  | .ok n => .ok n
  | .overflow => .error (.other "OverflowError")
  | .invalid => match value with
    | .str _ => .error (.valueError "invalid literal for int() with base 10")
    | _ => .error (.typeError "int() argument must be a string or a real number")

/-- `require_json_body`. -/
def requireJsonBody (py : Python) (event : Items) : Except Exc Items :=
  match event.get "body" with
  | .none => .error (.valueError "Request body is required")
  | .str text => match py.jsonLoads text with
    | none => .error (.valueError "Malformed JSON body")
    | some (.dict body) => .ok body
    | some _ => .error (.valueError "JSON body must be an object")
  | _ => .error (.valueError "Request body must be a JSON string")

/-! ## The runtime of a request -/

/-- `TenantApiRuntime`, as far as a handler reads it. -/
structure TenantApiRuntime where
  caller : CallerIdentity
  method : String
  path : String
  tenantId : Option String
  detailType : Option String
  source : Option String

/-- `event.get("requestContext", {}).get("http", {}).get(name)`. -/
def requestContextHttp (event : Items) (name : String) : Except Exc Val := do
  let http ← getAttr (event.get "requestContext" (.dict [])) "http" (.dict [])
  getAttr http name

/-- A field of the event, or of its HTTP context where it is falsy. -/
def eventOrHttp (event : Items) (field name : String) : Except Exc Val :=
  if (event.get field).truthy then .ok (event.get field) else requestContextHttp event name

/-- The tenant of the path parameters, as the path has it and canonical. -/
def pathTenant (event : Items) (caller : CallerIdentity) : Except Exc (Option (String × String)) := do
  let raw ← getAttr ((event.get "pathParameters").or (.dict [])) "tenantId"
  if raw.truthy then
    let tenantId ← canonicalTenantId raw caller.isAdmin
    pure (some (raw.toStr, tenantId))
  else pure none

/-- `bootstrap.build_runtime`. -/
def buildRuntime (py : Python) (event : Items) : Except Exc TenantApiRuntime := do
  let caller ← callerIdentity py event
  let method ← eventOrHttp event "httpMethod" "method"
  let path ← eventOrHttp event "path" "path"
  let path := Py.rstripChar '/' (path.or (.str "")).toStr
  let tenant ← pathTenant event caller
  pure {
    caller
    method := Py.upper (method.or (.str "GET")).toStr
    path := match tenant with
      | some (raw, tenantId) => Py.replace path raw tenantId
      | none => path
    tenantId := tenant.map (·.2)
    detailType := (event.get "detail-type").strOrNone
    source := (event.get "source").strOrNone }

end A5cCell.TenantApi
