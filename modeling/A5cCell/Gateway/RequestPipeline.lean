import A5cCell.Gateway.RequestTools

/-!
# The request interceptor

`request_pipeline.process_request`, with `request_token.py`. A request is authenticated by its
bearer token, admitted to its tool, given a token scoped to that tool, and forwarded with the
identity headers that say whose request it is.

PyJWT, the JWKS client, the clock and the uuid generator are the surroundings (`RequestEnv`).
-/

namespace A5cCell.Gateway

open Py (Val Items Dict truthyText)

/-- How verifying a token fails: `ExpiredSignatureError`, another `InvalidTokenError`, or
    anything else that is raised. -/
inductive JwtFailure where
  | expired
  | invalid
  | unexpected
  deriving DecidableEq

/-- The claims of a scoped token. -/
structure ScopedClaims where
  iss : String
  aud : String
  iat : Int
  exp : Int
  jti : String
  tenantid : String
  appid : String
  tier : String
  actingSub : String
  scopeTool : String
  mcpSessionId : Option String
  mcpRequestId : String
  deriving DecidableEq

/-- What handling a request depends on besides the request. `decodeJwt token audience issuer` is
    the signing key lookup and `jwt.decode`, `encodeJwt claims key` is `jwt.encode` with HS256, and
    `signingKey` is `none` where `_get_scoped_token_signing_key` raises. -/
structure RequestEnv extends ToolEnv where
  entraAudience : Option String
  entraIssuer : Option String
  jwkClientAvailable : Bool
  decodeJwt : String → String → String → Except JwtFailure Val
  encodeJwt : ScopedClaims → String → String
  signingKey : Option String
  scopedTokenIssuer : String
  ttlSeconds : Int
  now : Int
  uuid4 : String

def platformDiagnosticsTools : List String :=
  ["get_platform_health", "get_tenant_status", "get_recent_errors", "get_runbook_guidance"]

def platformDiagnosticsRoles : List String := ["Platform.Admin", "Platform.Operator"]

/-- `_roles_from_payload`. -/
def rolesFromPayload (payload : Items) : List String :=
  match payload.get "roles" (.list []) with
  | .str role => [role]
  | .list roles => roles.map Val.toStr
  | _ => []

/-- `_effective_tenant_id`. -/
def effectiveTenantId (tenantId : String) (toolName : Option String) (roles : List String) :
    String :=
  if toolName.any platformDiagnosticsTools.contains ∧
      roles.any platformDiagnosticsRoles.contains then "platform"
  else tenantId

/-- `_safe_header_value`; `none` where it raises. -/
def safeHeaderValue (value : String) : Option String :=
  if value.toList.contains '\r' ∨ value.toList.contains '\n' then none else some value

/-- `validate_bearer_token`. -/
def validateBearerToken (env : RequestEnv) (token : String) : Except JwtFailure (Option Items) :=
  match truthyText env.entraAudience, truthyText env.entraIssuer with
  | some audience, some issuer =>
      if !env.jwkClientAvailable then .ok none
      else match env.decodeJwt token audience issuer with
        | .ok payload => .ok payload.asDict?
        | .error failure => .error failure
  | _, _ => .ok none

/-- Who a validated payload says the caller is. -/
structure Identity where
  tenantId : String
  appId : String
  tier : String
  actingSub : String
  roles : List String
  deriving DecidableEq

/-- The bearer token of a request: what stands after the first space. -/
def bearerToken (requestHeaders : Headers) : Option String :=
  match getHeader requestHeaders "Authorization" with
  | some authorization =>
      if Py.startsWith authorization "Bearer " then some (Py.afterFirst ' ' authorization) else none
  | none => none

/-- The identity in a payload. -/
def identityOf (payload : Items) : Identity where
  tenantId := ((payload.get "tenantid").or (.str "")).toStr
  appId := ((payload.get "appid").or (.str "")).toStr
  tier := ((payload.get "tier").or (.str "basic")).toStr
  actingSub := ((payload.get "sub").or (.str "unknown")).toStr
  roles := rolesFromPayload payload

/-- The first half of `process_request`: whose request it is, or why it is refused. -/
def authenticate (env : RequestEnv) (requestHeaders : Headers) : Except JsonRpcError Identity :=
  match bearerToken requestHeaders with
  | none => .error ⟨401, -32001, "Missing or invalid Bearer token"⟩
  | some userToken =>
      match validateBearerToken env userToken with
      | .error .expired => .error ⟨401, -32001, "Bearer token expired"⟩
      | .error _ => .error ⟨401, -32001, "Bearer token validation failed"⟩
      | .ok none => .error ⟨401, -32001, "Bearer token validation failed"⟩
      | .ok (some payload) =>
          let identity := identityOf payload
          if identity.tenantId = "" ∨ identity.appId = "" then
            .error ⟨401, -32001, "Missing tenant context in token"⟩
          else .ok identity

/-- The claims `issue_scoped_token` signs for an identity, acting as `tenantId`, on a tool. -/
def scopedClaims (env : RequestEnv) (identity : Identity) (tenantId scopeTool : String)
    (mcpSessionId : Option String) (mcpRequestId : Val) : ScopedClaims where
  iss := env.scopedTokenIssuer
  aud := "tool:" ++ scopeTool
  iat := env.now
  exp := env.now + env.ttlSeconds
  jti := env.uuid4
  tenantid := tenantId
  appid := identity.appId
  tier := identity.tier
  actingSub := identity.actingSub
  scopeTool := scopeTool
  mcpSessionId := mcpSessionId
  mcpRequestId := mcpRequestId.toStr

/-- The headers that carry the caller's identity, or `none` where one of them has a newline. -/
def injectedHeaders (scopedToken : String) (claims : ScopedClaims) :
    Option (List (String × String)) := do
  let token ← safeHeaderValue scopedToken
  let tenantId ← safeHeaderValue claims.tenantid
  let appId ← safeHeaderValue claims.appid
  let tier ← safeHeaderValue claims.tier
  let actingSub ← safeHeaderValue claims.actingSub
  some [("Authorization", "Bearer " ++ token), ("x-tenant-id", tenantId), ("x-app-id", appId),
    ("x-tier", tier), ("x-acting-sub", actingSub)]

/-- What `process_request` returns: a refusal, or the request to forward, with the claims of the
    scoped token it carries. -/
inductive Outcome where
  | rejected (response : InterceptorResponse)
  | accepted (claims : ScopedClaims) (response : InterceptorResponse)

/-- The response of an outcome. -/
def Outcome.response : Outcome → InterceptorResponse
  | .rejected response => response
  | .accepted _ response => response

/-- What `process_request` raises. -/
inductive Raised where
  | signingKeyMissing
  deriving DecidableEq

/-- The method of a JSON-RPC body. -/
def methodOf (requestBody : Items) : String := ((requestBody.get "method").or (.str "")).toStr

/-- The second half of `process_request`, once the tool access is settled: issue the scoped token
    and forward the request. -/
def forward (env : RequestEnv) (gatewayRequest requestBody : Items) (requestHeaders : Headers)
    (claims : ScopedClaims) : Except Raised Outcome :=
  match env.signingKey with
  | none => .error .signingKeyMissing
  | some signingKey =>
      match injectedHeaders (env.encodeJwt claims signingKey) claims with
      | none => .ok (.rejected (errorResponse env.jsonLoads gatewayRequest (requestBody.get "id")
          ⟨401, -32001, "Invalid tenant context in token"⟩))
      | some injected =>
          let kept := requestHeaders.filterKeys (fun key => Py.lower key ≠ "authorization")
          .ok (.accepted claims
            { transformedGatewayRequest :=
                { base := gatewayRequest, headers := kept.update injected, body := requestBody }
              transformedGatewayResponse := none })

/-- The headers `process_request` reads from an event. -/
def requestHeadersOf (event : Items) : Headers :=
  normalizedHeaders ((gatewayRequestOf event).get "headers" (.dict []))

/-- The body `process_request` reads from an event. -/
def requestBodyOf (jsonLoads : String → Option Val) (event : Items) : Items :=
  parseBody jsonLoads ((gatewayRequestOf event).get "body")

/-- The tenant an identity acts as on a request. -/
def actingTenant (identity : Identity) (requestBody : Items) : String :=
  effectiveTenantId identity.tenantId (extractToolName (methodOf requestBody) requestBody)
    identity.roles

/-- `process_request`. -/
def processRequest (env : RequestEnv) (event : Items) : Except Raised Outcome :=
  let requestBody := requestBodyOf env.jsonLoads event
  let requestHeaders := requestHeadersOf event
  let jsonrpcId := requestBody.get "id"
  let refuse (error : JsonRpcError) : Except Raised Outcome :=
    .ok (.rejected (errorResponse env.jsonLoads (gatewayRequestOf event) jsonrpcId error))
  match authenticate env requestHeaders with
  | .error error => refuse error
  | .ok identity =>
      let method := methodOf requestBody
      let tenantId := actingTenant identity requestBody
      match validateToolAccess env.toToolEnv method requestBody tenantId identity.tier with
      | .error error => refuse error
      | .ok toolName =>
          let scopeTool := (truthyText toolName).getD method
          forward env (gatewayRequestOf event) requestBody requestHeaders
            (scopedClaims env identity tenantId scopeTool
              (getHeader requestHeaders "Mcp-Session-Id") jsonrpcId)

/-! ## What an accepted request went through -/

/-- An authenticated caller sent a bearer token that verifies, with a tenant and an application in
    its payload. -/
theorem authenticate_ok {env : RequestEnv} {headers : Headers} {identity : Identity}
    (h : authenticate env headers = .ok identity) :
    ∃ token audience issuer payload, bearerToken headers = some token ∧
      env.decodeJwt token audience issuer = .ok (.dict payload) ∧
      identity = identityOf payload ∧ identity.tenantId ≠ "" ∧ identity.appId ≠ "" := by
  rw [authenticate] at h
  cases hbearer : bearerToken headers with
  | none => simp [hbearer] at h
  | some token =>
    simp only [hbearer, validateBearerToken] at h
    cases haudience : truthyText env.entraAudience with
    | none => simp [haudience] at h
    | some audience =>
      cases hissuer : truthyText env.entraIssuer with
      | none => simp [haudience, hissuer] at h
      | some issuer =>
        simp only [haudience, hissuer] at h
        cases hclient : env.jwkClientAvailable with
        | false => simp [hclient] at h
        | true =>
          cases hdecode : env.decodeJwt token audience issuer with
          | error failure => cases failure <;> simp [hclient, hdecode] at h
          | ok value =>
            cases hdict : value.asDict? with
            | none => simp [hclient, hdecode, hdict] at h
            | some payload =>
              simp only [hclient, hdecode, hdict, Bool.not_true, Bool.false_eq_true,
                if_false] at h
              split at h
              · exact absurd h (by simp)
              · rename_i hcontext
                rw [not_or] at hcontext
                obtain rfl := Except.ok.inj h
                exact ⟨token, audience, issuer, payload, rfl,
                  hdecode.trans (congrArg Except.ok (Val.asDict?_eq_some.mp hdict)), rfl,
                  hcontext.1, hcontext.2⟩

/-- **An accepted request, unpacked.** It was authenticated, its tool access was settled, and its
    scoped token, signed with a key that is there, went into headers without a newline. -/
theorem processRequest_accepted {env : RequestEnv} {event : Items} {claims : ScopedClaims}
    {response : InterceptorResponse} :
    processRequest env event = .ok (.accepted claims response) ↔
      ∃ identity toolName signingKey injected,
        authenticate env (requestHeadersOf event) = .ok identity ∧
        validateToolAccess env.toToolEnv (methodOf (requestBodyOf env.jsonLoads event))
          (requestBodyOf env.jsonLoads event)
          (actingTenant identity (requestBodyOf env.jsonLoads event)) identity.tier = .ok toolName ∧
        claims = scopedClaims env identity
          (actingTenant identity (requestBodyOf env.jsonLoads event))
          ((truthyText toolName).getD (methodOf (requestBodyOf env.jsonLoads event)))
          (getHeader (requestHeadersOf event) "Mcp-Session-Id")
          ((requestBodyOf env.jsonLoads event).get "id") ∧
        env.signingKey = some signingKey ∧
        injectedHeaders (env.encodeJwt claims signingKey) claims = some injected ∧
        response =
          { transformedGatewayRequest :=
              { base := gatewayRequestOf event
                headers := ((requestHeadersOf event).filterKeys
                  (fun key => Py.lower key ≠ "authorization")).update injected
                body := requestBodyOf env.jsonLoads event }
            transformedGatewayResponse := none } := by
  simp only [processRequest, forward]
  constructor
  · intro h
    cases hidentity : authenticate env (requestHeadersOf event) with
    | error error => simp [hidentity] at h
    | ok identity =>
      simp only [hidentity] at h
      cases htool : validateToolAccess env.toToolEnv (methodOf (requestBodyOf env.jsonLoads event))
          (requestBodyOf env.jsonLoads event)
          (actingTenant identity (requestBodyOf env.jsonLoads event)) identity.tier with
      | error error => simp [htool] at h
      | ok toolName =>
        simp only [htool] at h
        cases hkey : env.signingKey with
        | none => simp [hkey] at h
        | some signingKey =>
          simp only [hkey] at h
          split at h
          · exact absurd h (by simp)
          · rename_i injected hinjected
            simp only [Except.ok.injEq, Outcome.accepted.injEq] at h
            obtain ⟨rfl, rfl⟩ := h
            exact ⟨identity, toolName, signingKey, injected, rfl, htool, rfl, rfl, hinjected, rfl⟩
  · rintro ⟨identity, toolName, signingKey, injected, hidentity, htool, rfl, hkey, hinjected, rfl⟩
    simp only [hidentity, htool, hkey, hinjected]

/-! ## A small deployment

One tool for premium tenants, and an identity provider that knows the token of one basic tenant. -/

def sampleTool : Items := [("enabled", .bool true), ("tierMinimum", .str "premium")]

def samplePayload : Items :=
  [("tenantid", .str "acme"), ("appid", .str "crm"), ("tier", .str "basic"), ("sub", .str "ann"),
    ("jti", .str "0")]

/-- A token of the identity provider. -/
def sampleUserToken : String :=
  "user.payload.rs256-rs256-rs256-rs256-rs256-rs256-rs256-rs256-"

/-- A token of the gateway. -/
def sampleScopedToken : String := "scoped.payload.hs256-hs256-hs256-hs256-hs256-hs256-hs256-h"

def sampleEnv : RequestEnv where
  jsonLoads := fun _ => none
  lower := Py.lower
  sha256 := fun _ => []
  tools := fun pk sk =>
    if pk = "TOOL#get_platform_health" ∧ sk = "GLOBAL" then some sampleTool else none
  toolsReadable := true
  capabilityPolicy := none
  entraAudience := some "api://platform"
  entraIssuer := some "https://login"
  jwkClientAvailable := true
  decodeJwt := fun token _ _ =>
    if token = sampleUserToken then .ok (.dict samplePayload) else .error .invalid
  encodeJwt := fun _ _ => sampleScopedToken
  signingKey := some "key"
  scopedTokenIssuer := "platform-gateway"
  ttlSeconds := 300
  now := 0
  uuid4 := "1"

/-- A gateway event with the given headers and body. -/
def sampleEvent (headers : List (String × Val)) (body : Items) : Items :=
  [("mcp", .dict [("gatewayRequest", .dict [("headers", .dict headers), ("body", .dict body)])])]

end A5cCell.Gateway
