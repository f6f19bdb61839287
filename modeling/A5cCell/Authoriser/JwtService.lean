import A5cCell.Lib.Value

/-!
# JWTs at the authoriser

`jwt_service.handle_jwt`, with the route tests of `authoriser.handler` it is given: which tokens the
gateway lets through for the method and the path that a method ARN names.

The gate on roles (`is_admin_route`) sees the text of the path alone; what a route does behind the
gateway is not known here.
-/

namespace A5cCell.Authoriser

open Py (Val Items)

def platformTenantId : String := "platform"

/-! ## Routes -/

/-- The method and the path of a method ARN, which is
    `arn:aws:execute-api:{region}:{account}:{apiId}/{stage}/{method}/{resourcePath}`. -/
def methodAndPath (methodArn : String) : Option (String × String) :=
  match Py.splitMax '/' 3 methodArn with
  | [_, _, method, path] => some (Py.upper method, Py.stripChar '/' path)
  | _ => none

/-- The test of `is_admin_route` on the method and the path. -/
def isAdminPath (method path : String) : Bool :=
  if Py.startsWith path "v1/platform" then true
  else if path = "v1/tenants" then method = "POST"
  else if Py.startsWith path "v1/tenants/" && Py.endsWith path "/audit-export" then true
  else Py.startsWith path "v1/tenants/" && ["PATCH", "PUT", "DELETE"].contains method

def isAdminRoute (methodArn : String) : Bool :=
  (methodAndPath methodArn).any fun route => isAdminPath route.1 route.2

def isPlatformRoute (methodArn : String) : Bool :=
  (methodAndPath methodArn).any fun route => Py.startsWith route.2 "v1/platform"

def isPlatformAgentRegistrationRoute (methodArn : String) : Bool :=
  (methodAndPath methodArn).any fun route => route.1 = "POST" ∧ route.2 = "v1/platform/agents"

/-! ## Policies -/

inductive PolicyEffect where
  | allow
  | deny
  deriving DecidableEq

/-- The policy the gateway is answered with, of one statement. -/
structure Policy where
  principalId : Val
  effect : PolicyEffect
  resource : String
  context : Items

def generatePolicy (principalId : Val) (effect : PolicyEffect) (methodArn : String)
    (context : Items) : Policy :=
  ⟨principalId, effect, methodArn, context⟩

/-! ## The tenant of a token -/

/-- What the authoriser is given: the verification of tokens and the tenants table. -/
structure JwtGate where
  /-- `get_jwk_client`, `get_signing_key_from_jwt` and `jwt.decode`: the payload; `none` where there
      is no client or one of them raises. -/
  decode : String → Option Items
  /-- `TENANTS_TABLE`. -/
  tenantsTable : Option String
  /-- `ControlPlaneDynamoDB.get_item`, or that it raises. -/
  getItem : String → Items → Except Unit (Option Items)
  /-- `json.dumps`, of a part of a payload. -/
  jsonDumps : Val → String

/-- `get_tenant_status`. -/
def JwtGate.getTenantStatus (gate : JwtGate) (tenantId : Val) : Option String :=
  match Py.truthyText gate.tenantsTable with
  | none => none
  | some table =>
      match gate.getItem table [("PK", .str ("TENANT#" ++ tenantId.toStr)), ("SK", .str "METADATA")] with
      | .ok (some (first :: rest)) => match Items.get (first :: rest) "status" with
        | .none => none
        | status => some status.toStr
      | _ => none

/-- `role in roles`; `none` where `roles` is nothing a text can be in. -/
def isIn (role : String) : Val → Option Bool
  | .list values => some (values.any fun v => v.asStr? = some role)
  | .str text => some (Py.hasSub text role)
  | .dict kvs => some (kvs.any fun kv => kv.1 = role)
  | _ => none

/-- `"Platform.Admin" not in roles and "Platform.Operator" not in roles`. -/
def lacksPlatformRoles (roles : Val) : Option Bool :=
  match isIn "Platform.Admin" roles with
  | some false => (isIn "Platform.Operator" roles).map fun found => !found
  | found => found.map fun _ => false

/-- The tenant a token speaks for on a route. -/
def effectiveTenantId (methodArn : String) (tenantId : Val) : Val :=
  if isPlatformRoute methodArn then .str platformTenantId else tenantId

/-- `handle_jwt`. -/
def handleJwt (gate : JwtGate) (token methodArn : String) : Policy :=
  let invalid := generatePolicy (.str "user") .deny methodArn []
  match gate.decode token with
  | none => invalid
  | some payload =>
      let tenantId := payload.get "tenantid"
      let appId := payload.get "appid"
      let tier := payload.get "tier" (.str "basic")
      let sub := payload.get "sub" (.str "unknown")
      let roles := payload.get "roles" (.list [])
      let denied := generatePolicy sub .deny methodArn []
      if !tenantId.truthy || !appId.truthy then denied
      else if isPlatformAgentRegistrationRoute methodArn ∧
          tenantId.asStr? ≠ some platformTenantId then denied
      else
        let effectiveTenantId := effectiveTenantId methodArn tenantId
        if gate.getTenantStatus effectiveTenantId ≠ some "active" then denied
        else match if isAdminRoute methodArn then lacksPlatformRoles roles else some false with
          | none => invalid
          | some true => denied
          | some false => generatePolicy sub .allow methodArn [
              ("tenantid", effectiveTenantId),
              ("appid", appId),
              ("tier", tier),
              ("sub", sub),
              ("roles", .str (gate.jsonDumps roles)),
              ("usageIdentifierKey", effectiveTenantId)]

/-! ## Which tokens pass -/

def rolesClaim (payload : Items) : Val := payload.get "roles" (.list [])

/-- The roles a claim names: a text names its words, as the API behind the gateway reads it. -/
def rolesOf : Val → List String
  | .list values => values.filterMap Val.asStr?
  | .str text => Py.splitSpace (Py.replace text "," " ")
  | .dict kvs => kvs.map Prod.fst
  | _ => []

/-- One of the roles is exactly a role of the platform. -/
def HasExactRole (payload : Items) : Prop :=
  "Platform.Admin" ∈ rolesOf (rolesClaim payload) ∨ "Platform.Operator" ∈ rolesOf (rolesClaim payload)

instance (payload : Items) : Decidable (HasExactRole payload) := inferInstanceAs (Decidable (_ ∨ _))

/-- A token that verifies, of a tenant and an application, whose tenant is active. -/
structure JwtGate.ActiveToken (gate : JwtGate) (token : String) (payload : Items) : Prop where
  decoded : gate.decode token = some payload
  tenant : (payload.get "tenantid").truthy = true
  app : (payload.get "appid").truthy = true
  active : gate.getTenantStatus (payload.get "tenantid") = some "active"

section

variable {gate : JwtGate} {token methodArn : String} {payload : Items}

/-- What the gate has checked of a token before it looks at its roles. -/
structure JwtGate.Admits (gate : JwtGate) (methodArn : String) (payload : Items) : Prop where
  tenant : (payload.get "tenantid").truthy = true
  app : (payload.get "appid").truthy = true
  registration : isPlatformAgentRegistrationRoute methodArn = true →
    (payload.get "tenantid").asStr? = some platformTenantId
  active : gate.getTenantStatus (effectiveTenantId methodArn (payload.get "tenantid")) = some "active"

/-- What the gate has checked of a token it allows. -/
structure JwtGate.Allowed (gate : JwtGate) (methodArn : String) (payload : Items) : Prop
    extends gate.Admits methodArn payload where
  roles : isAdminRoute methodArn = true → lacksPlatformRoles (rolesClaim payload) = some false

theorem handleJwt_allow_iff (hdecode : gate.decode token = some payload) :
    (handleJwt gate token methodArn).effect = .allow ↔ gate.Allowed methodArn payload := by
  simp only [handleJwt, hdecode]
  constructor
  · intro h
    split at h
    · cases h
    next htruthy =>
    split at h
    · cases h
    next hregistration =>
    split at h
    · cases h
    next hactive =>
    split at h
    · cases h
    · cases h
    next hroles =>
    simp only [Bool.or_eq_true, Bool.not_eq_true', not_or, Bool.not_eq_false] at htruthy
    refine ⟨⟨htruthy.1, htruthy.2, fun hroute => ?_, not_not.mp hactive⟩, fun hroute => ?_⟩
    · exact not_not.mp fun hother => hregistration ⟨hroute, hother⟩
    · rw [if_pos hroute] at hroles
      exact hroles
  · intro h
    have hroles : (if isAdminRoute methodArn then lacksPlatformRoles (payload.get "roles" (.list []))
        else some false) = some false := by
      split
      · next hroute => exact h.roles hroute
      · rfl
    have hregistration : ¬ (isPlatformAgentRegistrationRoute methodArn = true ∧
        (payload.get "tenantid").asStr? ≠ some platformTenantId) :=
      fun hboth => hboth.2 (h.registration hboth.1)
    rw [if_neg (by simp [h.tenant, h.app]), if_neg hregistration, if_neg (not_not.mpr h.active), hroles]
    rfl

/-- A token that does not verify is denied. -/
theorem handleJwt_deny_of_decode (hdecode : gate.decode token = none) :
    (handleJwt gate token methodArn).effect = .deny := by
  rw [handleJwt, hdecode]
  rfl

theorem effect_deny_iff {policy : Policy} : policy.effect = .deny ↔ ¬ policy.effect = .allow := by
  cases policy.effect <;> decide

/-- The token of an active tenant is admitted on a route that is not the platform's. -/
theorem JwtGate.ActiveToken.admits (h : gate.ActiveToken token payload)
    (hplatform : isPlatformRoute methodArn = false)
    (hregistration : isPlatformAgentRegistrationRoute methodArn = false) :
    gate.Admits methodArn payload where
  tenant := h.tenant
  app := h.app
  registration := fun hroute => by
    rw [hregistration] at hroute
    cases hroute
  active := by
    rw [effectiveTenantId, hplatform, if_neg Bool.false_ne_true]
    exact h.active

theorem asStr?_eq_some {v : Val} {text : String} : v.asStr? = some text ↔ v = .str text := by
  cases v <;> simp [Val.asStr?]

/-- A role that is found in a claim that is no text is one of its roles. -/
theorem mem_rolesOf_of_isIn {role : String} {roles : Val} (htext : ∀ text, roles ≠ .str text)
    (h : isIn role roles = some true) : role ∈ rolesOf roles := by
  cases roles with
  | list values =>
    rw [isIn, Option.some.injEq, List.any_eq_true] at h
    obtain ⟨v, hv, hrole⟩ := h
    exact List.mem_filterMap.mpr ⟨v, hv, by simpa using hrole⟩
  | str text => exact absurd rfl (htext text)
  | dict kvs =>
    rw [isIn, Option.some.injEq, List.any_eq_true] at h
    obtain ⟨kv, hkv, hrole⟩ := h
    exact List.mem_map.mpr ⟨kv, hkv, by simpa using hrole⟩
  | _ => cases h

theorem found_of_lacksPlatformRoles {roles : Val} (h : lacksPlatformRoles roles = some false) :
    isIn "Platform.Admin" roles = some true ∨ isIn "Platform.Operator" roles = some true := by
  unfold lacksPlatformRoles at h
  split at h
  · rw [Option.map_eq_some_iff] at h
    obtain ⟨found, hfound, hnot⟩ := h
    cases found
    · cases hnot
    · exact .inr hfound
  next hadmin =>
    rw [Option.map_eq_some_iff] at h
    obtain ⟨found, hfound, -⟩ := h
    cases found
    · exact absurd hfound hadmin
    · exact .inl hfound

/-- The claim is a text in which the name of a role of the platform is found, whatever stands around it. -/
def NamedInText (payload : Items) : Prop :=
  ∃ text, rolesClaim payload = .str text ∧
    (Py.hasSub text "Platform.Admin" = true ∨ Py.hasSub text "Platform.Operator" = true)

/-- **What the gate takes for a role**: of a token that has none of the platform's, a text. -/
theorem lacksPlatformRoles_iff (hexact : ¬ HasExactRole payload) :
    lacksPlatformRoles (rolesClaim payload) = some false ↔ NamedInText payload := by
  constructor
  · intro h
    have hfound := found_of_lacksPlatformRoles h
    by_cases htext : ∃ text, rolesClaim payload = .str text
    · obtain ⟨text, htext⟩ := htext
      rw [htext] at hfound
      exact ⟨text, htext, hfound.imp Option.some.inj Option.some.inj⟩
    · have hlist (text : String) (heq : rolesClaim payload = .str text) : False := htext ⟨text, heq⟩
      exact absurd (hfound.imp (mem_rolesOf_of_isIn hlist) (mem_rolesOf_of_isIn hlist)) hexact
  · rintro ⟨text, htext, hnamed⟩
    rw [htext, lacksPlatformRoles, isIn]
    cases hadmin : Py.hasSub text "Platform.Admin" with
    | true => rfl
    | false =>
      rcases hnamed with hnamed | hnamed
      · rw [hadmin] at hnamed
        cases hnamed
      · simp only [isIn, hnamed, Option.map_some, Bool.not_true]

end

/-! ## The ARN of a request -/

/-- A stage of an API: its ARN prefix and its name, of which neither has a slash. -/
structure ApiStage where
  apiArn : String
  stage : String
  apiArn_plain : '/' ∉ apiArn.toList
  stage_plain : '/' ∉ stage.toList

/-- The method ARN of a request to the stage; the path starts with a slash. -/
def ApiStage.methodArn (api : ApiStage) (method path : String) : String :=
  api.apiArn ++ "/" ++ (api.stage ++ "/" ++ (method ++ path))

theorem methodAndPath_methodArn (api : ApiStage) {method : String} (hmethod : '/' ∉ method.toList)
    (rest : String) : methodAndPath (api.methodArn method ("/" ++ rest)) =
      some (Py.upper method, Py.stripChar '/' rest) := by
  have hsplit : Py.splitMax '/' 3 (api.methodArn method ("/" ++ rest)) =
      [api.apiArn, api.stage, method, rest] := by
    rw [ApiStage.methodArn, show "/" = String.singleton '/' from rfl,
      Py.splitMax_append api.apiArn_plain, Py.splitMax_append api.stage_plain, ← String.append_assoc,
      Py.splitMax_append hmethod]
    simp [Py.splitMax, Py.splitMaxAux]
  rw [methodAndPath, hsplit]

end A5cCell.Authoriser
