import A5cCell.Authoriser.JwtService

/-!
# The context of an allowed token

On the routes of the platform the gate puts the platform's id in place of the token's tenant before it
looks the status up, and it looks for a role of the platform in whatever the roles claim is, a text as
well as a list. So what it allows there need not be a token of an active tenant, nor one with a role of
the platform.
-/

namespace A5cCell.Authoriser

open Py (Val Items)

/-- The status the registry has of the token's own tenant. -/
def JwtGate.OwnTenantActive (gate : JwtGate) (payload : Items) : Prop :=
  gate.getTenantStatus (payload.get "tenantid") = some "active"

/-- The tenant of a context is justified: it is the token's, or the platform on its own routes, for a
    token with a role of the platform. -/
def JustifiedTenant (payload : Items) (methodArn : String) (tenantId : Val) : Prop :=
  tenantId = payload.get "tenantid" ∨
    isPlatformRoute methodArn = true ∧ tenantId = .str platformTenantId ∧ HasExactRole payload

/-- A platform route asked for with the token of another tenant, which nothing before the status and
    the roles refuses. -/
structure Substituted (payload : Items) (methodArn : String) : Prop where
  route : isPlatformRoute methodArn = true
  registration : isPlatformAgentRegistrationRoute methodArn = false
  tenant : (payload.get "tenantid").truthy = true
  app : (payload.get "appid").truthy = true
  other : payload.get "tenantid" ≠ .str platformTenantId

/-- What the gate asks where it puts the platform in the tenant's place: that the platform is active,
    and that a role of the platform is found in the claim. -/
structure JwtGate.PassesAsPlatform (gate : JwtGate) (payload : Items) : Prop where
  active : gate.getTenantStatus (.str platformTenantId) = some "active"
  found : lacksPlatformRoles (rolesClaim payload) = some false

/-! ## What an allowed token is -/

section

variable {gate : JwtGate} {token methodArn : String} {payload : Items}

/-- A route of the platform is one of the gate's. -/
theorem isAdminRoute_of_isPlatformRoute (h : isPlatformRoute methodArn = true) :
    isAdminRoute methodArn = true := by
  unfold isPlatformRoute at h
  unfold isAdminRoute
  cases hroute : methodAndPath methodArn with
  | none =>
    rw [hroute] at h
    cases h
  | some route =>
    rw [hroute, Option.any_some] at h
    rw [Option.any_some, isAdminPath, if_pos h]

theorem handleJwt_context (hdecode : gate.decode token = some payload)
    (hallow : (handleJwt gate token methodArn).effect = .allow) :
    (handleJwt gate token methodArn).context.get "tenantid" =
      effectiveTenantId methodArn (payload.get "tenantid") := by
  have h := (handleJwt_allow_iff hdecode).mp hallow
  have hroles : (if isAdminRoute methodArn then lacksPlatformRoles (payload.get "roles" (.list []))
      else some false) = some false := by
    split
    · next hroute => exact h.roles hroute
    · rfl
  have hregistration : ¬ (isPlatformAgentRegistrationRoute methodArn = true ∧
      (payload.get "tenantid").asStr? ≠ some platformTenantId) :=
    fun hboth => hboth.2 (h.registration hboth.1)
  simp only [handleJwt, hdecode]
  rw [if_neg (by simp [h.tenant, h.app]), if_neg hregistration, if_neg (not_not.mpr h.active), hroles]
  rfl

theorem effectiveTenantId_of_route (h : isPlatformRoute methodArn = true) (tenantId : Val) :
    effectiveTenantId methodArn tenantId = .str platformTenantId := if_pos h

/-- **What is allowed is justified** exactly where the gate does not let a token of another tenant pass
    as the platform, or that tenant is active too and a roles claim that is a text has a role of the
    platform as one of its words. -/
theorem allow_justified_iff (gate : JwtGate) (methodArn : String)
    (hdecode : gate.decode token = some payload) :
    ((handleJwt gate token methodArn).effect = .allow →
      gate.OwnTenantActive payload ∧
        JustifiedTenant payload methodArn
          ((handleJwt gate token methodArn).context.get "tenantid")) ↔
      (Substituted payload methodArn → gate.PassesAsPlatform payload →
        gate.OwnTenantActive payload ∧
          ∀ text, rolesClaim payload = .str text → HasExactRole payload) := by
  constructor
  · intro h hsubstituted hpasses
    have hroute := hsubstituted.route
    have hallow : (handleJwt gate token methodArn).effect = .allow := by
      refine (handleJwt_allow_iff hdecode).mpr ⟨⟨hsubstituted.tenant, hsubstituted.app, ?_, ?_⟩, ?_⟩
      · intro hregistration
        rw [hsubstituted.registration] at hregistration
        cases hregistration
      · rw [effectiveTenantId_of_route hroute]
        exact hpasses.active
      · exact fun _ => hpasses.found
    obtain ⟨hactive, hjustified⟩ := h hallow
    rw [handleJwt_context hdecode hallow, effectiveTenantId_of_route hroute] at hjustified
    rcases hjustified with hown | ⟨-, -, hrole⟩
    · exact absurd hown.symm hsubstituted.other
    · exact ⟨hactive, fun _ _ => hrole⟩
  · intro h hallow
    have hallowed := (handleJwt_allow_iff hdecode).mp hallow
    have hactive := hallowed.active
    rw [handleJwt_context hdecode hallow]
    by_cases hroute : isPlatformRoute methodArn = true
    · rw [effectiveTenantId_of_route hroute] at hactive ⊢
      by_cases hown : payload.get "tenantid" = .str platformTenantId
      · rw [← hown] at hactive ⊢
        exact ⟨hactive, .inl rfl⟩
      · -- another tenant's token passes as the platform
        have hregistration : isPlatformAgentRegistrationRoute methodArn = false := by
          by_contra hregister
          exact hown (asStr?_eq_some.mp (hallowed.registration (Bool.not_eq_false _ ▸ hregister)))
        have hfound := hallowed.roles (isAdminRoute_of_isPlatformRoute hroute)
        obtain ⟨htenant, htext⟩ := h ⟨hroute, hregistration, hallowed.tenant, hallowed.app, hown⟩
          ⟨hactive, hfound⟩
        refine ⟨htenant, .inr ⟨hroute, rfl, ?_⟩⟩
        by_cases hclaim : ∃ text, rolesClaim payload = .str text
        · obtain ⟨text, hclaim⟩ := hclaim
          exact htext text hclaim
        · have hother : ∀ text, rolesClaim payload ≠ .str text := fun text h => hclaim ⟨text, h⟩
          exact (found_of_lacksPlatformRoles hfound).imp (mem_rolesOf_of_isIn hother)
            (mem_rolesOf_of_isIn hother)
    · rw [effectiveTenantId, if_neg hroute] at hactive ⊢
      exact ⟨hactive, .inl rfl⟩

end

/-! ## A token of a suspended tenant -/

def quotaArn : String := "arn:aws:execute-api:eu-west-2:123456789012:api/dev/GET/v1/platform/quota"

/-- The claims of a token of the tenant acme with a role of the platform, for examples. -/
def adminClaims : Items :=
  [("tenantid", .str "acme"), ("appid", .str "app"), ("roles", .list [.str "Platform.Admin"])]

/-- A registry where the platform is active and the tenant acme is suspended. -/
def suspendedGate : JwtGate where
  decode := fun token => if token = "token" then some adminClaims else none
  tenantsTable := some "platform-tenants"
  getItem := fun _ key => match (Items.get key "PK").asStr? with
    | some "TENANT#platform" => .ok (some [("status", .str "active")])
    | some "TENANT#acme" => .ok (some [("status", .str "suspended")])
    | _ => .ok none
  jsonDumps := fun _ => "[\"Platform.Admin\"]"

/-- The token of a suspended tenant is allowed, in the platform's name. -/
theorem suspended_tenant_allowed :
    ∃ payload, suspendedGate.decode "token" = some payload ∧
      (handleJwt suspendedGate "token" quotaArn).effect = .allow ∧
      suspendedGate.getTenantStatus (Items.get payload "tenantid") = some "suspended" ∧
      (handleJwt suspendedGate "token" quotaArn).context.get "tenantid" = .str "platform" :=
  ⟨_, rfl, rfl, rfl, rfl⟩

/-- A token of an active tenant on a route of its own. -/
def activeGate : JwtGate :=
  { suspendedGate with getItem := fun _ _ => .ok (some [("status", .str "active")]) }

theorem allow_justified_own_tenant :
    ((handleJwt activeGate "token" quotaArn).effect = .allow →
      activeGate.OwnTenantActive adminClaims ∧
        JustifiedTenant adminClaims quotaArn
          ((handleJwt activeGate "token" quotaArn).context.get "tenantid")) ↔
      (Substituted adminClaims quotaArn → activeGate.PassesAsPlatform adminClaims →
        activeGate.OwnTenantActive adminClaims ∧
          ∀ text, rolesClaim adminClaims = .str text → HasExactRole adminClaims) :=
  allow_justified_iff activeGate quotaArn rfl

end A5cCell.Authoriser
