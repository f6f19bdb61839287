import A5cCell.Gateway.RequestPipeline

/-!
# What a scoped token is worth

A scoped token names a tool. Where the tools table holds a record for that name, the token should
be out only if the record is enabled, the caller's tier reaches its minimum, and the capability is
on (`TokenJustified`).

For a `tools/call` that is what `validate_tool_access` checked. For any other method nothing is
checked, and the token is scoped to the method itself; so a request whose method is the name of a
tool gets a token for that tool. `tokenJustified_iff` says exactly when that does no harm.
-/

namespace A5cCell.Gateway

open Py (Val Items truthyText)

/-- Every token that handling the event issues is for a tool without a record in force, or for
    one whose record admits the caller. -/
def TokenJustified (env : RequestEnv) (event : Items) : Prop :=
  ∀ claims response, processRequest env event = .ok (.accepted claims response) →
    ∀ record, heldToolRecord env.tools claims.scopeTool claims.tenantid = some record →
      Admits env.toToolEnv claims.scopeTool claims.tenantid claims.tier record

/-- An event whose method is not checked: it comes from an authenticated caller with header values
    that can be injected, and names something else than `tools/call`. -/
structure UncheckedRequest (env : RequestEnv) (event : Items) (identity : Identity)
    (method : String) : Prop where
  method_eq : methodOf (requestBodyOf env.jsonLoads event) = method
  method_ne : method ≠ "tools/call"
  authenticated : authenticate env (requestHeadersOf event) = .ok identity
  injectable : ∃ signingKey, env.signingKey = some signingKey ∧
    let claims := scopedClaims env identity identity.tenantId method
      (getHeader (requestHeadersOf event) "Mcp-Session-Id")
      ((requestBodyOf env.jsonLoads event).get "id")
    (injectedHeaders (env.encodeJwt claims signingKey) claims).isSome

/-- A method other than `tools/call` names no tool and acts as the caller's own tenant. -/
theorem actingTenant_of_ne (identity : Identity) {requestBody : Items}
    (h : methodOf requestBody ≠ "tools/call") :
    actingTenant identity requestBody = identity.tenantId := by
  rw [actingTenant, extractToolName, if_pos h, effectiveTenantId, if_neg]
  simp

theorem validateToolAccess_of_ne {env : ToolEnv} {method : String} {requestBody : Items}
    {tenantId tier : String} (h : method ≠ "tools/call") :
    validateToolAccess env method requestBody tenantId tier = .ok none := by
  rw [validateToolAccess, if_pos h, extractToolName, if_pos h]

/-- A `tools/call` is given a token only for a tool that admits the caller. -/
theorem tokenJustified_of_call {env : RequestEnv} {event : Items}
    (hmethod : methodOf (requestBodyOf env.jsonLoads event) = "tools/call") :
    TokenJustified env event := by
  intro claims response haccepted record hrecord
  obtain ⟨identity, toolName, _, _, _, htool, rfl, _⟩ := processRequest_accepted.mp haccepted
  rw [hmethod] at htool
  obtain ⟨name, record', rfl, hname, _, hheld, hadmits⟩ := validateToolAccess_ok_iff.mp htool
  have hscope : (truthyText (some name)).getD (methodOf (requestBodyOf env.jsonLoads event)) = name := by
    rw [Py.truthyText_eq_some.mpr ⟨rfl, (Py.truthyText_eq_some.mp hname).2⟩, Option.getD_some]
  simp only [scopedClaims, hscope] at hrecord ⊢
  rw [hheld, Option.some.injEq] at hrecord
  exact hrecord ▸ hadmits

/-- An unchecked request is given a token for the tool its method names. -/
theorem accepted_of_unchecked {env : RequestEnv} {event : Items} {identity : Identity}
    {method : String} (h : UncheckedRequest env event identity method) :
    ∃ claims response, processRequest env event = .ok (.accepted claims response) ∧
      claims.scopeTool = method ∧ claims.tenantid = identity.tenantId ∧
      claims.tier = identity.tier := by
  obtain ⟨rfl, hne, hidentity, signingKey, hkey, hsafe⟩ := h
  obtain ⟨injected, hinjected⟩ := Option.isSome_iff_exists.mp hsafe
  have hacting := actingTenant_of_ne identity hne
  refine ⟨_, _, processRequest_accepted.mpr ⟨identity, none, signingKey, injected, hidentity,
    validateToolAccess_of_ne hne, rfl, hkey, ?_, rfl⟩, rfl, hacting, rfl⟩
  rw [hacting]
  exact hinjected

/-- **Exactly when every token is justified**: when an authenticated caller's method, if it is not
    `tools/call`, is not the name of a tool whose record in force would refuse the caller. -/
theorem tokenJustified_iff (env : RequestEnv) (event : Items) :
    TokenJustified env event ↔
      ∀ identity method, UncheckedRequest env event identity method →
        ∀ record, heldToolRecord env.tools method identity.tenantId = some record →
          Admits env.toToolEnv method identity.tenantId identity.tier record := by
  constructor
  · intro hjustified identity method hunchecked record hrecord
    obtain ⟨claims, response, haccepted, hscope, htenant, htier⟩ := accepted_of_unchecked hunchecked
    rw [← hscope, ← htenant] at hrecord
    have hadmits := hjustified claims response haccepted record hrecord
    rw [hscope, htenant, htier] at hadmits
    exact hadmits
  · intro hharmless
    by_cases hmethod : methodOf (requestBodyOf env.jsonLoads event) = "tools/call"
    · exact tokenJustified_of_call hmethod
    · intro claims response haccepted record hrecord
      obtain ⟨identity, toolName, signingKey, injected, hidentity, htool, rfl, hkey, hinjected, -⟩ :=
        processRequest_accepted.mp haccepted
      rw [validateToolAccess_of_ne hmethod, Except.ok.injEq] at htool
      subst htool
      rw [actingTenant_of_ne _ hmethod] at hrecord hinjected ⊢
      refine hharmless identity _ ⟨rfl, hmethod, hidentity, signingKey, hkey, ?_⟩ record hrecord
      exact Option.isSome_iff_exists.mpr ⟨injected, hinjected⟩

/-- A basic tenant's request whose method is the name of a premium tool. -/
def methodNamedAsTool : Items :=
  sampleEvent [("Authorization", .str ("Bearer " ++ sampleUserToken))]
    [("id", .int 1), ("method", .str "get_platform_health")]

/-- It is given a token for that tool. -/
theorem methodNamedAsTool_not_justified : ¬ TokenJustified sampleEnv methodNamedAsTool := by
  intro hjustified
  have hunchecked : UncheckedRequest sampleEnv methodNamedAsTool
      ⟨"acme", "crm", "basic", "ann", []⟩ "get_platform_health" :=
    ⟨rfl, by decide, rfl, "key", rfl, by decide⟩
  obtain ⟨claims, response, haccepted, hscope, htenant, htier⟩ := accepted_of_unchecked hunchecked
  have hadmits := hjustified claims response haccepted sampleTool (by rw [hscope, htenant]; rfl)
  rw [htier] at hadmits
  exact absurd hadmits.tier_le (by decide)

end A5cCell.Gateway
