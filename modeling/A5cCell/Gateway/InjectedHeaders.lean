import A5cCell.Gateway.RequestPipeline

/-!
# Whose headers a tool sees

The interceptor overwrites the identity headers of a request it forwards. Header names have no
case, but the map they sit in does: an entry is overwritten only under the spelling the
interceptor writes, and a client's `X-Tenant-Id` stays beside the interceptor's `x-tenant-id`. Only
`authorization` is dropped in every spelling.

`headers_derived_iff` says exactly when every identity header a tool may read, under any spelling,
carries what the validated token says.
-/

namespace A5cCell.Gateway

open Py (Val Items Dict)

/-- The value an identity header should carry, by its name in lower case. -/
def identityHeader (identity : Identity) (tenantId name : String) : Option String :=
  if name = "x-tenant-id" then some tenantId
  else if name = "x-app-id" then some identity.appId
  else if name = "x-tier" then some identity.tier
  else if name = "x-acting-sub" then some identity.actingSub
  else none

/-- The same, with the scoped token as the bearer token. -/
def derivedHeader (identity : Identity) (tenantId scopedToken name : String) : Option String :=
  if name = "authorization" then some ("Bearer " ++ scopedToken)
  else identityHeader identity tenantId name

/-- Every header of a derived name, in any spelling, carries the derived value. -/
def AllDerived (headers : Headers) (identity : Identity) (tenantId scopedToken : String) : Prop :=
  ∀ header ∈ headers.items, ∀ value,
    derivedHeader identity tenantId scopedToken (Py.lower header.1) = some value →
      header.2 = value

/-- A token occurs in no header named `authorization`, in any spelling. -/
def TokenAbsent (headers : Headers) (token : String) : Prop :=
  ∀ header ∈ headers.items, Py.lower header.1 = "authorization" →
    Py.hasSub header.2 token = false

/-! ## Tokens in compact form -/

/-- A segment of a compact token has no dot. It may have any other character: the decoder drops
    those that are not base64url, so a caller can put blanks into a signature. -/
def IsSegment (text : String) : Prop := '.' ∉ text.toList

instance (text : String) : Decidable (IsSegment text) := inferInstanceAs (Decidable (_ ∉ _))

/-- What PyJWT's tokens look like: three segments joined by dots. The first two are signed as they
    are spelled, so they are the issuer's own text, and the signature is what follows the last dot.
    An HS256 signature is 32 bytes, 43 characters of base64url; an RS256 signature is as long as the
    modulus of the key, which is longer. `jwt.decode` is asked for RS256 and `jwt.encode` for
    HS256. -/
structure CompactJwt (env : RequestEnv) : Prop where
  decoded : ∀ token audience issuer payload, env.decodeJwt token audience issuer = .ok payload →
    ∃ head body sig, token = head ++ "." ++ body ++ "." ++ sig ∧
      IsSegment head ∧ IsSegment body ∧ IsSegment sig ∧ 43 < sig.toList.length
  encoded : ∀ claims key, ∃ head body sig, env.encodeJwt claims key =
    head ++ "." ++ body ++ "." ++ sig ∧
      IsSegment head ∧ IsSegment body ∧ IsSegment sig ∧ sig.toList.length = 43

/-- A compact token that occurs in a bearer credential of compact form has no longer signature. -/
theorem signature_le_of_hasSub {head body sig head' body' sig' : String}
    (hhead : IsSegment head) (hbody : IsSegment body) (hsig : IsSegment sig)
    (hhead' : IsSegment head') (hbody' : IsSegment body') (hsig' : IsSegment sig')
    (h : Py.hasSub ("Bearer " ++ (head' ++ "." ++ body' ++ "." ++ sig'))
      (head ++ "." ++ body ++ "." ++ sig) = true) :
    sig.toList.length ≤ sig'.toList.length := by
  obtain ⟨pre, post, hsplit⟩ := Py.hasSub_iff.mp h
  simp only [String.toList_append, show ".".toList = ['.'] from rfl] at hsplit
  have hcount := congrArg (List.count '.') hsplit
  have hzero {text : String} (ht : IsSegment text) : text.toList.count '.' = 0 :=
    List.count_eq_zero.mpr ht
  simp only [List.count_append, hzero hhead, hzero hbody, hzero hsig, hzero hhead', hzero hbody',
    hzero hsig', show List.count '.' "Bearer ".toList = 0 from rfl,
    show List.count '.' ['.'] = 1 from rfl] at hcount
  -- both dots are the token's, so nothing after it has one
  have hpost : '.' ∉ sig.toList ++ post := by
    rw [List.mem_append, not_or]
    exact ⟨hsig, List.count_eq_zero.mp (by omega)⟩
  have hlast : (pre ++ head.toList ++ ['.'] ++ body.toList) ++ '.' :: (sig.toList ++ post) =
      ("Bearer ".toList ++ head'.toList ++ ['.'] ++ body'.toList) ++ '.' :: sig'.toList := by
    simpa only [List.append_assoc, List.singleton_append, List.cons_append, List.nil_append]
      using hsplit
  have htail := (Py.append_cons_inj hpost hsig' hlast).2
  rw [← htail, List.length_append]
  omega

/-! ## The forwarded headers -/

/-- The injected headers of a request, when none of them has a newline. -/
theorem injectedHeaders_eq {scopedToken : String} {claims : ScopedClaims}
    {injected : List (String × String)} (h : injectedHeaders scopedToken claims = some injected) :
    injected = [("Authorization", "Bearer " ++ scopedToken), ("x-tenant-id", claims.tenantid),
      ("x-app-id", claims.appid), ("x-tier", claims.tier), ("x-acting-sub", claims.actingSub)] := by
  have hsafe {value safe : String} (hv : safeHeaderValue value = some safe) : value = safe := by
    rw [safeHeaderValue] at hv
    split at hv
    · exact absurd hv (by simp)
    · exact Option.some.inj hv
  simp only [injectedHeaders, Option.bind_eq_bind, Option.bind_eq_some_iff] at h
  obtain ⟨token, htoken, tenantId, htenant, appId, happ, tier, htier, actingSub, hsub, heq⟩ := h
  rw [hsafe htoken, hsafe htenant, hsafe happ, hsafe htier, hsafe hsub]
  exact (Option.some.inj heq).symm

/-- The value injected under exactly this name. -/
def injectedValue (identity : Identity) (tenantId scopedToken name : String) : Option String :=
  if name = "Authorization" then some ("Bearer " ++ scopedToken)
  else identityHeader identity tenantId name

/-- **What a tool reads under a name**: the injected value if the name is spelled as the
    interceptor spells it, and otherwise what the client sent, unless that was a bearer token. -/
theorem forwarded_get? {headers : Headers} {identity : Identity} {tenantId scopedToken : String}
    {claims : ScopedClaims} {injected : List (String × String)}
    (hinjected : injectedHeaders scopedToken claims = some injected)
    (htenant : claims.tenantid = tenantId) (happ : claims.appid = identity.appId)
    (htier : claims.tier = identity.tier) (hsub : claims.actingSub = identity.actingSub)
    (name : String) :
    ((headers.filterKeys (fun key => Py.lower key ≠ "authorization")).update injected).get? name =
      (injectedValue identity tenantId scopedToken name).or
        (if Py.lower name ≠ "authorization" then headers.get? name else none) := by
  rw [Dict.get?_update, Dict.get?_filterKeys, injectedHeaders_eq hinjected, htenant, happ, htier,
    hsub]
  simp only [decide_eq_true_eq]
  congr 1
  by_cases hauth : name = "Authorization"
  · subst hauth; rfl
  by_cases htenantId : name = "x-tenant-id"
  · subst htenantId; rfl
  by_cases happId : name = "x-app-id"
  · subst happId; rfl
  by_cases htierName : name = "x-tier"
  · subst htierName; rfl
  by_cases hsubName : name = "x-acting-sub"
  · subst hsubName; rfl
  rw [injectedValue, identityHeader, if_neg hauth, if_neg htenantId, if_neg happId,
    if_neg htierName, if_neg hsubName]
  simp [List.lookup_cons, hauth, htenantId, happId, htierName, hsubName, beq_false_of_ne]

/-- An identity header is named in lower case, and is not a bearer credential. -/
theorem identityHeader_name {identity : Identity} {tenantId name value : String}
    (h : identityHeader identity tenantId name = some value) :
    Py.lower name = name ∧ name ≠ "authorization" := by
  have hname : name ∈ ["x-tenant-id", "x-app-id", "x-tier", "x-acting-sub"] := by
    by_contra hnot
    simp only [List.mem_cons, List.not_mem_nil, or_false, not_or] at hnot
    obtain ⟨h1, h2, h3, h4⟩ := hnot
    rw [identityHeader, if_neg h1, if_neg h2, if_neg h3, if_neg h4] at h
    exact absurd h (by simp)
  revert name
  simp only [List.mem_cons, List.not_mem_nil, or_false]
  rintro name - (rfl | rfl | rfl | rfl) <;> decide

/-- A header injected as it is spelled carries the derived value of its name. -/
theorem derivedHeader_of_injected {identity : Identity} {tenantId scopedToken name value : String}
    (h : injectedValue identity tenantId scopedToken name = some value) :
    derivedHeader identity tenantId scopedToken (Py.lower name) = some value := by
  rw [injectedValue] at h
  split at h
  · rename_i hname
    subst hname
    exact h
  · obtain ⟨hlower, hne⟩ := identityHeader_name h
    rw [derivedHeader, hlower, if_neg hne]
    exact h

/-- What a client sent under another spelling of an identity header is not written over. -/
theorem injectedValue_of_spelling {identity : Identity} {tenantId scopedToken name value : String}
    (h : identityHeader identity tenantId (Py.lower name) = some value)
    (hspelling : name ≠ Py.lower name) :
    injectedValue identity tenantId scopedToken name = none := by
  have hne : name ≠ "Authorization" := by
    rintro rfl
    exact (identityHeader_name h).2 (by decide)
  rw [injectedValue, if_neg hne]
  cases hvalue : identityHeader identity tenantId name with
  | none => rfl
  | some other => exact absurd (identityHeader_name hvalue).1.symm hspelling

/-- A name spelled in lower case is written over where it is derived. -/
theorem injectedValue_of_lower {identity : Identity} {tenantId scopedToken name value : String}
    (h : identityHeader identity tenantId name = some value) :
    injectedValue identity tenantId scopedToken name = some value := by
  have hne : name ≠ "Authorization" := by
    rintro rfl
    exact absurd (identityHeader_name h).1 (by decide)
  rw [injectedValue, if_neg hne, h]

/-- **The forwarded headers, exactly.** Every identity header carries its derived value if and
    only if the client's own headers already do wherever they spell one otherwise than in lower
    case. The bearer credential needs no condition. -/
theorem allDerived_iff {headers forwarded : Headers} {identity : Identity}
    {tenantId scopedToken : String}
    (hforwarded : ∀ name, forwarded.get? name =
      (injectedValue identity tenantId scopedToken name).or
        (if Py.lower name ≠ "authorization" then headers.get? name else none)) :
    AllDerived forwarded identity tenantId scopedToken ↔
      ∀ header ∈ headers.items, ∀ value,
        identityHeader identity tenantId (Py.lower header.1) = some value →
          header.1 ≠ Py.lower header.1 → header.2 = value := by
  constructor
  · rintro hderived ⟨name, sent⟩ hmem value hvalue hspelling
    have hne : Py.lower name ≠ "authorization" := (identityHeader_name hvalue).2
    have hget : forwarded.get? name = some sent := by
      rw [hforwarded, injectedValue_of_spelling hvalue hspelling, Option.none_or, if_pos hne]
      exact (headers.mem_iff).mp hmem
    refine hderived (name, sent) ((forwarded.mem_iff).mpr hget) value ?_
    rw [derivedHeader, if_neg hne]
    exact hvalue
  · rintro hcarried ⟨name, sent⟩ hmem value hvalue
    have hget : forwarded.get? name = some sent := (forwarded.mem_iff).mp hmem
    rw [hforwarded] at hget
    cases hinjected : injectedValue identity tenantId scopedToken name with
    | some written =>
      rw [hinjected, Option.some_or, Option.some.injEq] at hget
      have hderived := derivedHeader_of_injected hinjected
      simp only [hvalue, Option.some.injEq] at hderived
      rw [← hget, hderived]
    | none =>
      -- not written over, so the client sent it, and not as a bearer credential
      rw [hinjected, Option.none_or] at hget
      split at hget
      · rename_i hne
        simp only [derivedHeader, if_neg hne] at hvalue
        refine hcarried (name, sent) ((headers.mem_iff).mpr hget) value hvalue ?_
        intro hlower
        rw [← hlower] at hvalue
        rw [injectedValue_of_lower hvalue] at hinjected
        exact absurd hinjected (by simp)
      · exact absurd hget (by simp)

/-- The bearer credential of a forwarded request is the scoped token, under the one spelling. -/
theorem forwarded_authorization {headers forwarded : Headers} {identity : Identity}
    {tenantId scopedToken : String}
    (hforwarded : ∀ name, forwarded.get? name =
      (injectedValue identity tenantId scopedToken name).or
        (if Py.lower name ≠ "authorization" then headers.get? name else none))
    {header : String × String} (hmem : header ∈ forwarded.items)
    (hname : Py.lower header.1 = "authorization") : header.2 = "Bearer " ++ scopedToken := by
  obtain ⟨name, sent⟩ := header
  have hget : forwarded.get? name = some sent := (forwarded.mem_iff).mp hmem
  rw [hforwarded, if_neg (not_not.mpr hname), Option.or_none] at hget
  have hderived := derivedHeader_of_injected hget
  rw [hname, derivedHeader, if_pos rfl, Option.some.injEq] at hderived
  exact hderived.symm

/-- **Exactly when a forwarded request cannot be spoofed**: its identity headers are all derived,
    and the caller's own token is in none of them, if and only if every header the caller sent
    under an identity header's name, in another spelling than lower case, already carries the
    derived value. -/
theorem headers_derived_iff {env : RequestEnv} (hjwt : CompactJwt env) {event : Items}
    {claims : ScopedClaims} {response : InterceptorResponse} {identity : Identity}
    {signingKey userToken : String}
    (haccepted : processRequest env event = .ok (.accepted claims response))
    (hidentity : authenticate env (requestHeadersOf event) = .ok identity)
    (hkey : env.signingKey = some signingKey)
    (hbearer : bearerToken (requestHeadersOf event) = some userToken) :
    (AllDerived response.transformedGatewayRequest.headers identity
        (actingTenant identity (requestBodyOf env.jsonLoads event))
        (env.encodeJwt claims signingKey) ∧
      TokenAbsent response.transformedGatewayRequest.headers userToken) ↔
      ∀ header ∈ (requestHeadersOf event).items, ∀ value,
        identityHeader identity (actingTenant identity (requestBodyOf env.jsonLoads event))
          (Py.lower header.1) = some value →
        header.1 ≠ Py.lower header.1 → header.2 = value := by
  obtain ⟨identity', toolName, key, injected, hidentity', _, hclaims, hkey', hinjected,
    hresponse⟩ := processRequest_accepted.mp haccepted
  obtain rfl := Except.ok.inj (hidentity.symm.trans hidentity')
  obtain rfl := Option.some.inj (hkey.symm.trans hkey')
  have hforwarded (name : String) : response.transformedGatewayRequest.headers.get? name =
      (injectedValue identity (actingTenant identity (requestBodyOf env.jsonLoads event))
        (env.encodeJwt claims signingKey) name).or
        (if Py.lower name ≠ "authorization" then (requestHeadersOf event).get? name else none) := by
    rw [hresponse]
    exact forwarded_get? hinjected (by rw [hclaims]; rfl) (by rw [hclaims]; rfl)
      (by rw [hclaims]; rfl) (by rw [hclaims]; rfl) name
  rw [allDerived_iff hforwarded, and_iff_left]
  intro header hmem hname
  rw [forwarded_authorization hforwarded hmem hname, ← Bool.not_eq_true]
  intro hsub
  -- the caller's token is signed with RS256, and its signature does not fit
  obtain ⟨token, audience, issuer, payload, htoken, hdecode, _⟩ := authenticate_ok hidentity
  obtain rfl := Option.some.inj (hbearer.symm.trans htoken)
  obtain ⟨head, body, sig, rfl, hhead, hbody, hsig, hlong⟩ := hjwt.decoded _ _ _ _ hdecode
  obtain ⟨head', body', sig', hencode, hhead', hbody', hsig', hshort⟩ := hjwt.encoded _ signingKey
  rw [hencode] at hsub
  have hle := signature_le_of_hasSub hhead hbody hsig hhead' hbody' hsig' hsub
  omega

/-- The sample deployment's tokens are compact. -/
theorem sampleEnv_compactJwt : CompactJwt sampleEnv where
  decoded := by
    intro token audience issuer payload hdecode
    by_cases htoken : token = sampleUserToken
    · subst htoken
      exact ⟨"user", "payload", "rs256-rs256-rs256-rs256-rs256-rs256-rs256-rs256-", by decide,
        by decide, by decide, by decide, by decide⟩
    · simp [sampleEnv, htoken] at hdecode
  encoded := fun _ _ => ⟨"scoped", "payload", "hs256-hs256-hs256-hs256-hs256-hs256-hs256-h",
    rfl, by decide, by decide, by decide, by decide⟩

/-- Who the sample user token belongs to. -/
def sampleIdentity : Identity := ⟨"acme", "crm", "basic", "ann", []⟩

/-- A request that sends an identity header in lower case, to no avail. -/
def lowerCaseTier : Items :=
  sampleEvent [("Authorization", .str ("Bearer " ++ sampleUserToken)), ("x-tier", .str "premium")]
    [("id", .int 1), ("method", .str "tools/list")]

/-- A request that sends it capitalised. -/
def capitalisedTier : Items :=
  sampleEvent [("Authorization", .str ("Bearer " ++ sampleUserToken)), ("X-Tier", .str "premium")]
    [("id", .int 1), ("method", .str "tools/list")]

theorem lowerCaseTier_derived : ∃ claims response,
    processRequest sampleEnv lowerCaseTier = .ok (.accepted claims response) ∧
      AllDerived response.transformedGatewayRequest.headers sampleIdentity "acme"
        sampleScopedToken ∧
      TokenAbsent response.transformedGatewayRequest.headers sampleUserToken := by
  refine ⟨_, _, rfl, (@headers_derived_iff _ sampleEnv_compactJwt lowerCaseTier _ _ _ _ _ rfl rfl
    rfl rfl).mpr ?_⟩
  intro header hmem value hvalue hspelling
  have hnone : ∀ header ∈ (requestHeadersOf lowerCaseTier).items,
      header.1 ≠ Py.lower header.1 →
        identityHeader sampleIdentity "acme" (Py.lower header.1) = none := by decide
  exact absurd (hvalue.symm.trans (hnone header hmem hspelling)) (by simp)

/-- The forwarded request still carries the tier the client made up. -/
theorem capitalisedTier_spoofs : ∃ claims response,
    processRequest sampleEnv capitalisedTier = .ok (.accepted claims response) ∧
      ¬ AllDerived response.transformedGatewayRequest.headers sampleIdentity "acme"
        sampleScopedToken := by
  refine ⟨_, _, rfl, fun hderived => ?_⟩
  exact absurd (hderived ("X-Tier", "premium") (by decide) "basic" (by decide)) (by decide)

end A5cCell.Gateway
