import A5cCell.Authoriser.JwtService
import A5cCell.TenantApi.Operations

/-!
# The admin gate and the roles of the tenant API

Two routers read one request. The authoriser decides from the method and the text of the path, as it
was sent, whether a token needs a role of the platform; the tenant API takes the request to an
operation, by its path with the tenant's id in canonical spelling, and the operation asks for the
roles it asks for.
-/

namespace A5cCell.Authoriser

open Py (Val Items)
open TenantApi (Python TenantApiRuntime Operation Route buildRuntime operationOf)

/-! ## Requests -/

/-- A request that the API takes: its method is a token, its path lies under `/v1/`, and where the
    path has a tenant, the tenant is the segment behind `/v1/tenants/`. -/
structure HttpRequest where
  method : String
  path : String
  tenantId : Option String
  method_ne : method ≠ ""
  method_plain : '/' ∉ method.toList
  path_v1 : ∃ rest, path = "/v1/" ++ rest
  tenantId_segment : ∀ raw, tenantId = some raw → raw ≠ "" ∧ '/' ∉ raw.toList ∧
    ∃ rest, path = "/v1/tenants/" ++ raw ++ rest ∧ (rest = "" ∨ ∃ more, rest = "/" ++ more)

namespace HttpRequest

/-- The path without the slashes at its end. -/
def sent (request : HttpRequest) : String := Py.rstripChar '/' request.path

/-- The path without the slashes at its ends. -/
def resource (request : HttpRequest) : String := Py.stripChar '/' request.path

/-- The request is the one an event carries. -/
structure IsIn (request : HttpRequest) (event : Items) : Prop where
  method : event.get "httpMethod" = .str request.method
  path : event.get "path" = .str request.path
  tenantId : TenantApi.getAttr ((event.get "pathParameters").or (.dict [])) "tenantId" =
    .ok (TenantApi.optionVal request.tenantId)

/-! ### The text of the path -/

theorem resource_eq (request : HttpRequest) {rest : String} (h : request.path = "/v1/" ++ rest) :
    request.resource = "v1" ++ Py.rstripChar '/' ("/" ++ rest) := by
  have hdrop : request.path.toList.dropWhile (· == '/') = ("v1" ++ ("/" ++ rest)).toList := by
    rw [h]
    simp
  rw [resource, Py.stripChar, hdrop, String.ofList_toList]
  simpa using Py.rstripChar_append (c := '/') (s := "v1") (by decide) (by decide) "" ("/" ++ rest)

theorem sent_eq (request : HttpRequest) : request.sent = "/" ++ request.resource := by
  obtain ⟨rest, hrest⟩ := request.path_v1
  have hpath : request.path = "/" ++ "v1" ++ ("/" ++ rest) := by
    rw [hrest, ← String.append_assoc]
    rfl
  rw [request.resource_eq hrest, sent, hpath,
    Py.rstripChar_append (by decide) (by decide), String.append_assoc]

/-- The authoriser reads the method in capitals and the path without the slashes at its ends. -/
theorem methodAndPath_request (request : HttpRequest) (api : ApiStage) :
    methodAndPath (api.methodArn request.method request.path) =
      some (Py.upper request.method, request.resource) := by
  obtain ⟨rest, hrest⟩ := request.path_v1
  have hpath : request.path = "/" ++ ("v1/" ++ rest) := by
    rw [hrest, ← String.append_assoc]
    rfl
  have hstrip : Py.stripChar '/' ("v1/" ++ rest) = Py.stripChar '/' request.path := by
    rw [hpath, Py.stripChar, Py.stripChar]
    simp
  rw [hpath, methodAndPath_methodArn api request.method_plain, hstrip, resource]

/-- Behind the tenant of the path there is nothing, or a slash and more. -/
theorem resource_of_tenantId (request : HttpRequest) {raw : String}
    (hraw : request.tenantId = some raw) : ∃ rest,
      request.resource = "v1/tenants/" ++ raw ++ rest ∧ (rest = "" ∨ ∃ more, rest = "/" ++ more) := by
  obtain ⟨hne, hslash, rest, hpath, hrest⟩ := request.tenantId_segment raw hraw
  have hsent : request.sent = "/v1/tenants/" ++ raw ++ Py.rstripChar '/' rest := by
    rw [sent, hpath, Py.rstripChar_append hne hslash]
  refine ⟨Py.rstripChar '/' rest, ?_, ?_⟩
  · rw [sent_eq] at hsent
    apply String.append_right_inj "/" |>.mp
    rw [hsent, ← String.append_assoc, ← String.append_assoc]
    rfl
  · rcases hrest with rfl | ⟨more, rfl⟩
    · exact .inl rfl
    · have hfront := Py.rstripChar_prefix '/' ("/" ++ more)
      rw [String.toList_append, show "/".toList = ['/'] from rfl, List.singleton_append,
        List.prefix_cons_iff] at hfront
      rcases hfront with hnil | ⟨cs, hcs, -⟩
      · exact .inl (String.toList_inj.mp (by simpa using hnil))
      · exact .inr ⟨String.ofList cs, String.toList_inj.mp (by simpa using hcs)⟩

end HttpRequest

/-- The id of a tenant in canonical spelling. -/
structure Canonical (raw tenantId : String) : Prop where
  lowered : tenantId = Py.lower (Py.strip raw)
  matched : TenantApi.matchesTenantId tenantId = true

theorem canonical_of_canonicalTenantId {raw tenantId : String} {allowReserved : Bool}
    (h : TenantApi.canonicalTenantId (.str raw) allowReserved = .ok tenantId) :
    Canonical raw tenantId := by
  unfold TenantApi.canonicalTenantId at h
  cases hraw : Val.strOrNone (.str raw) with
  | none =>
    rw [hraw] at h
    cases h
  | some text =>
    rw [hraw] at h
    simp only at h
    have htext : text = Py.strip raw := by
      rw [Py.Val.strOrNone_eq (by simp), Py.truthyText_eq_some] at hraw
      simpa [Val.toStr] using hraw.1.symm
    split_ifs at h with _ _ _ hmatch
    cases h
    simp only [Bool.not_eq_true', Bool.not_eq_false] at hmatch
    exact ⟨by rw [htext], hmatch⟩

theorem pathTenant_none {request : HttpRequest} {event : Items} {caller : TenantApi.CallerIdentity}
    (hin : request.IsIn event) (hraw : request.tenantId = none) :
    TenantApi.pathTenant event caller = .ok none := by
  unfold TenantApi.pathTenant
  rw [hin.tenantId, hraw]
  rfl

theorem pathTenant_some {request : HttpRequest} {event : Items} {caller : TenantApi.CallerIdentity}
    {raw : String} (hin : request.IsIn event) (hraw : request.tenantId = some raw) :
    TenantApi.pathTenant event caller =
      (TenantApi.canonicalTenantId (.str raw) caller.isAdmin).map fun tenantId =>
        some (raw, tenantId) := by
  have htruthy : (Val.str raw).truthy = true := by
    simpa [Val.truthy] using (request.tenantId_segment raw hraw).1
  unfold TenantApi.pathTenant
  rw [hin.tenantId, hraw, show TenantApi.optionVal (some raw) = .str raw from rfl]
  change (if (Val.str raw).truthy then _ else _) = _
  rw [if_pos htruthy]
  cases TenantApi.canonicalTenantId (.str raw) caller.isAdmin <;> rfl

/-- What the tenant API makes of a request: the method in capitals, and the path with the tenant's
    id in canonical spelling. -/
theorem runtime_of_request {py : Python} {request : HttpRequest} {event : Items}
    {runtime : TenantApiRuntime} (hin : request.IsIn event)
    (hruntime : buildRuntime py event = .ok runtime) :
    runtime.method = Py.upper request.method ∧
      ((request.tenantId = none ∧ runtime.tenantId = none ∧ runtime.path = request.sent) ∨
        ∃ raw tenantId, request.tenantId = some raw ∧ runtime.tenantId = some tenantId ∧
          Canonical raw tenantId ∧ runtime.path = Py.replace request.sent raw tenantId) := by
  have hmethod : TenantApi.eventOrHttp event "httpMethod" "method" = .ok (.str request.method) := by
    rw [TenantApi.eventOrHttp, hin.method, if_pos (by simpa [Val.truthy] using request.method_ne)]
  have hpath : TenantApi.eventOrHttp event "path" "path" = .ok (.str request.path) := by
    obtain ⟨rest, hrest⟩ := request.path_v1
    rw [TenantApi.eventOrHttp, hin.path, if_pos (by simp [Val.truthy, hrest])]
  unfold buildRuntime at hruntime
  cases hcaller : TenantApi.callerIdentity py event with
  | error x =>
    rw [hcaller] at hruntime
    cases hruntime
  | ok caller =>
    rw [hcaller, hmethod, hpath] at hruntime
    change (TenantApi.pathTenant event caller >>= fun tenant => _) = _ at hruntime
    have htext : ((Val.str request.path).or (.str "")).toStr = request.path := by
      rw [Val.or]
      split_ifs with htruthy
      · rfl
      · simpa [Val.truthy] using (Eq.symm (by simpa [Val.truthy] using htruthy : request.path = ""))
    have hverb : ((Val.str request.method).or (.str "GET")).toStr = request.method := by
      rw [Val.or, if_pos (by simpa [Val.truthy] using request.method_ne)]
      rfl
    cases hraw : request.tenantId with
    | none =>
      rw [pathTenant_none hin hraw] at hruntime
      cases hruntime
      exact ⟨congrArg Py.upper hverb, .inl ⟨rfl, rfl, congrArg (Py.rstripChar '/') htext⟩⟩
    | some raw =>
      rw [pathTenant_some hin hraw] at hruntime
      cases hcanonical : TenantApi.canonicalTenantId (.str raw) caller.isAdmin with
      | error x =>
        rw [hcanonical] at hruntime
        cases hruntime
      | ok tenantId =>
        rw [hcanonical] at hruntime
        cases hruntime
        exact ⟨congrArg Py.upper hverb, .inr ⟨raw, tenantId, rfl, rfl,
          canonical_of_canonicalTenantId hcanonical,
          congrArg (fun path => Py.replace (Py.rstripChar '/' path) raw tenantId) htext⟩⟩

/-! ## The tenant's id in the path -/

section

variable {raw tenantId : String}

/-- A text in lowercase without space does not change with the spelling of the tenant's id. -/
theorem Canonical.replace_eq (h : Canonical raw tenantId) {text : String}
    (htext : text.toList.all (fun c => Py.lowerChar c = c && !Py.isSpace c) = true) :
    Py.replace text raw tenantId = text := by
  by_cases hpart : raw.toList <:+: text.toList
  · have hchars (c : Char) (hc : c ∈ raw.toList) : Py.lowerChar c = c ∧ Py.isSpace c = false := by
      simpa using List.all_eq_true.mp htext c (hpart.subset hc)
    have hsame : tenantId = raw := by
      rw [h.lowered, Py.strip_eq_self fun c hc => (hchars c hc).2,
        Py.lower_eq_self fun c hc => (hchars c hc).1]
    rw [hsame, Py.replace_self]
  · exact Py.replace_eq_self hpart

/-- The path of a tenant, with the tenant's id in canonical spelling. -/
theorem Canonical.replace_path (h : Canonical raw tenantId) (hne : raw ≠ "")
    (hslash : '/' ∉ raw.toList) {rest : String} (hrest : rest = "" ∨ ∃ more, rest = "/" ++ more) :
    Py.replace ("/" ++ ("v1/tenants/" ++ raw ++ rest)) raw tenantId =
      "/v1/tenants/" ++ tenantId ++ Py.replace rest raw tenantId := by
  have hsep (s more : String) := Py.replace_append_sep '/' hslash s more tenantId
  rw [show String.singleton '/' = "/" from rfl] at hsep
  have hfront : Py.replace ("/v1/tenants/" ++ raw) raw tenantId = "/v1/tenants/" ++ tenantId := by
    rw [show "/v1/tenants/" ++ raw = "" ++ "/" ++ "v1" ++ "/" ++ "tenants" ++ "/" ++ raw from rfl,
      hsep, hsep, hsep]
    rw [h.replace_eq (by decide), h.replace_eq (by decide), h.replace_eq (by decide), Py.replace_whole hne]
    rfl
  have hassoc : "/" ++ ("v1/tenants/" ++ raw ++ rest) = "/v1/tenants/" ++ raw ++ rest := by
    rw [← String.append_assoc, ← String.append_assoc]
    rfl
  rw [hassoc]
  have hempty : Py.replace "" raw tenantId = "" := h.replace_eq (by decide)
  rcases hrest with rfl | ⟨more, rfl⟩
  · rw [String.append_empty, hfront, hempty, String.append_empty]
  · have hmore := hsep "" more
    rw [hempty, String.empty_append] at hmore
    rw [← String.append_assoc, hsep, hfront, hmore, String.append_assoc]

end

/-! ## What a path ends in -/

theorem audit_of_endsWith {raw rest : String} (hslash : '/' ∉ raw.toList)
    (hrest : rest = "" ∨ ∃ more, rest = "/" ++ more)
    (h : Py.endsWith ("v1/tenants/" ++ raw ++ rest) "/audit-export" = true) :
    (rest = "" ∧ raw = "audit-export") ∨ Py.endsWith rest "/audit-export" = true := by
  have hsep (s more : String) : Py.endsWith (s ++ "/" ++ more) "/audit-export" =
      Py.endsWith ("/" ++ more) "/audit-export" :=
    Py.endsWith_append_sep '/' "audit-export" (by decide) s more
  rcases hrest with rfl | ⟨more, rfl⟩
  · left
    rw [String.append_empty, show "v1/tenants/" = "v1/tenants" ++ "/" from rfl, hsep] at h
    exact ⟨rfl, Py.endsWith_last '/' "audit-export" hslash h⟩
  · right
    rwa [← String.append_assoc, hsep] at h

theorem Canonical.endsWith_replace {raw tenantId rest : String} (h : Canonical raw tenantId)
    (hslash : '/' ∉ raw.toList) (hrest : Py.endsWith rest "/audit-export" = true) :
    Py.endsWith (Py.replace rest raw tenantId) "/audit-export" = true := by
  rw [Py.endsWith, List.isSuffixOf_iff_suffix] at hrest
  obtain ⟨front, hfront⟩ := hrest
  have hsplit : rest = String.ofList front ++ "/" ++ "audit-export" := by
    apply String.toList_inj.mp
    rw [← hfront]
    simp
  have haudit : Py.replace "audit-export" raw tenantId = "audit-export" := h.replace_eq (by decide)
  have hreplace := Py.replace_append_sep '/' hslash (String.ofList front) "audit-export" tenantId
  rw [show String.singleton '/' = "/" from rfl, haudit] at hreplace
  rw [hsplit, hreplace, Py.endsWith, List.isSuffixOf_iff_suffix]
  refine ⟨(Py.replace (String.ofList front) raw tenantId).toList, ?_⟩
  simp

/-! ## The gate on roles -/

theorem isAdminPath_of_tenants {method path : String}
    (htenants : Py.startsWith path "v1/tenants/" = true) :
    isAdminPath method path =
      (Py.endsWith path "/audit-export" || ["PATCH", "PUT", "DELETE"].contains method) := by
  obtain ⟨rest, rfl⟩ := Py.startsWith_iff.mp htenants
  have hplatform : Py.startsWith ("v1/tenants/" ++ rest) "v1/platform" = false := by
    simp [Py.startsWith, List.isPrefixOf]
  have hcollection : "v1/tenants/" ++ rest ≠ "v1/tenants" := by
    intro h
    have hlength := congrArg (fun s : String => s.toList.length) h
    simp at hlength
  rw [isAdminPath, hplatform, if_neg (by simp), if_neg hcollection, htenants]
  simp

/-- A gate that takes every token for one of an active tenant's self-service administrator. -/
def selfServiceGate : JwtGate where
  decode := fun _ => some [("tenantid", .str "acme"), ("appid", .str "app"),
    ("roles", .list [.str "SelfService.Admin"])]
  tenantsTable := some "tenants"
  getItem := fun _ _ => .ok (some [("status", .str "active")])
  jsonDumps := fun _ => "[]"

/-- A gate that takes every token for one of an active tenant whose claim is a text that ends in the
    name of a role of the platform. -/
def namedInTextGate : JwtGate :=
  { selfServiceGate with decode := fun _ => some [("tenantid", .str "acme"), ("appid", .str "app"),
      ("roles", .str "NotPlatform.Admin")] }

def prodStage : ApiStage where
  apiArn := "arn:aws:execute-api:eu-west-2:111122223333:api"
  stage := "prod"
  apiArn_plain := by decide
  stage_plain := by decide

/-- The gate on roles treats a token, sent with the request, as the operation does: where the operation
    asks for a role of the platform, a token that has none is denied; where it is open to a tenant's
    own, the token of an active tenant passes. -/
structure GateMatches (api : ApiStage) (gate : JwtGate) (token : String) (request : HttpRequest)
    (op : Operation) : Prop where
  denies : op.RequiresPlatformRole →
    (∀ payload, gate.decode token = some payload → ¬ HasExactRole payload) →
      (handleJwt gate token (api.methodArn request.method request.path)).effect = .deny
  passes : op.OpenToSelfService → ∀ payload, gate.ActiveToken token payload →
    (handleJwt gate token (api.methodArn request.method request.path)).effect = .allow

section

variable {api : ApiStage} {gate : JwtGate} {token : String} {request : HttpRequest} {op : Operation}

theorem isAdminRoute_request (request : HttpRequest) (api : ApiStage) :
    isAdminRoute (api.methodArn request.method request.path) =
      isAdminPath (Py.upper request.method) request.resource := by
  rw [isAdminRoute, request.methodAndPath_request api, Option.any_some]

/-- A platform's operation is matched where what the gate allows has a role of the platform. -/
theorem gateMatches_iff_of_isPlatform (hop : op.isPlatform = true) :
    GateMatches api gate token request op ↔ ∀ payload, gate.decode token = some payload →
      gate.Allowed (api.methodArn request.method request.path) payload → HasExactRole payload := by
  have hrequires := Operation.requiresPlatformRole_of_isPlatform hop
  constructor
  · intro h payload hdecode hallowed
    by_contra hexact
    have hdeny := h.denies hrequires fun payload' hdecode' => by
      rw [hdecode] at hdecode'
      cases hdecode'
      exact hexact
    exact effect_deny_iff.mp hdeny ((handleJwt_allow_iff hdecode).mpr hallowed)
  · intro h
    refine ⟨fun _ hexact => ?_, fun hopen => absurd hopen (Operation.not_openToSelfService hrequires)⟩
    cases hdecode : gate.decode token with
    | none => exact handleJwt_deny_of_decode hdecode
    | some payload =>
      rw [effect_deny_iff, handleJwt_allow_iff hdecode]
      exact fun hallowed => hexact payload hdecode (h payload hdecode hallowed)

/-- A tenant's operation is matched where a role is asked for of no token of an active tenant, or
    found. -/
theorem gateMatches_iff_of_not_isPlatform (hop : op.isPlatform = false)
    (hplatform : Py.startsWith request.resource "v1/platform" = false) :
    GateMatches api gate token request op ↔ ∀ payload, gate.ActiveToken token payload →
      isAdminPath (Py.upper request.method) request.resource = true →
        lacksPlatformRoles (rolesClaim payload) = some false := by
  have hopen := Operation.openToSelfService_of_not_isPlatform hop
  have hnotPlatform : isPlatformRoute (api.methodArn request.method request.path) = false := by
    rw [isPlatformRoute, request.methodAndPath_request api, Option.any_some, hplatform]
  have hnotRegistration :
      isPlatformAgentRegistrationRoute (api.methodArn request.method request.path) = false := by
    rw [isPlatformAgentRegistrationRoute, request.methodAndPath_request api, Option.any_some]
    have hagents : request.resource ≠ "v1/platform/agents" := by
      intro h
      rw [h] at hplatform
      exact absurd hplatform (by decide)
    simp [hagents]
  have hallow {payload : Items} (htoken : gate.ActiveToken token payload) :
      (handleJwt gate token (api.methodArn request.method request.path)).effect = .allow ↔
        (isAdminPath (Py.upper request.method) request.resource = true →
          lacksPlatformRoles (rolesClaim payload) = some false) := by
    rw [handleJwt_allow_iff htoken.decoded, ← isAdminRoute_request request api]
    exact ⟨fun h => h.roles, fun h => ⟨htoken.admits hnotPlatform hnotRegistration, h⟩⟩
  constructor
  · exact fun h payload htoken => (hallow htoken).mp (h.passes hopen payload htoken)
  · intro h
    refine ⟨fun hrequires => absurd hopen (Operation.not_openToSelfService hrequires), ?_⟩
    exact fun _ payload htoken => (hallow htoken).mpr (h payload htoken)

end

/-! ## Where the two drift apart -/

/-- `re.match` of a webhook's pattern, for a tenant's id without a special character, looks for what
    the pattern starts with. -/
structure WebhookPatterns (py : Python) : Prop where
  tenant : ∀ tenantId path groups, tenantId.toList.all TenantApi.isTenantIdChar = true →
    py.reMatch ("^/v1/tenants/" ++ tenantId ++ "/webhooks/([^/]+)$") path = .ok (some groups) →
      Py.startsWith path ("/v1/tenants/" ++ tenantId ++ "/webhooks/") = true
  own : ∀ path groups, py.reMatch "^/v1/webhooks/([^/]+)$" path = .ok (some groups) →
    Py.startsWith path "/v1/webhooks/" = true

/-- The requests that the gate treats otherwise than their operation: the deletion of a webhook by the
    path of its tenant; the record of the tenant whose id ends like an audit export; and an audit
    export whose last segment is not sent in the spelling it is routed by. -/
inductive Drifts (request : HttpRequest) (runtime : TenantApiRuntime) : Prop
  | webhook (method : runtime.method = "DELETE")
      (resource : Py.startsWith request.resource "v1/tenants/" = true)
      (path : Py.hasSub runtime.path "/webhooks" = true)
  | ownRecord (method : runtime.method = "GET")
      (resource : request.resource = "v1/tenants/audit-export")
  | auditExport (tenantId : String) (method : runtime.method = "GET")
      (tenant : runtime.tenantId = some tenantId)
      (path : runtime.path = "/v1/tenants/" ++ tenantId ++ "/audit-export")
      (resource : Py.endsWith request.resource "/audit-export" = false)

/-- The path of a request for a tenant: how it is routed, behind the tenant's id, and how it was sent. -/
structure TenantPath (request : HttpRequest) (runtime : TenantApiRuntime) (tenantId tail : String) :
    Prop where
  tenant : runtime.tenantId = some tenantId
  path : runtime.path = "/v1/tenants/" ++ tenantId ++ tail
  resource : Py.startsWith request.resource "v1/tenants/" = true
  ends : Py.endsWith request.resource "/audit-export" = true →
    (tail = "" ∧ request.resource = "v1/tenants/audit-export") ∨
      Py.endsWith tail "/audit-export" = true
  record : request.resource = "v1/tenants/audit-export" → tail = ""

section

variable {py : Python} {request : HttpRequest} {event : Items} {runtime : TenantApiRuntime}

theorem tenantPath_of_request {raw tenantId : String} (hraw : request.tenantId = some raw)
    (htenant : runtime.tenantId = some tenantId) (h : Canonical raw tenantId)
    (hpath : runtime.path = Py.replace request.sent raw tenantId) :
    ∃ tail, TenantPath request runtime tenantId tail := by
  obtain ⟨hne, hslash, -⟩ := request.tenantId_segment raw hraw
  obtain ⟨rest, hresource, hrest⟩ := request.resource_of_tenantId hraw
  have hempty : Py.replace "" raw tenantId = "" := h.replace_eq (by decide)
  refine ⟨Py.replace rest raw tenantId, htenant, ?_, ?_, ?_, ?_⟩
  · rw [hpath, request.sent_eq, hresource, h.replace_path hne hslash hrest]
  · rw [hresource, String.append_assoc]
    exact Py.startsWith_append _ _
  · intro hends
    rw [hresource] at hends
    rcases audit_of_endsWith hslash hrest hends with ⟨rfl, rfl⟩ | hends
    · exact .inl ⟨hempty, by rw [hresource]; rfl⟩
    · exact .inr (h.endsWith_replace hslash hends)
  · intro hrecord
    rcases hrest with rfl | ⟨more, rfl⟩
    · exact hempty
    · rw [hresource, show "v1/tenants/audit-export" = "v1/tenants/" ++ "audit-export" from rfl,
        String.append_assoc, String.append_right_inj] at hrecord
      have hmem : '/' ∈ (raw ++ ("/" ++ more)).toList := by simp
      rw [hrecord] at hmem
      exact absurd hmem (by decide)

/-- The gate on a tenant's path. -/
theorem TenantPath.isAdminPath_eq {tenantId tail : String}
    (h : TenantPath request runtime tenantId tail) (hmethod : runtime.method = Py.upper request.method) :
    isAdminPath (Py.upper request.method) request.resource =
      (Py.endsWith request.resource "/audit-export" ||
        ["PATCH", "PUT", "DELETE"].contains runtime.method) := by
  rw [isAdminPath_of_tenants h.resource, hmethod]

/-- A path of a tenant that neither is its record nor ends like an audit export is open to reads and
    to posts. -/
theorem TenantPath.endsWith_resource_eq_false {tenantId tail : String}
    (h : TenantPath request runtime tenantId tail) (hne : tail ≠ "")
    (htail : Py.endsWith tail "/audit-export" = false) :
    Py.endsWith request.resource "/audit-export" = false := by
  by_contra hends
  rw [Bool.not_eq_false] at hends
  rcases h.ends hends with ⟨hempty, -⟩ | hends
  · exact hne hempty
  · rw [htail] at hends
    cases hends

/-- A request for a tenant that does not drift, from what its path ends in. -/
theorem TenantPath.not_drifts {tenantId tail : String} (h : TenantPath request runtime tenantId tail)
    (hmethod : runtime.method ≠ "DELETE") (hrecord : tail ≠ "") (haudit : tail ≠ "/audit-export") :
    ¬ Drifts request runtime := by
  rintro (⟨hdelete, -, -⟩ | ⟨-, hresource⟩ | ⟨tenantId', -, htenant, hpath, -⟩)
  · exact hmethod hdelete
  · exact hrecord (h.record hresource)
  · rw [h.tenant] at htenant
    cases htenant
    rw [h.path, String.append_right_inj] at hpath
    exact haudit hpath

/-- Outside the tenants' paths nothing drifts. -/
theorem not_drifts_of_resource (hresource : Py.startsWith request.resource "v1/tenants/" = false)
    (htenant : runtime.tenantId = none) : ¬ Drifts request runtime := by
  rintro (⟨-, hfront, -⟩ | ⟨-, hrecord⟩ | ⟨tenantId, -, hid, -, -⟩)
  · rw [hresource] at hfront
    cases hfront
  · rw [hrecord] at hresource
    exact absurd hresource (by decide)
  · rw [htenant] at hid
    cases hid

/-- An open operation on a path of a tenant that is neither its record nor an audit export. -/
theorem TenantPath.open_iff {op : Operation} {tenantId tail : String}
    (h : TenantPath request runtime tenantId tail) (hop : op.isPlatform = false)
    (hverb : runtime.method = "GET" ∨ runtime.method = "POST")
    (htail : tail = "/webhooks" ∨ tail = "/api-key/rotate" ∨ tail = "/users/invite" ∨
      tail = "/users/invites") :
    ((Py.endsWith request.resource "/audit-export" ||
      ["PATCH", "PUT", "DELETE"].contains runtime.method) = op.isPlatform) ↔
        ¬ Drifts request runtime := by
  have hends : Py.endsWith tail "/audit-export" = false := by
    rcases htail with rfl | rfl | rfl | rfl <;> decide
  have hrecord : tail ≠ "" := by
    rcases htail with rfl | rfl | rfl | rfl <;> decide
  have haudit : tail ≠ "/audit-export" := by
    rcases htail with rfl | rfl | rfl | rfl <;> decide
  have hmutation : ["PATCH", "PUT", "DELETE"].contains runtime.method = false := by
    rcases hverb with hverb | hverb <;> rw [hverb] <;> decide
  have hdelete : runtime.method ≠ "DELETE" := by
    rcases hverb with hverb | hverb <;> rw [hverb] <;> decide
  rw [h.endsWith_resource_eq_false hrecord hends, hmutation, hop]
  exact iff_of_true rfl (h.not_drifts hdelete hrecord haudit)

/-- A change of a tenant's record does not drift. -/
theorem not_drifts_of_method (hget : runtime.method ≠ "GET")
    (hdelete : runtime.method ≠ "DELETE" ∨ Py.hasSub runtime.path "/webhooks" = false) :
    ¬ Drifts request runtime := by
  rintro (⟨hmethod, -, hpath⟩ | ⟨hmethod, -⟩ | ⟨tenantId, hmethod, -, -, -⟩)
  · rcases hdelete with hdelete | hdelete
    · exact hdelete hmethod
    · rw [hdelete] at hpath
      cases hpath
  · exact hget hmethod
  · exact hget hmethod

/-- The record of a tenant is closed to reads where its id ends like an audit export. -/
theorem TenantPath.read_iff {tenantId tail : String} (h : TenantPath request runtime tenantId tail)
    (htail : tail = "") (hverb : runtime.method = "GET") :
    ((Py.endsWith request.resource "/audit-export" ||
      ["PATCH", "PUT", "DELETE"].contains runtime.method) = (Operation.read tenantId).isPlatform) ↔
        ¬ Drifts request runtime := by
  rw [show (Operation.read tenantId).isPlatform = false from rfl, hverb,
    show ["PATCH", "PUT", "DELETE"].contains "GET" = false by decide, Bool.or_false]
  by_cases hrecord : request.resource = "v1/tenants/audit-export"
  · refine iff_of_false ?_ (not_not.mpr (.ownRecord hverb hrecord))
    rw [hrecord]
    decide
  · refine iff_of_true ?_ ?_
    · by_contra hends
      rw [Bool.not_eq_false] at hends
      rcases h.ends hends with ⟨-, hresource⟩ | hends
      · exact hrecord hresource
      · rw [htail] at hends
        exact absurd hends (by decide)
    · rintro (⟨hdelete, -, -⟩ | ⟨-, hresource⟩ | ⟨tenantId', -, htenant, hpath, -⟩)
      · rw [hverb] at hdelete
        exact absurd hdelete (by decide)
      · exact hrecord hresource
      · rw [h.tenant] at htenant
        cases htenant
        rw [h.path, String.append_right_inj, htail] at hpath
        exact absurd hpath (by decide)

/-- An audit export is closed where its path is sent as it is routed. -/
theorem TenantPath.auditExport_iff {tenantId tail : String}
    (h : TenantPath request runtime tenantId tail) (htail : tail = "/audit-export")
    (hverb : runtime.method = "GET") :
    ((Py.endsWith request.resource "/audit-export" ||
      ["PATCH", "PUT", "DELETE"].contains runtime.method) =
        (Operation.auditExport tenantId).isPlatform) ↔ ¬ Drifts request runtime := by
  rw [show (Operation.auditExport tenantId).isPlatform = true from rfl, hverb,
    show ["PATCH", "PUT", "DELETE"].contains "GET" = false by decide, Bool.or_false]
  cases hends : Py.endsWith request.resource "/audit-export" with
  | false =>
    refine iff_of_false (by simp) (not_not.mpr (.auditExport tenantId hverb h.tenant ?_ hends))
    rw [h.path, htail]
  | true =>
    refine iff_of_true rfl ?_
    rintro (⟨hdelete, -, -⟩ | ⟨-, hresource⟩ | ⟨tenantId', -, -, -, hopen⟩)
    · rw [hverb] at hdelete
      exact absurd hdelete (by decide)
    · exact absurd ((h.record hresource).symm.trans htail) (by decide)
    · rw [hends] at hopen
      cases hopen

/-- A tenant's path is none of the paths without a tenant. -/
theorem TenantPath.path_ne {tenantId tail : String} (h : TenantPath request runtime tenantId tail)
    {path : String} (hpath : Py.startsWith path "/v1/tenants/" = false) : runtime.path ≠ path := by
  intro heq
  rw [← heq, h.path, String.append_assoc, Py.startsWith_append] at hpath
  cases hpath

/-- The two routers on a request for a tenant. -/
theorem TenantPath.isAdminPath_eq_isPlatform_iff {op : Operation} {tenantId tail : String}
    (h : TenantPath request runtime tenantId tail)
    (hmethod : runtime.method = Py.upper request.method)
    (hop : operationOf py runtime = .ok (some op)) :
    isAdminPath (Py.upper request.method) request.resource = op.isPlatform ↔
      ¬ Drifts request runtime := by
  have htail (tail' : String) (hpath : "/v1/tenants/" ++ tenantId ++ tail' = runtime.path) :
      tail = tail' := by
    rw [h.path, String.append_right_inj] at hpath
    exact hpath.symm
  rw [h.isAdminPath_eq hmethod]
  rcases TenantApi.operationOf_cases hop with ⟨-, hfront⟩ | ⟨tenantId', webhookId, rfl, hdelete⟩ |
    ⟨route, hmem, hroute, -⟩ | ⟨tenantId', htenant, route, hmem, hroute, hverb, rfl⟩ |
    ⟨tenantId', htenant, hwebhooks, route, hmem, hroute, hverb, rfl⟩
  · rw [h.path, String.append_assoc] at hfront
    simp [Py.startsWith, List.isPrefixOf] at hfront
  · -- the gate closes every deletion below the tenants' paths
    rw [hdelete.method]
    refine iff_of_false ?_ (not_not.mpr (.webhook hdelete.method h.resource hdelete.path))
    simp [Operation.isPlatform]
  · simp only [TenantApi.collectionRoutes, TenantApi.unroutedRoutes, List.cons_append,
      List.nil_append, List.mem_cons, List.not_mem_nil, or_false] at hmem
    rcases hmem with rfl | rfl | rfl | rfl <;> exact absurd hroute.symm (h.path_ne (by decide))
  · rw [h.tenant, Option.some_or, Py.truthyText_eq_some] at htenant
    cases htenant.1
    have hown : Py.startsWith "/v1/webhooks" "/v1/tenants/" = false := by decide
    simp only [TenantApi.webhookRoutes, List.mem_cons, List.not_mem_nil, or_false] at hmem
    rcases hmem with rfl | rfl | rfl | rfl
    · exact h.open_iff rfl (.inl hverb.symm) (.inl (htail _ hroute))
    · exact absurd hroute.symm (h.path_ne hown)
    · exact h.open_iff rfl (.inr hverb.symm) (.inl (htail _ hroute))
    · exact absurd hroute.symm (h.path_ne hown)
  · rw [h.tenant] at htenant
    cases htenant
    simp only [TenantApi.tenantRoutes, List.mem_cons, List.not_mem_nil, or_false] at hmem
    rcases hmem with rfl | rfl | rfl | rfl | rfl | rfl | rfl
    · exact h.read_iff (htail "" (by rw [String.append_empty]; exact hroute)) hverb.symm
    · rw [← hverb]
      refine iff_of_true (by simp [Operation.isPlatform]) ?_
      exact not_drifts_of_method (by rw [← hverb]; simp) (.inl (by rw [← hverb]; simp))
    · rw [← hverb]
      refine iff_of_true (by simp [Operation.isPlatform]) ?_
      exact not_drifts_of_method (by rw [← hverb]; simp) (.inr hwebhooks)
    · exact h.open_iff rfl (.inr hverb.symm) (.inr (.inl (htail _ hroute)))
    · exact h.open_iff rfl (.inr hverb.symm) (.inr (.inr (.inl (htail _ hroute))))
    · exact h.auditExport_iff (htail _ hroute) hverb.symm
    · exact h.open_iff rfl (.inl hverb.symm) (.inr (.inr (.inr (htail _ hroute))))

/-- What a webhook's pattern matches is no path of the platform. -/
theorem startsWith_platform_of_matchWebhookId {webhookId : String} (hpatterns : WebhookPatterns py)
    (h : TenantApi.matchWebhookId py "platform" runtime.path = .ok (some webhookId)) :
    Py.startsWith runtime.path "/v1/platform" = false := by
  have hfront : Py.startsWith runtime.path ("/v1/tenants/" ++ "platform" ++ "/webhooks/") = true ∨
      Py.startsWith runtime.path "/v1/webhooks/" = true := by
    obtain ⟨found, hmatch, h⟩ := TenantApi.except_bind_ok h
    cases found with
    | some groups => exact .inl (hpatterns.tenant "platform" _ groups (by decide) hmatch)
    | none =>
      obtain ⟨groups, hmatch, hgroups⟩ := TenantApi.except_bind_ok h
      obtain ⟨groups', rfl, -⟩ := Option.map_eq_some_iff.mp (Except.ok.inj hgroups)
      exact .inr (hpatterns.own _ groups' hmatch)
  rcases hfront with hfront | hfront
  · obtain ⟨rest, hrest⟩ := Py.startsWith_iff.mp hfront
    rw [hrest]
    simp [Py.startsWith, List.isPrefixOf]
  · obtain ⟨rest, hrest⟩ := Py.startsWith_iff.mp hfront
    rw [hrest]
    simp [Py.startsWith, List.isPrefixOf]

/-- The two routers on a request whose path has no tenant: it is routed as it was sent. -/
theorem isAdminPath_eq_isPlatform_iff {op : Operation} (hpatterns : WebhookPatterns py)
    (hmethod : runtime.method = Py.upper request.method) (hid : runtime.tenantId = none)
    (hpath : runtime.path = "/" ++ request.resource)
    (hop : operationOf py runtime = .ok (some op)) :
    isAdminPath (Py.upper request.method) request.resource = op.isPlatform ↔
      ¬ Drifts request runtime := by
  have hfront (pre : String) :
      Py.startsWith runtime.path ("/" ++ pre) = Py.startsWith request.resource pre := by
    rw [hpath, Py.startsWith_append_left]
  have hfixed {op : Operation} (resource : String) (h : "/" ++ resource = runtime.path)
      (hplain : Py.startsWith resource "v1/tenants/" = false)
      (hgate : isAdminPath runtime.method resource = op.isPlatform) :
      isAdminPath runtime.method request.resource = op.isPlatform ↔ ¬ Drifts request runtime := by
    rw [hpath, String.append_right_inj] at h
    rw [h] at hplain hgate
    exact iff_of_true hgate (not_drifts_of_resource hplain hid)
  -- Webhooks are listed and registered by methods that no rule of the authoriser looks at.
  have hwebhooks {op : Operation} (tenantId : String) (hop : op.isPlatform = false)
      (h : "/v1/tenants/" ++ tenantId ++ "/webhooks" = runtime.path)
      (hverb : runtime.method = "GET" ∨ runtime.method = "POST") :
      isAdminPath runtime.method request.resource = op.isPlatform ↔ ¬ Drifts request runtime := by
    have hresource : request.resource = "v1/tenants/" ++ (tenantId ++ "/webhooks") := by
      rw [hpath, show "/v1/tenants/" = "/" ++ "v1/tenants/" from rfl, String.append_assoc,
        String.append_assoc, String.append_right_inj] at h
      exact h.symm
    have hends : Py.endsWith request.resource "/audit-export" = false := by
      have hsep := Py.endsWith_append_sep '/' "audit-export" (by decide)
        ("v1/tenants/" ++ tenantId) "webhooks"
      rw [hresource, show "/webhooks" = String.singleton '/' ++ "webhooks" from rfl,
        ← String.append_assoc, ← String.append_assoc]
      exact hsep.trans (by decide)
    have hmutation : ["PATCH", "PUT", "DELETE"].contains runtime.method = false := by
      rcases hverb with hverb | hverb <;> rw [hverb] <;> decide
    have htenants : Py.startsWith request.resource "v1/tenants/" = true := by
      rw [hresource]
      exact Py.startsWith_append _ _
    rw [isAdminPath_of_tenants htenants, hends, hmutation, hop]
    refine iff_of_true rfl ?_
    rintro (⟨hdelete, -, -⟩ | ⟨-, hrecord⟩ | ⟨tenantId', -, htenant, -, -⟩)
    · rcases hverb with hverb | hverb <;> exact absurd (hverb.symm.trans hdelete) (by decide)
    · rw [hrecord] at hends
      exact absurd hends (by decide)
    · rw [hid] at htenant
      cases htenant
  rw [← hmethod]
  rcases TenantApi.operationOf_cases hop with ⟨hplatform, hv1⟩ | ⟨tenantId, webhookId, rfl, hdelete⟩ |
    ⟨route, hmem, hroute, hverb, rfl⟩ | ⟨tenantId, -, route, hmem, hroute, hverb, rfl⟩ |
    ⟨tenantId, htenant, -⟩
  · have hv1' : Py.startsWith request.resource "v1/platform" = true := (hfront "v1/platform") ▸ hv1
    rw [isAdminPath, if_pos hv1', hplatform]
    refine iff_of_true rfl (not_drifts_of_resource ?_ hid)
    obtain ⟨rest, hrest⟩ := Py.startsWith_iff.mp hv1'
    rw [hrest]
    simp [Py.startsWith, List.isPrefixOf]
  -- A webhook is deleted: under `v1/tenants/` the authoriser takes that for the platform's.
  · rw [hdelete.method]
    cases htenants : Py.startsWith request.resource "v1/tenants/" with
    | true =>
      refine iff_of_false ?_ (not_not.mpr (.webhook hdelete.method htenants hdelete.path))
      rw [isAdminPath_of_tenants htenants]
      simp [Operation.isPlatform]
    | false =>
      have hplatform : Py.startsWith request.resource "v1/platform" = false := by
        by_contra hv1
        rw [Bool.not_eq_false, ← hfront] at hv1
        have hcaller := hdelete.platform hv1
        have htenant := hdelete.tenant
        rw [TenantApi.CallerIdentity.isPlatformActor, decide_eq_true_eq] at hcaller
        rw [hid, Option.none_or, hcaller] at htenant
        cases htenant
        have hmatch := startsWith_platform_of_matchWebhookId hpatterns hdelete.webhook
        rw [show "/v1/platform" = "/" ++ "v1/platform" from rfl, hv1] at hmatch
        cases hmatch
      refine iff_of_true ?_ (not_drifts_of_resource htenants hid)
      rw [isAdminPath, hplatform, htenants]
      simp [Operation.isPlatform]
  · simp only [TenantApi.collectionRoutes, TenantApi.unroutedRoutes, List.cons_append,
      List.nil_append, List.mem_cons, List.not_mem_nil, or_false] at hmem
    rcases hmem with rfl | rfl | rfl | rfl
    · exact hfixed "v1/tenants" hroute (by decide) (by rw [← hverb]; decide)
    · exact hfixed "v1/tenants" hroute (by decide) (by rw [← hverb]; decide)
    · exact hfixed "v1/health" hroute (by decide) (by rw [← hverb]; decide)
    · exact hfixed "v1/sessions" hroute (by decide) (by rw [← hverb]; decide)
  · simp only [TenantApi.webhookRoutes, List.mem_cons, List.not_mem_nil, or_false] at hmem
    have hown (method : String) : isAdminPath method "v1/webhooks" = false := rfl
    rcases hmem with rfl | rfl | rfl | rfl
    · exact hwebhooks tenantId rfl hroute (.inl hverb.symm)
    · exact hfixed "v1/webhooks" hroute (by decide) (hown _)
    · exact hwebhooks tenantId rfl hroute (.inr hverb.symm)
    · exact hfixed "v1/webhooks" hroute (by decide) (hown _)
  · rw [hid] at htenant
    cases htenant

end

/-- Only paths of tenants drift. -/
theorem Drifts.resource {py : Python} {request : HttpRequest} {event : Items}
    {runtime : TenantApiRuntime} (h : Drifts request runtime) (hin : request.IsIn event)
    (hruntime : buildRuntime py event = .ok runtime) :
    Py.startsWith request.resource "v1/tenants/" = true := by
  obtain ⟨-, hpath⟩ := runtime_of_request hin hruntime
  rcases hpath with ⟨-, hnone, -⟩ | ⟨raw, tenantId, hraw, htenant, hcanonical, hpath⟩
  · rcases h with ⟨-, hresource, -⟩ | ⟨-, hresource⟩ | ⟨tenantId, -, htenant, -, -⟩
    · exact hresource
    · rw [hresource]
      decide
    · rw [hnone] at htenant
      cases htenant
  · obtain ⟨tail, htail⟩ := tenantPath_of_request hraw htenant hcanonical hpath
    exact htail.resource

/-- The tokens that the gate treats otherwise than the operation of the request: on a request that
    drifts, that of an active tenant which the gate asks for a role of the platform, or one without a
    role which the gate asks for none; and on an operation of the platform, a token without a role whose
    claim is a text that a role's name is found in. -/
inductive Misjudges (api : ApiStage) (gate : JwtGate) (token : String) (request : HttpRequest)
    (runtime : TenantApiRuntime) (op : Operation) : Prop
  | closed (payload : Items) (drifts : Drifts request runtime) (tenants : op.isPlatform = false)
      (token : gate.ActiveToken token payload)
      (roles : lacksPlatformRoles (rolesClaim payload) ≠ some false)
  | opened (payload : Items) (drifts : Drifts request runtime) (platforms : op.isPlatform = true)
      (decoded : gate.decode token = some payload)
      (admitted : gate.Admits (api.methodArn request.method request.path) payload)
      (roles : ¬ HasExactRole payload)
  | named (payload : Items) (platforms : op.isPlatform = true)
      (decoded : gate.decode token = some payload)
      (admitted : gate.Admits (api.methodArn request.method request.path) payload)
      (roles : ¬ HasExactRole payload) (text : NamedInText payload)

/-- The gate treats a token, sent with a request that is taken to an operation, as the operation does,
    unless the request is one of the three kinds that drift or a role's name is found in a text. -/
theorem gate_matches_operation_iff {py : Python} {request : HttpRequest} {event : Items}
    {runtime : TenantApiRuntime} {op : Operation} (api : ApiStage) (gate : JwtGate) (token : String)
    (hpatterns : WebhookPatterns py) (hin : request.IsIn event)
    (hruntime : buildRuntime py event = .ok runtime) (hop : operationOf py runtime = .ok (some op)) :
    GateMatches api gate token request op ↔ ¬ Misjudges api gate token request runtime op := by
  have hrouters : isAdminPath (Py.upper request.method) request.resource = op.isPlatform ↔
      ¬ Drifts request runtime := by
    obtain ⟨hmethod, hpath⟩ := runtime_of_request hin hruntime
    rcases hpath with ⟨-, htenant, hpath⟩ | ⟨raw, tenantId, hraw, htenant, hcanonical, hpath⟩
    · rw [request.sent_eq] at hpath
      exact isAdminPath_eq_isPlatform_iff hpatterns hmethod htenant hpath hop
    · obtain ⟨tail, htail⟩ := tenantPath_of_request hraw htenant hcanonical hpath
      exact htail.isAdminPath_eq_isPlatform_iff hmethod hop
  cases hplatform : op.isPlatform with
  | true =>
    rw [hplatform] at hrouters
    rw [gateMatches_iff_of_isPlatform hplatform]
    constructor
    · rintro h (⟨-, -, htenants, -⟩ | ⟨payload, hdrifts, -, hdecode, hadmits, hexact⟩ |
        ⟨payload, -, hdecode, hadmits, hexact, htext⟩)
      · rw [hplatform] at htenants
        cases htenants
      · refine hexact (h payload hdecode ⟨hadmits, fun hroute => ?_⟩)
        rw [isAdminRoute_request] at hroute
        exact absurd hdrifts (hrouters.mp hroute)
      · exact hexact (h payload hdecode ⟨hadmits, fun _ => (lacksPlatformRoles_iff hexact).mpr htext⟩)
    · intro h payload hdecode hallowed
      by_contra hexact
      by_cases hdrifts : Drifts request runtime
      · exact h (.opened payload hdrifts hplatform hdecode hallowed.toAdmits hexact)
      · have hfound := hallowed.roles ((isAdminRoute_request request api).trans (hrouters.mpr hdrifts))
        exact h (.named payload hplatform hdecode hallowed.toAdmits hexact
          ((lacksPlatformRoles_iff hexact).mp hfound))
  | false =>
    rw [hplatform] at hrouters
    have hresource : Py.startsWith request.resource "v1/platform" = false := by
      by_contra hfront
      rw [Bool.not_eq_false] at hfront
      by_cases hdrifts : Drifts request runtime
      · obtain ⟨rest, hrest⟩ := Py.startsWith_iff.mp (hdrifts.resource hin hruntime)
        rw [hrest] at hfront
        simp [Py.startsWith, List.isPrefixOf] at hfront
      · have hopen := hrouters.mpr hdrifts
        rw [isAdminPath, if_pos hfront] at hopen
        cases hopen
    rw [gateMatches_iff_of_not_isPlatform hplatform hresource]
    constructor
    · rintro h (⟨payload, hdrifts, -, htoken, hlacks⟩ | ⟨-, -, hplatforms, -⟩ | ⟨-, hplatforms, -⟩)
      · refine hlacks (h payload htoken ?_)
        by_contra hopen
        rw [Bool.not_eq_true] at hopen
        exact hrouters.mp hopen hdrifts
      · rw [hplatform] at hplatforms
        cases hplatforms
      · rw [hplatform] at hplatforms
        cases hplatforms
    · intro h payload htoken hclosed
      by_contra hlacks
      refine h (.closed payload ?_ hplatform htoken hlacks)
      by_contra hdrifts
      rw [hrouters.mpr hdrifts] at hclosed
      cases hclosed

/-! ### The deletion of a webhook -/

/-- The deletion of a webhook, by a path. -/
def deletion (path : String) : Items := [
  ("httpMethod", .str "DELETE"),
  ("path", .str path),
  ("requestContext", .dict [("authorizer", .dict [
    ("tenantid", .str "acme"), ("roles", .list [.str "SelfService.Admin"])])])]

def deletionRuntime (path : String) : TenantApiRuntime where
  caller :=
    { tenantId := some "acme", appId := none, tier := none, sub := none
      roles := ["SelfService.Admin"], usageIdentifierKey := none }
  method := "DELETE"
  path := path
  tenantId := none
  detailType := none
  source := none

def deletionRequest (path : String) (hv1 : ∃ rest, path = "/v1/" ++ rest) : HttpRequest where
  method := "DELETE"
  path := path
  tenantId := none
  method_ne := by decide
  method_plain := by decide
  path_v1 := hv1
  tenantId_segment := by simp

/-- The deletion of a tenant. -/
def tenantDeletion : HttpRequest where
  method := "DELETE"
  path := "/v1/tenants/acme"
  tenantId := some "acme"
  method_ne := by decide
  method_plain := by decide
  path_v1 := ⟨"tenants/acme", rfl⟩
  tenantId_segment := by
    rintro raw ⟨⟩
    exact ⟨by decide, by decide, "", rfl, .inl rfl⟩

/-- A library that matches one path with the pattern of the caller's own webhooks. -/
def ownWebhookPython : Python := TenantApi.KnownTexts.python
  { groups := [(("^/v1/webhooks/([^/]+)$", "/v1/webhooks/w1"), ["w1"])] }

theorem ownWebhookPython_patterns : WebhookPatterns ownWebhookPython where
  tenant := by
    intro tenantId path groups _ hmatch
    have hkey : (("^/v1/tenants/" ++ tenantId ++ "/webhooks/([^/]+)$", path) ==
        ("^/v1/webhooks/([^/]+)$", "/v1/webhooks/w1")) = false := by
      rw [beq_eq_false_iff_ne]
      intro h
      have hchar := congrArg (fun key : String × String => key.1.toList.take 6) h
      simp at hchar
    have hlookup := Except.ok.inj hmatch
    rw [List.lookup_cons, hkey] at hlookup
    cases hlookup
  own := by
    intro path groups hmatch
    have hlookup := Except.ok.inj hmatch
    rw [List.lookup_cons] at hlookup
    split at hlookup
    next hkey =>
      rw [show path = "/v1/webhooks/w1" from (Prod.mk.inj (eq_of_beq hkey)).2]
      decide
    · cases hlookup

/-- By the path of its own the deletion is treated as the operation does. -/
theorem gate_matches_operation_own_webhook :
    GateMatches prodStage selfServiceGate "token"
        (deletionRequest "/v1/webhooks/w1" ⟨"webhooks/w1", rfl⟩) (.deleteWebhook "acme" "w1") ↔
      ¬ Misjudges prodStage selfServiceGate "token"
        (deletionRequest "/v1/webhooks/w1" ⟨"webhooks/w1", rfl⟩) (deletionRuntime "/v1/webhooks/w1")
        (.deleteWebhook "acme" "w1") :=
  gate_matches_operation_iff prodStage selfServiceGate "token" ownWebhookPython_patterns
    (⟨rfl, rfl, rfl⟩ : HttpRequest.IsIn _ (deletion "/v1/webhooks/w1")) rfl rfl

/-- By the path of its tenant it is the same operation, and the gate denies the tenant's own
    administrator. It lets a text that no role of the platform is a word of through to the deletion of
    the tenant. -/
theorem gate_denies_tenant_webhook :
    operationOf (TenantApi.KnownTexts.python { groups :=
      [(("^/v1/tenants/acme/webhooks/([^/]+)$", "/v1/tenants/acme/webhooks/w1"), ["w1"])] })
      (deletionRuntime "/v1/tenants/acme/webhooks/w1") = .ok (some (.deleteWebhook "acme" "w1")) ∧
    ¬ GateMatches prodStage selfServiceGate "token"
      (deletionRequest "/v1/tenants/acme/webhooks/w1" ⟨"tenants/acme/webhooks/w1", rfl⟩)
      (.deleteWebhook "acme" "w1") ∧
    operationOf (TenantApi.KnownTexts.python {})
      { deletionRuntime "/v1/tenants/acme" with tenantId := some "acme" } =
        .ok (some (.delete "acme")) ∧
    ¬ GateMatches prodStage namedInTextGate "token" tenantDeletion (.delete "acme") := by
  refine ⟨rfl, fun h => ?_, rfl, fun h => ?_⟩
  · have hopen := Operation.openToSelfService_of_not_isPlatform
      (show (Operation.deleteWebhook "acme" "w1").isPlatform = false from rfl)
    have hallow := h.passes hopen _ ⟨rfl, rfl, rfl, by decide⟩
    exact absurd hallow (by decide)
  · have hrequires := Operation.requiresPlatformRole_of_isPlatform
      (show (Operation.delete "acme").isPlatform = true from rfl)
    have hdeny := h.denies hrequires fun payload hdecode => by
      cases hdecode
      decide
    exact absurd hdeny (by decide)

end A5cCell.Authoriser
