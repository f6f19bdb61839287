import A5cCell.Lib.Except
import A5cCell.Lib.Prog
import A5cCell.Lib.Regex
import A5cCell.Lib.Str
import A5cCell.Lib.Value

/-!
# The token refresh of the BFF

`_handle_token_refresh` of `bff.handler`: the scopes a client asks for are checked one by one, joined
with spaces, and sent with the client's token to the identity provider. What the provider reads of the
text that is sent is what was checked.
-/

namespace A5cCell.Bff

open Py (Val Items)

structure BffSettings where
  entraClientId : Option String := none
  entraClientSecret : Option String := none
  entraTenantId : Option String := none
  entraTokenEndpoint : Option String := none
  entraAudience : Option String := none
  entraClientIdSecretArn : Option String := none
  entraClientSecretSecretArn : Option String := none

/-! ## Calls -/

/-- `payload` is what can be read of the answer of an `HTTPError`. -/
inductive Exc where
  | valueError (message : String)
  | httpError (code : Int) (payload : Option String)
  | urlError
  | other (name : String)
  deriving DecidableEq

/-- A call the BFF makes. -/
inductive Effect where
  | time
  | cachedSecret (secretArn : String)
  | cacheSecret (secretArn value : String) (expiry : Rat)
  | getSecret (secretArn : String) (maxAge : Rat)
  | sleepJitter (baseDelay : Rat)
  | urlopen (url : String) (form : List (String × String))
  | expiresAt (seconds : Int)

/-- What a call is answered: a secret that is cached comes with its expiry, and `get_secret` answers
    nothing where it raises. -/
abbrev Effect.Reply : Effect → Type
  | .time => Rat
  | .cachedSecret _ => Option (String × Rat)
  | .cacheSecret .. => Unit
  | .getSecret .. => Option Val
  | .sleepJitter _ => Except Exc Unit
  | .urlopen .. => Except Exc String
  | .expiresAt _ => Except Exc String

abbrev Refresh (α : Type) : Type := Prog Effect Effect.Reply Exc α

namespace Refresh

def ofExcept {α : Type} : Except Exc α → Refresh α
  | .ok a => .ret a
  | .error x => .raise x

end Refresh

/-! ## Secrets -/

def secretFetchRetries : ℕ := 3

def secretFetchBaseDelaySeconds : Rat := 1 / 10

def cacheTtl : Rat := 300

/-- The attempts to fetch a secret from the `attempt`-th on. -/
def fetchSecret (secretArn : String) (now : Rat) : ℕ → ℕ → Refresh (Option String)
  | 0, _ => pure none
  | fuel + 1, attempt => .call (.getSecret secretArn cacheTtl) fun reply => match reply with
    | some (.str val) =>
        if val ≠ "" then
          .call (.cacheSecret secretArn val (now + cacheTtl)) fun _ => pure (some val)
        else fetchSecret secretArn now fuel (attempt + 1)
    | some _ => fetchSecret secretArn now fuel (attempt + 1)
    | none =>
        if attempt < secretFetchRetries then
          .call (.sleepJitter (secretFetchBaseDelaySeconds * attempt)) fun slept => match slept with
            | .ok _ => fetchSecret secretArn now fuel (attempt + 1)
            | .error x => .raise x
        else fetchSecret secretArn now fuel (attempt + 1)

def resolveSecret (secretArn directValue : Option String) (fieldName : String) : Refresh String :=
  match Py.truthyText secretArn with
  | none => match Py.truthyText directValue with
    | none => .raise (.valueError (fieldName ++ " is not configured"))
    | some direct => pure direct
  | some arn => .call .time fun now => .call (.cachedSecret arn) fun cached =>
      match cached.filter fun entry => now < entry.2 with
      | some entry => pure entry.1
      | none => do
          match ← fetchSecret arn now secretFetchRetries 1 with
          | some val => pure val
          | none => match Py.truthyText directValue with
            | none => .raise (.valueError
                (fieldName ++ " is not configured and secret fetch failed"))
            | some direct => pure direct

/-! ## Requests -/

structure Response where
  statusCode : ℕ
  body : Items

def errorResponse (statusCode : ℕ) (code message requestId : String) : Response :=
  ⟨statusCode, [("error", .dict [("code", .str code), ("message", .str message),
    ("requestId", .str requestId)])]⟩

/-- The value of the first header of this name, in whatever case it is written. -/
def headerValue (name : String) : Items → Option String
  | [] => none
  | (key, value) :: headers =>
      if Py.lower key = name then value.strOrNone else headerValue name headers

def bearerToken (event : Items) : Option String :=
  match event.get "headers" with
  | .dict headers => match headerValue "authorization" headers with
    | none => none
    | some authHeader =>
        if Py.startsWith (Py.lower authHeader) "bearer " then
          Py.truthyText (some (Py.strip (String.ofList (authHeader.toList.drop 7))))
        else none
  | _ => none

/-- `json.loads` raises a `JSONDecodeError` with a text. -/
def requireJsonBody (jsonLoads : String → Except String Val) (event : Items) : Except String Items :=
  match event.get "body" with
  | .none => .error "Request body is required"
  | .str body => match jsonLoads body with
    | .error _ => .error "Malformed JSON body"
    | .ok (.dict parsed) => .ok parsed
    | .ok _ => .error "JSON body must be an object"
  | _ => .error "Request body must be a JSON string"

/-! ## Scopes -/

/-- The scopes of a request, without those that are blank. -/
def requestedScopes (rawScopes : List Val) : List String :=
  (rawScopes.map fun scope => Py.strip scope.toStr).filter (· ≠ "")

def isScopeNameChar (c : Char) : Bool := c.isAlphanum || c == '.' || c == '_' || c == '-'

/-- `^[A-Za-z][A-Za-z0-9._-]{0,127}$`. -/
def allowedScopeNameRegex : Regex :=
  .seq (.span Char.isAlpha 1 (some 1)) (.span isScopeNameChar 0 (some 127))

def validateScope (approvedPrefix scope : String) : Except String String :=
  if Py.startsWith scope approvedPrefix = false then
    .error "scopes must target the approved platform audience"
  else if Py.removePrefix scope approvedPrefix = ".default" then
    .error "scopes must not request /.default"
  else if (allowedScopeNameRegex.fullmatch (Py.removePrefix scope approvedPrefix)).isNone then
    .error ("scope '" ++ scope ++ "' is not an approved platform scope")
  else .ok scope

def validateRefreshScopes (settings : BffSettings) (scopes : List String) :
    Except String (List String) :=
  match Py.truthyText settings.entraAudience with
  | none => .error "ENTRA_AUDIENCE is not configured"
  | some approvedAudience => scopes.mapM (validateScope (approvedAudience ++ "/"))

/-! ## The exchange -/

def entraTokenEndpoint (settings : BffSettings) : Except Exc String :=
  match Py.truthyText settings.entraTokenEndpoint, Py.truthyText settings.entraTenantId with
  | some endpoint, _ => .ok endpoint
  | none, some tenantId =>
      .ok ("https://login.microsoftonline.com/" ++ tenantId ++ "/oauth2/v2.0/token")
  | none, none => .error (.valueError "ENTRA_TENANT_ID is not configured")

/-- The answer of the endpoint, which is a JSON object or empty. -/
def httpPostForm (jsonLoads : String → Except String Val) (url : String)
    (formData : List (String × String)) : Refresh Items :=
  .call (.urlopen url formData) fun reply => match reply with
    | .error x => .raise x
    | .ok payload =>
        if payload = "" then pure []
        else match jsonLoads payload with
          | .error text => .raise (.valueError text)
          | .ok (.dict parsed) => pure parsed
          | .ok _ => .raise (.valueError "Token refresh response must be a JSON object")

def exchangeOboToken (settings : BffSettings) (jsonLoads : String → Except String Val)
    (assertionToken : String) (scopes : List String) : Refresh Items := do
  let endpoint ← Refresh.ofExcept (entraTokenEndpoint settings)
  let clientId ← resolveSecret settings.entraClientIdSecretArn settings.entraClientId
    "entra_client_id"
  let clientSecret ← resolveSecret settings.entraClientSecretSecretArn settings.entraClientSecret
    "entra_client_secret"
  httpPostForm jsonLoads endpoint [
    ("client_id", clientId),
    ("client_secret", clientSecret),
    ("grant_type", "urn:ietf:params:oauth:grant-type:jwt-bearer"),
    ("requested_token_use", "on_behalf_of"),
    ("assertion", assertionToken),
    ("scope", " ".intercalate scopes)]

def extractHttpErrorDetail (jsonLoads : String → Except String Val) (code : Int)
    (payload : Option String) : String :=
  match Py.truthyText payload with
  | none => "Token exchange failed with HTTP " ++ toString code
  | some text =>
      let described := match jsonLoads text with
        | .ok (.dict parsed) =>
            (Items.get parsed "error_description").strOrNone.or (Items.get parsed "error").strOrNone
        | _ => none
      described.getD (String.ofList (text.toList.take 500))

/-- What a failed exchange is answered. -/
def exchangeFailure (jsonLoads : String → Except String Val) (requestId : String) :
    Exc → Refresh Response
  | .valueError message => pure (errorResponse 503 "SERVICE_UNAVAILABLE" message requestId)
  | .httpError code payload =>
      let detail := extractHttpErrorDetail jsonLoads code payload
      pure (if code = 400 then errorResponse 400 "INVALID_REQUEST" detail requestId
        else if code = 401 then errorResponse 401 "UNAUTHENTICATED" detail requestId
        else if code = 403 then errorResponse 403 "FORBIDDEN" detail requestId
        else if code = 429 then errorResponse 429 "TOO_MANY_REQUESTS" detail requestId
        else errorResponse 503 "SERVICE_UNAVAILABLE" detail requestId)
  | .urlError => pure (errorResponse 503 "SERVICE_UNAVAILABLE"
      "Token refresh service unavailable" requestId)
  | .other name => .raise (.other name)

/-! ## The handler -/

/-- The token and the scopes of a request, or the answer that refuses it. -/
def approvedRequest (settings : BffSettings) (jsonLoads : String → Except String Val)
    (event : Items) (requestId : String) : Except Response (String × List String) :=
  let invalid (message : String) : Response := errorResponse 400 "INVALID_REQUEST" message requestId
  match bearerToken event with
  | none => .error (errorResponse 401 "UNAUTHENTICATED" "Missing Authorization header" requestId)
  | some accessToken => match requireJsonBody jsonLoads event with
    | .error message => .error (invalid message)
    | .ok body => match body.get "scopes" with
      | .list (raw :: rawScopes) =>
          let scopes := requestedScopes (raw :: rawScopes)
          if scopes = [] then .error (invalid "scopes must contain non-empty values")
          else if (body.get "audience").strOrNone.isSome then
            .error (invalid "audience is not supported; request only approved platform scopes")
          else match validateRefreshScopes settings scopes with
            | .error message => .error (invalid message)
            | .ok approvedScopes => .ok (accessToken, approvedScopes)
      | _ => .error (invalid "scopes must be a non-empty array")

/-- In how many seconds a token expires: an hour, where no number is read. -/
def expirySeconds (expiresInRaw : Val) : Except Exc Int :=
  match expiresInRaw.toInt with
  | .ok n => .ok (max 0 n)
  | .invalid => .ok 3600
  | .overflow => .error (.other "OverflowError")

/-- What is answered of the payload of an exchange. -/
def refreshed (approvedScopes : List String) (tokenPayload : Items) (requestId : String) :
    Refresh Response := do
  let expiresIn ← Refresh.ofExcept (expirySeconds (tokenPayload.get "expires_in" (.int 3600)))
  match (tokenPayload.get "access_token").strOrNone with
  | none => pure (errorResponse 503 "SERVICE_UNAVAILABLE"
      "Token refresh response missing access_token" requestId)
  | some accessTokenOut =>
      let scope := (tokenPayload.get "scope").strOrNone.getD (" ".intercalate approvedScopes)
      .call (.expiresAt expiresIn) fun reply => match reply with
        | .error x => .raise x
        | .ok expiresAt => pure ⟨200, [("accessToken", .str accessTokenOut),
            ("tokenType", .str "Bearer"), ("expiresAt", .str expiresAt), ("scope", .str scope)]⟩

def handleTokenRefresh (settings : BffSettings) (jsonLoads : String → Except String Val)
    (event : Items) (requestId : String) : Refresh Response :=
  match approvedRequest settings jsonLoads event requestId with
  | .error answer => pure answer
  | .ok (accessToken, approvedScopes) => do
      match ← (exchangeOboToken settings jsonLoads accessToken approvedScopes).attempt with
      | .error x => exchangeFailure jsonLoads requestId x
      | .ok tokenPayload => refreshed approvedScopes tokenPayload requestId

/-! ## What is checked of a scope -/

theorem isSpace_scopeNameChar {c : Char} (h : isScopeNameChar c = true) : Py.isSpace c = false := by
  simp only [isScopeNameChar, Bool.or_eq_true, beq_iff_eq] at h
  obtain ((h | rfl) | rfl) | rfl := h
  · change (decide (c.val ≥ 'A'.val ∧ c.val ≤ 'Z'.val) || (c.val ≥ 'a'.val && c.val ≤ 'z'.val) ||
      (c.val ≥ '0'.val && c.val ≤ '9'.val)) = true at h
    simp only [Bool.or_eq_true, Bool.and_eq_true, decide_eq_true_eq, UInt32.le_iff_toNat_le,
      ge_iff_le] at h
    have hval : c.toNat = c.val.toNat := rfl
    have hZ : 'Z'.val.toNat = 90 := rfl
    have hz : 'z'.val.toNat = 122 := rfl
    have h9 : '9'.val.toNat = 57 := rfl
    have hA : 'A'.val.toNat = 65 := rfl
    have ha : 'a'.val.toNat = 97 := rfl
    have h0 : '0'.val.toNat = 48 := rfl
    simp only [Py.isSpace, Bool.or_eq_false_iff, Bool.and_eq_false_iff, decide_eq_false_iff_not,
      beq_eq_false_iff_ne]
    omega
  all_goals decide

/-- A name the pattern takes has no other characters. -/
theorem isScopeNameChar_of_fullmatch {name : String} {groups : List (String × String)}
    (h : allowedScopeNameRegex.fullmatch name = some groups) :
    ∀ c ∈ name.toList, isScopeNameChar c = true := by
  obtain ⟨first, rest, -, -, hname, -, ⟨-, hfirst, -⟩, -, hrest, -⟩ := Regex.takes_of_fullmatch h
  intro c hc
  rw [hname, List.mem_append] at hc
  rcases hc with hc | hc
  · simp [isScopeNameChar, Char.isAlphanum, hfirst c hc]
  · exact hrest c hc

/-- A scope of the platform: the audience, and a name that is allowed. -/
def IsPlatformScope (audience scope : String) : Prop :=
  ∃ name, scope = audience ++ "/" ++ name ∧
    (allowedScopeNameRegex.fullmatch name).isSome = true ∧ name ≠ ".default"

theorem validateScope_ok {audience scope approved : String}
    (h : validateScope (audience ++ "/") scope = .ok approved) :
    approved = scope ∧ IsPlatformScope audience scope := by
  unfold validateScope at h
  split_ifs at h with hprefix hdefault hname
  cases h
  rw [Bool.not_eq_false, Py.startsWith_iff] at hprefix
  obtain ⟨name, rfl⟩ := hprefix
  rw [Py.removePrefix_append] at hdefault hname
  refine ⟨rfl, name, rfl, ?_, hdefault⟩
  simpa [Option.isSome_iff_ne_none] using hname

/-- The scopes that are approved are those that were asked for, each of the platform. -/
theorem validateRefreshScopes_ok {settings : BffSettings} {audience : String}
    {scopes approved : List String} (haudience : settings.entraAudience = some audience)
    (h : validateRefreshScopes settings scopes = .ok approved) :
    approved = scopes ∧ ∀ scope ∈ scopes, IsPlatformScope audience scope := by
  unfold validateRefreshScopes at h
  split at h
  · cases h
  · rename_i approvedAudience hconfigured
    rw [Py.truthyText_eq_some, haudience, Option.some.injEq] at hconfigured
    obtain ⟨rfl, -⟩ := hconfigured
    have hvalidated := Except.mapM_eq_ok_iff.mp h
    clear h
    induction hvalidated with
    | nil => exact ⟨rfl, List.forall_mem_nil _⟩
    | cons hscope _ ih =>
      obtain ⟨rfl, hplatform⟩ := validateScope_ok hscope
      obtain ⟨rfl, hrest⟩ := ih
      exact ⟨rfl, List.forall_mem_cons.mpr ⟨hplatform, hrest⟩⟩

/-- A scope of the platform is one word, where the audience is. -/
theorem IsPlatformScope.word {audience scope : String} (h : IsPlatformScope audience scope)
    (haudience : ∀ c ∈ audience.toList, Py.isSpace c = false) :
    scope ≠ "" ∧ ∀ c ∈ scope.toList, Py.isSpace c = false := by
  obtain ⟨name, rfl, hname, -⟩ := h
  obtain ⟨groups, hgroups⟩ := Option.isSome_iff_exists.mp hname
  have htext : (audience ++ "/" ++ name).toList = audience.toList ++ '/' :: name.toList := by
    rw [String.toList_append, String.toList_append, List.append_assoc]
    rfl
  constructor
  · intro hempty
    rw [hempty] at htext
    exact List.append_ne_nil_of_right_ne_nil _ (List.cons_ne_nil _ _) htext.symm
  · intro c hc
    rw [htext, List.mem_append, List.mem_cons] at hc
    rcases hc with hc | rfl | hc
    · exact haudience c hc
    · decide
    · exact isSpace_scopeNameChar (isScopeNameChar_of_fullmatch hgroups c hc)

/-- What is accepted of a request: all the scopes it asks for. -/
theorem approvedRequest_ok {settings : BffSettings} {jsonLoads : String → Except String Val}
    {event : Items} {requestId audience accessToken : String} {scopes : List String}
    (haudience : settings.entraAudience = some audience)
    (h : approvedRequest settings jsonLoads event requestId = .ok (accessToken, scopes)) :
    scopes ≠ [] ∧ (∀ scope ∈ scopes, IsPlatformScope audience scope) ∧
      ∃ body rawScopes, requireJsonBody jsonLoads event = .ok body ∧
        body.get "scopes" = .list rawScopes ∧ scopes = requestedScopes rawScopes := by
  unfold approvedRequest at h
  split at h
  · cases h
  split at h
  · cases h
  rename_i body hbody
  split at h
  · rename_i raw rawScopes hraw
    simp only at h
    split_ifs at h with hempty haud
    split at h
    · cases h
    rename_i approved hvalidated
    obtain ⟨rfl, hplatform⟩ := validateRefreshScopes_ok haudience hvalidated
    cases h
    exact ⟨hempty, hplatform, body, raw :: rawScopes, hbody, hraw, rfl⟩
  · cases h

/-! ## What is sent -/

/-- What is posted carries these scopes. -/
def Carries (scopes : List String) : Effect → Prop
  | .urlopen _ form => form.lookup "scope" = some (" ".intercalate scopes)
  | _ => True

section

variable {scopes : List String} {settings : BffSettings} {jsonLoads : String → Except String Val}

theorem sat_ofExcept {α : Type} (e : Except Exc α) :
    (Refresh.ofExcept e).Sat (Carries scopes) fun _ => True := by
  cases e <;> trivial

theorem sat_fetchSecret (secretArn : String) (now : Rat) (fuel attempt : ℕ) :
    (fetchSecret secretArn now fuel attempt).Sat (Carries scopes) fun _ => True := by
  induction fuel generalizing attempt with
  | zero => trivial
  | succ fuel ih =>
    refine ⟨trivial, fun reply => ?_⟩
    beta_reduce
    split
    · split
      · exact ⟨trivial, fun _ => trivial⟩
      · exact ih _
    · exact ih _
    · split
      · refine ⟨trivial, fun slept => ?_⟩
        cases slept with
        | ok _ => exact ih _
        | error x => trivial
      · exact ih _

theorem sat_resolveSecret (secretArn directValue : Option String) (fieldName : String) :
    (resolveSecret secretArn directValue fieldName).Sat (Carries scopes) fun _ => True := by
  unfold resolveSecret
  split
  · split <;> trivial
  · refine ⟨trivial, fun now => ⟨trivial, fun cached => ?_⟩⟩
    beta_reduce
    split
    · trivial
    · refine (sat_fetchSecret _ _ _ _).seq fun fetched => ?_
      split
      · trivial
      · split <;> trivial

theorem sat_exchangeOboToken (assertionToken : String) :
    (exchangeOboToken settings jsonLoads assertionToken scopes).Sat (Carries scopes)
      fun _ => True := by
  unfold exchangeOboToken
  refine (sat_ofExcept _).seq fun endpoint => (sat_resolveSecret _ _ _).seq fun clientId =>
    (sat_resolveSecret _ _ _).seq fun clientSecret => ⟨rfl, fun reply => ?_⟩
  beta_reduce
  split
  · trivial
  · split
    · trivial
    · split <;> trivial

theorem sat_refreshed (tokenPayload : Items) (requestId : String) :
    (refreshed scopes tokenPayload requestId).Sat (Carries scopes) fun _ => True := by
  unfold refreshed
  refine (sat_ofExcept _).seq fun expiresIn => ?_
  split
  · trivial
  · refine ⟨trivial, fun reply => ?_⟩
    cases reply <;> trivial

theorem sat_exchangeFailure (requestId : String) (x : Exc) :
    (exchangeFailure jsonLoads requestId x).Sat (Carries scopes) fun _ => True := by
  cases x <;> trivial

/-- Whatever is posted in a refresh carries the scopes that are accepted of the request. -/
theorem sat_handleTokenRefresh {event : Items} {requestId accessToken : String}
    (h : approvedRequest settings jsonLoads event requestId = .ok (accessToken, scopes)) :
    (handleTokenRefresh settings jsonLoads event requestId).Sat (Carries scopes)
      fun _ => True := by
  unfold handleTokenRefresh
  rw [h]
  refine Prog.Sat.seq ?_ fun result => ?_
  · exact (sat_exchangeOboToken accessToken).attempt.mono (fun _ he => he) fun _ _ => trivial
  · split
    · exact sat_exchangeFailure requestId _
    · exact sat_refreshed _ requestId

end

/-- **No scope is smuggled in.** What is sent, split at white space, is the list of the scopes that were
    asked for, and each is of the platform's audience with a name that is allowed. -/
theorem scopes_not_widened {settings : BffSettings} {audience : String}
    (haudience : settings.entraAudience = some audience)
    (hspace : ∀ c ∈ audience.toList, Py.isSpace c = false)
    (jsonLoads : String → Except String Val) (event : Items) (requestId : String) {σ : Type}
    (serve : σ → (e : Effect) → e.Reply × σ) (s : σ) (url : String)
    (form : List (String × String)) :
    Effect.urlopen url form ∈
        (Prog.run serve s (handleTokenRefresh settings jsonLoads event requestId)).calls →
      ∃ body rawScopes sent, requireJsonBody jsonLoads event = .ok body ∧
        body.get "scopes" = .list rawScopes ∧ form.lookup "scope" = some sent ∧
        (∀ scope ∈ requestedScopes rawScopes, ∃ name, scope = audience ++ "/" ++ name ∧
          (allowedScopeNameRegex.fullmatch name).isSome = true ∧ name ≠ ".default") ∧
        Py.splitSpace sent = requestedScopes rawScopes ∧
        Py.splitOn ' ' sent = requestedScopes rawScopes := by
  intro hposted
  cases haccepted : approvedRequest settings jsonLoads event requestId with
  | error answer =>
    unfold handleTokenRefresh at hposted
    rw [haccepted] at hposted
    cases hposted
  | ok accepted =>
    obtain ⟨accessToken, scopes⟩ := accepted
    obtain ⟨hne, hplatform, body, rawScopes, hbody, hraw, rfl⟩ :=
      approvedRequest_ok haudience haccepted
    have hwords := fun scope hscope => (hplatform scope hscope).word hspace
    refine ⟨body, rawScopes, _, hbody, hraw,
      Prog.run_calls (sat_handleTokenRefresh haccepted) s _ hposted, hplatform,
      Py.splitSpace_intercalate hwords, Py.splitOn_space_intercalate hne ?_⟩
    intro scope hscope hmem
    exact absurd ((hwords scope hscope).2 ' ' hmem) (by decide)

def devSettings : BffSettings where
  entraClientId := some "client"
  entraClientSecret := some "secret"
  entraTokenEndpoint := some "url"
  entraAudience := some "api"

/-- A request for two scopes, one of them with spaces around it. -/
def twoScopes : Items :=
  [("headers", .dict [("Authorization", .str "Bearer t")]), ("body", .str "body")]

def twoScopesBody : Items := [("scopes", .list [.str " api/Agent.Invoke ", .str "api/Jobs"])]

def twoScopesForm : List (String × String) :=
  [("client_id", "client"), ("client_secret", "secret"),
    ("grant_type", "urn:ietf:params:oauth:grant-type:jwt-bearer"),
    ("requested_token_use", "on_behalf_of"), ("assertion", "t"),
    ("scope", "api/Agent.Invoke api/Jobs")]

/-- An endpoint that answers nothing. -/
def silentEndpoint (s : Unit) : (e : Effect) → e.Reply × Unit
  | .time => (0, s)
  | .cachedSecret _ => (none, s)
  | .cacheSecret .. => ((), s)
  | .getSecret .. => (none, s)
  | .sleepJitter _ => (.ok (), s)
  | .urlopen .. => (.ok "", s)
  | .expiresAt _ => (.ok "", s)

theorem scopes_not_widened_two_scopes : ∃ body rawScopes sent,
    requireJsonBody (fun _ => .ok (.dict twoScopesBody)) twoScopes = .ok body ∧
      body.get "scopes" = .list rawScopes ∧ twoScopesForm.lookup "scope" = some sent ∧
      (∀ scope ∈ requestedScopes rawScopes, ∃ name, scope = "api" ++ "/" ++ name ∧
        (allowedScopeNameRegex.fullmatch name).isSome = true ∧ name ≠ ".default") ∧
      Py.splitSpace sent = requestedScopes rawScopes ∧
      Py.splitOn ' ' sent = requestedScopes rawScopes := by
  have haudience : devSettings.entraAudience = some "api" := rfl
  exact scopes_not_widened haudience (by simp [Py.isSpace]) _ twoScopes "r" silentEndpoint () "url"
    twoScopesForm (List.mem_singleton.mpr rfl)

end A5cCell.Bff
