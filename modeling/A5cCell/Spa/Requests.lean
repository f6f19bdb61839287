import A5cCell.Lib.History
import A5cCell.Lib.Str

/-!
# Requests of the browser

`AuthenticatedRequestExecutor` of `api/client.ts`, and the requests `ApiClient` gives it. A request is
sent again with a new token after a 401, and again after a network error where its method allows it.
However the calls are answered, it ends, and it is sent a bounded number of times.
-/

namespace A5cCell.Spa

/-! ## Calls -/

structure Response where
  status : ℕ
  contentType : Option String

def Response.ok (response : Response) : Bool := 200 ≤ response.status ∧ response.status ≤ 299

/-- What may be thrown. -/
inductive JsError where
  | domException (name : String)
  | typeError
  | apiError (message : String) (response : Response) (body : String)
  | other (name : String)

structure TokenRequestOptions where
  forceRefresh : Bool
  scopes : List String

abbrev Headers : Type := List (String × String)

structure RequestInit where
  method : Option String := none
  headers : Headers := []
  body : Option String := none

/-- A call of the executor. -/
inductive Effect where
  | getAccessToken (options : Option TokenRequestOptions)
  | fetch (url : String) (init : RequestInit)
  | readBody (response : Response) (asJson : Bool)
  | delay (ms : ℕ)

/-- What a call is answered, or the error it throws. -/
abbrev Effect.Reply : Effect → Type
  | .getAccessToken _ => Except JsError String
  | .fetch .. => Except JsError Response
  | .readBody .. => Except JsError String
  | .delay _ => Unit

abbrev Request (α : Type) : Type := Prog Effect Effect.Reply JsError α

namespace Request

def ofExcept {α : Type} : Except JsError α → Request α
  | .ok a => .ret a
  | .error x => .raise x

def getAccessToken (options : Option TokenRequestOptions) : Request String :=
  .call (.getAccessToken options) ofExcept

def fetch (url : String) (init : RequestInit) : Request Response :=
  .call (.fetch url init) ofExcept

def readBody (response : Response) (asJson : Bool) : Request String :=
  .call (.readBody response asJson) ofExcept

end Request

/-! ## The executor -/

/-- What a request carries; a request that is not retried says so. -/
structure RetryableRequest where
  path : String
  init : Option RequestInit
  accept : Option String := none
  retryNetworkErrors : Bool := false

/-- The browser's `Headers`, and what the executor is made with. -/
structure Executor where
  newHeaders : Headers → Except JsError Headers
  setHeader : Headers → String → String → Except JsError Headers
  baseUrl : String
  defaultScopes : List String

def resolveUrl (baseUrl path : String) : String :=
  let lowered := Py.lower path
  if Py.startsWith lowered "http://" ∨ Py.startsWith lowered "https://" then path
  else baseUrl ++ "/" ++ String.ofList (path.toList.dropWhile (· == '/'))

def mergeHeaders (executor : Executor) (headers : Headers) (additional : List (String × String)) :
    Except JsError Headers := do
  additional.foldlM (fun merged entry => executor.setHeader merged entry.1 entry.2)
    (← executor.newHeaders headers)

def toApiError (response : Response) : Request JsError := do
  let contentType := (response.contentType.map Py.lower).getD ""
  let body ← Request.readBody response (Py.hasSub contentType "application/json")
  pure (.apiError ("HTTP " ++ toString response.status) response body)

def isRetryableNetworkError : JsError → Bool
  | .domException name => name ≠ "AbortError"
  | .typeError => true
  | _ => false

def networkRetryDelaysMs : List ℕ := [200, 400]

section

variable (executor : Executor) (request : RetryableRequest)

/-- A token, and the request with it. -/
def send (forceRefresh : Bool) : Request Response := do
  let token ← Request.getAccessToken
    (if forceRefresh then some ⟨true, executor.defaultScopes⟩ else none)
  let init := request.init.getD {}
  let headers ← Request.ofExcept (mergeHeaders executor init.headers
    (("Authorization", "Bearer " ++ token) ::
      ((request.accept.filter (· ≠ "")).map fun accept => ("Accept", accept)).toList))
  Request.fetch (resolveUrl executor.baseUrl request.path) { init with headers := headers }

/-- The loop of `executeWithAuthRetry`. It goes round again with `forceRefresh` set, which ends it. -/
def executeWithAuthRetry (forceRefresh : Bool) : Request Response := do
  let response ← send executor request forceRefresh
  if _h : response.status = 401 ∧ forceRefresh = false then executeWithAuthRetry true
  else if response.ok = false then .raise (← toApiError response)
  else pure response
termination_by if forceRefresh then 0 else 1
decreasing_by simp_all

/-- The loop of `execute`, after `networkAttempt` retries. -/
def executeFrom (networkAttempt : ℕ) : Request Response := do
  match ← (executeWithAuthRetry executor request false).attempt with
  | .ok response => pure response
  | .error error =>
      if h : request.retryNetworkErrors ∧ networkAttempt < networkRetryDelaysMs.length ∧
          isRetryableNetworkError error then
        .call (.delay networkRetryDelaysMs[networkAttempt]) fun _ =>
          executeFrom (networkAttempt + 1)
      else .raise error
termination_by networkRetryDelaysMs.length - networkAttempt

def execute : Request Response := executeFrom executor request 0

end

/-! ## The requests of the client -/

/-- `toUpperCase`: the letters `a` to `z`, and the two others whose uppercase is one of `A` to `Z`.
    No other letter has an uppercase that is a method. -/
def toUpperCase (text : String) : String :=
  String.ofList (text.toList.map fun c =>
    if c = 'ı' then 'I' else if c = 'ſ' then 'S' else Py.upperChar c)

def isIdempotentRequest (init : Option RequestInit) : Bool :=
  let method := ((init.bind RequestInit.method).map toUpperCase).getD "GET"
  method = "GET" || method = "HEAD" || method = "OPTIONS"

/-- The methods the API changes something for. -/
def writeMethods : List String := ["POST", "PUT", "PATCH", "DELETE"]

/-- In whatever case it is written, a method that changes something is not idempotent. -/
theorem isIdempotentRequest_write {init : RequestInit} {method : String}
    (hmethod : init.method = some method) (hwrite : toUpperCase method ∈ writeMethods) :
    isIdempotentRequest (some init) = false := by
  have hall : ∀ write ∈ writeMethods,
      (decide (write = "GET") || decide (write = "HEAD") || decide (write = "OPTIONS")) = false := by
    decide
  rw [isIdempotentRequest, Option.bind_some, hmethod]
  exact hall _ hwrite

/-- The requests `requestRaw` and `stream` make. -/
inductive ClientRequest : RetryableRequest → Prop where
  | raw (path : String) (init : Option RequestInit) :
      ClientRequest ⟨path, init, none, isIdempotentRequest init⟩
  | stream (path : String) (init : Option RequestInit) :
      ClientRequest ⟨path, init, some "text/event-stream", false⟩

/-! ## What a request does -/

abbrev Past : Type := List (Answered Effect Effect.Reply)

def Effect.isFetch : Effect → Bool
  | .fetch .. => true
  | _ => false

/-- A token that is asked for anew. -/
def Effect.isRefresh : Effect → Bool
  | .getAccessToken (some options) => options.forceRefresh
  | _ => false

def Effect.isDelay : Effect → Bool
  | .delay _ => true
  | _ => false

/-- A call that threw. -/
def Failed : Answered Effect Effect.Reply → Prop
  | ⟨.getAccessToken _, answer⟩ => ∃ x, answer = .error x
  | ⟨.fetch .., answer⟩ => ∃ x, answer = .error x
  | ⟨.readBody .., answer⟩ => ∃ x, answer = .error x
  | ⟨.delay _, _⟩ => False

/-- A call that failed is the last. -/
def EndsAtFailure (calls : Past) : Prop :=
  ∀ later failed earlier, calls = later ++ failed :: earlier → Failed failed → later = []

/-- The calls of one attempt, the latest first. -/
structure IsAttempt (calls : Past) : Prop where
  fetches : calls.countP (·.call.isFetch) ≤ 2
  refreshes : calls.countP (·.call.isRefresh) ≤ 1
  endsAtFailure : EndsAtFailure calls

/-- The calls of a part of an attempt that comes to `result`: how often it fetches, and how often it
    asks for a new token. -/
structure Spent {α : Type} (fetches refreshes : ℕ) (Q : α → Prop) (calls : Past)
    (result : Except JsError α) : Prop where
  noDelay : ∀ a ∈ calls, a.call.isDelay = false
  fetches_le : calls.countP (·.call.isFetch) ≤ fetches
  refreshes_le : calls.countP (·.call.isRefresh) ≤ refreshes
  endsAtFailure : EndsAtFailure calls
  noFailure : ∀ a, result = .ok a → Q a ∧ ∀ call ∈ calls, ¬ Failed call

/-- Whatever a part is answered, it spends no more. -/
def Spends {α : Type} (fetches refreshes : ℕ) (Q : α → Prop) (p : Request α) : Prop :=
  ∀ past, Prog.Traced (fun _ _ => True)
    (fun past' result => ∃ calls, past' = calls ++ past ∧ Spent fetches refreshes Q calls result) past p

theorem endsAtFailure_nil : EndsAtFailure [] := by
  intro later failed earlier h
  cases later <;> cases h

theorem endsAtFailure_singleton (call : Answered Effect Effect.Reply) : EndsAtFailure [call] := by
  intro later failed earlier h _
  cases later with
  | nil => rfl
  | cons first later => cases later <;> cases h

/-- Calls that go on from others, none of which failed. -/
theorem EndsAtFailure.append {calls calls' : Past} (hcalls : ∀ call ∈ calls, ¬ Failed call)
    (hcalls' : EndsAtFailure calls') : EndsAtFailure (calls' ++ calls) := by
  intro later failed earlier h hfailed
  rcases List.append_eq_append_iff.mp h with ⟨more, rfl, hmore⟩ | ⟨more, hmore, hrest⟩
  · exact absurd hfailed (hcalls failed (by rw [hmore]; simp))
  · cases more with
    | nil =>
      rw [List.nil_append] at hrest
      exact absurd hfailed (hcalls failed (by rw [← hrest]; simp))
    | cons first more =>
      obtain ⟨rfl, rfl⟩ := List.cons_eq_cons.mp hrest
      exact hcalls' later failed more hmore hfailed

section

variable {α β : Type} {fetches refreshes fetches' refreshes' : ℕ} {Q : α → Prop} {R : β → Prop}

theorem spends_pure {a : α} (ha : Q a) : Spends 0 0 Q (pure a : Request α) := by
  intro past
  refine ⟨[], rfl, List.forall_mem_nil _, le_rfl, le_rfl, endsAtFailure_nil, ?_⟩
  rintro b ⟨⟩
  exact ⟨ha, List.forall_mem_nil _⟩

theorem spends_raise (x : JsError) : Spends 0 0 Q (.raise x : Request α) := by
  intro past
  refine ⟨[], rfl, List.forall_mem_nil _, le_rfl, le_rfl, endsAtFailure_nil, ?_⟩
  rintro b ⟨⟩

theorem Spends.mono {p : Request α} (hp : Spends fetches refreshes Q p) (hf : fetches ≤ fetches')
    (hr : refreshes ≤ refreshes') {Q' : α → Prop} (hQ : ∀ a, Q a → Q' a) :
    Spends fetches' refreshes' Q' p := by
  intro past
  refine (hp past).mono (fun _ _ _ => trivial) ?_
  rintro past' result ⟨calls, rfl, hspent⟩
  exact ⟨calls, rfl, hspent.noDelay, hspent.fetches_le.trans hf, hspent.refreshes_le.trans hr,
    hspent.endsAtFailure, fun a ha => ⟨hQ a (hspent.noFailure a ha).1, (hspent.noFailure a ha).2⟩⟩

theorem Spends.bind {p : Request α} {f : α → Request β} (hp : Spends fetches refreshes Q p)
    (hf : ∀ a, Q a → Spends fetches' refreshes' R (f a)) :
    Spends (fetches + fetches') (refreshes + refreshes') R (p >>= f) := by
  intro past
  refine (hp past).bind ?_ ?_
  · rintro past' x ⟨calls, rfl, hspent⟩
    refine ⟨calls, rfl, hspent.noDelay, hspent.fetches_le.trans (Nat.le_add_right _ _),
      hspent.refreshes_le.trans (Nat.le_add_right _ _), hspent.endsAtFailure, ?_⟩
    rintro b ⟨⟩
  · rintro past' a ⟨calls, rfl, hspent⟩
    obtain ⟨ha, hclean⟩ := hspent.noFailure a rfl
    refine (hf a ha (calls ++ past)).mono (fun _ _ _ => trivial) ?_
    rintro past' result ⟨calls', rfl, hspent'⟩
    refine ⟨calls' ++ calls, (List.append_assoc ..).symm, ?_, ?_, ?_, ?_, ?_⟩
    · exact List.forall_mem_append.mpr ⟨hspent'.noDelay, hspent.noDelay⟩
    · rw [List.countP_append, Nat.add_comm]
      exact Nat.add_le_add hspent.fetches_le hspent'.fetches_le
    · rw [List.countP_append, Nat.add_comm]
      exact Nat.add_le_add hspent.refreshes_le hspent'.refreshes_le
    · exact hspent'.endsAtFailure.append hclean
    · intro b hb
      obtain ⟨hR, hclean'⟩ := hspent'.noFailure b hb
      exact ⟨hR, List.forall_mem_append.mpr ⟨hclean', hclean⟩⟩

theorem spends_ofExcept (e : Except JsError α) :
    Spends 0 0 (fun _ => True) (Request.ofExcept e) := by
  cases e with
  | ok a => exact spends_pure trivial
  | error x => exact spends_raise x

/-- One call that may throw. -/
theorem spends_call (e : Effect) (hdelay : e.isDelay = false) (read : e.Reply → Except JsError α)
    (hread : ∀ answer a, read answer = .ok a → ¬ Failed ⟨e, answer⟩) :
    Spends e.isFetch.toNat e.isRefresh.toNat (fun _ : α => True)
      (.call e fun answer => Request.ofExcept (read answer)) := by
  intro past
  refine ⟨trivial, fun answer => ?_⟩
  have hspent : Spent e.isFetch.toNat e.isRefresh.toNat (fun _ : α => True) [⟨e, answer⟩]
      (read answer) := by
    refine ⟨?_, ?_, ?_, endsAtFailure_singleton _, fun a ha => ⟨trivial, ?_⟩⟩
    · simpa using hdelay
    · cases h : e.isFetch <;> simp [h]
    · cases h : e.isRefresh <;> simp [h]
    · simpa using hread answer a ha
  show Prog.Traced _ _ _ (Request.ofExcept (read answer))
  generalize read answer = result at hspent ⊢
  cases result with
  | ok a => exact ⟨_, rfl, hspent⟩
  | error x => exact ⟨_, rfl, hspent⟩

end

/-! ## One attempt -/

section

variable (executor : Executor) (request : RetryableRequest)

theorem spends_send (forceRefresh : Bool) :
    Spends 1 forceRefresh.toNat (fun _ => True) (send executor request forceRefresh) := by
  have htoken : Spends 0 forceRefresh.toNat (fun _ => True) (Request.getAccessToken
      (if forceRefresh then some ⟨true, executor.defaultScopes⟩ else none)) := by
    have hcall := spends_call (.getAccessToken
      (if forceRefresh then some ⟨true, executor.defaultScopes⟩ else none)) rfl
      (fun answer => answer) (by rintro _ a rfl ⟨x, hx⟩; cases hx)
    cases forceRefresh <;> exact hcall
  have hfetch (url : String) (init : RequestInit) :
      Spends 1 0 (fun _ => True) (Request.fetch url init) :=
    spends_call (.fetch url init) rfl (fun answer => answer)
      (by rintro _ a rfl ⟨x, hx⟩; cases hx)
  have hsend := htoken.bind fun token _ => (spends_ofExcept (mergeHeaders executor
    (request.init.getD {}).headers (("Authorization", "Bearer " ++ token) ::
      ((request.accept.filter (· ≠ "")).map fun accept => ("Accept", accept)).toList))).bind
    fun headers _ => hfetch (resolveUrl executor.baseUrl request.path)
      { request.init.getD {} with headers := headers }
  exact hsend

theorem spends_toApiError (response : Response) :
    Spends 0 0 (fun _ => True) (toApiError response) := by
  have hread (asJson : Bool) : Spends 0 0 (fun _ => True) (Request.readBody response asJson) :=
    spends_call (.readBody response asJson) rfl (fun answer => answer)
      (by rintro _ a rfl ⟨x, hx⟩; cases hx)
  exact (hread _).bind fun body _ => spends_pure trivial

/-- What is done with a response that does not send the request again. -/
theorem spends_answer (response : Response) :
    Spends 0 0 (fun response => response.ok = true)
      (if response.ok = false then toApiError response >>= .raise else pure response) := by
  split
  · exact (spends_toApiError response).bind fun x _ => spends_raise x
  · rename_i hok
    exact spends_pure (Bool.not_eq_false _ ▸ hok)

/-- **One attempt.** At most two fetches, the second with a new token. -/
theorem spends_executeWithAuthRetry :
    Spends 2 1 (fun response => response.ok = true)
      (executeWithAuthRetry executor request false) := by
  have hanswer (response : Response) : Spends 0 0 (fun response => response.ok = true)
      (if _h : response.status = 401 ∧ true = false then executeWithAuthRetry executor request true
        else if response.ok = false then toApiError response >>= .raise
        else pure response) := by
    rw [dif_neg (by simp)]
    exact spends_answer response
  have hagain : Spends 1 1 (fun response => response.ok = true)
      (executeWithAuthRetry executor request true) := by
    rw [executeWithAuthRetry]
    exact (spends_send executor request true).bind fun response _ => hanswer response
  have hround (response : Response) : Spends 1 1 (fun response => response.ok = true)
      (if _h : response.status = 401 ∧ false = false then executeWithAuthRetry executor request true
        else if response.ok = false then toApiError response >>= .raise
        else pure response) := by
    split
    · exact hagain
    · exact (spends_answer response).mono (Nat.zero_le _) (Nat.zero_le _) fun _ h => h
  rw [executeWithAuthRetry]
  exact (spends_send executor request false).bind fun response _ => hround response

end

/-! ## All attempts -/

/-- The attempts of a request, the latest first: what is called between the delays. -/
def attempts (past : Past) : List Past := past.splitOnP (·.call.isDelay)

theorem attempts_append {calls past : Past} {earlier : List Past}
    (hcalls : ∀ a ∈ calls, a.call.isDelay = false) (hpast : attempts past = [] :: earlier) :
    attempts (calls ++ past) = calls :: earlier := by
  induction calls with
  | nil => exact hpast
  | cons call calls ih =>
    rw [List.forall_mem_cons] at hcalls
    rw [List.cons_append, attempts, List.splitOnP_cons_eq_if_modifyHead, if_neg (by simp [hcalls.1])]
    exact congrArg (List.modifyHead (call :: ·)) (ih hcalls.2)

theorem attempts_delay (ms : ℕ) (past : Past) :
    attempts (⟨.delay ms, ()⟩ :: past) = [] :: attempts past := by
  have hdelay : (Effect.delay ms).isDelay = true := rfl
  rw [attempts, List.splitOnP_cons_eq_if_modifyHead, if_pos hdelay]
  rfl

/-- What is known of a request when it ends. -/
structure Bounded (request : RetryableRequest) (past : Past) (result : Except JsError Response) :
    Prop where
  attempts_le : (attempts past).length ≤ 3
  isAttempt : ∀ calls ∈ attempts past, IsAttempt calls
  ok : ∀ response, result = .ok response → response.ok = true
  sentOnce : request.retryNetworkErrors = false → EndsAtFailure past

section

variable {executor : Executor} {request : RetryableRequest}

/-- One round, and the rounds after a delay. -/
theorem traced_round {networkAttempt : ℕ} {past : Past} {earlier : List Past}
    (hpast : attempts past = [] :: earlier) (hcount : earlier.length ≤ 2)
    (hearlier : ∀ calls ∈ earlier, IsAttempt calls)
    (honce : request.retryNetworkErrors = false → past = [])
    (hagain : request.retryNetworkErrors = true → networkAttempt < networkRetryDelaysMs.length →
      ∀ ms calls, IsAttempt calls → attempts (calls ++ past) = calls :: earlier →
        Prog.Traced (fun _ _ => True) (Bounded request) (⟨.delay ms, ()⟩ :: (calls ++ past))
          (executeFrom executor request (networkAttempt + 1))) :
    Prog.Traced (fun _ _ => True) (Bounded request) past
      (executeFrom executor request networkAttempt) := by
  rw [executeFrom]
  refine (spends_executeWithAuthRetry executor request past).attempt.bind ?_ ?_
  · rintro past' x ⟨_, ⟨⟩, -⟩
  rintro past' result ⟨_, ⟨⟩, calls, rfl, hspent⟩
  have hcalls : IsAttempt calls :=
    ⟨hspent.fetches_le, hspent.refreshes_le, hspent.endsAtFailure⟩
  have hattempts := attempts_append hspent.noDelay hpast
  have hbounded (hok : ∀ response, result = .ok response → response.ok = true) :
      Bounded request (calls ++ past) result := by
    refine ⟨?_, ?_, hok, ?_⟩
    · rw [hattempts, List.length_cons]
      omega
    · rw [hattempts]
      exact List.forall_mem_cons.mpr ⟨hcalls, hearlier⟩
    · intro hretry
      rw [honce hretry, List.append_nil]
      exact hspent.endsAtFailure
  cases result with
  | ok response => exact hbounded fun _ hresponse => (hspent.noFailure _ hresponse).1
  | error x =>
    show Prog.Traced _ _ _ (if h : _ then _ else _)
    split
    · rename_i hretry
      exact ⟨trivial, fun _ => hagain hretry.1 hretry.2.1 _ calls hcalls hattempts⟩
    · exact hbounded fun _ hresponse => by cases hresponse

/-- **Every round.** The induction is on the delays that are left. -/
theorem traced_executeFrom {networkAttempt : ℕ} {past : Past} {earlier : List Past}
    (hpast : attempts past = [] :: earlier) (hcount : earlier.length = networkAttempt)
    (hle : networkAttempt ≤ networkRetryDelaysMs.length)
    (hearlier : ∀ calls ∈ earlier, IsAttempt calls)
    (honce : request.retryNetworkErrors = false → past = []) :
    Prog.Traced (fun _ _ => True) (Bounded request) past
      (executeFrom executor request networkAttempt) := by
  induction hleft : networkRetryDelaysMs.length - networkAttempt
    generalizing networkAttempt past earlier with
  | zero =>
    refine traced_round hpast (hcount.trans_le hle) hearlier honce fun _ hlt => ?_
    omega
  | succ left ih =>
    refine traced_round hpast (hcount.trans_le hle) hearlier honce ?_
    intro hretry hlt ms calls hcalls hattempts
    refine ih ((attempts_delay ms _).trans (congrArg ([] :: ·) hattempts)) ?_ hlt ?_ ?_ (by omega)
    · rw [List.length_cons, hcount]
    · exact List.forall_mem_cons.mpr ⟨hcalls, hearlier⟩
    · intro hno
      exact absurd (hretry.symm.trans hno) (by decide)

end

/-- What a run calls and is answered, the latest first. -/
def madeBy {σ : Type} (serve : σ → (e : Effect) → e.Reply × σ) (s : σ) (p : Request Response) : Past :=
  ((Prog.replay serve s (Prog.run serve s p).calls).map Prog.Served.answered).reverse

/-- **Requests end, and are sent a bounded number of times**: in at most three attempts with a delay
    between them, each of which fetches at most twice, asks for a new token at most once and ends with
    what fails in it. A request that is not idempotent, or is streamed, is not sent again after a
    failure. -/
theorem request_retries_bounded (executor : Executor) {request : RetryableRequest}
    (hrequest : ClientRequest request) {σ : Type} (serve : σ → (e : Effect) → e.Reply × σ) (s : σ) :
    let past := madeBy serve s (execute executor request)
    (attempts past).length ≤ 3 ∧
    (∀ calls ∈ attempts past, calls.countP (·.call.isFetch) ≤ 2 ∧
      calls.countP (·.call.isRefresh) ≤ 1 ∧ EndsAtFailure calls) ∧
    (isIdempotentRequest request.init = false ∨ request.accept.isSome → EndsAtFailure past) ∧
    ((∃ response, (Prog.run serve s (execute executor request)).outcome = .ok response ∧
        response.ok = true) ∨
      ∃ x, (Prog.run serve s (execute executor request)).outcome = .error x) := by
  have htraced : Prog.Traced (fun _ _ => True) (Bounded request) [] (execute executor request) :=
    traced_executeFrom rfl rfl (Nat.zero_le _) (List.forall_mem_nil _) fun _ => rfl
  have hbounded : Bounded request (madeBy serve s (execute executor request) ++ [])
      (Prog.run serve s (execute executor request)).outcome := htraced.replayed s
  rw [List.append_nil] at hbounded
  refine ⟨hbounded.attempts_le, ?_, ?_, ?_⟩
  · intro calls hcalls
    have hattempt := hbounded.isAttempt calls hcalls
    exact ⟨hattempt.fetches, hattempt.refreshes, hattempt.endsAtFailure⟩
  · intro honce
    refine hbounded.sentOnce ?_
    cases hrequest with
    | raw path init => simpa using honce
    | stream path init => rfl
  · cases houtcome : (Prog.run serve s (execute executor request)).outcome with
    | ok response => exact .inl ⟨response, rfl, hbounded.ok response houtcome⟩
    | error x => exact .inr ⟨x, rfl⟩

/-- A client whose requests all fail on the network. -/
def offline (s : Unit) : (e : Effect) → e.Reply × Unit
  | .getAccessToken _ => (.ok "token", s)
  | .fetch .. => (.error .typeError, s)
  | .readBody .. => (.error .typeError, s)
  | .delay _ => ((), s)

def plainExecutor : Executor where
  newHeaders := .ok
  setHeader := fun headers name value => .ok (headers ++ [(name, value)])
  baseUrl := "https://api.example.com"
  defaultScopes := []

def postRequest : RequestInit := { method := some "POST" }

theorem request_retries_bounded_post :
    EndsAtFailure (madeBy offline () (execute plainExecutor
      ⟨"/v1/agents", some postRequest, none, isIdempotentRequest (some postRequest)⟩)) :=
  (request_retries_bounded plainExecutor (.raw "/v1/agents" (some postRequest)) offline ()).2.2.1
    (.inl (isIdempotentRequest_write rfl (by decide)))

end A5cCell.Spa
