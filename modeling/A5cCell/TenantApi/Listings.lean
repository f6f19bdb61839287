import A5cCell.DataAccess.Listing
import A5cCell.TenantApi.Invites
import A5cCell.TenantApi.Webhooks

/-!
# The listings of a tenant

The clients' `query_all` and `scan_all` go on while there is a key to go on from. The listings of a
tenant's webhooks and of its invites ask for one page of the partition and answer that: they answer
the whole listing just where no page after the first has a row.
-/

namespace A5cCell.TenantApi

open Py (Val Items Dict)
open DataAccess

/-! ## Services that stay as they are -/

/-- What a program comes to where each call has one answer. -/
abbrev resultOf (answers : (e : Effect) → e.Reply) {α : Type} (p : Api α) : Except Exc α :=
  (Prog.run (fun (_ : Unit) e => (answers e, ())) () p).outcome

/-- What of the answers DynamoDB gives. -/
def tableAnswers (answers : (e : Effect) → e.Reply) (r : Request) : Answer r := answers (.db r)

section

variable {answers : (e : Effect) → e.Reply} {α β : Type}

theorem resultOf_bind_ok {p : Api α} {f : α → Api β} {a : α} (h : resultOf answers p = .ok a) :
    resultOf answers (p >>= f) = resultOf answers (f a) :=
  (Prog.run_bind_ok h).1

theorem resultOf_dynamodb (p : Db α) :
    resultOf answers (Api.dynamodb p) = answerOf (tableAnswers answers) p := by
  induction p with
  | ret a => rfl
  | raise x => rfl
  | call r next ih => exact ih _

theorem resultOf_dbForTenant {tenantId : String} {caller : CallerIdentity}
    (h : requireTenantScopeAllowed tenantId caller = .ok ()) :
    resultOf answers (dbForTenant tenantId caller) = .ok (.tenantScoped tenantId) := by
  unfold dbForTenant
  rw [h]
  rfl

theorem resultOf_response {py : Python} {body shown : Items} :
    resultOf answers (response py 200 body) = .ok ⟨200, .dict shown⟩ ↔
      body = shown ∧ (Val.dict body).allObjs py.encodes = true := by
  unfold response
  split
  · rename_i hencodes
    constructor
    · intro h
      cases h
      exact ⟨rfl, hencodes⟩
    · intro h
      rw [h.1]
      rfl
  · rename_i hencodes
    constructor
    · intro h
      cases h
    · intro h
      exact absurd h.2 hencodes

end

/-! ## The endpoints -/

/-- The pages of the rows of a tenant's partition whose sort keys start alike. -/
def partitionPages (py : Python) (tenantId skPrefix : String) (startKey : Val) : Db PaginatedItems :=
  tenantQuery tenantId (tenantsTableName py)
    { skCondition := some (keyBeginsWith "SK" skPrefix), exclusiveStartKey := startKey }

/-- What is shown of a webhook. -/
def shownWebhook (item : Items) : Val := .dict [
  ("webhookId", item.get "webhook_id"),
  ("callbackUrl", item.get "callback_url"),
  ("events", item.get "events"),
  ("status", item.get "status"),
  ("description", item.get "description"),
  ("createdAt", item.get "created_at"),
  ("updatedAt", item.get "updated_at"),
  ("signatureHeader", item.get "signature_header" (.str "X-Platform-Signature")),
  ("signatureAlgorithm", item.get "signature_algorithm" (.str "HMAC-SHA256"))]

/-- What is shown of an invite. -/
def shownInvite (tenantId : String) (invite : Items) : Val :=
  let text (field default : String) : String × Val :=
    (field, .str (invite.get field (.str default)).toStr)
  .dict [text "inviteId" "", ("tenantId", .str tenantId), text "email" "",
    text "role" "Agent.Invoke", text "status" "", ("expiresAt", invite.get "expiresAt")]

/-- An endpoint answers all of a listing, in its order. -/
def AnswersAll (answers : (e : Effect) → e.Reply) (endpoint : Api Response) (shown : List Val) : Prop :=
  resultOf answers endpoint = .ok ⟨200, .dict [("items", .list shown)]⟩

/-- The shown rows can be written as JSON. -/
def Encodable (py : Python) (shown : List Val) : Prop :=
  (Val.dict [("items", .list shown)]).allObjs py.encodes = true

variable {answers : (e : Effect) → e.Reply} {isKey : Items → Prop} {py : Python}
  {caller : CallerIdentity} {tenantId : String}

/-- An endpoint that answers one page answers a listing where no other page has a row. -/
theorem answersAll_onePage_iff {skPrefix : String} {pages : List (List Items)} {shown : Items → Val}
    {endpoint : Api Response}
    (hpages : Follows (tableAnswers answers) isKey (partitionPages py tenantId skPrefix) .none pages)
    (hendpoint : ∀ page, answerOf (tableAnswers answers)
        (partitionPages py tenantId skPrefix .none) = .ok page →
      resultOf answers endpoint =
        resultOf answers (response py 200 [("items", .list (page.items.map shown))])) :
    AnswersAll answers endpoint (pages.flatten.map shown) ↔
      pages.tail.flatten = [] ∧ Encodable py (pages.flatten.map shown) := by
  obtain ⟨page, rest, hpage, rfl⟩ := hpages.cases_first
  rw [AnswersAll, hendpoint page hpage, resultOf_response, List.tail_cons, List.flatten_cons]
  have hall : ([("items", Val.list (page.items.map shown))] : Items) =
      [("items", Val.list ((page.items ++ rest.flatten).map shown))] ↔ rest.flatten = [] := by
    constructor
    · intro h
      injection h with hrow _
      injection hrow with _ hlist
      injection hlist with hrows
      have hlength := congrArg List.length hrows
      simp only [List.length_map, List.length_append] at hlength
      exact List.length_eq_zero_iff.mp (by omega)
    · intro h
      rw [h, List.append_nil]
  rw [hall]
  constructor
  · intro h
    refine ⟨h.1, ?_⟩
    rw [h.1, List.append_nil]
    exact h.2
  · intro h
    refine ⟨h.1, ?_⟩
    have hencodes := h.2
    rw [h.1, List.append_nil] at hencodes
    exact hencodes

/-- The webhooks answered are those of the first page. -/
theorem resultOf_handleListWebhooks {page : PaginatedItems}
    (hmanages : canManageTenantSelfService caller tenantId = true)
    (hscope : requireTenantScopeAllowed tenantId caller = .ok ())
    (hpage : answerOf (tableAnswers answers) (partitionPages py tenantId "WEBHOOK#" .none) = .ok page) :
    resultOf answers (handleListWebhooks py caller tenantId) =
      resultOf answers (response py 200 [("items", .list (page.items.map shownWebhook))]) := by
  have hcheck : resultOf answers (Api.ofExcept (requireWebhookManager caller tenantId)) = .ok () := by
    rw [requireWebhookManager, if_pos hmanages]
    rfl
  unfold handleListWebhooks
  rw [resultOf_bind_ok hcheck, resultOf_bind_ok (resultOf_dbForTenant hscope)]
  exact resultOf_bind_ok ((resultOf_dynamodb _).trans hpage)

/-- The invites answered are those of the first page. -/
theorem resultOf_handleListInvites {page : PaginatedItems} {record : Items}
    (hreads : canReadTenant caller tenantId = true)
    (hmanages : canManageTenantSelfService caller tenantId = true)
    (hscope : requireTenantScopeAllowed tenantId caller = .ok ())
    (hrecord : answerOf (tableAnswers answers)
      ((Client.tenantScoped tenantId).getItem (tenantsTableName py) (tenantKey tenantId)) =
        .ok (some record))
    (hpage : answerOf (tableAnswers answers) (partitionPages py tenantId "INVITE#" .none) = .ok page) :
    resultOf answers (handleListInvites py caller tenantId) =
      resultOf answers (response py 200 [("items", .list (page.items.map (shownInvite tenantId)))]) := by
  unfold handleListInvites
  rw [hreads, hmanages]
  show resultOf answers (dbForTenant tenantId caller >>= _) = _
  rw [resultOf_bind_ok (resultOf_dbForTenant hscope),
    resultOf_bind_ok ((resultOf_dynamodb _).trans hrecord)]
  exact resultOf_bind_ok ((resultOf_dynamodb _).trans hpage)

/-- **The listings.** The clients' loops read a listing however it is split. The listings of webhooks
    and invites answer theirs where every page after the first is empty, and what is shown can be
    written as JSON. -/
theorem listings_complete_iff (answers : (e : Effect) → e.Reply) (isKey : Items → Prop) (py : Python)
    (caller : CallerIdentity) (tenantId : String)
    (hmanages : canManageTenantSelfService caller tenantId = true) :
    (∀ table skCondition filterExpression indexName scanIndexForward,
      ReadsAll (tableAnswers answers) isKey
        (fun startKey => tenantQuery tenantId table
          { skCondition := skCondition, filterExpression := filterExpression, indexName := indexName,
            scanIndexForward := scanIndexForward, exclusiveStartKey := startKey })
        (tenantQueryAll tenantId table skCondition filterExpression indexName scanIndexForward)) ∧
    (∀ table args, ReadsAll (tableAnswers answers) isKey
      (fun startKey => controlPlaneQueryWith table
        { args with limit := none, exclusiveStartKey := startKey })
      (controlPlaneQueryAll table args)) ∧
    (∀ table args, ReadsAll (tableAnswers answers) isKey
      (fun startKey => controlPlaneScanWith table args none startKey)
      (controlPlaneScanAllWith table args)) ∧
    (∀ pages, Follows (tableAnswers answers) isKey (partitionPages py tenantId "WEBHOOK#") .none pages →
      (AnswersAll answers (handleListWebhooks py caller tenantId) (pages.flatten.map shownWebhook) ↔
        pages.tail.flatten = [] ∧ Encodable py (pages.flatten.map shownWebhook))) ∧
    (∀ record pages, canReadTenant caller tenantId = true →
      answerOf (tableAnswers answers) ((Client.tenantScoped tenantId).getItem (tenantsTableName py)
        (tenantKey tenantId)) = .ok (some record) →
      Follows (tableAnswers answers) isKey (partitionPages py tenantId "INVITE#") .none pages →
      (AnswersAll answers (handleListInvites py caller tenantId)
          (pages.flatten.map (shownInvite tenantId)) ↔
        pages.tail.flatten = [] ∧ Encodable py (pages.flatten.map (shownInvite tenantId)))) := by
  refine ⟨?_, ?_, ?_, ?_, ?_⟩
  · intro table skCondition filterExpression indexName scanIndexForward pages hpages fuel hfuel
    exact allPages_of_follows hpages hfuel
  · intro table args pages hpages fuel hfuel
    exact allPages_of_follows hpages hfuel
  · intro table args pages hpages fuel hfuel
    exact allPages_of_follows hpages hfuel
  · intro pages hpages
    apply answersAll_onePage_iff hpages
    intro page hpage
    exact resultOf_handleListWebhooks hmanages (scopeAllowed_of_canManage hmanages) hpage
  · intro record pages hreads hrecord hpages
    apply answersAll_onePage_iff hpages
    intro page hpage
    exact resultOf_handleListInvites hreads hmanages (scopeAllowed_of_canManage hmanages) hrecord hpage

/-- One of two pages: what is asked to go on is answered the second. -/
def pageOfTwo (first second : List Items) (kwargs : Dict String Arg) : PaginatedItems :=
  if (kwargs.get? "ExclusiveStartKey").isSome then ⟨second, none⟩
  else ⟨first, some (tenantKey "t")⟩

/-- A listing of two pages. -/
def twoPages (first second : List Items) : (e : Effect) → e.Reply
  | .db ⟨.query, _, kwargs⟩ => .ok (pageOfTwo first second kwargs)
  | .db ⟨.getItem, _, _⟩ => .ok (some [])
  | .db ⟨.putItem, _, _⟩ => .ok ()
  | .db ⟨.updateItem, _, _⟩ => .ok []
  | .db ⟨.deleteItem, _, _⟩ => .ok ()
  | .db ⟨.scan, _, kwargs⟩ => .ok (pageOfTwo first second kwargs)
  | .now => 0
  | .random _ => ""
  | .service .. => .ok .none

/-- The key the second page is read from. -/
def IsFirstKey (key : Items) : Prop := key = tenantKey "t"

theorem follows_twoPages (py : Python) (first second : List Items) (tenantId skPrefix : String) :
    Follows (tableAnswers (twoPages first second)) IsFirstKey
      (partitionPages py tenantId skPrefix) .none [first, second] :=
  @Follows.more _ _ _ _ ⟨first, some (tenantKey "t")⟩ (tenantKey "t") [second] rfl rfl
    (List.cons_ne_nil _ _) rfl
    (@Follows.last _ _ _ _ ⟨second, none⟩ rfl rfl)

/-- The webhooks of a first page are all, where the second is empty. -/
theorem listings_complete_iff_emptyPage :
    AnswersAll (twoPages [[("webhook_id", .str "w")]] [])
      (handleListWebhooks (KnownTexts.python {}) platformAdmin "t")
      [shownWebhook [("webhook_id", .str "w")]] :=
  ((listings_complete_iff (twoPages [[("webhook_id", .str "w")]] []) IsFirstKey _ platformAdmin "t"
    (by decide)).2.2.2.1 _ (follows_twoPages _ _ _ "t" "WEBHOOK#")).mpr ⟨rfl, rfl⟩

/-- The webhook of the second page is not listed. -/
theorem second_page_unlisted :
    ∃ pages, Follows (tableAnswers (twoPages [[("webhook_id", .str "v")]] [[("webhook_id", .str "w")]]))
        IsFirstKey (partitionPages (KnownTexts.python {}) "t" "WEBHOOK#") .none pages ∧
      ¬ AnswersAll (twoPages [[("webhook_id", .str "v")]] [[("webhook_id", .str "w")]])
        (handleListWebhooks (KnownTexts.python {}) platformAdmin "t")
        (pages.flatten.map shownWebhook) := by
  refine ⟨_, follows_twoPages _ _ _ _ _, ?_⟩
  intro h
  cases h

end A5cCell.TenantApi
