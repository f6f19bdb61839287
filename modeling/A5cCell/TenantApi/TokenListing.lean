import A5cCell.Lib.Base64
import A5cCell.Lib.JsonText
import A5cCell.Lib.Utf8
import A5cCell.TenantApi.Lifecycle
import A5cCell.TenantApi.Listings

/-!
# Listing the tenants by token

An administrator reads the tenants a page at a time: each answer carries a token for the key of the
last row that was read, and the next request gives it back. A page is a page of the table, and what
is shown of it are the records that match the filters, so an answer may show none and carry a token.
-/

namespace A5cCell.TenantApi

open Py (Val Items Dict)
open DataAccess

/-! ## The tokens -/

/-- A dictionary of texts. -/
def textItems (key : List (String × String)) : Items := key.map fun kv => (kv.1, .str kv.2)

/-- `_encode_pagination_token`, of a dictionary of texts. -/
def encodePaginationToken (key : List (String × String)) : String :=
  String.ofList (Base64.encode (Utf8.encode (String.ofList (JsonText.writeDict key))))

/-- `_decode_pagination_token`, where a token is that of a dictionary of texts. -/
def decodePaginationToken (token : String) : Option (List (String × String)) := do
  let bytes ← Base64.decode token.toList
  let text ← Utf8.decode bytes
  JsonText.readDict text.toList

/-- Python's `base64` and `json` read and write the dictionaries of texts. -/
structure TokenCodec (py : Python) : Prop where
  encode : ∀ key : List (String × String), (key.map Prod.fst).Nodup →
    py.encodePaginationToken (textItems key) = encodePaginationToken key
  decode : ∀ token key, decodePaginationToken token = some key → (key.map Prod.fst).Nodup →
    py.decodePaginationToken token = some (.dict (textItems key))

/-- A token decodes to what it was made from. -/
theorem decode_encode (key : List (String × String)) :
    decodePaginationToken (encodePaginationToken key) = some key := by
  simp only [decodePaginationToken, encodePaginationToken, String.toList_ofList, Base64.decode_encode,
    Option.bind_eq_bind, Option.bind_some, Utf8.decode_encode, JsonText.readDict_writeDict]

/-- A token has no space. -/
theorem strip_encodePaginationToken (key : List (String × String)) :
    Py.strip (encodePaginationToken key) = encodePaginationToken key := by
  apply Py.strip_eq_self
  intro c hc
  rw [encodePaginationToken, String.toList_ofList] at hc
  have hall : ∀ c ∈ '=' :: Base64.alphabet, Py.isSpace c = false := by
    have hchecked : ('=' :: Base64.alphabet).all (fun c => !Py.isSpace c) = true := by decide
    intro c hmem
    exact Bool.not_eq_true' _ ▸ List.all_eq_true.mp hchecked c hmem
  rcases Base64.mem_encode hc with h | rfl
  · exact hall c (List.mem_cons_of_mem _ h)
  · exact hall '=' List.mem_cons_self

/-- A token is no blank text. -/
theorem encodePaginationToken_ne (key : List (String × String)) : encodePaginationToken key ≠ "" := by
  intro h
  have hdecode := decode_encode key
  rw [h] at hdecode
  have hempty : decodePaginationToken "" = none := by
    have hbytes : Base64.decode "".toList = some [] := rfl
    have htext : Utf8.decode [] = some "" := Utf8.decode_encode ""
    simp only [decodePaginationToken, hbytes, htext, Option.bind_eq_bind, Option.bind_some]
    rfl
  rw [hempty] at hdecode
  cases hdecode

/-- The key of a row of the table. -/
def IsRowKey (item : Items) : Prop := ∃ key : RowKey, item = key.item

variable {py : Python}

/-- The token of a key of a row. -/
theorem TokenCodec.token (hcodec : TokenCodec py) {item : Items} (h : IsRowKey item) :
    ∃ token, py.encodePaginationToken item = token ∧ (Val.str token).strOrNone = some token ∧
      py.decodePaginationToken token = some (.dict item) := by
  obtain ⟨key, rfl⟩ := h
  let texts : List (String × String) := [("PK", key.pk), ("SK", key.sk)]
  have hnodup : (texts.map Prod.fst).Nodup := by simp [texts]
  refine ⟨encodePaginationToken texts, hcodec.encode texts hnodup, ?_,
    hcodec.decode _ texts (decode_encode texts) hnodup⟩
  rw [Val.strOrNone_eq (by simp), Val.toStr_str, strip_encodePaginationToken, Py.truthyText_eq_some]
  exact ⟨rfl, encodePaginationToken_ne texts⟩

/-! ## The client -/

/-- The request for a page: the query, with the token of the page before. -/
def listEvent (query : Items) : Option String → Items
  | none => [("queryStringParameters", .dict query)]
  | some token => [("queryStringParameters", .dict (query.set "nextToken" (.str token)))]

/-- What is shown of a page, and the token it carries. -/
def shownPage (answer : Except Exc Response) : Option (List Val × Val) :=
  match answer with
  | .ok ⟨200, .dict body⟩ => (Items.get body "items").asList?.map fun items =>
      (items, Items.get body "nextToken")
  | _ => none

/-- Following the tokens until one is absent: what is shown, page after page, and the tokens. -/
def followTokens (page : Option String → Except Exc Response) :
    Nat → Option String → Option (List Val × List String)
  | 0, _ => none
  | fuel + 1, token => match shownPage (page token) with
    | some (items, .none) => some (items, [])
    | some (items, .str next) => (followTokens page fuel (some next)).map fun rest =>
        (items ++ rest.1, next :: rest.2)
    | _ => none

/-- A page of the listing. -/
def tenantsPage (answers : (e : Effect) → e.Reply) (py : Python) (caller : CallerIdentity)
    (query : Items) (token : Option String) : Except Exc Response :=
  resultOf answers (handleListTenants py (tenantListInputFromEvent (listEvent query token)) caller)

/-- How many rows a page has, for which a query asks. -/
def pageSizeOf (query : Items) : Int :=
  (tenantListInputFromEvent (listEvent query none)).limit.getD tenantListDefaultPageSize

/-- The METADATA rows whose record matches the filters of a query. -/
def matchesQuery (query row : Items) : Bool :=
  let request := tenantListInputFromEvent (listEvent query none)
  textOf row "SK" = some "METADATA" &&
    request.statusFilter.all (fun status => (row.get "status" (.str "")).toStr = status) &&
    request.tierFilter.all (fun tier => (row.get "tier" (.str "")).toStr = tier)

/-- The records that match a query. -/
def matchingRecords (query : Items) (rows : List Items) : List Val :=
  (rows.filter (matchesQuery query)).map fun row => .dict (serializeTenant row)

/-! ## The whole listing -/

/-- A token changes nothing else of a request. -/
theorem tenantListInput_listEvent (query : Items) (token : Option String) :
    tenantListInputFromEvent (listEvent query token) =
      { tenantListInputFromEvent (listEvent query none) with
        nextToken := (tenantListInputFromEvent (listEvent query token)).nextToken } := by
  cases token with
  | none => rfl
  | some token =>
    have hother (name : String) (hname : name ≠ "nextToken") :
        (query.set "nextToken" (.str token)).get name = query.get name :=
      Items.get_set_ne query _ _ hname
    have hquery : (listEvent query (some token)).get "queryStringParameters" =
      .dict (query.set "nextToken" (.str token)) := rfl
    have hfirst : (listEvent query none).get "queryStringParameters" = .dict query := rfl
    simp only [tenantListInputFromEvent, hquery, hfirst, Val.asDict?_dict, Option.getD_some,
      hother "status" (by decide), hother "tier" (by decide), hother "limit" (by decide)]

/-- The records shown are those of the rows that match. -/
theorem listedRecords_eq {query : Items} {token : Option String} (rows : List Items) :
    (listedRecords (tenantListInputFromEvent (listEvent query token)) rows).map Val.dict =
      matchingRecords query rows := by
  have hstatus (row : Items) : textOf (serializeTenant row) "status" =
    some (row.get "status" (.str "")).toStr := rfl
  have htier (row : Items) : textOf (serializeTenant row) "tier" =
    some (row.get "tier" (.str "")).toStr := rfl
  rw [tenantListInput_listEvent]
  unfold listedRecords matchingRecords
  have hmatches : matchesQuery query = fun row => textOf row "SK" = some "METADATA" &&
      (tenantListInputFromEvent (listEvent query none)).statusFilter.all
        (fun status => (row.get "status" (.str "")).toStr = status) &&
      (tenantListInputFromEvent (listEvent query none)).tierFilter.all
        (fun tier => (row.get "tier" (.str "")).toStr = tier) := rfl
  rw [hmatches]
  obtain ⟨statusFilter, tierFilter, limit, nextToken⟩ :=
    tenantListInputFromEvent (listEvent query none)
  cases statusFilter <;> cases tierFilter <;>
    simp [List.filter_map, Function.comp_def, hstatus, htier, List.filter_filter, Bool.and_comm]

section

variable {answers : (e : Effect) → e.Reply} {caller : CallerIdentity} {query : Items}

/-- A token a request gives back is where its page starts. -/
def Starts (py : Python) (token : Option String) (startKey : Val) : Prop :=
  (token = none ∧ startKey = .none) ∨ ∃ text, token = some text ∧
    (Val.str text).strOrNone = some text ∧ py.decodePaginationToken text = some startKey

theorem listingPage_of_starts {token : Option String} {startKey : Val}
    (hstarts : Starts py token startKey) (hfirst : query.get "nextToken" = .none)
    (hsize : 1 ≤ pageSizeOf query ∧ pageSizeOf query ≤ tenantListMaxPageSize) :
    listingPage py (tenantListInputFromEvent (listEvent query token)) =
      .ok (pageSizeOf query, startKey) := by
  have hlimit : (tenantListInputFromEvent (listEvent query token)).limit.getD
      tenantListDefaultPageSize = pageSizeOf query := by
    rw [tenantListInput_listEvent]
    rfl
  have hrange : ¬ (pageSizeOf query < 1 ∨ tenantListMaxPageSize < pageSizeOf query) := by
    omega
  unfold listingPage
  simp only [hlimit]
  rw [if_neg hrange]
  rcases hstarts with ⟨rfl, rfl⟩ | ⟨text, rfl, htext, hdecode⟩
  · have htoken : (tenantListInputFromEvent (listEvent query none)).nextToken = none := by
      show (query.get "nextToken").strOrNone = none
      rw [hfirst]
      rfl
    rw [htoken]
  · have htoken : (tenantListInputFromEvent (listEvent query (some text))).nextToken = some text := by
      show ((query.set "nextToken" (.str text)).get "nextToken").strOrNone = some text
      rw [Items.get_set_self, htext]
    rw [htoken]
    simp only [hdecode]

/-- The answer for a page: its matching records, and a token where more is to come. -/
theorem shownPage_tenantsPage {token : Option String} {startKey : Val} {page : PaginatedItems}
    (hadmin : caller.isAdmin = true)
    (hlisting : listingPage py (tenantListInputFromEvent (listEvent query token)) =
      .ok (pageSizeOf query, startKey))
    (hpage : answerOf (tableAnswers answers) (controlPlaneScan (tenantsTableName py) none
      (some (pageSizeOf query)) startKey) = .ok page)
    (hencodes : Val.allObjsList py.encodes (matchingRecords query page.items) = true) :
    shownPage (tenantsPage answers py caller query token) = some (matchingRecords query page.items,
      match nextStartKey page with
      | some key => .str (py.encodePaginationToken key)
      | none => .none) := by
  have hbody (token : Val) (htoken : token.allObjs py.encodes = true) :
      (Val.dict [("items", .list (matchingRecords query page.items)),
        ("nextToken", token)]).allObjs py.encodes = true := by
    simp [Val.allObjs, Val.allObjsItems, hencodes, htoken]
  unfold tenantsPage handleListTenants
  rw [hadmin, hlisting]
  show shownPage (resultOf answers (Api.dynamodb _ >>= _)) = _
  rw [resultOf_bind_ok ((resultOf_dynamodb _).trans hpage), listedRecords_eq]
  unfold response
  rw [if_pos (hbody _ (by cases nextStartKey page <;> rfl))]
  rfl

/-- A token that a page of the table was answered with, which decodes to the key it was made from. -/
def TokenOfPage (answers : (e : Effect) → e.Reply) (py : Python) (query : Items) (token : String) :
    Prop :=
  ∃ startKey page key, answerOf (tableAnswers answers) (controlPlaneScan (tenantsTableName py) none
      (some (pageSizeOf query)) startKey) = .ok page ∧ page.lastEvaluatedKey = some key ∧
    token = py.encodePaginationToken key ∧ py.decodePaginationToken token = some (.dict key)

/-- The client reads the rest of the listing from where it is. -/
theorem followTokens_of_follows (hadmin : caller.isAdmin = true) (hcodec : TokenCodec py)
    (hfirst : query.get "nextToken" = .none)
    (hsize : 1 ≤ pageSizeOf query ∧ pageSizeOf query ≤ tenantListMaxPageSize)
    {startKey : Val} {pages : List (List Items)}
    (hpages : Follows (tableAnswers answers) IsRowKey (fun startKey => controlPlaneScan
      (tenantsTableName py) none (some (pageSizeOf query)) startKey) startKey pages)
    {token : Option String} (hstarts : Starts py token startKey)
    (hencodes : Val.allObjsList py.encodes (matchingRecords query pages.flatten) = true)
    {fuel : Nat} (hfuel : pages.length ≤ fuel) :
    ∃ tokens, followTokens (tenantsPage answers py caller query) fuel token =
        some (matchingRecords query pages.flatten, tokens) ∧
      ∀ token ∈ tokens, TokenOfPage answers py query token := by
  induction hpages generalizing token fuel with
  | last hpage hlast =>
    obtain ⟨fuel, rfl⟩ : ∃ n, fuel = n + 1 := ⟨fuel - 1, (Nat.sub_add_cancel hfuel).symm⟩
    rw [List.flatten_cons, List.flatten_nil, List.append_nil] at hencodes ⊢
    have hshown := shownPage_tenantsPage hadmin (listingPage_of_starts hstarts hfirst hsize) hpage
      hencodes
    rw [nextStartKey, hlast] at hshown
    refine ⟨[], ?_, by simp⟩
    rw [followTokens, hshown]
    rfl
  | @more startKey page key pages hpage hmore hne hkey hrest ih =>
    rw [List.length_cons] at hfuel
    obtain ⟨fuel, rfl⟩ : ∃ n, fuel = n + 1 := ⟨fuel - 1, by omega⟩
    have happend : matchingRecords query (page.items :: pages).flatten =
        matchingRecords query page.items ++ matchingRecords query pages.flatten := by
      simp only [matchingRecords, List.flatten_cons, List.filter_append, List.map_append]
    rw [happend, Val.allObjsList_append, Bool.and_eq_true] at hencodes
    have hshown := shownPage_tenantsPage hadmin (listingPage_of_starts hstarts hfirst hsize) hpage
      hencodes.1
    rw [nextStartKey_of_more hmore hne] at hshown
    obtain ⟨next, hnext, htext, hdecode⟩ := hcodec.token hkey
    obtain ⟨tokens, hfollow, htokens⟩ := ih (.inr ⟨next, rfl, htext, hdecode⟩) hencodes.2
      (Nat.le_of_succ_le_succ hfuel)
    refine ⟨next :: tokens, ?_, ?_⟩
    · rw [followTokens, hshown, happend]
      simp only [hnext, hfollow, Option.map_some]
    · intro token hmem
      rcases List.mem_cons.mp hmem with rfl | hmem
      · exact ⟨startKey, page, key, hpage, hmore, hnext.symm, hdecode⟩
      · exact htokens token hmem

/-- **The listing by token.** However the table is split, following the tokens until one is absent
    shows each METADATA record that matches the filters once, and nothing else; and each token decodes
    to the key it was made from. -/
theorem token_listing_enumerates (hadmin : caller.isAdmin = true) (hcodec : TokenCodec py)
    (hfirst : query.get "nextToken" = .none)
    (hsize : 1 ≤ pageSizeOf query ∧ pageSizeOf query ≤ tenantListMaxPageSize)
    {pages : List (List Items)}
    (hpages : Follows (tableAnswers answers) IsRowKey (fun startKey => controlPlaneScan
      (tenantsTableName py) none (some (pageSizeOf query)) startKey) .none pages)
    (hencodes : Val.allObjsList py.encodes (matchingRecords query pages.flatten) = true)
    {fuel : Nat} (hfuel : pages.length ≤ fuel) :
    ∃ tokens, followTokens (tenantsPage answers py caller query) fuel none =
        some (matchingRecords query pages.flatten, tokens) ∧
      ∀ token ∈ tokens, TokenOfPage answers py query token :=
  followTokens_of_follows hadmin hcodec hfirst hsize hpages (.inl ⟨rfl, rfl⟩) hencodes hfuel

end

/-- A library with the codec of the tokens, that can write no object. -/
def tokenPython : Python :=
  { KnownTexts.python {} with
    encodePaginationToken := fun key => encodePaginationToken (key.map fun kv => (kv.1, kv.2.toStr))
    decodePaginationToken := fun token => (decodePaginationToken token).map fun key =>
      .dict (textItems key) }

theorem tokenCodec_tokenPython : TokenCodec tokenPython where
  encode := by
    intro key _
    show encodePaginationToken ((textItems key).map fun kv => (kv.1, kv.2.toStr)) = _
    have htexts : ((textItems key).map fun kv => (kv.1, kv.2.toStr)) = key := by
      rw [textItems, List.map_map]
      exact List.map_id key
    rw [htexts]
  decode := by
    intro token key hdecode _
    show (decodePaginationToken token).map _ = _
    rw [hdecode]
    rfl

/-- A table of two pages, the first of a row that is no record, the second of a tenant's. -/
theorem token_listing_enumerates_two : ∃ tokens,
    followTokens (tenantsPage (twoPages [[("SK", .str "WEBHOOK#w")]]
        [[("SK", .str "METADATA"), ("tenantId", .str "t")]]) tokenPython platformAdmin []) 2 none =
      some (matchingRecords [] [[("SK", .str "WEBHOOK#w")],
        [("SK", .str "METADATA"), ("tenantId", .str "t")]], tokens) ∧
    ∀ token ∈ tokens, TokenOfPage (twoPages [[("SK", .str "WEBHOOK#w")]]
      [[("SK", .str "METADATA"), ("tenantId", .str "t")]]) tokenPython [] token :=
  token_listing_enumerates (by decide) tokenCodec_tokenPython rfl (by decide)
    (@Follows.more _ _ _ _ ⟨[[("SK", .str "WEBHOOK#w")]], some (tenantKey "t")⟩ (tenantKey "t")
      [[[("SK", .str "METADATA"), ("tenantId", .str "t")]]] rfl rfl (List.cons_ne_nil _ _)
      ⟨⟨"platform-tenants", "TENANT#t", "METADATA"⟩, rfl⟩
      (@Follows.last _ _ _ _ ⟨[[("SK", .str "METADATA"), ("tenantId", .str "t")]], none⟩ rfl rfl))
    rfl (Nat.le_refl 2)

/-- A set of texts, as a table may hold one. -/
def stringSet : Py.Obj := ⟨"set of texts", by decide, true, .invalid⟩

def setRow : Items := [("SK", .str "METADATA"), ("tenantId", .str "t"), ("ownerTeam", .obj stringSet)]

/-- A record that JSON has no value for ends the listing. -/
theorem listing_refuses_set : ∃ pages,
    Follows (tableAnswers (twoPages [setRow] [])) IsRowKey (fun startKey => controlPlaneScan
      (tenantsTableName tokenPython) none (some (pageSizeOf [])) startKey) .none pages ∧
    ∀ fuel, followTokens (tenantsPage (twoPages [setRow] []) tokenPython platformAdmin []) fuel none =
      none := by
  refine ⟨[[setRow], []], @Follows.more _ _ _ _ ⟨[setRow], some (tenantKey "t")⟩ (tenantKey "t") _
    rfl rfl (List.cons_ne_nil _ _) ⟨⟨"platform-tenants", "TENANT#t", "METADATA"⟩, rfl⟩
    (@Follows.last _ _ _ _ ⟨[], none⟩ rfl rfl), ?_⟩
  intro fuel
  have hpage : shownPage (tenantsPage (twoPages [setRow] []) tokenPython platformAdmin [] none) =
    none := rfl
  cases fuel with
  | zero => rfl
  | succ fuel => rw [followTokens, hpage]

end A5cCell.TenantApi
