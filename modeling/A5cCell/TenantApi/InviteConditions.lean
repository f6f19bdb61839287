import A5cCell.TenantApi.InviteReuse

/-!
# When a stored invite is reused as it should be

A request does what it is to do of a stored invite, in every world, exactly where the invite is one to
reuse (`invite_reuse_iff`): where it is not, the world in which nothing fails shows it.
-/

namespace A5cCell.TenantApi

open Py (Val Items Dict)
open DataAccess

/-! ## A world where nothing fails -/

/-- Nothing fails, and this is what is drawn. -/
def unfailing (dynamo : Dynamo) (nonce : String) : World Unit :=
  { quiet dynamo with random := fun _ _ => nonce }

theorem unfailing_plain (dynamo : Dynamo) (nonce : String) : PlainFaults (unfailing dynamo nonce) := by
  intro w r h
  cases h

section

variable {dynamo : Dynamo} {nonce : String} {py : Python} {invitation : Invitation} {tables : Tables}
  {inviteId : String} {invite lookup : Items}

theorem run_served {r : Request} {value : r.operation.Answer} {tables' : Tables}
    (h : dynamo.serve tables r = (.ok value, tables')) :
    Prog.run (unfailing dynamo nonce).serve (tables, ()) (Api.dynamodb (issue r)) =
      ⟨.ok value, (tables', ()), [.db r]⟩ := by
  have hserve : (unfailing dynamo nonce).serve (tables, ()) (.db r) =
      ((dynamo.serve tables r).1, ((dynamo.serve tables r).2, ())) := rfl
  rw [run_dynamodb_issue, hserve, h]
  rfl

theorem run_readRow (table tenantId : String) {sk : String} (hsk : sk ≠ "") :
    Prog.run (unfailing dynamo nonce).serve (tables, ())
      (Api.dynamodb ((Client.tenantScoped tenantId).getItem table
        [("PK", .str (tenantPk tenantId)), ("SK", .str sk)])) =
      ⟨.ok ((tables.get? ⟨table, tenantPk tenantId, sk⟩).map (RowKey.row ⟨table, tenantPk tenantId, sk⟩)),
        (tables, ()),
        [.db (getRequest table [("PK", .str (tenantPk tenantId)), ("SK", .str sk)])]⟩ := by
  rw [getItem_tenantRow]
  exact run_served (serve_getRow tables table tenantId hsk)

theorem run_response {statusCode : Nat} {body : Items}
    (hencodes : (Val.dict body).allObjs py.encodes = true) :
    Prog.run (unfailing dynamo nonce).serve (tables, ()) (response py statusCode body) =
      ⟨.ok ⟨statusCode, .dict body⟩, (tables, ()), []⟩ := by
  unfold response
  rw [if_pos hencodes]
  rfl

/-- An invite that is shown can be encoded. -/
theorem encodes_invite (h : ∀ kv ∈ invite, kv.2.allObjs py.encodes = true) :
    (Val.dict [("invite", .dict invite)]).allObjs py.encodes = true := by
  rw [Val.allObjs, Val.allObjsItems_iff]
  intro kv hkv
  cases List.mem_singleton.mp hkv
  rw [Val.allObjs, Val.allObjsItems_iff]
  exact h

/-- With an id that is longer than any stored, it is a new one. -/
theorem exists_freshIds (hwf : InvitesWellFormed py invitation tables) :
    ∃ nonce, invitation.FreshIds py tables (unfailing dynamo nonce) := by
  have hbound (items : List (RowKey × Items)) :
      ∃ most, ∀ kv ∈ items, kv.1.sk.toList.length ≤ most := by
    induction items with
    | nil => exact ⟨0, fun _ h => absurd h List.not_mem_nil⟩
    | cons kv items ih =>
      obtain ⟨most, hmost⟩ := ih
      refine ⟨max kv.1.sk.toList.length most, fun other hother => ?_⟩
      rcases List.mem_cons.mp hother with rfl | hrest
      · exact le_max_left _ _
      · exact (hmost other hrest).trans (le_max_right _ _)
  obtain ⟨most, hmost⟩ := hbound tables.items
  obtain ⟨longest, hlongest⟩ : ∃ longest, ∀ lookup id,
      tables.get? (invitation.lookupRow py) = some lookup →
      lookup.lookup "inviteId" = some (.str id) → id.toList.length ≤ longest := by
    cases hlookup : tables.get? (invitation.lookupRow py) with
    | none => exact ⟨0, fun _ _ h => by cases h⟩
    | some lookup =>
      obtain ⟨inviteId, hinvite⟩ := hwf.lookup lookup hlookup
      refine ⟨inviteId.toList.length, fun stored id hstored hid => ?_⟩
      cases hstored
      rw [hinvite.inviteId] at hid
      cases hid
      exact le_rfl
  obtain ⟨nonce, hnonce⟩ : ∃ nonce : String, most + longest < nonce.toList.length :=
    ⟨String.ofList (List.replicate (most + longest + 1) 'x'), by simp⟩
  refine ⟨nonce, fun w w' hstores => ?_⟩
  have hlength : most + longest < (newInviteId py ((unfailing dynamo nonce).now w) nonce).toList.length := by
    simp only [newInviteId, String.toList_append, List.length_append]
    omega
  rcases hstores with ⟨lookup, hlookup, hid⟩ | ⟨row, hrow⟩
  · have hle := hlongest lookup _ hlookup hid
    exact absurd (hlength.trans_le hle) (by omega)
  · have hle := hmost _ ((Dict.mem_iff tables).mpr hrow)
    simp only [Invitation.inviteRow, String.toList_append, List.length_append] at hle
    exact absurd (hlength.trans_le ((Nat.le_add_left _ _).trans hle)) (by omega)

/-- A check that passes. -/
theorem run_check {σ α : Type} (serve : σ → (e : Effect) → e.Reply × σ) (s : σ) (a : α) :
    Prog.run serve s (Api.ofExcept (.ok a)) = ⟨.ok a, s, []⟩ := rfl

section

variable (nonce) (hdynamo : InviteExpressions dynamo)

include hdynamo

/-- Both rows are there: both are marked. -/
theorem run_recordNotification (hinvite : IsInvite py inviteId invite) {row : Items}
    (hrow : tables.get? (invitation.inviteRow py inviteId) = some row)
    (hlookup : tables.get? (invitation.lookupRow py) = some lookup) (notified : Notified) :
    ∃ tables' calls, Prog.run (unfailing dynamo nonce).serve (tables, ())
      (invitation.recordNotification py (.tenantScoped invitation.tenantId) invite
        notified.expression notified.values) = ⟨.ok (), (tables', ()), calls⟩ := by
  have hid : getItemOf (.dict invite) "inviteId" = .ok (.str inviteId) := by
    simp only [getItemOf, hinvite.inviteId]
  have hmark (tables : Tables) {sk : String} (hsk : sk ≠ "") {stored : Items}
      (hstored : tables.get? ⟨tenantsTableName py, tenantPk invitation.tenantId, sk⟩ = some stored) :
      ∃ answer stored', Prog.run (unfailing dynamo nonce).serve (tables, ())
        (Api.dynamodb ((Client.tenantScoped invitation.tenantId).updateItem (tenantsTableName py)
          [("PK", .str (tenantPk invitation.tenantId)), ("SK", .str sk)] notified.expression
          notified.values none doesExist)) = ⟨.ok answer,
            (tables.set ⟨tenantsTableName py, tenantPk invitation.tenantId, sk⟩ stored', ()),
            [.db (recordRequest (tenantsTableName py)
              [("PK", .str (tenantPk invitation.tenantId)), ("SK", .str sk)] notified)]⟩ := by
    rw [updateItem_tenantRow]
    rcases serve_record hdynamo tables (tenantsTableName py) invitation.tenantId hsk notified with
      ⟨hmissing, -⟩ | ⟨attributes, attributes', answer, -, -, hserve⟩
    · rw [hstored] at hmissing
      cases hmissing
    · exact ⟨answer, attributes', run_served hserve⟩
  obtain ⟨answer, row', hfirst⟩ := hmark tables (inviteSk_ne inviteId) hrow
  have hlookup' : (tables.set (invitation.inviteRow py inviteId) row').get?
      (invitation.lookupRow py) = some lookup :=
    (Dict.get?_set_ne _ _ (invitation.inviteRow_ne_lookupRow py inviteId).symm).trans hlookup
  obtain ⟨answer', lookup', hsecond⟩ := hmark _ (lookupSk_ne invitation.normalizedEmail) hlookup'
  unfold Invitation.recordNotification
  rw [hid]
  exact ⟨_, _, Prog.run_bind_eq (run_check _ _ _) (Prog.run_bind_eq hfirst
    (Prog.run_bind_eq hsecond rfl))⟩

theorem run_notificationSent (hinvite : IsInvite py inviteId invite) {row : Items}
    (hrow : tables.get? (invitation.inviteRow py inviteId) = some row)
    (hlookup : tables.get? (invitation.lookupRow py) = some lookup) :
    ∃ shown tables' calls, Prog.run (unfailing dynamo nonce).serve (tables, ())
      (invitation.notificationSentResponse py (.tenantScoped invitation.tenantId) invite) =
        ⟨.ok ⟨202, .dict [("invite", .dict shown)]⟩, (tables', ()), calls⟩ := by
  have hset {d : Items} (name : String) {v : Val} (hv : v.allObjs py.encodes = true)
      (hd : ∀ kv ∈ d, kv.2.allObjs py.encodes = true) :
      ∀ kv ∈ d.set name v, kv.2.allObjs py.encodes = true := by
    intro kv hkv
    rcases Py.mem_setItem hkv with rfl | hmem
    · exact hv
    · exact hd kv hmem
  obtain ⟨tables', calls, hrecord⟩ := run_recordNotification nonce hdynamo hinvite hrow hlookup
    (.sent (py.isoUtc 0))
  have hnow : Prog.run (unfailing dynamo nonce).serve (tables, ()) Api.now =
      ⟨.ok 0, (tables, ()), [.now]⟩ := rfl
  unfold Invitation.notificationSentResponse
  refine ⟨_, _, _, Prog.run_bind_eq hnow (Prog.run_bind_eq hrecord (run_response ?_))⟩
  refine encodes_invite (hset _ rfl (hset _ rfl fun kv hkv => ?_))
  exact hset _ rfl (hset _ rfl hinvite.encodes) kv (List.mem_of_mem_filter hkv)

/-- The notification is sent, recorded, and the request accepted. -/
theorem run_deliver (hwf : InvitesWellFormed py invitation tables)
    (hinvite : IsInvite py inviteId invite) {row : Items}
    (hrow : tables.get? (invitation.inviteRow py inviteId) = some row)
    (hlookup : tables.get? (invitation.lookupRow py) = some lookup)
    (hpoints : invitation.PointsTo py tables inviteId) :
    ∃ shown tables' calls, Shows invite shown ∧ Prog.run (unfailing dynamo nonce).serve (tables, ())
      (invitation.deliverInviteNotification py (.tenantScoped invitation.tenantId) invite) =
        ⟨.ok ⟨202, .dict [("invite", .dict shown)]⟩, (tables', ()), calls⟩ := by
  obtain ⟨shown, tables', calls, hsent⟩ := run_notificationSent nonce hdynamo hinvite hrow
    hlookup
  have hevent : Prog.run (unfailing dynamo nonce).serve (tables, ())
      (Api.service "events" "put_events" (invitation.noticeEntries py invite)).attempt =
      ⟨.ok (.ok .none), (tables, ()), [invitation.notice py invite]⟩ := rfl
  have hrun : Prog.run (unfailing dynamo nonce).serve (tables, ())
      (invitation.deliverInviteNotification py (.tenantScoped invitation.tenantId) invite) =
        ⟨.ok ⟨202, .dict [("invite", .dict shown)]⟩, (tables', ()),
          [] ++ ([invitation.notice py invite] ++ ([] ++ ([] ++ calls)))⟩ := by
    unfold Invitation.deliverInviteNotification
    rw [inviteEvent_eq hinvite]
    refine Prog.run_bind_eq (run_check _ _ _) ?_
    rw [putEvent_notice]
    refine Prog.run_bind_eq hevent ?_
    exact Prog.run_bind_eq (run_check _ _ _) (Prog.run_bind_eq (run_check _ _ _) hsent)
  refine ⟨shown, tables', _, ?_, hrun⟩
  have hworld : InviteExpressions (unfailing dynamo nonce).dynamo := hdynamo
  obtain ⟨-, -, hresponse⟩ := (upholds_deliver hworld hwf hinvite hpoints ()).2
    ⟨202, .dict [("invite", .dict shown)]⟩ (by rw [hrun])
  obtain hrefused | ⟨shown', hshown, hshows⟩ := hresponse
  · exact absurd rfl hrefused
  · cases hshown
    exact hshows

/-- The invite row is written again, and the user told. -/
theorem run_restoreInvite (hwf : InvitesWellFormed py invitation tables)
    (hlookup : tables.get? (invitation.lookupRow py) = some lookup)
    (hinvite : IsInvite py inviteId lookup)
    (hmissing : tables.get? (invitation.inviteRow py inviteId) = none) :
    ∃ shown tables' calls, Shows lookup shown ∧ Prog.run (unfailing dynamo nonce).serve (tables, ())
      (invitation.restoreInvite py (.tenantScoped invitation.tenantId)
        ((invitation.lookupRow py).row lookup)) =
        ⟨.ok ⟨202, .dict [("invite", .dict shown)]⟩, (tables', ()), calls⟩ := by
  have hkeyed := hinvite.keyed (invitation.lookupRow py)
  obtain ⟨restored, hrestored⟩ : ∃ restored, restored =
    invitation.restored inviteId ((invitation.lookupRow py).row lookup) := ⟨_, rfl⟩
  have hisInvite : IsInvite py inviteId restored := hrestored ▸ isInvite_restored hkeyed
  have hattributes : attributesOf restored = restored := by
    rw [hrestored]
    rfl
  have hput : Prog.run (unfailing dynamo nonce).serve (tables, ())
      (Api.dynamodb ((Client.tenantScoped invitation.tenantId).putItem (tenantsTableName py)
        (inviteKey invitation.tenantId inviteId ++ restored) notExists)) =
      ⟨.ok (), (tables.set (invitation.inviteRow py inviteId) restored, ()),
        [.db (putNewRequest (tenantsTableName py)
          (inviteKey invitation.tenantId inviteId ++ restored))]⟩ := by
    have hserve := serve_putNew hdynamo tables (tenantsTableName py) invitation.tenantId
      (inviteSk_ne inviteId) restored hmissing
    rw [hattributes] at hserve
    show Prog.run _ _ (Api.dynamodb ((Client.tenantScoped invitation.tenantId).putItem _
      (("PK", .str (tenantPk invitation.tenantId)) :: ("SK", .str ("INVITE#" ++ inviteId)) :: restored)
      notExists)) = _
    rw [putItem_tenantRow]
    exact run_served hserve
  have hlookup' : (tables.set (invitation.inviteRow py inviteId) restored).get?
      (invitation.lookupRow py) = some lookup :=
    (Dict.get?_set_ne _ _ (invitation.inviteRow_ne_lookupRow py inviteId).symm).trans hlookup
  have hpoints : invitation.PointsTo py (tables.set (invitation.inviteRow py inviteId) restored)
      inviteId := by
    intro stored hstored
    rw [hlookup'] at hstored
    cases hstored
    exact hinvite.inviteId
  obtain ⟨shown, tables', calls, hshows, hdeliver⟩ := run_deliver nonce hdynamo
    (hwf.set_invite hisInvite) (hisInvite.keyed (invitation.inviteRow py inviteId))
    (Dict.get?_set_self _ _ _) hlookup' hpoints
  refine ⟨shown, tables', [] ++ ([.db (putNewRequest (tenantsTableName py)
    (inviteKey invitation.tenantId inviteId ++ restored))] ++ calls), ?_, ?_⟩
  · have hshown : Shows ((invitation.lookupRow py).row lookup) shown := by
      intro field hfield
      rw [hshows.of_row field hfield, hrestored, get_restored hkeyed]
      simp only [List.mem_cons, List.not_mem_nil, or_false] at hfield ⊢
      rcases hfield with rfl | rfl | rfl <;> decide
    exact hshown.of_row
  · unfold Invitation.restoreInvite
    rw [inviteFromLookup_eq hkeyed, ← hrestored]
    exact Prog.run_bind_eq (run_check _ _ _) (Prog.run_bind_eq (Prog.run_attempt_eq hput) hdeliver)

omit hdynamo in
/-- What the lookup row comes to is the answer. -/
theorem run_admitted (caller : CallerIdentity) {tenant : Items} {existingResponse : Response}
    {tables' : Tables} {calls : List Effect}
    (htenant : tables.get? (invitation.tenantRow py) = some tenant)
    (hexisting : Prog.run (unfailing dynamo nonce).serve (tables, ())
      (invitation.handleExistingLookup py (.tenantScoped invitation.tenantId)
        ((tables.get? (invitation.lookupRow py)).map (invitation.lookupRow py).row)) =
      ⟨.ok (some existingResponse), (tables', ()), calls⟩) :
    Prog.run (unfailing dynamo nonce).serve (tables, ()) (invitation.admitted py caller) =
      ⟨.ok existingResponse, (tables', ()),
        .db (getRequest (tenantsTableName py) (tenantKey invitation.tenantId)) ::
        .db (getRequest (tenantsTableName py) invitation.lookupKey) :: calls⟩ := by
  have htenantRead : Prog.run (unfailing dynamo nonce).serve (tables, ())
      (Api.dynamodb ((Client.tenantScoped invitation.tenantId).getItem (tenantsTableName py)
        (tenantKey invitation.tenantId))) = ⟨.ok (some ((invitation.tenantRow py).row tenant)),
          (tables, ()), [.db (getRequest (tenantsTableName py) (tenantKey invitation.tenantId))]⟩ := by
    have hread : Option.map (invitation.tenantRow py).row (tables.get? (invitation.tenantRow py)) =
        some ((invitation.tenantRow py).row tenant) := by rw [htenant, Option.map_some]
    rw [← hread]
    exact run_readRow _ invitation.tenantId (by decide)
  have hlookupRead : Prog.run (unfailing dynamo nonce).serve (tables, ())
      (invitation.readLookup py (.tenantScoped invitation.tenantId)) =
      ⟨.ok ((tables.get? (invitation.lookupRow py)).map (invitation.lookupRow py).row), (tables, ()),
        [.db (getRequest (tenantsTableName py) invitation.lookupKey)]⟩ :=
    run_readRow _ invitation.tenantId (lookupSk_ne invitation.normalizedEmail)
  have hrun : Prog.run (unfailing dynamo nonce).serve (tables, ()) (invitation.admitted py caller) =
      ⟨.ok existingResponse, (tables', ()),
        [.db (getRequest (tenantsTableName py) (tenantKey invitation.tenantId))] ++
        ([.db (getRequest (tenantsTableName py) invitation.lookupKey)] ++ (calls ++ []))⟩ :=
    Prog.run_bind_eq htenantRead (Prog.run_bind_eq hlookupRead (Prog.run_bind_eq hexisting rfl))
  rw [hrun, List.append_nil]
  rfl

omit hdynamo in
theorem run_readInvite (hinvite : IsInvite py inviteId lookup) :
    Prog.run (unfailing dynamo nonce).serve (tables, ())
      (invitation.readInvite py (.tenantScoped invitation.tenantId)
        ((invitation.lookupRow py).row lookup)) =
      ⟨.ok ((tables.get? (invitation.inviteRow py inviteId)).map (invitation.inviteRow py inviteId).row),
        (tables, ()), [.db (getRequest (tenantsTableName py)
          (inviteKey invitation.tenantId inviteId))]⟩ := by
  unfold Invitation.readInvite
  rw [get_row (by decide), get_of_lookup hinvite.inviteId]
  exact run_readRow _ invitation.tenantId (inviteSk_ne inviteId)

/-- A pending lookup row, in the world where nothing fails: the request is accepted with its invite, and
    where the invite row does not say that the notification failed, nothing but reading is done. -/
theorem run_handleExistingLookup (hwf : InvitesWellFormed py invitation tables)
    (hpending : invitation.pendingInvite py tables = some invite)
    (hlookup : tables.get? (invitation.lookupRow py) = some lookup) :
    ∃ shown tables' calls, Shows invite shown ∧ Prog.run (unfailing dynamo nonce).serve (tables, ())
      (invitation.handleExistingLookup py (.tenantScoped invitation.tenantId)
        ((tables.get? (invitation.lookupRow py)).map (invitation.lookupRow py).row)) =
        ⟨.ok (some ⟨202, .dict [("invite", .dict shown)]⟩), (tables', ()), calls⟩ ∧
      ∀ row, tables.get? (invitation.inviteRow py (inviteIdOf lookup)) = some row →
        row.lookup "notificationStatus" ≠ some (.str "failed") →
        tables' = tables ∧ ∀ call ∈ calls, ∃ request, call = .db request := by
  obtain ⟨lookup', inviteId, hlookup', hinvite, hlookupPending, hisInvite, hinvitePending, hrow⟩ :=
    of_pendingInvite hwf hpending
  rw [hlookup] at hlookup'
  cases hlookup'
  have hstatus : (lookup.get "status" (.str "")).toStr = "pending" := hlookupPending
  have hread : Prog.run (unfailing dynamo nonce).serve (tables, ())
      (invitation.readInvite py (.tenantScoped invitation.tenantId)
        ((invitation.lookupRow py).row lookup)) = _ := run_readInvite nonce hinvite
  have hpoints : invitation.PointsTo py tables inviteId := by
    intro stored hstored
    rw [hlookup] at hstored
    cases hstored
    exact hinvite.inviteId
  have hmap {p : Api Response} {response : Response} {tables' : Tables} {calls : List Effect}
      (hp : Prog.run (unfailing dynamo nonce).serve (tables, ()) p =
        ⟨.ok response, (tables', ()), calls⟩) :
      Prog.run (unfailing dynamo nonce).serve (tables, ()) (some <$> p) =
        ⟨.ok (some response), (tables', ()), calls ++ []⟩ := Prog.run_bind_eq hp rfl
  rw [hlookup, hinvite.inviteIdOf]
  simp only [Option.map_some, Invitation.handleExistingLookup]
  rw [get_row (by decide), if_neg (not_not.mpr hstatus)]
  -- The invite row is there and is answered with, or it is missing and is put back.
  rcases hrow with hstored | ⟨hmissing, rfl⟩
  · have hkeyed := hisInvite.keyed (invitation.inviteRow py inviteId)
    have hfoundStatus : (((invitation.inviteRow py inviteId).row invite).get "status" (.str "")).toStr =
        "pending" := (congrArg Val.toStr (get_row (by decide) _ invite _)).trans hinvitePending
    obtain ⟨text, htext⟩ := hisInvite.notificationStatus
    have hfoundText : (((invitation.inviteRow py inviteId).row invite).get "notificationStatus"
        (.str "")).toStr = text := by
      rw [get_row (by decide), get_of_lookup htext, Val.toStr_str]
    rw [hstored, Option.map_some] at hread
    -- A notification that failed is sent again.
    by_cases hfailed : text = "failed"
    · obtain ⟨shown, tables', calls, hshows, hdeliver⟩ :=
        run_deliver nonce hdynamo hwf hkeyed hstored hlookup hpoints
      refine ⟨shown, tables', [.db (getRequest (tenantsTableName py)
        (inviteKey invitation.tenantId inviteId))] ++ (calls ++ []), hshows.of_row,
        Prog.run_bind_eq hread ?_, fun row hrow hnotFailed => ?_⟩
      · simp only [hfoundStatus, hfoundText, ne_eq, not_true_eq_false, if_false, if_pos hfailed]
        exact hmap hdeliver
      · rw [hstored] at hrow
        cases hrow
        rw [htext, hfailed] at hnotFailed
        exact absurd rfl hnotFailed
    · refine ⟨(invitation.inviteRow py inviteId).row invite, tables, [.db (getRequest
        (tenantsTableName py) (inviteKey invitation.tenantId inviteId))] ++ ([] ++ []),
        shows_row _ invite, Prog.run_bind_eq hread ?_, fun row _ _ => ⟨rfl, fun call hcall => ?_⟩⟩
      · simp only [hfoundStatus, hfoundText, ne_eq, not_true_eq_false, if_false, if_neg hfailed]
        exact hmap (run_response (encodes_invite hkeyed.encodes))
      · simp only [List.append_nil, List.mem_singleton] at hcall
        exact ⟨_, hcall⟩
  · obtain ⟨shown, tables', calls, hshows, hrestore⟩ :=
      run_restoreInvite nonce hdynamo hwf hlookup hinvite hmissing
    rw [hmissing, Option.map_none] at hread
    refine ⟨shown, tables', _, hshows, Prog.run_bind_eq hread (hmap hrestore), fun row hrow _ => ?_⟩
    rw [hmissing] at hrow
    cases hrow

end

/-! ## The condition -/

/-- In every world, an invite request does what it is to do of what is stored. -/
def InvitesSoundly (dynamo : Dynamo) (py : Python) (event : Items) (caller : CallerIdentity)
    (invitation : Invitation) (t : Instant) (tables : Tables) : Prop :=
  ∀ (τ : Type) (world : World τ) (w : τ), world.dynamo = dynamo → PlainFaults world →
    invitation.FreshIds py tables world → InviteLaws py invitation t tables
      (Prog.run world.serve (tables, w) (handleInviteUser py event caller invitation.tenantId))

section

variable (hdynamo : InviteExpressions dynamo) {event : Items} {caller : CallerIdentity}
  (hrequest : InviteRequest py event caller invitation)
  (hwf : InvitesWellFormed py invitation tables) {tenant : Items}
  (htenant : tables.get? (invitation.tenantRow py) = some tenant)

include hdynamo hrequest hwf htenant

/-- The world in which nothing fails shows what is wrong with an invite that is not one to reuse. -/
theorem reusedSoundly_of_invitesSoundly {t : Instant}
    (h : InvitesSoundly dynamo py event caller invitation t tables) :
    invitation.ReusedSoundly py t tables := by
  unfold InvitesSoundly at h
  rw [handleInviteUser_eq hrequest] at h
  intro lookup invite hlookup hpending
  obtain ⟨nonce, hfresh⟩ : ∃ nonce, invitation.FreshIds py tables (unfailing dynamo nonce) :=
    exists_freshIds hwf
  have hlaws := h Unit (unfailing dynamo nonce) () rfl (unfailing_plain dynamo nonce) hfresh
  obtain ⟨lookup', inviteId, hlookup', hinvite, -, hisInvite, -, hrow⟩ := of_pendingInvite hwf hpending
  rw [hlookup] at hlookup'
  cases hlookup'
  obtain ⟨shown, tables', calls, hshows, hexisting, hreads⟩ :=
    run_handleExistingLookup nonce hdynamo hwf hpending hlookup
  have hrun := run_admitted nonce caller htenant hexisting
  rw [hrun] at hlaws
  have hid : shown.get "inviteId" = .str inviteId :=
    (hshows "inviteId" (by decide)).trans (get_of_lookup hisInvite.inviteId _)
  obtain ⟨-, hexpired⟩ := hlaws.reused shown inviteId rfl hid (.inl ⟨lookup, hlookup, hinvite.inviteId⟩)
  refine ⟨fun hold => hexpired (hshows.expired.mpr hold), fun row hstored => ?_⟩
  by_cases hfailed : row.lookup "notificationStatus" = some (.str "failed")
  · exact .inl hfailed
  · right
    obtain ⟨rfl, hdb⟩ := hreads row hstored hfailed
    rw [hinvite.inviteIdOf] at hstored
    have hsame : row = invite := by
      rcases hrow with hstored' | ⟨hmissing, -⟩
      · exact Option.some.inj (hstored.symm.trans hstored')
      · rw [hmissing] at hstored
        cases hstored
    subst hsame
    have hsent : row.lookup "notificationStatus" = some (.str "sent") := by
      by_contra hnotSent
      have hnotice := hlaws.notified row _ hpending hnotSent rfl
      simp only [Invitation.notice, List.mem_cons, reduceCtorEq, false_or] at hnotice
      obtain ⟨request, hrequest⟩ := hdb _ hnotice
      cases hrequest
    refine ⟨hsent, ?_⟩
    rw [hlaws.agrees _ rfl lookup row inviteId hlookup hinvite.inviteId hstored]
    exact hsent

/-- **A request** does what it is to do where, and only where, the stored invite is one to reuse. -/
theorem invite_reuse_iff (t : Instant) :
    InvitesSoundly dynamo py event caller invitation t tables ↔
      invitation.ReusedSoundly py t tables := by
  constructor
  · exact reusedSoundly_of_invitesSoundly hdynamo hrequest hwf htenant
  · intro hsound τ world w hworld hplain hfresh
    subst hworld
    rw [handleInviteUser_eq hrequest]
    exact inviteLaws_of_reusedSoundly hdynamo hplain hwf hfresh htenant caller hsound w

end

end

/-! ## An invite that was asked for before -/

/-- What the two expressions of an invite set, and from which values. -/
def placeholdersOf (expression : String) : List (String × String) :=
  if expression = (Notified.sent "").expression then
    [("notificationStatus", ":status"), ("notificationError", ":error"),
      ("notifiedAt", ":notified_at"), ("updatedAt", ":updated_at")]
  else
    [("notificationStatus", ":status"), ("notificationError", ":error"),
      ("notificationFailedAt", ":failed_at"), ("updatedAt", ":updated_at")]

/-- A DynamoDB that reads the expressions of an invite. -/
def recordingRows : Dynamo :=
  { Dynamo.rowByRow with
    holds := fun _ kwargs row => match kwargs.get? "ConditionExpression" with
      | some (.val (.str expression)) =>
          if expression = "attribute_not_exists(PK)" then !row.has "PK" else row.has "PK"
      | _ => true
    update := fun kwargs row =>
      match kwargs.get? "UpdateExpression", kwargs.get? "ExpressionAttributeValues" with
      | some (.val (.str expression)), some (.val (.dict values)) =>
          .ok (row.merge ((placeholdersOf expression).map fun (field, placeholder) =>
            (field, Items.get values placeholder)))
      | _, _ => .error Dynamo.invalid }

theorem recordingRows_expressions : InviteExpressions recordingRows := by
  refine ⟨fun kwargs row h => ?_, fun kwargs row h => ?_, fun table key notified row => ?_⟩
  · simp only [recordingRows, h, if_true]
  · have hne : ¬ "attribute_exists(PK)" = "attribute_not_exists(PK)" := by decide
    simp only [recordingRows, h, if_neg hne]
  · have hupdate : recordingRows.update (recordRequest table key notified).kwargs row =
        .ok (row.merge notified.attributes) := by
      cases notified with
      | sent time => rfl
      | failed errorCode time => rfl
    exact ⟨_, hupdate, fun _ _ => rfl, fun kv hkv => Items.mem_merge hkv⟩

def kimInvitation : Invitation := ⟨"acme", "kim@example.com"⟩

/-- A library that reads one body, and the times it writes. -/
def kimPython : Python :=
  { KnownTexts.python { json := [("kim", .dict [("email", .str "kim@example.com")])] } with
    fromIsoformat := fun text => some (Py.toInt? text) }

def kimEvent : Items := [("body", .str "kim")]

def kimRow (expiresAt : Int) (notificationStatus : String) : Items :=
  [("inviteId", .str "inv-1"), ("email", .str "kim@example.com"), ("role", .str "Agent.Invoke"),
    ("status", .str "pending"), ("expiresAt", .str (toString expiresAt)),
    ("notificationStatus", .str notificationStatus)]

/-- What is stored of an invite, with what its two rows say of the notification. -/
def kimTables (expiresAt : Int) (ofInvite ofLookup : String) : Tables :=
  ((Dict.empty.set (kimInvitation.tenantRow kimPython) [("status", .str "active")]).set
    (kimInvitation.lookupRow kimPython) (kimRow expiresAt ofLookup)).set
      (kimInvitation.inviteRow kimPython "inv-1") (kimRow expiresAt ofInvite)

section

variable (expiresAt : Int) (ofInvite ofLookup : String)

theorem isInvite_kimRow : IsInvite kimPython "inv-1" (kimRow expiresAt ofInvite) := by
  refine ⟨rfl, ⟨_, rfl⟩, ⟨_, rfl⟩, ⟨_, rfl⟩, ⟨_, rfl⟩, fun kv hkv => ?_⟩
  simp only [kimRow, List.mem_cons, List.not_mem_nil, or_false] at hkv
  rcases hkv with rfl | rfl | rfl | rfl | rfl | rfl <;> rfl

theorem wellFormed_kimTables :
    InvitesWellFormed kimPython kimInvitation (kimTables expiresAt ofInvite ofLookup) := by
  have htenant : InvitesWellFormed kimPython kimInvitation
      (Dict.empty.set (kimInvitation.tenantRow kimPython) [("status", .str "active")]) := by
    refine ⟨fun row hrow => ?_, fun inviteId row hrow => ?_⟩
    · rw [Dict.get?_set_ne _ _ (by decide)] at hrow
      cases hrow
    · rw [Dict.get?_set_ne] at hrow
      · cases hrow
      · intro h
        have hsk := congrArg String.toList (congrArg RowKey.sk h)
        simp [Invitation.inviteRow, Invitation.tenantRow] at hsk
  exact (htenant.set_lookup (isInvite_kimRow expiresAt ofLookup)).set_invite
    (isInvite_kimRow expiresAt ofInvite)

theorem lookup_kimTables : (kimTables expiresAt ofInvite ofLookup).get?
    (kimInvitation.lookupRow kimPython) = some (kimRow expiresAt ofLookup) := by
  unfold kimTables
  rw [Dict.get?_set_ne _ _ (by decide), Dict.get?_set_self]

theorem invite_kimTables : (kimTables expiresAt ofInvite ofLookup).get?
    (kimInvitation.inviteRow kimPython "inv-1") = some (kimRow expiresAt ofInvite) :=
  Dict.get?_set_self _ _ _

theorem tenant_kimTables : (kimTables expiresAt ofInvite ofLookup).get?
    (kimInvitation.tenantRow kimPython) = some [("status", .str "active")] := by
  unfold kimTables
  rw [Dict.get?_set_ne _ _ (by decide), Dict.get?_set_ne _ _ (by decide), Dict.get?_set_self]

/-- Which of these invites are ones to reuse. -/
theorem reusedSoundly_kimTables_iff (t : Instant) :
    kimInvitation.ReusedSoundly kimPython t (kimTables expiresAt ofInvite ofLookup) ↔
      t < expiresAt ∧ (ofInvite = "failed" ∨ ofInvite = "sent" ∧ ofLookup = "sent") := by
  have hid : inviteIdOf (kimRow expiresAt ofLookup) = "inv-1" := rfl
  have hpending : kimInvitation.pendingInvite kimPython (kimTables expiresAt ofInvite ofLookup) =
      some (kimRow expiresAt ofInvite) := by
    unfold Invitation.pendingInvite
    rw [lookup_kimTables]
    simp only [hid, invite_kimTables]
    rfl
  have hexpired : Expired kimPython t (kimRow expiresAt ofInvite) ↔ expiresAt ≤ t := by
    have hparsed : kimPython.fromIsoformat ((kimRow expiresAt ofInvite).get "expiresAt").toStr =
        some (some expiresAt) := congrArg some (Py.toInt?_toString expiresAt)
    unfold Expired
    rw [hparsed]
    simp
  have hstatus (text : String) : (kimRow expiresAt text).lookup "notificationStatus" =
      some (.str text) := rfl
  constructor
  · intro h
    obtain ⟨hnot, hrow⟩ := h _ _ (lookup_kimTables ..) hpending
    have hnotified := hrow _ (invite_kimTables ..)
    rw [hexpired] at hnot
    simp only [hstatus, Option.some.injEq, Val.str.injEq] at hnotified
    exact ⟨not_le.mp hnot, hnotified⟩
  · intro h lookup invite hlookup hinvite
    rw [lookup_kimTables] at hlookup
    cases hlookup
    rw [hpending] at hinvite
    cases hinvite
    rw [hexpired, hid]
    refine ⟨not_le.mpr h.1, fun row hrow => ?_⟩
    rw [invite_kimTables] at hrow
    cases hrow
    simp only [hstatus, Option.some.injEq, Val.str.injEq]
    exact h.2

theorem kimRequest : InviteRequest kimPython kimEvent platformAdmin kimInvitation :=
  ⟨by decide, by decide, [("email", .str "kim@example.com")], rfl, by decide, by decide⟩

end

/-- Who could not be told is told again. -/
theorem invite_reuse_iff_failed : InvitesSoundly recordingRows kimPython kimEvent platformAdmin
    kimInvitation 50 (kimTables 100 "failed" "failed") :=
  (invite_reuse_iff recordingRows_expressions kimRequest (wellFormed_kimTables 100 "failed" "failed")
    (tenant_kimTables 100 "failed" "failed") 50).mpr
      ((reusedSoundly_kimTables_iff 100 "failed" "failed" 50).mpr (by decide))

/-- An invite that has expired is returned; one that was stored and never told of is accepted without a
    word; and one whose lookup row was not marked as sent is left so. -/
theorem invite_not_reused_soundly :
    ¬ InvitesSoundly recordingRows kimPython kimEvent platformAdmin kimInvitation 150
      (kimTables 100 "sent" "sent") ∧
    ¬ InvitesSoundly recordingRows kimPython kimEvent platformAdmin kimInvitation 50
      (kimTables 100 "pending" "pending") ∧
    ¬ InvitesSoundly recordingRows kimPython kimEvent platformAdmin kimInvitation 50
      (kimTables 100 "sent" "pending") := by
  have hcondition {ofInvite ofLookup : String} {t : Instant}
      (h : InvitesSoundly recordingRows kimPython kimEvent platformAdmin kimInvitation t
        (kimTables 100 ofInvite ofLookup)) :
      t < 100 ∧ (ofInvite = "failed" ∨ ofInvite = "sent" ∧ ofLookup = "sent") :=
    (reusedSoundly_kimTables_iff 100 ofInvite ofLookup t).mp
      (reusedSoundly_of_invitesSoundly recordingRows_expressions kimRequest
        (wellFormed_kimTables 100 ofInvite ofLookup) (tenant_kimTables 100 ofInvite ofLookup) h)
  refine ⟨fun h => ?_, fun h => ?_, fun h => ?_⟩
  · exact absurd (hcondition h) (by decide)
  · exact absurd (hcondition h) (by decide)
  · exact absurd (hcondition h) (by decide)

end A5cCell.TenantApi
