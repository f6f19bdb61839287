import Mathlib.Data.List.Nodup
import A5cCell.TenantApi.InviteRows

/-!
# Invites that are asked for again

A request for an email that has a pending invite is answered with it, and notifies the invited user
again where the notification failed. When the invite expires is not looked at, nor whether the
notification was recorded at all; and where only one of its two rows was marked as sent, the other stays
as it is. `invite_reuse_iff` says of which stored invites a request is nevertheless answered as it
should be.
-/

namespace A5cCell.TenantApi

open Py (Val Items Dict)
open DataAccess

/-! ## What is stored -/

/-- A row of the invite of this id, as the handler writes it. -/
structure IsInvite (py : Python) (inviteId : String) (row : Items) : Prop where
  inviteId : row.lookup "inviteId" = some (.str inviteId)
  email : ∃ text, row.lookup "email" = some (.str text)
  role : ∃ text, row.lookup "role" = some (.str text)
  status : ∃ text, row.lookup "status" = some (.str text)
  notificationStatus : ∃ text, row.lookup "notificationStatus" = some (.str text)
  encodes : ∀ kv ∈ row, kv.2.allObjs py.encodes = true

/-- The rows of the tenant's invites, and the lookup row of the email, are as the handler writes them. -/
structure InvitesWellFormed (py : Python) (invitation : Invitation) (tables : Tables) : Prop where
  lookup : ∀ row, tables.get? (invitation.lookupRow py) = some row → ∃ inviteId, IsInvite py inviteId row
  invites : ∀ inviteId row, tables.get? (invitation.inviteRow py inviteId) = some row →
    IsInvite py inviteId row

/-- The id a row names. -/
def inviteIdOf (row : Items) : String := (row.get "inviteId" (.str "")).toStr

def isPending (row : Items) : Prop := (row.get "status" (.str "")).toStr = "pending"

instance (row : Items) : Decidable (isPending row) := inferInstanceAs (Decidable (_ = _))

/-- The invite has expired at a time. -/
def Expired (py : Python) (t : Instant) (row : Items) : Prop :=
  ∃ expiresAt, py.fromIsoformat (row.get "expiresAt").toStr = some (some expiresAt) ∧ expiresAt ≤ t

section

variable (py : Python) (invitation : Invitation) (t : Instant) (tables : Tables)

/-- The pending invite of the email: its invite row, or the lookup row it is restored from. -/
def Invitation.pendingInvite : Option Items :=
  match tables.get? (invitation.lookupRow py) with
  | none => none
  | some lookup =>
      if isPending lookup then
        match tables.get? (invitation.inviteRow py (inviteIdOf lookup)) with
        | none => some lookup
        | some invite => if isPending invite then some invite else none
      else none

/-- An invite of this id is stored. -/
def Invitation.Stores (inviteId : String) : Prop :=
  (∃ lookup, tables.get? (invitation.lookupRow py) = some lookup ∧
    lookup.lookup "inviteId" = some (.str inviteId)) ∨
  ∃ invite, tables.get? (invitation.inviteRow py inviteId) = some invite

/-- The lookup row and the invite row it points to agree on the notification. -/
def Invitation.Agrees : Prop :=
  ∀ lookup invite inviteId, tables.get? (invitation.lookupRow py) = some lookup →
    lookup.lookup "inviteId" = some (.str inviteId) →
    tables.get? (invitation.inviteRow py inviteId) = some invite →
    lookup.lookup "notificationStatus" = invite.lookup "notificationStatus"

/-- The entry of the event that tells the invited user. -/
def Invitation.noticeEntries (invite : Items) : Items :=
  [("Entries", .list [.dict [
    ("Source", .str "platform.tenant_api"),
    ("DetailType", .str "tenant.user_invited"),
    ("Detail", .dict [("tenantId", .str invitation.tenantId),
      ("inviteId", .str (invite.get "inviteId").toStr), ("email", .str (invite.get "email").toStr),
      ("role", .str (invite.get "role").toStr)]),
    ("EventBusName", .str (eventBusName py))]])]

def Invitation.notice (invite : Items) : Effect :=
  .service "events" "put_events" (invitation.noticeEntries py invite)

/-- What a request is to do, asked at a time of what is stored. -/
structure InviteLaws {τ : Type} (run : Prog.Run (Tables × τ) Effect Exc Response) : Prop where
  /-- An invite that is stored is returned only where it is pending and has not expired. -/
  reused : ∀ (shown : Items) inviteId, run.outcome = .ok ⟨202, .dict [("invite", .dict shown)]⟩ →
    shown.get "inviteId" = .str inviteId → invitation.Stores py tables inviteId →
      shown.get "status" = .str "pending" ∧ ¬ Expired py t shown
  /-- A pending invite not recorded as sent is notified again before it is accepted. -/
  notified : ∀ invite body, invitation.pendingInvite py tables = some invite →
    invite.lookup "notificationStatus" ≠ some (.str "sent") → run.outcome = .ok ⟨202, body⟩ →
      invitation.notice py invite ∈ run.calls
  /-- The rows agree when the request completes. -/
  agrees : ∀ response, run.outcome = .ok response → invitation.Agrees py run.final.1

/-- The pending invite, if any, has not expired; and its invite row is missing, or says that the
    notification failed, or says with the lookup row that it was sent. -/
def Invitation.ReusedSoundly : Prop :=
  ∀ lookup invite, tables.get? (invitation.lookupRow py) = some lookup →
    invitation.pendingInvite py tables = some invite → ¬ Expired py t invite ∧
      ∀ row, tables.get? (invitation.inviteRow py (inviteIdOf lookup)) = some row →
        row.lookup "notificationStatus" = some (.str "failed") ∨
        row.lookup "notificationStatus" = some (.str "sent") ∧
          lookup.lookup "notificationStatus" = some (.str "sent")

/-- The id of a new invite. -/
def newInviteId (now : Instant) (nonce : String) : String :=
  "inv-" ++ py.strftime "%Y%m%d" now ++ "-" ++ nonce

/-- No id that is drawn is that of a stored invite. -/
def Invitation.FreshIds {τ : Type} (world : World τ) : Prop :=
  ∀ w w', ¬ invitation.Stores py tables
    (newInviteId py (world.now w) (world.random w' "secrets.token_hex(4)"))

end

/-! ## Rows that are written -/

section

variable {py : Python} {invitation : Invitation} {tables : Tables} {inviteId : String} {row : Items}

theorem get_row {field : String} (hfield : IsAttribute field) (key : RowKey) (attributes : Items)
    (default : Val) : (key.row attributes).get field default = attributes.get field default := by
  rw [Items.get, Items.get, lookup_row hfield]

theorem get_of_lookup {v : Val} {field : String} (h : row.lookup field = some v) (default : Val) :
    row.get field default = v := by
  rw [Items.get, h, Option.getD_some]

theorem IsInvite.inviteIdOf (h : IsInvite py inviteId row) : inviteIdOf row = inviteId := by
  rw [TenantApi.inviteIdOf, get_of_lookup h.inviteId, Val.toStr_str]

theorem IsInvite.isPending_iff (h : IsInvite py inviteId row) :
    isPending row ↔ row.lookup "status" = some (.str "pending") := by
  obtain ⟨text, htext⟩ := h.status
  rw [isPending, get_of_lookup htext, htext, Val.toStr_str, Option.some.injEq, Val.str.injEq]

/-- The fields of a row that the key has no part in. -/
theorem IsInvite.keyed (h : IsInvite py inviteId row) (key : RowKey) :
    IsInvite py inviteId (key.row row) := by
  have hfield {field : String} (hattribute : IsAttribute field) :
      (key.row row).lookup field = row.lookup field := lookup_row hattribute key row
  refine ⟨(hfield (by decide)).trans h.inviteId, ?_, ?_, ?_, ?_, fun kv hkv => ?_⟩
  · rw [hfield (by decide)]
    exact h.email
  · rw [hfield (by decide)]
    exact h.role
  · rw [hfield (by decide)]
    exact h.status
  · rw [hfield (by decide)]
    exact h.notificationStatus
  · rcases List.mem_append.mp hkv with hkey | hattribute
    · simp only [RowKey.item, List.mem_cons, List.not_mem_nil, or_false] at hkey
      rcases hkey with rfl | rfl <;> rfl
    · exact h.encodes kv hattribute

/-- What an outcome does not set is as it was. -/
theorem Records.lookup_other {notified : Notified} {row' : Items} (h : Records notified row row')
    {field : String} (hfield : IsAttribute field) (hother : ∀ kv ∈ notified.attributes, kv.1 ≠ field) :
    row'.lookup field = row.lookup field := by
  rw [h.1 field hfield]
  exact Items.lookup_merge_of_not_mem row hother

theorem Records.lookup_status {notified : Notified} {row' : Items} (h : Records notified row row') :
    row'.lookup "notificationStatus" = some (.str notified.status) := by
  rw [h.1 _ (by decide)]
  exact Items.lookup_merge_of_mem row notified.nodup_attributes notified.mem_status

theorem Notified.attributes_ne (notified : Notified) {field : String}
    (hfield : field ∉ ["notificationStatus", "notificationError", "notifiedAt", "notificationFailedAt",
      "updatedAt"]) : ∀ kv ∈ notified.attributes, kv.1 ≠ field := by
  simp only [List.mem_cons, List.not_mem_nil, or_false, not_or] at hfield
  cases notified with
  | sent time => simp [Notified.attributes, Ne.symm hfield.1, Ne.symm hfield.2.1, Ne.symm hfield.2.2.1,
      Ne.symm hfield.2.2.2.2]
  | failed errorCode time => simp [Notified.attributes, Ne.symm hfield.1, Ne.symm hfield.2.1,
      Ne.symm hfield.2.2.2.1, Ne.symm hfield.2.2.2.2]

/-- A row that is marked is still one of the invite. -/
theorem IsInvite.record (h : IsInvite py inviteId row) {notified : Notified} {row' : Items}
    (hrecords : Records notified row row') : IsInvite py inviteId row' := by
  have hkept {field : String} (hattribute : IsAttribute field) (hfield : field ∉
      ["notificationStatus", "notificationError", "notifiedAt", "notificationFailedAt", "updatedAt"]) :
      row'.lookup field = row.lookup field :=
    hrecords.lookup_other hattribute (notified.attributes_ne hfield)
  refine ⟨(hkept (by decide) (by decide)).trans h.inviteId, ?_, ?_, ?_,
    ⟨notified.status, hrecords.lookup_status⟩, fun kv hkv => ?_⟩
  · rw [hkept (by decide) (by decide)]
    exact h.email
  · rw [hkept (by decide) (by decide)]
    exact h.role
  · rw [hkept (by decide) (by decide)]
    exact h.status
  · rcases hrecords.2 kv hkv with hold | hnew
    · exact h.encodes kv hold
    · cases notified <;>
      · simp only [Notified.attributes, List.mem_cons, List.not_mem_nil, or_false] at hnew
        rcases hnew with rfl | rfl | rfl | rfl <;> rfl

namespace InvitesWellFormed

variable (h : InvitesWellFormed py invitation tables)

include h

theorem set_lookup (hrow : IsInvite py inviteId row) :
    InvitesWellFormed py invitation (tables.set (invitation.lookupRow py) row) := by
  refine ⟨fun stored hstored => ?_, fun id stored hstored => ?_⟩
  · rw [Dict.get?_set_self] at hstored
    cases hstored
    exact ⟨inviteId, hrow⟩
  · rw [Dict.get?_set_ne _ _ (invitation.inviteRow_ne_lookupRow py id)] at hstored
    exact h.invites id stored hstored

theorem set_invite (hrow : IsInvite py inviteId row) :
    InvitesWellFormed py invitation (tables.set (invitation.inviteRow py inviteId) row) := by
  refine ⟨fun stored hstored => ?_, fun id stored hstored => ?_⟩
  · rw [Dict.get?_set_ne _ _ (invitation.inviteRow_ne_lookupRow py inviteId).symm] at hstored
    exact h.lookup stored hstored
  · rw [Dict.get?_set] at hstored
    split at hstored
    · rename_i hkey
      cases hstored
      rw [Invitation.inviteRow_inj hkey]
      exact hrow
    · exact h.invites id stored hstored

theorem erase_lookup : InvitesWellFormed py invitation (tables.erase (invitation.lookupRow py)) := by
  refine ⟨fun stored hstored => ?_, fun id stored hstored => ?_⟩
  · rw [Dict.get?_erase, if_pos rfl] at hstored
    cases hstored
  · rw [Dict.get?_erase, if_neg (invitation.inviteRow_ne_lookupRow py id)] at hstored
    exact h.invites id stored hstored

end InvitesWellFormed

end

/-! ## What the operations make of the rows -/

section

variable {τ : Type} {world : World τ} {py : Python} {invitation : Invitation} {tables : Tables}
  {inviteId : String} {invite : Items}

/-- The lookup row, where there is one, is that of the invite of this id. -/
def Invitation.PointsTo (py : Python) (invitation : Invitation) (tables : Tables) (inviteId : String) :
    Prop :=
  ∀ lookup, tables.get? (invitation.lookupRow py) = some lookup →
    lookup.lookup "inviteId" = some (.str inviteId)

theorem inviteSk_ne (inviteId : String) : "INVITE#" ++ inviteId ≠ "" := by
  intro h
  have hlist := congrArg String.toList h
  simp at hlist

theorem lookupSk_ne (email : String) : "INVITEEMAIL#" ++ email ≠ "" := by
  intro h
  have hlist := congrArg String.toList h
  simp at hlist

/-- Two rows that were marked alike agree. -/
theorem agrees_of_records {notified : Notified} {tables' : Tables} {lookup lookup' row row' : Items}
    (hpoints : lookup.lookup "inviteId" = some (.str inviteId))
    (hrow : Records notified row row') (hlookup : Records notified lookup lookup')
    (htables : tables' = (tables.set (invitation.inviteRow py inviteId) row').set
      (invitation.lookupRow py) lookup') : invitation.Agrees py tables' := by
  intro stored invite id hstored hid hinvite
  rw [htables, Dict.get?_set_self] at hstored
  cases hstored
  have hpoints' : lookup'.lookup "inviteId" = some (.str inviteId) :=
    (hlookup.lookup_other (by decide) (notified.attributes_ne (by decide))).trans hpoints
  rw [hpoints'] at hid
  cases hid
  rw [htables, Dict.get?_set_ne _ _ (invitation.inviteRow_ne_lookupRow py inviteId),
    Dict.get?_set_self] at hinvite
  cases hinvite
  rw [hlookup.lookup_status, hrow.lookup_status]

/-- What is shown of an invite is what is known of it, besides the notification. -/
def Shows (invite shown : Items) : Prop :=
  ∀ field ∈ ["inviteId", "status", "expiresAt"], shown.get field = invite.get field

theorem get_filter_ne {name field : String} (hne : field ≠ name) (row : Items) :
    Items.get (row.filter (·.1 ≠ name)) field = row.get field := by
  unfold Items.get
  congr 1
  induction row with
  | nil => rfl
  | cons kv row ih =>
    rw [List.filter_cons]
    by_cases hname : kv.1 = name
    · have hdiffers : (field == kv.1) = false := by simpa [hname] using hne
      rw [if_neg (by simpa using hname), List.lookup_cons, hdiffers]
      exact ih
    · rw [if_pos (by simpa using hname), List.lookup_cons, List.lookup_cons, ih]

theorem upholds_response {Inv : Tables → Prop} {statusCode : Nat} {body : Items} (hinv : Inv tables) :
    Upholds world tables (response py statusCode body) Inv fun r tables' _ =>
      tables' = tables ∧ r = ⟨statusCode, .dict body⟩ := by
  unfold response
  split
  · exact upholds_pure hinv ⟨rfl, rfl⟩
  · exact upholds_raise hinv

theorem inviteEvent_eq (hinvite : IsInvite py inviteId invite) : invitation.inviteEvent invite =
    .ok [("tenantId", .str invitation.tenantId), ("inviteId", .str (invite.get "inviteId").toStr),
      ("email", .str (invite.get "email").toStr), ("role", .str (invite.get "role").toStr)] := by
  obtain ⟨email, hemail⟩ := hinvite.email
  obtain ⟨role, hrole⟩ := hinvite.role
  rw [get_of_lookup hinvite.inviteId, get_of_lookup hemail, get_of_lookup hrole]
  simp only [Invitation.inviteEvent, getItemOf, hinvite.inviteId, hemail, hrole]
  rfl

theorem putEvent_notice (invite : Items) : putEvent py "tenant.user_invited"
    [("tenantId", .str invitation.tenantId), ("inviteId", .str (invite.get "inviteId").toStr),
      ("email", .str (invite.get "email").toStr), ("role", .str (invite.get "role").toStr)] =
    Api.service "events" "put_events" (invitation.noticeEntries py invite) := by
  unfold putEvent
  rw [if_pos (by simp [Val.allObjs, Val.allObjsItems])]
  rfl

section

variable (hdynamo : InviteExpressions world.dynamo) (hwf : InvitesWellFormed py invitation tables)

include hdynamo hwf

/-- What is recorded is recorded on both rows. -/
theorem upholds_recordNotification (hinvite : IsInvite py inviteId invite)
    (hpoints : invitation.PointsTo py tables inviteId) (notified : Notified) :
    Upholds world tables (invitation.recordNotification py (.tenantScoped invitation.tenantId) invite
      notified.expression notified.values) (InvitesWellFormed py invitation)
      fun _ tables' _ => invitation.Agrees py tables' := by
  have hid : getItemOf (.dict invite) "inviteId" = .ok (.str inviteId) := by
    simp only [getItemOf, hinvite.inviteId]
  unfold Invitation.recordNotification
  rw [hid]
  refine Upholds.check hwf fun id hok => ?_
  cases hok
  refine Upholds.bind (upholds_recordRow hdynamo _ invitation.tenantId (inviteSk_ne inviteId) hwf notified
    fun row row' hrow hrecords => hwf.set_invite ((hwf.invites inviteId row hrow).record hrecords)) ?_
  rintro _ tables' _ hwf' ⟨row, row', hrow, hrowRecords, rfl⟩
  refine Upholds.bind (upholds_recordRow hdynamo _ invitation.tenantId
    (lookupSk_ne invitation.normalizedEmail) hwf' notified fun lookup lookup' hlookup hrecords => ?_) ?_
  · obtain ⟨id, hisInvite⟩ := hwf'.lookup lookup hlookup
    exact hwf'.set_lookup (hisInvite.record hrecords)
  · rintro _ tables'' _ hwf'' ⟨lookup, lookup', hlookup, hlookupRecords, htables⟩
    have hold : tables.get? (invitation.lookupRow py) = some lookup := by
      rw [← hlookup]
      exact (Dict.get?_set_ne _ _ (invitation.inviteRow_ne_lookupRow py inviteId).symm).symm
    exact upholds_pure hwf'' (agrees_of_records (hpoints lookup hold) hrowRecords hlookupRecords htables)

/-- The answer where the notification failed. -/
theorem upholds_notificationFailure (hinvite : IsInvite py inviteId invite)
    (hpoints : invitation.PointsTo py tables inviteId) (errorCode : String) :
    Upholds world tables (invitation.notificationFailureResponse py
      (.tenantScoped invitation.tenantId) invite errorCode) (InvitesWellFormed py invitation)
      fun response tables' _ => invitation.Agrees py tables' ∧ response.statusCode ≠ 202 := by
  unfold Invitation.notificationFailureResponse
  refine Upholds.bind (upholds_now hwf) ?_
  rintro now _ _ - ⟨rfl, -⟩
  refine Upholds.bind (upholds_recordNotification hdynamo hwf hinvite hpoints
    (.failed errorCode (py.isoUtc now))) fun _ tables' _ hwf' hagrees => ?_
  exact upholds_pure hwf' ⟨hagrees, by decide⟩

/-- The answer where the notification was sent. -/
theorem upholds_notificationSent (hinvite : IsInvite py inviteId invite)
    (hpoints : invitation.PointsTo py tables inviteId) :
    Upholds world tables (invitation.notificationSentResponse py
      (.tenantScoped invitation.tenantId) invite) (InvitesWellFormed py invitation)
      fun response tables' _ => invitation.Agrees py tables' ∧ ∃ shown,
        response = ⟨202, .dict [("invite", .dict shown)]⟩ ∧ Shows invite shown := by
  unfold Invitation.notificationSentResponse
  refine Upholds.bind (upholds_now hwf) ?_
  rintro now _ _ - ⟨rfl, -⟩
  refine Upholds.bind (upholds_recordNotification hdynamo hwf hinvite hpoints
    (.sent (py.isoUtc now))) fun _ tables' _ hwf' hagrees => ?_
  refine (upholds_response hwf').mono ?_
  rintro response _ _ ⟨rfl, rfl⟩
  refine ⟨hagrees, _, rfl, fun field hfield => ?_⟩
  have hne : field ≠ "notificationStatus" ∧ field ≠ "notificationError" ∧
      field ≠ "notificationFailedAt" ∧ field ≠ "notifiedAt" ∧ field ≠ "updatedAt" := by
    simp only [List.mem_cons, List.not_mem_nil, or_false] at hfield
    rcases hfield with rfl | rfl | rfl <;> decide
  rw [Items.get_set_ne _ _ _ hne.2.2.2.2, Items.get_set_ne _ _ _ hne.2.2.2.1,
    get_filter_ne hne.2.2.1, Items.get_set_ne _ _ _ hne.2.1, Items.get_set_ne _ _ _ hne.1]

/-- **A notification** is sent before the answer, and both rows say how it went. -/
theorem upholds_deliver (hinvite : IsInvite py inviteId invite)
    (hpoints : invitation.PointsTo py tables inviteId) :
    Upholds world tables (invitation.deliverInviteNotification py
      (.tenantScoped invitation.tenantId) invite) (InvitesWellFormed py invitation)
      fun response tables' calls => invitation.Agrees py tables' ∧
        invitation.notice py invite ∈ calls ∧ (response.statusCode ≠ 202 ∨ ∃ shown,
          response = ⟨202, .dict [("invite", .dict shown)]⟩ ∧ Shows invite shown) := by
  have hfailure (tables' : Tables) (calls : List Effect) (errorCode : String)
      (hwf' : InvitesWellFormed py invitation tables') (htables : tables' = tables)
      (hnotice : invitation.notice py invite ∈ calls) :
      Upholds world tables' (invitation.notificationFailureResponse py
        (.tenantScoped invitation.tenantId) invite errorCode) (InvitesWellFormed py invitation)
        fun response tables'' calls' => invitation.Agrees py tables'' ∧
          invitation.notice py invite ∈ calls ++ calls' ∧ (response.statusCode ≠ 202 ∨ ∃ shown,
            response = ⟨202, .dict [("invite", .dict shown)]⟩ ∧ Shows invite shown) := by
    refine (upholds_notificationFailure hdynamo hwf' hinvite (htables ▸ hpoints) errorCode).mono ?_
    intro response tables'' _ hresponse
    exact ⟨hresponse.1, List.mem_append_left _ hnotice, .inl hresponse.2⟩
  unfold Invitation.deliverInviteNotification
  rw [inviteEvent_eq hinvite]
  refine Upholds.check hwf fun detail hok => ?_
  cases hok
  rw [putEvent_notice]
  refine Upholds.bind (upholds_service_attempt hwf) ?_
  rintro result tables' calls hwf' ⟨htables, hnotice⟩
  cases result with
  | error exc =>
    cases exc with
    | clientError code => exact hfailure tables' calls code hwf' htables hnotice
    | botoCoreError name => exact hfailure tables' calls name hwf' htables hnotice
    | _ => exact upholds_raise hwf'
  | ok sent =>
    refine Upholds.check hwf' fun failed _ => ?_
    refine Upholds.check hwf' fun failedEntryCount _ => ?_
    split
    · refine Upholds.check hwf' fun entries _ => ?_
      refine Upholds.check hwf' fun firstFailed _ => ?_
      refine Upholds.check hwf' fun errorCode _ => ?_
      exact hfailure tables' calls _ hwf' htables hnotice
    · refine (upholds_notificationSent hdynamo hwf' hinvite (htables ▸ hpoints)).mono ?_
      intro response tables'' _ hresponse
      exact ⟨hresponse.1, List.mem_append_left _ hnotice, .inr hresponse.2⟩

end

/-! ## Reading the lookup row -/

/-- A response is about a pending invite: it does not accept the request, or it shows the invite, and
    the invited user was told unless that is recorded. -/
def Invitation.Answers (py : Python) (invitation : Invitation) (invite : Items) (response : Response)
    (calls : List Effect) : Prop :=
  response.statusCode ≠ 202 ∨
    (∃ shown, response = ⟨202, .dict [("invite", .dict shown)]⟩ ∧ Shows invite shown) ∧
    (invitation.notice py invite ∈ calls ∨
      invite.lookup "notificationStatus" = some (.str "sent"))

theorem Invitation.Answers.append {response : Response} {calls : List Effect}
    (h : invitation.Answers py invite response calls) (before : List Effect) :
    invitation.Answers py invite response (before ++ calls) :=
  h.imp_right fun ⟨hshown, hnotice⟩ => ⟨hshown, hnotice.imp_left (List.mem_append_right before)⟩

theorem Shows.of_row {key : RowKey} {shown : Items} (h : Shows (key.row invite) shown) :
    Shows invite shown := by
  intro field hfield
  have hattribute : IsAttribute field := by
    simp only [List.mem_cons, List.not_mem_nil, or_false] at hfield
    rcases hfield with rfl | rfl | rfl <;> decide
  rw [h field hfield, get_row hattribute]

theorem shows_row (key : RowKey) (invite : Items) : Shows invite (key.row invite) :=
  Shows.of_row fun _ _ => rfl

theorem notice_row (key : RowKey) (invite : Items) :
    invitation.notice py (key.row invite) = invitation.notice py invite := by
  unfold Invitation.notice Invitation.noticeEntries
  rw [get_row (by decide), get_row (by decide), get_row (by decide)]

/-- The invite row that is written again from the lookup row. -/
def Invitation.restored (invitation : Invitation) (inviteId : String) (lookup : Items) : Items :=
  let text (field default : String) : String × Val :=
    (field, .str (lookup.get field (.str default)).toStr)
  let kept (field : String) : String × Val := (field, lookup.get field)
  [("inviteId", .str inviteId),
    ("tenantId", .str invitation.tenantId),
    text "email" invitation.normalizedEmail,
    text "normalizedEmail" invitation.normalizedEmail,
    text "role" "Agent.Invoke",
    text "status" "pending",
    kept "expiresAt", kept "ttl", kept "createdAt", kept "updatedAt", kept "actorSub",
    kept "actorAppId",
    text "notificationStatus" "pending",
    kept "notificationError", kept "notificationFailedAt", kept "notifiedAt"]

theorem inviteFromLookup_eq {lookup : Items} (h : IsInvite py inviteId lookup) :
    invitation.inviteFromLookup lookup =
      .ok (inviteKey invitation.tenantId inviteId ++ invitation.restored inviteId lookup) := by
  simp only [Invitation.inviteFromLookup, getItemOf, h.inviteId]
  rfl

theorem isInvite_restored {lookup : Items} (h : IsInvite py inviteId lookup) :
    IsInvite py inviteId (invitation.restored inviteId lookup) := by
  refine ⟨rfl, ⟨_, rfl⟩, ⟨_, rfl⟩, ⟨_, rfl⟩, ⟨_, rfl⟩, fun kv hkv => ?_⟩
  simp only [Invitation.restored, List.mem_cons, List.not_mem_nil, or_false] at hkv
  rcases hkv with rfl | rfl | rfl | rfl | rfl | rfl | rfl | rfl | rfl | rfl | rfl | rfl | rfl | rfl |
    rfl | rfl
  all_goals first
    | rfl
    | exact Val.allObjs_get h.encodes _

theorem get_restored {lookup : Items} (h : IsInvite py inviteId lookup) {field : String}
    (hfield : field ∈ ["inviteId", "status", "expiresAt", "email", "role"]) :
    (invitation.restored inviteId lookup).get field = lookup.get field := by
  obtain ⟨email, hemail⟩ := h.email
  obtain ⟨role, hrole⟩ := h.role
  obtain ⟨status, hstatus⟩ := h.status
  simp only [List.mem_cons, List.not_mem_nil, or_false] at hfield
  rcases hfield with rfl | rfl | rfl | rfl | rfl
  · rw [get_of_lookup h.inviteId]
    rfl
  · show Val.str (lookup.get "status" (.str "pending")).toStr = _
    rw [get_of_lookup hstatus, get_of_lookup hstatus, Val.toStr_str]
  · rfl
  · show Val.str (lookup.get "email" (.str invitation.normalizedEmail)).toStr = _
    rw [get_of_lookup hemail, get_of_lookup hemail, Val.toStr_str]
  · show Val.str (lookup.get "role" (.str "Agent.Invoke")).toStr = _
    rw [get_of_lookup hrole, get_of_lookup hrole, Val.toStr_str]

theorem notice_restored {lookup : Items} (h : IsInvite py inviteId lookup) :
    invitation.notice py (invitation.restored inviteId lookup) = invitation.notice py lookup := by
  unfold Invitation.notice Invitation.noticeEntries
  rw [get_restored h (by decide), get_restored h (by decide), get_restored h (by decide)]

section

variable (hdynamo : InviteExpressions world.dynamo) (hplain : PlainFaults world)
  (hwf : InvitesWellFormed py invitation tables)

include hdynamo hplain hwf

/-- A missing invite row is written again, and its notification is sent again. -/
theorem upholds_restoreInvite {lookup : Items}
    (hlookup : tables.get? (invitation.lookupRow py) = some lookup)
    (hinvite : IsInvite py inviteId lookup)
    (hmissing : tables.get? (invitation.inviteRow py inviteId) = none) :
    Upholds world tables (invitation.restoreInvite py (.tenantScoped invitation.tenantId)
      ((invitation.lookupRow py).row lookup)) (InvitesWellFormed py invitation)
      fun response tables' calls => invitation.Agrees py tables' ∧
        invitation.Answers py lookup response calls := by
  have hkeyed := hinvite.keyed (invitation.lookupRow py)
  have hrestored : IsInvite py inviteId
      (invitation.restored inviteId ((invitation.lookupRow py).row lookup)) := isInvite_restored hkeyed
  have hattributes : attributesOf (invitation.restored inviteId ((invitation.lookupRow py).row lookup)) =
      invitation.restored inviteId ((invitation.lookupRow py).row lookup) := rfl
  unfold Invitation.restoreInvite
  rw [inviteFromLookup_eq hkeyed]
  refine Upholds.check hwf fun item hok => ?_
  cases hok
  refine Upholds.bind (upholds_putNew_attempt hdynamo _ invitation.tenantId (inviteSk_ne inviteId) hwf
    hplain (invitation.restored inviteId ((invitation.lookupRow py).row lookup)) hmissing ?_) ?_
  · rw [hattributes]
    exact hwf.set_invite hrestored
  · rintro result tables' calls hwf' (⟨rfl, rfl⟩ | ⟨exc, rfl, hexc, rfl⟩)
    · have hpoints : invitation.PointsTo py (tables.set (invitation.inviteRow py inviteId)
          (attributesOf (invitation.restored inviteId ((invitation.lookupRow py).row lookup))))
          inviteId := by
        intro stored hstored
        rw [Dict.get?_set_ne _ _ (invitation.inviteRow_ne_lookupRow py inviteId).symm, hlookup] at hstored
        cases hstored
        exact hinvite.inviteId
      refine (upholds_deliver hdynamo hwf' (hrestored.keyed (invitation.inviteRow py inviteId))
        hpoints).mono ?_
      intro response tables'' calls' hresponse
      obtain ⟨hagrees, hnotice, hresponse⟩ := hresponse
      refine ⟨hagrees, ?_⟩
      rcases hresponse with hrefused | ⟨shown, hshown, hshows⟩
      · exact .inl hrefused
      · refine .inr ⟨⟨shown, hshown, ?_⟩, .inl (List.mem_append_right _ ?_)⟩
        · have hshown : Shows ((invitation.lookupRow py).row lookup) shown := by
            intro field hfield
            rw [hshows.of_row field hfield, get_restored hkeyed]
            simp only [List.mem_cons, List.not_mem_nil, or_false] at hfield ⊢
            rcases hfield with rfl | rfl | rfl <;> decide
          exact hshown.of_row
        · rw [notice_row, notice_restored hkeyed, notice_row] at hnotice
          exact hnotice
    · simp only [hexc]
      exact upholds_raise hwf'

omit hdynamo hplain in
/-- The lookup row is taken away. -/
theorem upholds_deleteLookup : Upholds world tables
    (invitation.deleteLookup py (.tenantScoped invitation.tenantId))
    (InvitesWellFormed py invitation) fun _ tables' _ =>
      tables'.get? (invitation.lookupRow py) = none ∧
      ∀ id, tables'.get? (invitation.inviteRow py id) = tables.get? (invitation.inviteRow py id) := by
  refine (upholds_deleteRow _ invitation.tenantId (lookupSk_ne invitation.normalizedEmail) hwf
    hwf.erase_lookup).mono ?_
  rintro _ _ _ rfl
  refine ⟨(Dict.get?_erase _ _ _).trans (if_pos rfl), fun id => ?_⟩
  exact (Dict.get?_erase _ _ _).trans (if_neg (invitation.inviteRow_ne_lookupRow py id))

/-- What the lookup row comes to: an answer about the pending invite, which is as it should be where
    the invite is one to reuse; or there is none, and the lookup row is gone. -/
def Invitation.Handled (py : Python) (invitation : Invitation) (t : Instant) (tables : Tables) :
    Option Response → Tables → List Effect → Prop
  | none, tables', _ => invitation.pendingInvite py tables = none ∧
      tables'.get? (invitation.lookupRow py) = none ∧
      ∀ id, tables'.get? (invitation.inviteRow py id) = tables.get? (invitation.inviteRow py id)
  | some response, tables', calls => invitation.ReusedSoundly py t tables →
      invitation.Agrees py tables' ∧ ∃ invite, invitation.pendingInvite py tables = some invite ∧
        invitation.Answers py invite response calls

omit hdynamo hplain in
/-- The invite row a lookup row points to. -/
theorem upholds_readInvite {lookup : Items} (hinvite : IsInvite py inviteId lookup) :
    Upholds world tables (invitation.readInvite py (.tenantScoped invitation.tenantId)
      ((invitation.lookupRow py).row lookup)) (InvitesWellFormed py invitation) fun row tables' _ =>
        tables' = tables ∧ row = (tables.get? (invitation.inviteRow py inviteId)).map
          (invitation.inviteRow py inviteId).row := by
  unfold Invitation.readInvite
  rw [get_row (by decide), get_of_lookup hinvite.inviteId]
  exact upholds_readRow _ invitation.tenantId (inviteSk_ne inviteId) hwf

omit hplain in
/-- A pending invite row: what is answered is as it should be, where the notification failed or both
    rows say that it was sent. -/
theorem upholds_reuse {row : Items} (hinvite : IsInvite py inviteId row)
    (hpoints : invitation.PointsTo py tables inviteId)
    (hstored : tables.get? (invitation.inviteRow py inviteId) = some row) :
    Upholds world tables
      (if (((invitation.inviteRow py inviteId).row row).get "notificationStatus" (.str "")).toStr =
          "failed" then
        invitation.deliverInviteNotification py (.tenantScoped invitation.tenantId)
          ((invitation.inviteRow py inviteId).row row)
      else response py 202 [("invite", .dict ((invitation.inviteRow py inviteId).row row))])
      (InvitesWellFormed py invitation) fun response tables' calls =>
        (row.lookup "notificationStatus" = some (.str "failed") ∨
          row.lookup "notificationStatus" = some (.str "sent") ∧ ∀ lookup,
            tables.get? (invitation.lookupRow py) = some lookup →
            lookup.lookup "notificationStatus" = some (.str "sent")) →
        invitation.Agrees py tables' ∧ invitation.Answers py row response calls := by
  have hkeyed := hinvite.keyed (invitation.inviteRow py inviteId)
  obtain ⟨text, htext⟩ := hinvite.notificationStatus
  rw [get_row (by decide), get_of_lookup htext, Val.toStr_str]
  by_cases hfailed : text = "failed"
  · rw [if_pos hfailed]
    refine (upholds_deliver hdynamo hwf hkeyed hpoints).mono ?_
    intro response tables' calls hresponse _
    obtain ⟨hagrees, hnotice, hresponse⟩ := hresponse
    refine ⟨hagrees, ?_⟩
    rcases hresponse with hrefused | ⟨shown, hshown, hshows⟩
    · exact .inl hrefused
    · exact .inr ⟨⟨shown, hshown, hshows.of_row⟩, .inl ((notice_row _ row) ▸ hnotice)⟩
  · rw [if_neg hfailed]
    refine (upholds_response hwf).mono ?_
    rintro response tables calls ⟨rfl, rfl⟩ hsound
    have hsent : row.lookup "notificationStatus" = some (.str "sent") ∧ ∀ lookup,
        tables.get? (invitation.lookupRow py) = some lookup →
        lookup.lookup "notificationStatus" = some (.str "sent") := by
      refine hsound.resolve_left fun h => hfailed ?_
      rw [htext] at h
      cases h
      rfl
    refine ⟨?_, .inr ⟨⟨_, rfl, shows_row _ row⟩, .inr hsent.1⟩⟩
    intro lookup invite id hlookup hid hstoredInvite
    have hsame := hpoints lookup hlookup
    rw [hid] at hsame
    cases hsame
    rw [hstored] at hstoredInvite
    cases hstoredInvite
    rw [hsent.2 lookup hlookup, hsent.1]

/-- **The lookup row.** -/
theorem upholds_handleExistingLookup (t : Instant) :
    Upholds world tables (invitation.handleExistingLookup py (.tenantScoped invitation.tenantId)
      ((tables.get? (invitation.lookupRow py)).map (invitation.lookupRow py).row))
      (InvitesWellFormed py invitation) (invitation.Handled py t tables) := by
  cases hlookup : tables.get? (invitation.lookupRow py) with
  | none =>
    refine upholds_pure hwf ⟨?_, hlookup, fun _ => rfl⟩
    simp only [Invitation.pendingInvite, hlookup]
  | some lookup =>
    obtain ⟨inviteId, hinvite⟩ := hwf.lookup lookup hlookup
    have hpoints : invitation.PointsTo py tables inviteId := by
      intro stored hstored
      rw [hlookup] at hstored
      cases hstored
      exact hinvite.inviteId
    simp only [Option.map_some, Invitation.handleExistingLookup]
    rw [get_row (by decide)]
    by_cases hpending : isPending lookup
    · have hstatus : (lookup.get "status" (.str "")).toStr = "pending" := hpending
      rw [if_neg (not_not.mpr hstatus)]
      refine Upholds.bind (upholds_readInvite hwf hinvite) ?_
      rintro found tables' calls hwf' ⟨rfl, rfl⟩
      cases hstored : tables'.get? (invitation.inviteRow py inviteId) with
      | none =>
        refine Upholds.map ((upholds_restoreInvite hdynamo hplain hwf' hlookup hinvite hstored).mono ?_)
        intro response tables'' calls' hresponse _
        refine ⟨hresponse.1, lookup, ?_, hresponse.2.append calls⟩
        simp only [Invitation.pendingInvite, hlookup, if_pos hpending, hinvite.inviteIdOf, hstored]
      | some row =>
        have hrow := hwf'.invites inviteId row hstored
        have hpendingInvite : invitation.pendingInvite py tables' =
            if isPending row then some row else none := by
          simp only [Invitation.pendingInvite, hlookup, if_pos hpending, hinvite.inviteIdOf, hstored]
        have hrowStatus : (((invitation.inviteRow py inviteId).row row).get "status" (.str "")).toStr =
            (row.get "status" (.str "")).toStr := congrArg Val.toStr (get_row (by decide) _ row _)
        simp only [Option.map_some]
        -- A row that is no longer pending makes room for a new invite, as a lookup row does.
        by_cases hrowPending : isPending row
        · rw [if_pos hrowPending] at hpendingInvite
          rw [if_neg (not_not.mpr (hrowStatus.trans hrowPending)), ← apply_ite]
          refine Upholds.map ((upholds_reuse hdynamo hwf' hrow hpoints hstored).mono ?_)
          intro response tables'' calls' hresponse hsound
          have hnotified := (hsound lookup row hlookup hpendingInvite).2 row
            (hinvite.inviteIdOf.symm ▸ hstored)
          obtain ⟨hagrees, hanswers⟩ := hresponse (hnotified.imp_right fun h =>
            ⟨h.1, fun stored hstored' => Option.some.inj (hlookup.symm.trans hstored') ▸ h.2⟩)
          exact ⟨hagrees, row, hpendingInvite, hanswers.append calls⟩
        · rw [if_neg hrowPending] at hpendingInvite
          rw [if_pos fun h => hrowPending (hrowStatus.symm.trans h)]
          refine Upholds.bind (upholds_deleteLookup hwf') fun _ tables'' _ hwf'' hdeleted => ?_
          exact upholds_pure hwf'' ⟨hpendingInvite, hdeleted⟩
    · have hstatus : (lookup.get "status" (.str "")).toStr ≠ "pending" := hpending
      rw [if_pos hstatus]
      refine Upholds.bind (upholds_deleteLookup hwf) fun _ tables' _ hwf' hdeleted => ?_
      refine upholds_pure hwf' ⟨?_, hdeleted⟩
      simp only [Invitation.pendingInvite, hlookup, if_neg hpending]

end

/-! ## A new invite -/

/-- What is stored of a new invite. -/
def Invitation.created (py : Python) (invitation : Invitation) (caller : CallerIdentity)
    (role : String) (now : Instant) (nonce : String) : Items :=
  let expiresAt := now + days 7
  [("inviteId", .str (newInviteId py now nonce)),
    ("tenantId", .str invitation.tenantId),
    ("email", .str invitation.normalizedEmail),
    ("normalizedEmail", .str invitation.normalizedEmail),
    ("role", .str role),
    ("status", .str "pending"),
    ("expiresAt", .str (py.isoUtc expiresAt)),
    ("ttl", .int (epochSeconds expiresAt)),
    ("createdAt", .str (py.isoUtc now)),
    ("updatedAt", .str (py.isoUtc now)),
    ("actorSub", optionVal caller.sub),
    ("actorAppId", optionVal caller.appId),
    ("notificationStatus", .str "pending"),
    ("notificationError", .none)]

section

variable {caller : CallerIdentity} {role nonce : String} {now : Instant}

theorem newInvite_eq : invitation.newInvite py caller role now nonce =
    inviteKey invitation.tenantId (newInviteId py now nonce) ++
      invitation.created py caller role now nonce := rfl

theorem lookupItem_eq : (invitation.newInvite py caller role now nonce).merge invitation.lookupKey =
    invitation.lookupKey ++ invitation.created py caller role now nonce := by
  simp [newInvite_eq, Invitation.lookupKey, inviteEmailLookupKey, inviteKey, Items.merge, Items.set,
    Py.setItem]

theorem isInvite_created : IsInvite py (newInviteId py now nonce)
    (invitation.created py caller role now nonce) := by
  have hoption (text : Option String) : (optionVal text).allObjs py.encodes = true := by
    cases text <;> rfl
  refine ⟨rfl, ⟨_, rfl⟩, ⟨_, rfl⟩, ⟨_, rfl⟩, ⟨_, rfl⟩, fun kv hkv => ?_⟩
  simp only [Invitation.created, List.mem_cons, List.not_mem_nil, or_false] at hkv
  rcases hkv with rfl | rfl | rfl | rfl | rfl | rfl | rfl | rfl | rfl | rfl | rfl | rfl | rfl | rfl
  all_goals first
    | rfl
    | exact hoption _

section

variable (hdynamo : InviteExpressions world.dynamo) (hplain : PlainFaults world)
  (hwf : InvitesWellFormed py invitation tables)

include hdynamo hplain hwf

/-- The lookup row of a new invite is stored: its invite row is stored, and the user is told. -/
theorem upholds_storeInvite (hpoints : invitation.PointsTo py tables (newInviteId py now nonce))
    (hnew : tables.get? (invitation.inviteRow py (newInviteId py now nonce)) = none) :
    Upholds world tables (invitation.storeInvite py (.tenantScoped invitation.tenantId)
      (invitation.newInvite py caller role now nonce)) (InvitesWellFormed py invitation)
      fun response tables' _ => invitation.Agrees py tables' ∧ (response.statusCode ≠ 202 ∨
        ∃ shown : Items, response = ⟨202, .dict [("invite", .dict shown)]⟩ ∧
          shown.get "inviteId" = .str (newInviteId py now nonce)) := by
  have hcreated : IsInvite py (newInviteId py now nonce)
      (invitation.created py caller role now nonce) := isInvite_created
  have hattributes : attributesOf (invitation.created py caller role now nonce) =
      invitation.created py caller role now nonce := rfl
  unfold Invitation.storeInvite
  rw [newInvite_eq]
  refine Upholds.bind (upholds_putNew_attempt hdynamo _ invitation.tenantId
    (inviteSk_ne (newInviteId py now nonce)) hwf hplain
    (invitation.created py caller role now nonce) hnew ?_) ?_
  · rw [hattributes]
    exact hwf.set_invite hcreated
  · rintro result tables' calls hwf' (⟨rfl, rfl⟩ | ⟨exc, rfl, hexc, rfl⟩)
    · have hpoints' : invitation.PointsTo py (tables.set
          (invitation.inviteRow py (newInviteId py now nonce))
          (attributesOf (invitation.created py caller role now nonce))) (newInviteId py now nonce) := by
        intro stored hstored
        rw [Dict.get?_set_ne _ _ (invitation.inviteRow_ne_lookupRow py _).symm] at hstored
        exact hpoints stored hstored
      refine (upholds_deliver hdynamo hwf' (hcreated.keyed
        (invitation.inviteRow py (newInviteId py now nonce))) hpoints').mono ?_
      intro response tables'' calls' hresponse
      refine ⟨hresponse.1, hresponse.2.2.imp_right ?_⟩
      rintro ⟨shown, hshown, hshows⟩
      exact ⟨shown, hshown, (hshows.of_row "inviteId" List.mem_cons_self).trans
        (get_of_lookup hcreated.inviteId _)⟩
    · simp only [hexc]
      refine Upholds.bind (Q := fun existing _ _ => existing = none) (upholds_pure hwf' rfl) ?_
      rintro _ stored _ hstored rfl
      refine Upholds.bind (upholds_deleteLookup hstored) fun _ _ _ herased _ => ?_
      exact upholds_raise herased

/-- **A new invite**, where there is no lookup row and the id is new. -/
theorem upholds_createInvite (hlookup : tables.get? (invitation.lookupRow py) = none)
    (hnew : ∀ w w', tables.get? (invitation.inviteRow py
      (newInviteId py (world.now w) (world.random w' "secrets.token_hex(4)"))) = none) :
    Upholds world tables (invitation.createInvite py (.tenantScoped invitation.tenantId) caller role)
      (InvitesWellFormed py invitation)
      fun response tables' _ => invitation.Agrees py tables' ∧ (response.statusCode ≠ 202 ∨
        ∃ (shown : Items) (w w' : τ), response = ⟨202, .dict [("invite", .dict shown)]⟩ ∧
          shown.get "inviteId" =
            .str (newInviteId py (world.now w) (world.random w' "secrets.token_hex(4)"))) := by
  unfold Invitation.createInvite
  refine Upholds.bind (upholds_now hwf) ?_
  rintro now _ _ - ⟨rfl, w, rfl⟩
  refine Upholds.bind (upholds_random hwf) ?_
  rintro nonce tables _ - ⟨rfl, w', rfl⟩
  have hcreated : IsInvite py
      (newInviteId py (world.now w) (world.random w' "secrets.token_hex(4)"))
      (invitation.created py caller role (world.now w) (world.random w' "secrets.token_hex(4)")) :=
    isInvite_created
  have hattributes : attributesOf (invitation.created py caller role (world.now w)
      (world.random w' "secrets.token_hex(4)")) = invitation.created py caller role (world.now w)
      (world.random w' "secrets.token_hex(4)") := rfl
  simp only [lookupItem_eq]
  refine Upholds.bind (upholds_putNew_attempt hdynamo _ invitation.tenantId
    (lookupSk_ne invitation.normalizedEmail) hwf hplain (invitation.created py caller role
      (world.now w) (world.random w' "secrets.token_hex(4)")) hlookup ?_) ?_
  · rw [hattributes]
    exact hwf.set_lookup hcreated
  · rintro result tables' calls hwf' (⟨rfl, rfl⟩ | ⟨exc, rfl, hexc, rfl⟩)
    · rw [hattributes] at hwf' ⊢
      refine (upholds_storeInvite hdynamo hplain hwf' ?_ ?_).mono ?_
      · intro stored hstored
        cases (Dict.get?_set_self tables (invitation.lookupRow py) _).symm.trans hstored
        exact hcreated.inviteId
      · refine (Dict.get?_set_ne _ _ ?_).trans (hnew w w')
        exact invitation.inviteRow_ne_lookupRow py _
      · intro response tables'' calls' hresponse
        refine ⟨hresponse.1, hresponse.2.imp_right ?_⟩
        rintro ⟨shown, hshown, hid⟩
        exact ⟨shown, w, w', hshown, hid⟩
    · simp only [hexc]
      exact upholds_raise hwf'

end

end

/-! ## An invite request -/

/-- The request is one to invite this email into the tenant, by a caller who may. -/
structure InviteRequest (py : Python) (event : Items) (caller : CallerIdentity)
    (invitation : Invitation) : Prop where
  allowed : canManageTenantSelfService caller invitation.tenantId = true
  email : invitation.normalizedEmail ≠ "" ∧ Py.hasSub invitation.normalizedEmail "@" = true
  body : ∃ body, requireJsonBody py event = .ok body ∧
    py.lower (Py.strip (body.get "email" (.str "")).toStr) = invitation.normalizedEmail ∧
    ((body.get "role").or (.str "Agent.Invoke")).toStr = "Agent.Invoke"

def Invitation.tenantRow (py : Python) (invitation : Invitation) : RowKey :=
  ⟨tenantsTableName py, tenantPk invitation.tenantId, "METADATA"⟩

theorem dbForTenant_eq {caller : CallerIdentity} {tenantId : String}
    (h : requireTenantScopeAllowed tenantId caller = .ok ()) :
    dbForTenant tenantId caller = pure (.tenantScoped tenantId) := by
  unfold dbForTenant
  rw [h]
  rfl

/-- What a request does once it has passed its checks. -/
def Invitation.admitted (py : Python) (invitation : Invitation) (caller : CallerIdentity) :
    Api Response := do
  match ← Api.dynamodb ((Client.tenantScoped invitation.tenantId).getItem (tenantsTableName py)
    (tenantKey invitation.tenantId)) with
  | none => pure (tenantNotFound invitation.tenantId)
  | some _ =>
      let lookup ← invitation.readLookup py (.tenantScoped invitation.tenantId)
      match ← invitation.handleExistingLookup py (.tenantScoped invitation.tenantId) lookup with
      | some existingResponse => pure existingResponse
      | none => invitation.createInvite py (.tenantScoped invitation.tenantId) caller "Agent.Invoke"

theorem handleInviteUser_eq {event : Items} {caller : CallerIdentity}
    (h : InviteRequest py event caller invitation) :
    handleInviteUser py event caller invitation.tenantId = invitation.admitted py caller := by
  obtain ⟨body, hbody, hemail, hrole⟩ := h.body
  have hscope := scopeAllowed_of_canManage h.allowed
  have hvalid : ¬ (invitation.normalizedEmail = "" ∨
      ¬ Py.hasSub invitation.normalizedEmail "@" = true) :=
    not_or.mpr ⟨h.email.1, not_not.mpr h.email.2⟩
  have hpass (f : Items → Api Response) : (Api.ofExcept (.ok body) >>= f) = f body := rfl
  unfold handleInviteUser readTenantRecord
  simp only [h.allowed, Bool.not_true, Bool.false_eq_true, if_false, hbody, hpass, hemail,
    if_neg hvalid, hrole, ne_eq, not_true_eq_false, dbForTenant_eq hscope, pure_bind]
  rfl

section

variable (hdynamo : InviteExpressions world.dynamo) (hplain : PlainFaults world)
  (hwf : InvitesWellFormed py invitation tables) (hfresh : invitation.FreshIds py tables world)

include hdynamo hplain hwf hfresh

/-- **An admitted request** answers about the pending invite, or about a new one. -/
theorem upholds_admitted {tenant : Items} (htenant : tables.get? (invitation.tenantRow py) = some tenant)
    (caller : CallerIdentity) (t : Instant) :
    Upholds world tables (invitation.admitted py caller) (InvitesWellFormed py invitation)
      fun response tables' calls => invitation.ReusedSoundly py t tables →
        invitation.Agrees py tables' ∧
        ((∃ invite, invitation.pendingInvite py tables = some invite ∧
          invitation.Answers py invite response calls) ∨
        (invitation.pendingInvite py tables = none ∧ (response.statusCode ≠ 202 ∨
          ∃ (shown : Items) (w w' : τ), response = ⟨202, .dict [("invite", .dict shown)]⟩ ∧
            shown.get "inviteId" =
              .str (newInviteId py (world.now w) (world.random w' "secrets.token_hex(4)"))))) := by
  unfold Invitation.admitted
  refine Upholds.bind (upholds_readRow _ invitation.tenantId (by decide) hwf) ?_
  rintro record tables calls - ⟨rfl, hrecord⟩
  have hfound : record = some ((invitation.tenantRow py).row tenant) := by
    rw [hrecord]
    exact congrArg (Option.map _) htenant
  subst hfound
  refine Upholds.bind (upholds_readRow _ invitation.tenantId (lookupSk_ne invitation.normalizedEmail) hwf) ?_
  rintro lookup tables calls' - ⟨rfl, rfl⟩
  refine Upholds.bind (upholds_handleExistingLookup hdynamo hplain hwf t) ?_
  intro result tables' calls'' hwf' hhandled
  cases result with
  | some existingResponse =>
    refine upholds_pure hwf' fun hsound => ?_
    obtain ⟨hagrees, invite, hpending, hanswers⟩ := hhandled hsound
    refine ⟨hagrees, .inl ⟨invite, hpending, ?_⟩⟩
    rw [List.append_nil]
    exact (hanswers.append calls').append calls
  | none =>
    obtain ⟨hpending, hlookup, hkept⟩ := hhandled
    refine (upholds_createInvite hdynamo hplain hwf' hlookup fun w w' => ?_).mono ?_
    · rw [hkept, ← Option.not_isSome_iff_eq_none, Option.isSome_iff_exists]
      exact fun h => hfresh w w' (.inr h)
    · intro response tables'' _ hresponse _
      exact ⟨hresponse.1, .inr ⟨hpending, hresponse.2⟩⟩

end

/-! ## Where the stored invite is one to reuse -/

/-- The pending invite is what its invite row holds, or its lookup row where there is no invite row. -/
theorem of_pendingInvite (hwf : InvitesWellFormed py invitation tables)
    (h : invitation.pendingInvite py tables = some invite) : ∃ lookup inviteId,
      tables.get? (invitation.lookupRow py) = some lookup ∧ IsInvite py inviteId lookup ∧
      isPending lookup ∧ IsInvite py inviteId invite ∧ isPending invite ∧
      (tables.get? (invitation.inviteRow py inviteId) = some invite ∨
        tables.get? (invitation.inviteRow py inviteId) = none ∧ invite = lookup) := by
  unfold Invitation.pendingInvite at h
  cases hlookup : tables.get? (invitation.lookupRow py) with
  | none =>
    rw [hlookup] at h
    cases h
  | some lookup =>
    obtain ⟨inviteId, hinvite⟩ := hwf.lookup lookup hlookup
    simp only [hlookup, hinvite.inviteIdOf] at h
    by_cases hpending : isPending lookup
    · rw [if_pos hpending] at h
      cases hrow : tables.get? (invitation.inviteRow py inviteId) with
      | none =>
        rw [hrow] at h
        cases h
        exact ⟨invite, inviteId, rfl, hinvite, hpending, hinvite, hpending, .inr ⟨hrow, rfl⟩⟩
      | some row =>
        simp only [hrow] at h
        by_cases hrowPending : isPending row
        · rw [if_pos hrowPending] at h
          cases h
          exact ⟨lookup, inviteId, rfl, hinvite, hpending, hwf.invites inviteId invite hrow,
            hrowPending, .inl hrow⟩
        · rw [if_neg hrowPending] at h
          cases h
    · rw [if_neg hpending] at h
      cases h

theorem Shows.expired {shown : Items} {t : Instant} (h : Shows invite shown) :
    Expired py t shown ↔ Expired py t invite := by
  unfold Expired
  rw [h "expiresAt" (by decide)]

/-- **What a request is to do**, it does where the stored invite is one to reuse. -/
theorem inviteLaws_of_reusedSoundly (hdynamo : InviteExpressions world.dynamo)
    (hplain : PlainFaults world) (hwf : InvitesWellFormed py invitation tables)
    (hfresh : invitation.FreshIds py tables world) {tenant : Items}
    (htenant : tables.get? (invitation.tenantRow py) = some tenant) (caller : CallerIdentity)
    {t : Instant} (hsound : invitation.ReusedSoundly py t tables) (w : τ) :
    InviteLaws py invitation t tables
      (Prog.run world.serve (tables, w) (invitation.admitted py caller)) := by
  have hadmitted := (upholds_admitted hdynamo hplain hwf hfresh htenant caller t w).2
  refine ⟨fun shown inviteId houtcome hid hstores => ?_, fun invite body hpending hsent houtcome => ?_,
    fun response houtcome => (hadmitted response houtcome hsound).1⟩
  · rcases (hadmitted _ houtcome hsound).2 with ⟨invite, hpending, hanswers⟩ | ⟨-, hnew⟩
    · obtain hrefused | ⟨⟨shown', hshown, hshows⟩, -⟩ := hanswers
      · exact absurd rfl hrefused
      · cases hshown
        obtain ⟨lookup, id, hlookup, -, -, hinvite, hinvitePending, -⟩ := of_pendingInvite hwf hpending
        refine ⟨?_, fun hexpired => ?_⟩
        · rw [hshows "status" (by decide)]
          exact get_of_lookup (hinvite.isPending_iff.mp hinvitePending) _
        · exact (hsound lookup invite hlookup hpending).1 (hshows.expired.mp hexpired)
    · obtain hrefused | ⟨shown', w', w'', hshown, hnewId⟩ := hnew
      · exact absurd rfl hrefused
      · cases hshown
        rw [hid] at hnewId
        cases hnewId
        exact absurd hstores (hfresh w' w'')
  · rcases (hadmitted _ houtcome hsound).2 with ⟨invite', hpending', hanswers⟩ | ⟨hnone, -⟩
    · rw [hpending] at hpending'
      cases hpending'
      obtain hrefused | ⟨-, hnotice | hrecorded⟩ := hanswers
      · exact absurd rfl hrefused
      · exact hnotice
      · exact absurd hrecorded hsent
    · rw [hpending] at hnone
      cases hnone

/-- Whatever a request comes to, it leaves the rows of invites as the handler writes them. -/
theorem invitesWellFormed_handleInviteUser (hdynamo : InviteExpressions world.dynamo)
    (hplain : PlainFaults world) {event : Items} {caller : CallerIdentity}
    (hrequest : InviteRequest py event caller invitation)
    (hwf : InvitesWellFormed py invitation tables) (hfresh : invitation.FreshIds py tables world)
    {tenant : Items} (htenant : tables.get? (invitation.tenantRow py) = some tenant) (w : τ) :
    InvitesWellFormed py invitation (Prog.run world.serve (tables, w)
      (handleInviteUser py event caller invitation.tenantId)).final.1 := by
  rw [handleInviteUser_eq hrequest]
  exact (upholds_admitted hdynamo hplain hwf hfresh htenant caller 0 w).1

end

end A5cCell.TenantApi
