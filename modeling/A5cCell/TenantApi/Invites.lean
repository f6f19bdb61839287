import A5cCell.TenantApi.Records

/-!
# Invites

`handle_invite_user`, of `tenant_lifecycle`, and `tenant_invites`. An invite is two rows of the
tenant's partition: the invite itself, and a lookup row under the invited email, which is written
first and makes the pending invite of an email unique. The invited user is notified by an event.
-/

namespace A5cCell.TenantApi

open Py (Val Items Dict)
open DataAccess

/-- `invite_key`. -/
def inviteKey (tenantId inviteId : String) : Items :=
  [("PK", .str (tenantPk tenantId)), ("SK", .str ("INVITE#" ++ inviteId))]

/-- `invite_email_lookup_key`. -/
def inviteEmailLookupKey (tenantId normalizedEmail : String) : Items :=
  [("PK", .str (tenantPk tenantId)), ("SK", .str ("INVITEEMAIL#" ++ normalizedEmail))]

/-- `values[0]`. -/
def firstOf (values : Val) : Except Exc Val :=
  match values with
  | .list (first :: _) => .ok first
  | .list [] => .error (.other "IndexError")
  | _ => .error (.typeError "object is not subscriptable")

/-- `_is_conditional_failure`, of a `ClientError`. -/
def isConditionalFailure (x : Exc) : Bool := x = .clientError "ConditionalCheckFailedException"

def notExists : Option String := some "attribute_not_exists(PK)"
def doesExist : Option String := some "attribute_exists(PK)"

/-- One invitation: its tenant, and the email it is for. -/
structure Invitation where
  tenantId : String
  normalizedEmail : String

namespace Invitation

variable (py : Python) (invitation : Invitation)

def lookupKey : Items := inviteEmailLookupKey invitation.tenantId invitation.normalizedEmail

/-- The key of an invite with this value as its id. -/
def keyOf (inviteId : Val) : Items := inviteKey invitation.tenantId inviteId.toStr

/-- `_invite_from_lookup`. -/
def inviteFromLookup (existingLookup : Items) : Except Exc Items := do
  let inviteId ← getItemOf (.dict existingLookup) "inviteId"
  let text (field default : String) : String × Val :=
    (field, .str (existingLookup.get field (.str default)).toStr)
  let kept (field : String) : String × Val := (field, existingLookup.get field)
  pure (invitation.keyOf inviteId ++ [
    ("inviteId", .str inviteId.toStr),
    ("tenantId", .str invitation.tenantId),
    text "email" invitation.normalizedEmail,
    text "normalizedEmail" invitation.normalizedEmail,
    text "role" "Agent.Invoke",
    text "status" "pending",
    kept "expiresAt", kept "ttl", kept "createdAt", kept "updatedAt", kept "actorSub",
    kept "actorAppId",
    text "notificationStatus" "pending",
    kept "notificationError", kept "notificationFailedAt", kept "notifiedAt"])

/-- Set the notification's outcome on the invite row and on the lookup row. -/
def recordNotification (db : Client) (invite : Items) (expression : String) (values : Items) :
    Api Unit := do
  let inviteId ← Api.ofExcept (getItemOf (.dict invite) "inviteId")
  let _ ← Api.dynamodb (db.updateItem (tenantsTableName py) (invitation.keyOf inviteId) expression
    values none doesExist)
  let _ ← Api.dynamodb (db.updateItem (tenantsTableName py) invitation.lookupKey expression
    values none doesExist)

/-- `_notification_failure_response`. -/
def notificationFailureResponse (db : Client) (invite : Items) (errorCode : String) :
    Api Response := do
  let failureTime : Val := .str (py.isoUtc (← Api.now))
  invitation.recordNotification py db invite
    ("SET notificationStatus = :status, notificationError = :error, " ++
      "notificationFailedAt = :failed_at, updatedAt = :updated_at")
    [(":status", .str "failed"), (":error", .str errorCode), (":failed_at", failureTime),
      (":updated_at", failureTime)]
  pure (error 502 "EVENT_DELIVERY_FAILED" "Invite notification failed after persistence")

/-- The event of an invite. -/
def inviteEvent (invite : Items) : Except Exc Items := do
  let inviteId ← getItemOf (.dict invite) "inviteId"
  let email ← getItemOf (.dict invite) "email"
  let role ← getItemOf (.dict invite) "role"
  pure [("tenantId", .str invitation.tenantId), ("inviteId", .str inviteId.toStr),
    ("email", .str email.toStr), ("role", .str role.toStr)]

/-- The answer where the event was sent. -/
def notificationSentResponse (db : Client) (invite : Items) : Api Response := do
  let sentTime : Val := .str (py.isoUtc (← Api.now))
  invitation.recordNotification py db invite
    ("SET notificationStatus = :status, notificationError = :error, " ++
      "notifiedAt = :notified_at, updatedAt = :updated_at")
    [(":status", .str "sent"), (":error", .none), (":notified_at", sentTime),
      (":updated_at", sentTime)]
  let invite := (invite.set "notificationStatus" (.str "sent")).set "notificationError" .none
  let invite : Items := invite.filter (·.1 ≠ "notificationFailedAt")
  let invite := (invite.set "notifiedAt" sentTime).set "updatedAt" sentTime
  response py 202 [("invite", .dict invite)]

/-- `_deliver_invite_notification`. -/
def deliverInviteNotification (db : Client) (invite : Items) : Api Response := do
  let detail ← Api.ofExcept (invitation.inviteEvent invite)
  match ← (putEvent py "tenant.user_invited" detail).attempt with
  | .error (.clientError code) => invitation.notificationFailureResponse py db invite code
  | .error (.botoCoreError name) => invitation.notificationFailureResponse py db invite name
  | .error x => .raise x
  | .ok sent =>
      let eventResponse := sent.or (.dict [])
      let failed ← Api.ofExcept (getAttr eventResponse "FailedEntryCount" (.int 0))
      let failedEntryCount ← Api.ofExcept (intOf failed)
      if 0 < failedEntryCount then
        let entries ← Api.ofExcept (getAttr eventResponse "Entries")
        let firstFailed ← Api.ofExcept (firstOf (entries.or (.list [.dict []])))
        let errorCode ← Api.ofExcept (getAttr firstFailed "ErrorCode")
        invitation.notificationFailureResponse py db invite
          (errorCode.or (.str "EventBridgeDeliveryFailed")).toStr
      else invitation.notificationSentResponse py db invite

/-- The lookup row as DynamoDB has it now. -/
def readLookup (db : Client) : Api (Option Items) :=
  Api.dynamodb (db.getItem (tenantsTableName py) invitation.lookupKey)

def deleteLookup (db : Client) : Api Unit :=
  Api.dynamodb (db.deleteItem (tenantsTableName py) invitation.lookupKey)

/-- The invite row a lookup row points to. -/
def readInvite (db : Client) (existingLookup : Items) : Api (Option Items) :=
  Api.dynamodb (db.getItem (tenantsTableName py)
    (invitation.keyOf (existingLookup.get "inviteId" (.str ""))))

/-- The invite row is missing: write it again from the lookup row. -/
def restoreInvite (db : Client) (existingLookup : Items) : Api Response := do
  let restored ← Api.ofExcept (invitation.inviteFromLookup existingLookup)
  match ← (Api.dynamodb (db.putItem (tenantsTableName py) restored notExists)).attempt with
  | .ok () => invitation.deliverInviteNotification py db restored
  | .error x =>
      if isConditionalFailure x then
        match ← invitation.readInvite py db existingLookup with
        | none => pure (error 409 "CONFLICT" "Pending invite already exists")
        | some invite => invitation.deliverInviteNotification py db invite
      else .raise x

/-- `_handle_existing_lookup`. -/
def handleExistingLookup (db : Client) (existingLookup : Option Items) : Api (Option Response) := do
  match existingLookup with
  | none => pure none
  | some existingLookup =>
      if (existingLookup.get "status" (.str "")).toStr ≠ "pending" then
        invitation.deleteLookup py db
        pure none
      else
        match ← invitation.readInvite py db existingLookup with
        | none => some <$> invitation.restoreInvite py db existingLookup
        | some existingInvite =>
            if (existingInvite.get "status" (.str "")).toStr ≠ "pending" then
              invitation.deleteLookup py db
              pure none
            else if (existingInvite.get "notificationStatus" (.str "")).toStr = "failed" then
              some <$> invitation.deliverInviteNotification py db existingInvite
            else some <$> response py 202 [("invite", .dict existingInvite)]

/-- A new invite. -/
def newInvite (caller : CallerIdentity) (role : String) (now : Instant) (nonce : String) : Items :=
  let inviteId := "inv-" ++ py.strftime "%Y%m%d" now ++ "-" ++ nonce
  let expiresAt := now + days 7
  inviteKey invitation.tenantId inviteId ++ [
    ("inviteId", .str inviteId),
    ("tenantId", .str invitation.tenantId),
    ("email", .str invitation.normalizedEmail),
    ("normalizedEmail", .str invitation.normalizedEmail),
    ("role", .str role),
    ("status", .str "pending"),
    ("expiresAt", .str (py.isoUtc expiresAt)),
    ("ttl", .int (epochSeconds expiresAt)),
    ("createdAt", .str (py.isoUtc now)),
    ("updatedAt", .str (py.isoUtc now)),
    ("actorSub", optionVal caller.sub),
    ("actorAppId", optionVal caller.appId),
    ("notificationStatus", .str "pending"),
    ("notificationError", .none)]

/-- The lookup row is written: write the invite row, and take the lookup row back where that
    fails. -/
def storeInvite (db : Client) (invite : Items) : Api Response := do
  match ← (Api.dynamodb (db.putItem (tenantsTableName py) invite notExists)).attempt with
  | .ok () => invitation.deliverInviteNotification py db invite
  | .error x =>
      let existing ← if isConditionalFailure x then do
          let lookup ← invitation.readLookup py db
          invitation.handleExistingLookup py db lookup
        else pure none
      match existing with
      | some existingResponse => pure existingResponse
      | none =>
          invitation.deleteLookup py db
          .raise x

/-- Write a new invite: the lookup row first. -/
def createInvite (db : Client) (caller : CallerIdentity) (role : String) : Api Response := do
  let now ← Api.now
  let nonce ← Api.random "secrets.token_hex(4)"
  let invite := invitation.newInvite py caller role now nonce
  let lookupItem := invite.merge invitation.lookupKey
  let putLookup := Api.dynamodb (db.putItem (tenantsTableName py) lookupItem notExists)
  match ← putLookup.attempt with
  | .ok () => invitation.storeInvite py db invite
  | .error x =>
      if isConditionalFailure x then
        let lookup ← invitation.readLookup py db
        match ← invitation.handleExistingLookup py db lookup with
        | some existingResponse => pure existingResponse
        | none =>
            putLookup
            invitation.storeInvite py db invite
      else .raise x

end Invitation

/-- `handle_invite_user`. -/
def handleInviteUser (py : Python) (event : Items) (caller : CallerIdentity) (tenantId : String) :
    Api Response := do
  if !canManageTenantSelfService caller tenantId then .raise (.permissionError "Access denied")
  else
    let body ← Api.ofExcept (requireJsonBody py event)
    let normalizedEmail := py.lower (Py.strip (body.get "email" (.str "")).toStr)
    if normalizedEmail = "" ∨ ¬ Py.hasSub normalizedEmail "@" = true then
      .raise (.valueError "Valid email is required")
    else
      let role := ((body.get "role").or (.str "Agent.Invoke")).toStr
      if role ≠ "Agent.Invoke" then
        pure (error 400 "BAD_REQUEST" "role must be one of: Agent.Invoke")
      else
        match ← readTenantRecord py tenantId caller with
        | none => pure (tenantNotFound tenantId)
        | some _ =>
            let db ← dbForTenant tenantId caller
            let invitation : Invitation := ⟨tenantId, normalizedEmail⟩
            let lookup ← invitation.readLookup py db
            match ← invitation.handleExistingLookup py db lookup with
            | some existingResponse => pure existingResponse
            | none => invitation.createInvite py db caller role

/-- `handle_list_invites`. -/
def handleListInvites (py : Python) (caller : CallerIdentity) (tenantId : String) :
    Api Response := do
  if !canReadTenant caller tenantId || !canManageTenantSelfService caller tenantId then
    .raise (.permissionError "Access denied")
  else
    let db ← dbForTenant tenantId caller
    match ← Api.dynamodb (db.getItem (tenantsTableName py) (tenantKey tenantId)) with
    | none => pure (tenantNotFound tenantId)
    | some _ =>
        let results ← Api.dynamodb (db.query (tenantsTableName py)
          { skCondition := some (keyBeginsWith "SK" "INVITE#") })
        let text (invite : Items) (field default : String) : String × Val :=
          (field, .str (invite.get field (.str default)).toStr)
        response py 200 [("items", .list (results.items.map fun invite => .dict [
          text invite "inviteId" "", ("tenantId", .str tenantId), text invite "email" "",
          text invite "role" "Agent.Invoke", text invite "status" "",
          ("expiresAt", invite.get "expiresAt")]))]

end A5cCell.TenantApi
