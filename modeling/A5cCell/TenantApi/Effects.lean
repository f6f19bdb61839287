import A5cCell.DataAccess.Store

/-!
# The programs of the tenant API

A handler of the tenant API is a program that calls DynamoDB, the clock, the random source and the
AWS services it is given. `Python` collects what it takes from Python's library and from its
environment; these functions stay parameters.
-/

namespace A5cCell.TenantApi

open Py (Val Items Dict Obj)
open DataAccess

/-- A UTC time, in microseconds since the epoch. -/
abbrev Instant : Type := Int

/-- The library functions and the environment of the process. -/
structure Python where
  /-- `json.loads`; `none` where it raises `JSONDecodeError`. -/
  jsonLoads : String → Option Val
  /-- Whether `json.dumps(value, default=json_default)` takes an object: a number, not a set. -/
  encodes : Obj → Bool
  /-- `float(value)`. -/
  float : Val → Except Exc Val
  /-- `str.lower`, on any text. -/
  lower : String → String
  /-- `re.match(pattern, text)`: the groups, or `re.error`. -/
  reMatch : String → String → Except Exc (Option (List String))
  /-- `pattern.fullmatch(text)`: the named groups. -/
  fullmatch : String → String → Option (List (String × String))
  /-- `urllib.parse.urlparse(url)`: the scheme and the netloc. -/
  urlparse : String → Except Exc (String × String)
  /-- `iso_utc`. -/
  isoUtc : Instant → String
  /-- `strftime`. -/
  strftime : String → Instant → String
  /-- `datetime.fromisoformat(text)`: the time, when the text has a timezone. -/
  fromIsoformat : String → Option (Option Instant)
  /-- `_encode_pagination_token`. -/
  encodePaginationToken : Items → String
  /-- `_decode_pagination_token`; `none` where it raises. -/
  decodePaginationToken : String → Option Val
  /-- `os.environ.get`. -/
  environ : String → Option String
  /-- How many pages of a listing a request has time for. -/
  pages : Nat

/-- What a library is known to answer of some texts, which is what an example asks it. -/
structure KnownTexts where
  json : List (String × Val) := []
  groups : List ((String × String) × List String) := []
  environ : List (String × String) := []

/-- A library that answers of the known texts, writes a time as its number, and has time for one page
    of a listing. -/
def KnownTexts.python (known : KnownTexts) : Python where
  jsonLoads := fun text => known.json.lookup text
  encodes := fun _ => false
  float := fun _ => .error (.valueError "could not convert string to float")
  lower := Py.lower
  reMatch := fun pattern text => .ok (known.groups.lookup (pattern, text))
  fullmatch := fun _ _ => none
  urlparse := fun _ => .ok ("", "")
  isoUtc := fun t => toString t
  strftime := fun _ t => toString t
  fromIsoformat := fun _ => none
  encodePaginationToken := fun _ => ""
  decodePaginationToken := fun _ => none
  environ := fun name => known.environ.lookup name
  pages := 1

/-- A call a handler makes. -/
inductive Effect where
  | db (request : Request)
  | now
  | random (source : String)
  | service (client operation : String) (kwargs : Items)

/-- What a call is answered. -/
abbrev Effect.Reply : Effect → Type
  | .db request => Answer request
  | .now => Instant
  | .random _ => String
  | .service .. => Except Fault Val

/-- A program of the tenant API. -/
abbrev Api (α : Type) : Type := Prog Effect Effect.Reply Exc α

namespace Api

/-- What a computation without calls comes to. -/
def ofExcept {α : Type} : Except Exc α → Api α
  | .ok a => .ret a
  | .error x => .raise x

/-- An operation of a DynamoDB client. -/
def dynamodb {α : Type} (p : Db α) : Api α := p.mapCalls .db (fun _ answer => answer) id

/-- `utils.now_utc`. -/
def now : Api Instant := .call .now .ret

/-- A fresh text of `secrets` or `uuid`. -/
def random (source : String) : Api String := .call (.random source) .ret

/-- A method of an AWS client. -/
def service (client operation : String) (kwargs : Items) : Api Val :=
  .call (.service client operation kwargs) fun reply => match reply with
    | .ok value => .ret value
    | .error fault => .raise fault.exc

end Api

/-! ## Responses

The body of a response is JSON text; what is kept is the value it encodes. -/

/-- A response of the tenant API. -/
structure Response where
  statusCode : Nat
  body : Val

/-- `http_utils.response`, where the body may hold objects. -/
def response (py : Python) (statusCode : Nat) (body : Items) : Api Response :=
  if (Val.dict body).allObjs py.encodes then .ret ⟨statusCode, .dict body⟩
  else .raise (.typeError "Object is not JSON serializable")

/-- `http_utils.error`. -/
def error (statusCode : Nat) (code message : String) : Response :=
  ⟨statusCode, .dict [("error", .dict [("code", .str code), ("message", .str message)])]⟩

/-! ## Events -/

/-- `events.event_bus_name`. -/
def eventBusName (py : Python) : String := (py.environ "EVENT_BUS_NAME").getD "default"

/-- `events.put_event`. -/
def putEvent (py : Python) (detailType : String) (detail : Items) : Api Val :=
  if (Val.dict detail).allObjs py.encodes then
    Api.service "events" "put_events" [("Entries", .list [.dict [
      ("Source", .str "platform.tenant_api"),
      ("DetailType", .str detailType),
      ("Detail", .dict detail),
      ("EventBusName", .str (eventBusName py))]])]
  else .raise (.typeError "Object is not JSON serializable")

end A5cCell.TenantApi
