import A5cCell.Lib.Value

/-!
# The gateway's requests and responses

`request_adapter.py`: reading the headers and the body of an MCP gateway request, and building
what an interceptor answers. `json.loads` is a parameter wherever a body may arrive as text.
-/

namespace A5cCell.Gateway

open Py (Val Items Dict)

/-- A header map, in the order its names arrived. -/
abbrev Headers := Dict String String

/-- `get_header`: the first header of that name, in any case. -/
def getHeader (headers : Headers) (key : String) : Option String :=
  (headers.items.find? (fun header => Py.lower header.1 = Py.lower key)).map (·.2)

/-- `normalized_headers`. -/
def normalizedHeaders (headers : Val) : Headers :=
  match headers with
  | .dict kvs => Dict.ofItems (kvs.map fun (key, value) => (key, value.toStr))
  | _ => Dict.empty

/-- `parse_body`; `jsonLoads` answers `none` where `json.loads` raises. -/
def parseBody (jsonLoads : String → Option Val) (body : Val) : Items :=
  match body with
  | .dict kvs => kvs
  | .str text => match jsonLoads text with
    | some (.dict kvs) => kvs
    | _ => []
  | _ => []

/-- The `transformedGatewayRequest` of an answer: the entries it keeps of the gateway request,
    with the headers and the body replaced. -/
structure TransformedRequest where
  base : Items
  headers : Headers
  body : Items

/-- What an interceptor refuses a request with: the HTTP status, and the JSON-RPC code and
    message. -/
structure JsonRpcError where
  statusCode : Int
  code : Int
  message : String
  deriving DecidableEq

/-- A `transformedGatewayResponse`: the JSON-RPC error answered in place of the tool. -/
structure TransformedResponse where
  id : Val
  error : JsonRpcError

/-- `build_interceptor_response`. -/
structure InterceptorResponse where
  interceptorOutputVersion : String := "1.0"
  transformedGatewayRequest : TransformedRequest
  transformedGatewayResponse : Option TransformedResponse

/-- `error_response`. -/
def errorResponse (jsonLoads : String → Option Val) (gatewayRequest : Items) (requestId : Val)
    (error : JsonRpcError) : InterceptorResponse where
  transformedGatewayRequest :=
    { base := []
      headers := normalizedHeaders (gatewayRequest.get "headers" (.dict []))
      body := parseBody jsonLoads (gatewayRequest.get "body") }
  transformedGatewayResponse := some ⟨requestId, error⟩

/-- `mcp.gatewayRequest` of an event; anything that is not a dictionary on the way reads as an
    empty one. -/
def gatewayRequestOf (event : Items) : Items :=
  let mcp := ((event.get "mcp" (.dict [])).asDict?).getD []
  ((mcp.get "gatewayRequest" (.dict [])).asDict?).getD []

end A5cCell.Gateway
