import StorageGateway.Fault
import StorageGateway.Json.Printer
import StorageGateway.Json.Record

/-!
# Messages

Requests and responses of JSON-RPC 2.0. A member that may be absent may as well be `null`; both are
read as nothing. A request writes such members as `null`. A response leaves out the result or the
error that it does not have, but always names the request it answers.
-/

namespace StorageGateway.Rpc

/-- The version of the protocol that every message names. -/
def protocolVersion : String := "2.0"

/-- A call of a method. -/
structure Request where
  /-- The version of the protocol. -/
  jsonrpc : String
  /-- The method. -/
  method : String
  /-- Its parameters. -/
  params : Option Json
  /-- The name under which the caller expects the answer. -/
  id : Option Json

namespace Request

/-- A call under a number. -/
def call (method : String) (params : Json) (id : Nat) : Request :=
  ⟨protocolVersion, method, some params, some (.nat id)⟩

/-- Reads a request. -/
def reader : Json.Reader Request :=
  .record "IpcRequest" <|
    Request.mk <$> .required "jsonrpc" .string <*> .required "method" .string
      <*> .defaulted "params" Json.Reader.json.optional none <*> .optional "id" .json

/-- The JSON of a request, its members in the order in which they are written. -/
def toJson (r : Request) : Json :=
  .object [("jsonrpc", .string r.jsonrpc), ("method", .string r.method),
    ("params", .orNull r.params), ("id", .orNull r.id)]

/-- The text of a request. -/
def text (r : Request) : String := r.toJson.render

end Request

/-- What a response says about a failure. -/
structure ErrorObject where
  /-- Which kind of failure it is. -/
  code : Int32
  /-- The failure in words. -/
  message : String
  /-- Fields of the failure. -/
  data : Option Json

namespace ErrorObject

/-- Reads the error of a response. -/
def reader : Json.Reader ErrorObject :=
  .record "IpcError" <|
    ErrorObject.mk <$> .required "code" .i32 <*> .required "message" .string
      <*> .optional "data" .json

/-- The JSON of an error; fields that it does not have are left out. -/
def toJson (e : ErrorObject) : Json :=
  .object ([("code", .int e.code.toInt), ("message", .string e.message)] ++
    (e.data.map fun data => ("data", data)).toList)

/-- What is said about a fault. -/
def ofFault (fault : Fault) : ErrorObject := ⟨fault.code, fault.message, fault.data⟩

/-- The fault that is spoken about. -/
def fault (e : ErrorObject) : Fault := .ofWire e.code e.message e.data

end ErrorObject

/-- An answer to a request. -/
structure Response where
  /-- The version of the protocol. -/
  jsonrpc : String
  /-- What the method gives back. -/
  result : Option Json
  /-- Why the method failed. -/
  error : Option ErrorObject
  /-- The name under which the caller expects the answer. -/
  id : Option Json

namespace Response

/-- The answer of a method that succeeded. -/
def success (id : Option Json) (result : Json) : Response :=
  ⟨protocolVersion, some result, none, id⟩

/-- The answer to a request that failed in the way described. -/
def failure (id : Option Json) (error : ErrorObject) : Response :=
  ⟨protocolVersion, none, some error, id⟩

/-- The answer of a method that failed. -/
def ofFault (id : Option Json) (fault : Fault) : Response := failure id (.ofFault fault)

/-- Reads a response. -/
def reader : Json.Reader Response :=
  .record "IpcResponse" <|
    Response.mk <$> .required "jsonrpc" .string <*> .optional "result" .json
      <*> .optional "error" ErrorObject.reader <*> .optional "id" .json

/-- The JSON of a response, its members in the order in which they are written. -/
def toJson (r : Response) : Json :=
  .object ([("jsonrpc", .string r.jsonrpc)] ++
    (r.result.map fun result => ("result", result)).toList ++
    (r.error.map fun error => ("error", error.toJson)).toList ++
    [("id", .orNull r.id)])

/-- The text of a response. -/
def text (r : Response) : String := r.toJson.render

end Response

end StorageGateway.Rpc
