import StorageGateway.Adapter.Basic
import StorageGateway.Rpc.Frame
import StorageGateway.Rpc.Message

/-!
# Answers

An endpoint answers every payload with exactly one response. A payload that is no request, or a
request of another protocol, is answered without asking the service; so is the question whether the
endpoint is well.
-/

namespace StorageGateway.Rpc

/-- Whether a service breaks down over a method and its parameters instead of answering. -/
abbrev Breakdown (σ : Type) := String → Json → σ → Bool

/-- What an endpoint serves. -/
structure Endpoint (σ : Type) where
  /-- The name of the group. -/
  group : String
  /-- The version. -/
  version : Version
  /-- What is done about a call; nothing when no service is attached. -/
  service : Option (Service σ)

namespace Endpoint

variable {σ : Type}

/-- The method that every endpoint answers by itself. -/
def healthMethod : String := "health_check"

/-- The code of a payload that is no request. -/
def parseErrorCode : Int32 := -32700

/-- The code of a request of another protocol. -/
def invalidRequestCode : Int32 := -32600

/-- What an endpoint says about itself. -/
def health (endpoint : Endpoint σ) : Json :=
  .object [("group", .string endpoint.group), ("status", .string "ok"),
    ("version", .string endpoint.version.text)]

/-- The parameters of a request; none are given as an empty object. -/
def parameters (request : Request) : Json := request.params.getD (.object [])

/-- What the service does about a request. -/
def serve (endpoint : Endpoint σ) (request : Request) : Act σ Json :=
  match endpoint.service with
  | some service => service request.method (parameters request)
  | none => Act.ofExcept (.error (.methodNotFound request.method))

/-- Answers a request of the right protocol. -/
def respond (endpoint : Endpoint σ) (request : Request) : StateM σ Response := fun world =>
  if request.method = healthMethod then (.success request.id endpoint.health, world)
  else
    match (endpoint.serve request).perform world with
    | (.ok result, world) => (.success request.id result, world)
    | (.error fault, world) => (.ofFault request.id fault, world)

/-- Answers a payload. -/
def answer (endpoint : Endpoint σ) (payload : Bytes) : StateM σ Response := fun world =>
  match Request.reader.ofBytes payload with
  | .error refusal =>
    (.failure none ⟨parseErrorCode, "Parse error: " ++ refusal.message, none⟩, world)
  | .ok request =>
    if request.jsonrpc ≠ protocolVersion then
      (.failure request.id ⟨invalidRequestCode, "Invalid Request: expected jsonrpc 2.0", none⟩,
        world)
    else endpoint.respond request world

/-- Whether a service that may break down does so over a payload. -/
def breaksDown (breakdown : Breakdown σ) (payload : Bytes) (world : σ) : Bool :=
  match Request.reader.ofBytes payload with
  | .error _ => false
  | .ok request =>
    request.jsonrpc == protocolVersion && request.method != healthMethod &&
      breakdown request.method (parameters request) world

end Endpoint

end StorageGateway.Rpc
