import StorageGateway.Adapter.Conversion
import StorageGateway.Version.Precedence
import StorageGateway.Version.Shape

/-!
# Version adapters

One implementation serves all versions of a group. An operation describes a method at one version:
how its request becomes the implementation's request, from which version on it is offered, and how
the implementation's response becomes the response of that version. An adapter is the table of the
operations of one version.

A call passes six gates: the method exists, the parameters have the shape of its request, the
request can be converted, the version is not below the floor, and, behind the implementation, the
response can be converted and then written as JSON. Whatever stops before the implementation has no
effect.
-/

namespace StorageGateway

/-- An action on a world of type `σ` that gives a value or fails. The world is changed either
way. -/
abbrev Act (σ : Type) (α : Type) := ExceptT Fault (StateM σ) α

namespace Act

/-- Runs an action. -/
def perform {σ α : Type} (action : Act σ α) (world : σ) : Except Fault α × σ := action.run.run world

/-- The outcome of something that does not touch the world. -/
def ofExcept {σ α : Type} (outcome : Except Fault α) : Act σ α := fun world => (outcome, world)

end Act

/-- One method at one version: wire request, request, response, wire response. -/
structure Operation (WireRequest Request Response WireResponse : Type) where
  /-- The name of the method. -/
  name : String
  /-- The least version that offers the method; nothing when all do. -/
  since : Option Version := none
  /-- The request as the implementation takes it. -/
  decode : Conversion WireRequest Request
  /-- The response as the version gives it. -/
  encode : Conversion Response WireResponse

namespace Operation

variable {WireRequest Request Response WireResponse : Type}

/-- An operation whose version has the implementation's own schemas. -/
def passthrough (name : String) : Operation Request Request Response Response :=
  { name, decode := .same, encode := .same }

/-- An operation whose request is converted structurally and whose response is given as it is. -/
def structuralRequest (name : String) (wire : Schema WireRequest) (internal : Schema Request) :
    Operation WireRequest Request Response Response :=
  { name, decode := .structural wire internal, encode := .same }

/-- An operation whose request and response are converted structurally. -/
def structural (name : String) (wireRequest : Schema WireRequest) (request : Schema Request)
    (response : Schema Response) (wireResponse : Schema WireResponse) :
    Operation WireRequest Request Response WireResponse :=
  { name, decode := .structural wireRequest request, encode := .structural response wireResponse }

/-- The request that reaches the implementation, or why none does: it does not convert, or the
version is below the floor. -/
def accept (operation : Operation WireRequest Request Response WireResponse) (wire : WireRequest)
    (version : Version) : Except Fault Request :=
  match operation.decode wire with
  | .error mismatch => .error (.invalidArgument (operation.name ++ ": " ++ mismatch.describe))
  | .ok request =>
    match operation.since with
    | some minimum =>
      if version.atLeast minimum then .ok request
      else .error (.unsupportedVersion operation.name version.text minimum.text)
    | none => .ok request

/-- The response of the version, or that it does not fit. -/
def deliver (operation : Operation WireRequest Request Response WireResponse)
    (response : Response) :
    Except Fault WireResponse :=
  match operation.encode response with
  | .ok wire => .ok wire
  | .error mismatch =>
    .error (.unrepresentable (if mismatch.field.isEmpty then operation.name else mismatch.field)
      mismatch.message)

end Operation

/-- Writes a value, or fails because it has no JSON. -/
def Json.Writer.written {α : Type} (writer : Json.Writer α) (a : α) : Except Fault Json :=
  match writer a with
  | .ok json => .ok json
  | .error message => .error (.badJson message)

/-- An operation together with how its request is read, what serves it, and how its response is
written. -/
structure Route (σ : Type) where
  {WireRequest Request Response WireResponse : Type}
  /-- The operation. -/
  operation : Operation WireRequest Request Response WireResponse
  /-- The schema of its request. -/
  requestSchema : Schema WireRequest
  /-- Writes its response, which may have no JSON. -/
  writeResponse : Json.Writer WireResponse
  /-- The implementation, which is told the version of the call. -/
  invoke : Request → Version → Act σ Response

namespace Route

variable {σ : Type}

/-- The name of the method. -/
def name (route : Route σ) : String := route.operation.name

/-- The request that reaches the implementation, or why none does. -/
def accept (route : Route σ) (version : Version) (params : Json) : Except Fault route.Request :=
  match route.requestSchema.read.ofJson params with
  | .error refusal => .error (.invalidArgument (route.name ++ ": " ++ refusal.message))
  | .ok wire => route.operation.accept wire version

/-- The response as it leaves, or that it does not fit the version or has no JSON. -/
def deliver (route : Route σ) (response : route.Response) : Except Fault Json :=
  (route.operation.deliver response).bind route.writeResponse.written

/-- Serves one call. -/
def call (route : Route σ) (version : Version) (params : Json) : Act σ Json := do
  let request ← Act.ofExcept (route.accept version params)
  let response ← route.invoke request version
  Act.ofExcept (route.deliver response)

end Route

/-- A service: what it does about a method and its parameters. -/
abbrev Service (σ : Type) := String → Json → Act σ Json

/-- The methods of one version of a group. -/
structure Adapter (σ : Type) where
  /-- The name of the group. -/
  group : String
  /-- The version. -/
  version : Version
  /-- The methods, each under a name of its own. -/
  routes : List (Route σ)

namespace Adapter

variable {σ : Type}

/-- The route of a method. -/
def route? (adapter : Adapter σ) (method : String) : Option (Route σ) :=
  adapter.routes.find? fun route => route.name == method

/-- Calls a method. -/
def call (adapter : Adapter σ) : Service σ := fun method params =>
  match adapter.route? method with
  | none => Act.ofExcept (.error (.methodNotFound method))
  | some route => route.call adapter.version params

/-- The names of the methods, in ascending order. -/
def methods (adapter : Adapter σ) : List String :=
  (adapter.routes.map Route.name).mergeSort fun a b => decide (a ≤ b)

end Adapter

end StorageGateway
