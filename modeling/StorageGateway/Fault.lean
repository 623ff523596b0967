import StorageGateway.Json.Basic
import StorageGateway.Text.Quoted
import StorageGateway.Text.Split

/-!
# Faults

Everything that can go wrong, from wiring and listening to a single request, is a `Fault`. A fault
has one message; on the wire it is a numeric code, that message, and for the faults that callers act
upon the fields it is made of, so that the other side rebuilds the same fault without taking the
message apart.
-/

namespace StorageGateway

/-- A failure and its cause. -/
inductive Fault where
  /-- A text is not a version. -/
  | misreadVersion (input message : String)
  /-- An endpoint is registered twice. -/
  | duplicateEndpoint (group version : String)
  /-- An address is served by somebody else. -/
  | addressInUse (address : String)
  /-- An address cannot be listened on. -/
  | bindFailed (address message : String)
  /-- A request is not acceptable as it stands. -/
  | invalidArgument (message : String)
  /-- An operation is not offered at the version it was called at. -/
  | unsupportedVersion (operation version minimum : String)
  /-- A response does not fit the schema of the version it was asked for at. -/
  | unrepresentable (field message : String)
  /-- There is no such method. -/
  | methodNotFound (method : String)
  /-- The endpoints have been started before. -/
  | alreadyStarted
  /-- The endpoints are not running. -/
  | notStarted
  /-- The endpoints could not be started. -/
  | startupFailed (causes : List Fault)
  /-- A connection or a listener failed. -/
  | transport (address message : String)
  /-- The operating system refused an operation, possibly on a path. -/
  | systemRefused (message : String) (path : Option String)
  /-- There is no such thing. -/
  | notFound (what : String)
  /-- A path lies outside the permitted roots. -/
  | outsideRoots (path : String)
  /-- JSON could not be read or written. -/
  | badJson (message : String)
  /-- A host command failed. -/
  | commandFailed (command message : String)
  /-- The configuration is not acceptable. -/
  | configuration (message : String)
  /-- The other side reports a fault of no kind known here. -/
  | remote (code : Int32) (message : String)
  /-- Anything else. -/
  | other (message : String)
deriving Repr, Inhabited

namespace Fault

/-- An optional path in a message. -/
def describePath : Option String → String
  | none => "None"
  | some path => "Some(" ++ Text.quoted path ++ ")"

mutual

/-- The message of a fault. -/
def message : Fault → String
  | .misreadVersion input message =>
    "Invalid version string " ++ Text.quoted input ++ ": " ++ message
  | .duplicateEndpoint group version => "Duplicate registration for " ++ group ++ " " ++ version
  | .addressInUse address => "Address already in use: " ++ address
  | .bindFailed address message => "Failed to bind " ++ address ++ ": " ++ message
  | .invalidArgument message => "Invalid argument: " ++ message
  | .unsupportedVersion operation version minimum =>
    operation ++ " requires API version " ++ minimum ++ " or later, called at " ++ version
  | .unrepresentable field message =>
    "Response field " ++ field ++ " cannot be represented: " ++ message
  | .methodNotFound method => "Method not found: " ++ method
  | .alreadyStarted => "Server set already started"
  | .notStarted => "Server set not started"
  | .startupFailed causes => "Startup failed: " ++ "; ".intercalate (messages causes)
  | .transport address message => "Transport error on " ++ address ++ ": " ++ message
  | .systemRefused message path => "IO error at " ++ describePath path ++ ": " ++ message
  | .notFound what => "Not found: " ++ what
  | .outsideRoots path => "Path " ++ path ++ " is outside the permitted roots"
  | .badJson message => "JSON error: " ++ message
  | .commandFailed command message => "Command " ++ command ++ " failed: " ++ message
  | .configuration message => "Configuration error: " ++ message
  | .remote code message => "Remote error " ++ toString code.toInt ++ ": " ++ message
  | .other message => message
termination_by structural fault => fault

/-- The messages of several faults. -/
def messages : List Fault → List String
  | [] => []
  | fault :: faults => message fault :: messages faults
termination_by structural faults => faults

end

/-! ## On the wire -/

/-- The code of a method that does not exist. -/
def methodNotFoundCode : Int32 := -32601

/-- The code of parameters that are not acceptable. -/
def invalidParamsCode : Int32 := -32602

/-- The code of a failure of no particular kind. -/
def internalCode : Int32 := -32603

/-- The code of something that does not exist. -/
def notFoundCode : Int32 := -32001

/-- The code of a path outside the permitted roots. -/
def outsideRootsCode : Int32 := -32002

/-- The code of a host command that failed. -/
def commandFailedCode : Int32 := -32003

/-- The code of an operation that is not offered at the version. -/
def unsupportedVersionCode : Int32 := -32010

/-- The code of a response that does not fit the version. -/
def unrepresentableCode : Int32 := -32011

/-- The numeric code of a fault. -/
def code : Fault → Int32
  | .methodNotFound _ => methodNotFoundCode
  | .invalidArgument _ | .misreadVersion _ _ => invalidParamsCode
  | .notFound _ => notFoundCode
  | .outsideRoots _ => outsideRootsCode
  | .commandFailed _ _ => commandFailedCode
  | .unsupportedVersion _ _ _ => unsupportedVersionCode
  | .unrepresentable _ _ => unrepresentableCode
  | .remote code _ => code
  | _ => internalCode

/-- The fields that a fault carries beside its message, in the order of their names. -/
def data : Fault → Option Json
  | .invalidArgument message => some (.object [("message", .string message)])
  | .methodNotFound method => some (.object [("method", .string method)])
  | .notFound what => some (.object [("what", .string what)])
  | .unsupportedVersion operation version minimum =>
    some (.object [("minimum", .string minimum), ("operation", .string operation),
      ("version", .string version)])
  | .unrepresentable field message =>
    some (.object [("field", .string field), ("message", .string message)])
  | _ => none

/-- The fault that a code, a message and fields stand for. The fields are believed before the
message; a message is freed from the words that the fault's own message begins with. -/
def ofWire (code : Int32) (message : String) (data : Option Json) : Fault :=
  let field (name : String) : Option String := data.bind (Json.textMember? name)
  if code = methodNotFoundCode then
    .methodNotFound ((field "method").getD (Text.withoutPrefix "Method not found: " message))
  else if code = invalidParamsCode then
    .invalidArgument ((field "message").getD (Text.withoutPrefix "Invalid argument: " message))
  else if code = notFoundCode then
    .notFound ((field "what").getD (Text.withoutPrefix "Not found: " message))
  else if code = unsupportedVersionCode then
    match field "operation", field "version", field "minimum" with
    | some operation, some version, some minimum => .unsupportedVersion operation version minimum
    | _, _, _ => .remote code message
  else if code = unrepresentableCode then
    match field "field", field "message" with
    | some field, some message => .unrepresentable field message
    | _, _ => .remote code message
  else .remote code message

/-- Whether a fault says that a request was turned away before anything was done about it. -/
def isRejection : Fault → Bool
  | .invalidArgument _ | .unsupportedVersion _ _ _ | .methodNotFound _ => true
  | _ => false

end Fault

end StorageGateway
