import StorageGateway.Rpc.Frame
import StorageGateway.Rpc.Message

/-!
# Clients

A client numbers its calls from one on, sends one request at a time and takes the next payload that
arrives for its answer. A request that is too long is refused on the spot and leaves the connection
as it is. Once the peer has hung up, nothing can be sent any more.
-/

namespace StorageGateway.Rpc

/-- A client of one endpoint. -/
structure Client where
  /-- The address of the endpoint. -/
  address : String
  /-- The number of the next call, which starts again from zero once there is no greater one. -/
  nextCall : UInt64 := 1
  /-- The bytes that have arrived and have not been taken. -/
  arrived : Bytes := []
  /-- Whether the peer has hung up. -/
  peerGone : Bool := false
deriving DecidableEq, Repr

namespace Client

/-- The fault of a connection that does not serve its purpose. -/
def lost (client : Client) (cause : String) : Fault := .transport client.address cause

/-- The fault of a connection that cannot be made. -/
def connectFault (address reason : String) : Fault :=
  .transport address ("connect failed: " ++ reason)

/-- The fault of sending to a peer that has hung up. -/
def brokenPipe : Fault := .systemRefused "Broken pipe (os error 32)" none

/-- Gives a call its number. -/
def number (client : Client) : Nat × Client :=
  (client.nextCall.toNat, { client with nextCall := client.nextCall + 1 })

/-- The payload of a call. -/
def payload (call : Nat) (method : String) (params : Json) : Bytes :=
  Text.Utf8.encode (Request.call method params call).text

/-- The frame of a call, unless it cannot be sent. -/
def request (client : Client) (call : Nat) (method : String) (params : Json) : Except Fault Bytes :=
  match Frame.encode (payload call method params) with
  | .error fault => .error (client.lost fault.message)
  | .ok frame => if client.peerGone then .error (client.lost brokenPipe.message) else .ok frame

/-- Bytes arrive from the peer, which may hang up behind them. -/
def receive (client : Client) (bytes : Bytes) (hangsUp : Bool) : Client :=
  if client.peerGone then client
  else { client with arrived := client.arrived ++ bytes, peerGone := hangsUp }

/-- What a payload says in answer to a call. -/
def outcome (payload : Bytes) : Except Fault Json :=
  match Response.reader.ofBytes payload with
  | .error refusal => .error (.badJson ("Failed to parse IPC response: " ++ refusal.message))
  | .ok response =>
    match response.error, response.result with
    | some error, _ => .error error.fault
    | none, some result => .ok result
    | none, none => .error (.other "IPC response missing result")

/-- Takes the answer to the call that was sent last; nothing as long as it has not arrived. -/
def takeAnswer (client : Client) : Option (Except Fault Json × Client) :=
  match Frame.front client.arrived with
  | .frame payload rest => some (outcome payload, { client with arrived := rest })
  | .oversized length =>
    some (.error (client.lost (Frame.oversized length).message),
      { client with arrived := client.arrived.drop Frame.headerLength })
  | .partialHeader =>
    if client.peerGone then
      some (.error (client.lost "connection closed"), { client with arrived := [] })
    else none
  | .partialPayload =>
    if client.peerGone then
      some (.error (client.lost Frame.truncated.message), { client with arrived := [] })
    else none

end Client

end StorageGateway.Rpc
