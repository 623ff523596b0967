import StorageGateway.Lifecycle.Session
import StorageGateway.Rpc.Client

/-!
# Callers

A caller is a client that is connected to a gateway on this host. An address leads it to a socket,
and the socket to the endpoint that listens there; what it is told is what the endpoint has sent.
-/

namespace StorageGateway.Lifecycle

open Endpoint (Listener Socket.connect)

/-- A client and its connection. -/
structure Caller where
  /-- The client. -/
  client : Rpc.Client
  /-- The connection. -/
  peer : Peer
deriving DecidableEq, Repr

namespace Caller

/-- The sessions of a gateway on this host. -/
abbrev OnHost := Session Host.Machine Listener

/-- The position of the task that listens on a socket. -/
def position? (session : OnHost) (socket : Nat) : Option Nat :=
  session.gateway.coordinator.tasks.findIdx? fun task => task.listener.socket == socket

/-- Connects a client to an address. Whoever listens on the socket there is connected to. -/
def connect (session : OnHost) (address : String) : Except Fault (Caller × OnHost) :=
  match Socket.connect session.world address with
  | .error error => .error (Rpc.Client.connectFault address error.message)
  | .ok socket =>
    match (position? session socket).bind session.connectTo with
    | some (peer, session) => .ok (⟨{ address }, peer⟩, session)
    | none => .error (Rpc.Client.connectFault address SystemError.connectionRefused.message)

variable {ω κ : Type}

/-- Takes over what the endpoint has sent. -/
def hear (caller : Caller) (session : Session ω κ) : Caller × Session ω κ :=
  let (bytes, ended, session) := session.hear caller.peer
  ({ caller with client := caller.client.receive bytes ended }, session)

/-- Calls a method; there is no outcome as long as there is no answer. -/
def call (caller : Caller) (method : String) (params : Json) (session : Session ω κ) :
    Option (Except Fault Json) × Caller × Session ω κ :=
  let (caller, session) := caller.hear session
  let (number, client) := caller.client.number
  match client.request number method params with
  | .error fault => (some (.error fault), { caller with client }, session)
  | .ok frame =>
    let (caller, session) := hear { caller with client } (session.send caller.peer frame)
    match caller.client.takeAnswer with
    | some (outcome, client) => (some outcome, { caller with client }, session)
    | none => (none, caller, session)

end Caller

end StorageGateway.Lifecycle
