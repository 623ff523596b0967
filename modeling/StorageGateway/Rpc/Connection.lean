import StorageGateway.Rpc.Answer

/-!
# Connections

A connection takes one payload at a time from the bytes that have arrived, has it answered, and
sends the answer before it looks for the next one. Before each payload it looks whether it has been
told to end; while it waits for one, it also notices that signal.
-/

namespace StorageGateway.Rpc

/-- What a connection is doing. -/
inductive Phase where
  /-- About to look whether it has been told to end. -/
  | checking
  /-- Waiting for a payload, or to be told to end. -/
  | waiting
  /-- Having a payload answered. -/
  | serving (payload : Bytes)
  /-- Nothing any more. -/
  | ended
deriving DecidableEq, Repr

/-- What tells connections to end. -/
structure Signal where
  /-- Connections are told to end. -/
  raised : Bool := false
  /-- There is nobody left who could tell them. -/
  orphaned : Bool := false
deriving DecidableEq, Repr

/-- A connection, seen from the endpoint. -/
structure Connection where
  /-- What it is doing. -/
  phase : Phase := .checking
  /-- The bytes that have arrived and have not been taken. -/
  arrived : Bytes := []
  /-- Whether the peer will send no more. -/
  finished : Bool := false
  /-- Whether the peer can no longer be sent anything. -/
  unreachable : Bool := false
  /-- All bytes sent to the peer. -/
  sent : Bytes := []
  /-- How many of them the peer has read. -/
  heard : Nat := 0
deriving DecidableEq, Repr

namespace Connection

variable {σ : Type}

/-- Whether a connection has ended. -/
def isEnded (connection : Connection) : Bool := connection.phase == .ended

/-- A connection that has ended. -/
def close (connection : Connection) : Connection := { connection with phase := .ended }

/-! ## What the peer does -/

/-- Bytes arrive. -/
def receive (connection : Connection) (bytes : Bytes) : Connection :=
  if connection.finished then connection
  else { connection with arrived := connection.arrived ++ bytes }

/-- The peer sends no more. -/
def finish (connection : Connection) : Connection := { connection with finished := true }

/-- The peer hangs up. -/
def hangUp (connection : Connection) : Connection :=
  { connection with finished := true, unreachable := true }

/-- The bytes that the peer has not read yet. -/
def unheard (connection : Connection) : Bytes := connection.sent.drop connection.heard

/-- The peer reads all there is. -/
def hear (connection : Connection) : Connection :=
  { connection with heard := connection.sent.length }

/-! ## What the connection does -/

/-- Looks whether the connection has been told to end. -/
def check (signal : Signal) (connection : Connection) : Connection :=
  match connection.phase with
  | .checking => { connection with phase := if signal.raised then .ended else .waiting }
  | _ => connection

/-- Takes the next payload when it is there, and ends when there can be none. -/
def take (connection : Connection) : Connection :=
  match connection.phase with
  | .waiting =>
    match Frame.front connection.arrived with
    | .frame payload rest => { connection with phase := .serving payload, arrived := rest }
    | .oversized _ => connection.close
    | .partialHeader | .partialPayload =>
      if connection.finished then connection.close else connection
  | _ => connection

/-- Notices the signal while waiting. -/
def notice (signal : Signal) (connection : Connection) : Connection :=
  match connection.phase with
  | .waiting => if signal.raised || signal.orphaned then connection.close else connection
  | _ => connection

/-- Sends an answer and looks for the next payload. An answer that is too long, or that cannot be
sent, ends the connection. -/
def send (connection : Connection) (response : Response) : Connection :=
  match Frame.encode (Text.Utf8.encode response.text) with
  | .error _ => connection.close
  | .ok frame =>
    if connection.unreachable then connection.close
    else { connection with phase := .checking, sent := connection.sent ++ frame }

/-- Has the payload answered that was taken. -/
def answer (endpoint : Endpoint σ) (connection : Connection) : StateM σ Connection := fun world =>
  match connection.phase with
  | .serving payload =>
    let (response, world) := endpoint.answer payload world
    (connection.send response, world)
  | _ => (connection, world)

/-- The service breaks down while it answers, and the connection is lost. -/
def crash (connection : Connection) : Connection :=
  match connection.phase with
  | .serving _ => connection.close
  | _ => connection

/-! ## Running on -/

/-- Does the next thing there is to do, with the signal as it stands: a payload that is there is
taken first. -/
def advance (endpoint : Endpoint σ) (signal : Signal) (connection : Connection) :
    StateM σ Connection := fun world =>
  match connection.phase with
  | .checking => (connection.check signal, world)
  | .waiting => ((connection.take).notice signal, world)
  | .serving _ => connection.answer endpoint world
  | .ended => (connection, world)

/-- Does up to a number of things, as long as there is anything to do. -/
def advanceUpTo (endpoint : Endpoint σ) (signal : Signal) : Nat → Connection → StateM σ Connection
  | 0, connection => pure connection
  | steps + 1, connection => fun world =>
    let (next, world) := connection.advance endpoint signal world
    if next.phase == connection.phase then (next, world)
    else advanceUpTo endpoint signal steps next world

/-- More things than a connection can do before it has to wait. A payload costs four bytes at least,
and three things to do. -/
def patience (connection : Connection) : Nat := 3 * connection.arrived.length + 4

/-- Does what there is to do until the connection waits or has ended. -/
def settle (endpoint : Endpoint σ) (signal : Signal) (connection : Connection) :
    StateM σ Connection :=
  advanceUpTo endpoint signal connection.patience connection

end Connection

end StorageGateway.Rpc
