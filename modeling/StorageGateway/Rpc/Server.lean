import StorageGateway.Rpc.Connection

/-!
# Servers

A server accepts connections until it is told to stop or its listener fails; then the listener is
closed. Connections live on until they notice the signal. At most sixty-four of them are alive at a
time: each takes a slot when it is accepted and gives it back when it ends. A connection for which
there is no slot, or nobody who accepts it, is closed at once.

What happens is told as events, in any order; an event that cannot happen changes nothing.
-/

namespace StorageGateway.Rpc

/-- What the loop that accepts connections is doing. -/
inductive Loop where
  /-- Accepting connections. -/
  | accepting
  /-- It has ended, with a fault when the listener failed. -/
  | ended (result : Except Fault Unit)

/-- Whether the loop has ended. -/
def Loop.isEnded : Loop → Bool
  | .accepting => false
  | .ended _ => true

/-- A server. -/
structure Server (σ : Type) where
  /-- What it serves. -/
  endpoint : Endpoint σ
  /-- The address it listens on. -/
  address : String
  /-- What the loop that accepts connections is doing. -/
  loop : Loop := .accepting
  /-- Whether the loop has been told to end. -/
  asked : Bool := false
  /-- What tells connections to end. -/
  signal : Signal := {}
  /-- The slots that are taken. -/
  slots : Nat := 0
  /-- The connections, in the order in which they were accepted. -/
  connections : List Connection := []

namespace Server

variable {σ : Type}

/-- The greatest number of connections that are alive. -/
def greatestConnections : Nat := 64

/-! ## The handle -/

/-- Tells the server to stop accepting and its connections to end. Says whether the loop was told
for the first time and is there to hear it. -/
def shutdown (server : Server σ) : Bool × Server σ :=
  (!server.asked && !server.loop.isEnded,
    { server with asked := true, signal := { server.signal with raised := true } })

/-- Tells the loop to end while the connections have yet to be told, as halfway through a
shutdown. -/
def tellLoop (server : Server σ) : Server σ := { server with asked := true }

/-- Gives up the handle, so that nobody is left who could tell the server anything. -/
def release (server : Server σ) : Server σ :=
  { server with asked := true, signal := { server.signal with orphaned := true } }

/-! ## The loop -/

/-- Ends the loop when it has been told to. -/
def endLoop (server : Server σ) : Server σ :=
  match server.loop with
  | .accepting => if server.asked then { server with loop := .ended (.ok ()) } else server
  | .ended _ => server

/-- Ends the loop because the listener failed. -/
def failAccept (message : String) (server : Server σ) : Server σ :=
  match server.loop with
  | .accepting =>
    { server with loop := .ended (.error (.transport server.address message)) }
  | .ended _ => server

/-- A peer connects. -/
def connect (server : Server σ) : Server σ :=
  match server.loop with
  | .accepting =>
    if server.slots < greatestConnections then
      { server with slots := server.slots + 1, connections := server.connections ++ [{}] }
    else { server with connections := server.connections ++ [Connection.close {}] }
  | .ended _ => { server with connections := server.connections ++ [Connection.close {}] }

/-! ## The connections -/

/-- Puts a connection in place of what it has been, and takes back its slot when it has ended
meanwhile. -/
def put (server : Server σ) (index : Nat) (old new : Connection) : Server σ :=
  { server with
    connections := server.connections.set index new
    slots := if new.isEnded && !old.isEnded then server.slots - 1 else server.slots }

/-- Changes a connection. -/
def update (server : Server σ) (index : Nat) (change : Connection → Connection) : Server σ :=
  match server.connections[index]? with
  | some old => server.put index old (change old)
  | none => server

/-- Changes a connection, with the help of the service. -/
def updateServed (server : Server σ) (index : Nat) (change : Connection → StateM σ Connection) :
    StateM σ (Server σ) := fun world =>
  match server.connections[index]? with
  | some old =>
    let (new, world) := change old world
    (server.put index old new, world)
  | none => (server, world)

/-- Loses a connection because the service breaks down while it answers; the slot is lost with
it. -/
def crash (server : Server σ) (index : Nat) : Server σ :=
  match server.connections[index]? with
  | some old => { server with connections := server.connections.set index old.crash }
  | none => server

/-- Lets a peer read all there is, and tells it whether the connection has ended. -/
def hear (server : Server σ) (index : Nat) : Bytes × Bool × Server σ :=
  match server.connections[index]? with
  | some connection =>
    (connection.unheard, connection.isEnded, server.update index Connection.hear)
  | none => ([], true, server)

/-! ## Events -/

/-- Something that happens to a server or to one of its connections. -/
inductive Event where
  /-- The server is told to shut down. -/
  | shutdown
  /-- The loop is told to end, and its connections are not told yet. -/
  | tellLoop
  /-- The handle is given up. -/
  | release
  /-- The loop notices that it has been told to end. -/
  | endLoop
  /-- The listener fails. -/
  | failAccept (message : String)
  /-- A peer connects. -/
  | connect
  /-- Bytes arrive. -/
  | receive (index : Nat) (bytes : Bytes)
  /-- A peer sends no more. -/
  | finish (index : Nat)
  /-- A peer hangs up. -/
  | hangUp (index : Nat)
  /-- A connection looks whether it has been told to end. -/
  | check (index : Nat)
  /-- A connection takes a payload, or ends when there can be none. -/
  | take (index : Nat)
  /-- A connection notices the signal. -/
  | notice (index : Nat)
  /-- The answer to a payload is sent. -/
  | answer (index : Nat)
  /-- The service breaks down. -/
  | crash (index : Nat)

/-- What an event does. -/
def step (server : Server σ) : Event → StateM σ (Server σ)
  | .shutdown => pure server.shutdown.2
  | .tellLoop => pure server.tellLoop
  | .release => pure server.release
  | .endLoop => pure server.endLoop
  | .failAccept message => pure (server.failAccept message)
  | .connect => pure server.connect
  | .receive index bytes => pure (server.update index (Connection.receive · bytes))
  | .finish index => pure (server.update index Connection.finish)
  | .hangUp index => pure (server.update index Connection.hangUp)
  | .check index => pure (server.update index (Connection.check server.signal))
  | .take index => pure (server.update index Connection.take)
  | .notice index => pure (server.update index (Connection.notice server.signal))
  | .answer index => server.updateServed index (Connection.answer server.endpoint)
  | .crash index => pure (server.crash index)

/-- What events do one after the other. -/
def run (server : Server σ) : List Event → StateM σ (Server σ)
  | [] => pure server
  | event :: events => fun world =>
    let (server, world) := server.step event world
    run server events world

/-! ## Running on -/

/-- Lets the connections with the given numbers do what there is to do. -/
def settleConnections (server : Server σ) : List Nat → StateM σ (Server σ)
  | [] => pure server
  | index :: rest => fun world =>
    let (server, world) :=
      server.updateServed index (Connection.settle server.endpoint server.signal) world
    settleConnections server rest world

/-- Lets the loop and all connections do what there is to do. -/
def settle (server : Server σ) : StateM σ (Server σ) :=
  let server := server.endLoop
  server.settleConnections (List.range server.connections.length)

/-! ## Breaking down -/

/-- Has a payload answered that a connection has taken, by a service that may break down over it.
Whatever the service does to the world it has done by then. -/
def attempt (breakdown : Breakdown σ) (server : Server σ) (index : Nat) (payload : Bytes) :
    StateM σ (Server σ) := fun world =>
  let answered := server.step (.answer index) world
  if Endpoint.breaksDown breakdown payload world then (server.crash index, answered.2)
  else answered

/-- Lets a connection take payloads, up to a number of them, and has each of them answered by a
service that may break down over it. -/
def attemptUpTo (breakdown : Breakdown σ) (index : Nat) : Nat → Server σ → StateM σ (Server σ)
  | 0, server => pure server
  | payloads + 1, server => fun world =>
    let taken := server.run [.check index, .take index] world
    match taken.1.connections[index]?.map Connection.phase with
    | some (.serving payload) =>
      let attempted := taken.1.attempt breakdown index payload taken.2
      attemptUpTo breakdown index payloads attempted.1 attempted.2
    | _ => taken

end Server

end StorageGateway.Rpc
