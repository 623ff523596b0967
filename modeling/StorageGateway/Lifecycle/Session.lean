import StorageGateway.Lifecycle.Gateway

/-!
# Sessions

A session is a gateway, the world it works in and whoever calls it or is connected to it. A peer is
known by where its connection is. After whatever happens from outside, everything inside does what
there is to do.
-/

namespace StorageGateway.Lifecycle

/-- A connection to one of the endpoints. -/
structure Peer where
  /-- The position of the server. -/
  server : Nat
  /-- The position of the connection at the server. -/
  connection : Nat
deriving DecidableEq, Repr

/-- A gateway and the world it works in. -/
structure Session (ω κ : Type) where
  /-- The gateway. -/
  gateway : Gateway ω κ
  /-- The world. -/
  world : ω

namespace Session

variable {ω κ : Type}

/-- Lets everything do what there is to do. -/
def settle (session : Session ω κ) : Session ω κ :=
  let (gateway, world) := session.gateway.settle session.world
  ⟨gateway, world⟩

/-! ## Calls -/

/-- Starts all endpoints. -/
def start (session : Session ω κ) : Except Fault Unit × Session ω κ :=
  match session.gateway.start session.world with
  | (.ok (), gateway, world) => (.ok (), settle ⟨gateway, world⟩)
  | (.error fault, gateway, world) => (.error fault, ⟨gateway, world⟩)

/-- Tells all endpoints to stop, which they do later. -/
def stop (session : Session ω κ) : Except Fault Unit × Session ω κ :=
  match session.gateway.stop with
  | .ok gateway => (.ok (), { session with gateway })
  | .error fault => (.error fault, session)

/-- What the call that waits has been told; nothing as long as it waits. -/
def told (session : Session ω κ) : Option (List Failure) :=
  session.gateway.activity.told.getLast?

/-- Waits for all endpoints to stop. A call that is not turned away is told which of them failed, or
nothing as long as it waits. -/
def wait (session : Session ω κ) : Except Fault (Option (List Failure)) × Session ω κ :=
  match session.gateway.beginWait with
  | .ok gateway =>
    let session := settle { session with gateway }
    (.ok session.told, session)
  | .error fault => (.error fault, session)

/-- Starts all endpoints and waits for them to stop. -/
def run (session : Session ω κ) : Except Fault (Option (List Failure)) × Session ω κ :=
  match session.start with
  | (.ok (), session) => session.wait
  | (.error fault, session) => (.error fault, session)

/-! ## Peers -/

/-- Changes the server at a position. -/
def update (session : Session ω κ) (index : Nat) (change : Rpc.Server ω → Rpc.Server ω) :
    Session ω κ :=
  settle { session with
    gateway := { session.gateway with servers := session.gateway.servers.modify index change } }

/-- The server that accepts connections at an address, and where it is. -/
def listening? (session : Session ω κ) (address : String) : Option (Nat × Rpc.Server ω) := do
  let servers := session.gateway.servers
  let index ← servers.findIdx? fun server => server.address == address && !server.loop.isEnded
  some (index, ← servers[index]?)

/-- Connects to the server at a position. -/
def connectTo (session : Session ω κ) (index : Nat) : Option (Peer × Session ω κ) := do
  let server ← session.gateway.servers[index]?
  some (⟨index, server.connections.length⟩, session.update index Rpc.Server.connect)

/-- Connects to an address that is listened on. -/
def connect (session : Session ω κ) (address : String) : Option (Peer × Session ω κ) := do
  let (index, _) ← session.listening? address
  session.connectTo index

/-- Lets the listener at an address fail, if there is one. -/
def failAccept (session : Session ω κ) (address message : String) : Option (Session ω κ) := do
  let (index, _) ← session.listening? address
  some (session.update index (Rpc.Server.failAccept message))

/-- Sends bytes from a peer. -/
def send (session : Session ω κ) (peer : Peer) (bytes : Rpc.Bytes) : Session ω κ :=
  session.update peer.server fun server =>
    server.update peer.connection (Rpc.Connection.receive · bytes)

/-- Lets a peer read all there is, and tells it whether the connection has ended. -/
def hear (session : Session ω κ) (peer : Peer) : Rpc.Bytes × Bool × Session ω κ :=
  match session.gateway.servers[peer.server]? with
  | some server =>
    let (bytes, ended, server) := server.hear peer.connection
    (bytes, ended, { session with
      gateway := { session.gateway with
        servers := session.gateway.servers.set peer.server server } })
  | none => ([], true, session)

end Session

end StorageGateway.Lifecycle
