import StorageGateway.Endpoint.Registry
import StorageGateway.Lifecycle.Activity
import StorageGateway.Rpc.Server

/-!
# The gateway

The gateway is a coordinator together with the servers of its endpoints. A server is shut down when
its task has been told to stop, and the task ends when the loop of the server has.
-/

namespace StorageGateway.Lifecycle

open Endpoint (Descriptor)

/-- A coordinator with all calls made of it, and the servers of its endpoints, in the same order as
its tasks. -/
structure Gateway (ω κ : Type) where
  /-- How listeners are opened and closed. -/
  provisioner : Provisioner ω κ
  /-- The endpoints. -/
  descriptors : List (Descriptor ω)
  /-- The coordinator and its calls. -/
  activity : Activity κ
  /-- The servers. -/
  servers : List (Rpc.Server ω) := []

namespace Gateway

variable {ω κ : Type}

/-- The gateway of some endpoints, before it is started. -/
def make (provisioner : Provisioner ω κ) (descriptors : List (Descriptor ω)) : Gateway ω κ :=
  { provisioner, descriptors
    activity := .unstarted (descriptors.map Descriptor.key) true }

/-- The coordinator. -/
def coordinator (gateway : Gateway ω κ) : Coordinator κ := gateway.activity.coordinator

/-- The server of an endpoint. -/
def serverOf (provisioner : Provisioner ω κ) (descriptor : Descriptor ω) : Rpc.Server ω where
  endpoint := ⟨descriptor.group, descriptor.version, descriptor.service⟩
  address := provisioner.address descriptor.group descriptor.version

/-- Lets events happen. -/
def happen (gateway : Gateway ω κ) (events : List Event) (world : ω) : Gateway ω κ × ω :=
  let (activity, world) := gateway.activity.run gateway.provisioner events world
  ({ gateway with activity }, world)

/-- What the caller of a call has been told. -/
def answer? (gateway : Gateway ω κ) (index : Nat) : Option Answer :=
  gateway.activity.calls[index]?.bind Call.answer?

/-! ## Calls -/

/-- The events of a call that starts the set and that nobody comes between: it opens the listeners,
serves them one by one, makes that known and announces the addresses. -/
def startEvents (gateway : Gateway ω κ) : List Event :=
  .call .start ::
    List.replicate (gateway.descriptors.length + 3) (.advance gateway.activity.calls.length)

/-- Starts all endpoints. -/
def start (gateway : Gateway ω κ) (world : ω) : Except Fault Unit × Gateway ω κ × ω :=
  let (started, world) := gateway.happen gateway.startEvents world
  match started.answer? gateway.activity.calls.length with
  | some (.started (.error fault)) => (.error fault, started, world)
  | _ =>
    (.ok (), { started with servers := gateway.descriptors.map (serverOf gateway.provisioner) },
      world)

/-- Shuts down the servers whose tasks have been told to stop. -/
def propagate (gateway : Gateway ω κ) : Gateway ω κ :=
  { gateway with
    servers := (gateway.coordinator.tasks.zip gateway.servers).map fun (task, server) =>
      if task.signalled && !server.signal.raised then server.shutdown.2 else server }

/-- Tells all endpoints to stop. -/
def stop (gateway : Gateway ω κ) : Except Fault (Gateway ω κ) :=
  let called := { gateway with activity := gateway.activity.call .stop }
  match called.answer? gateway.activity.calls.length with
  | some (.stopped (.error fault)) => .error fault
  | _ => .ok called.propagate

/-- Begins to wait for all endpoints to stop. -/
def beginWait (gateway : Gateway ω κ) : Except Fault (Gateway ω κ) :=
  let called := { gateway with activity := gateway.activity.call .wait }
  match called.answer? gateway.activity.calls.length with
  | some (.waited (.error fault)) => .error fault
  | _ => .ok called

/-! ## Running on -/

/-- Lets the servers do what there is to do. -/
def settleServers : List (Rpc.Server ω) → ω → List (Rpc.Server ω) × ω
  | [], world => ([], world)
  | server :: rest, world =>
    let (server, world) := server.settle world
    let (rest, world) := settleServers rest world
    (server :: rest, world)

/-- Lets the task of a server whose loop has ended close its listener and report. -/
def finishTask (gateway : Gateway ω κ) (index : Nat) (world : ω) : Gateway ω κ × ω :=
  match gateway.servers[index]? with
  | some server =>
    match server.loop with
    | .ended result =>
      gateway.happen [.taskEnds index result, .taskCloses index, .taskReports index] world
    | .accepting => (gateway, world)
  | none => (gateway, world)

/-- Lets the tasks with the given numbers finish that can. -/
def finishTasks (gateway : Gateway ω κ) : List Nat → ω → Gateway ω κ × ω
  | [], world => (gateway, world)
  | index :: rest, world =>
    let (gateway, world) := gateway.finishTask index world
    finishTasks gateway rest world

/-- The events in which calls go on as far as they can: whoever waits receives what is queued, stops
the set after the first completion, and is told. -/
def attendEvents (gateway : Gateway ω κ) : List Event :=
  (List.range gateway.activity.calls.length).flatMap fun index =>
    List.replicate (gateway.coordinator.queue.length + 4) (.advance index)

/-- Lets everything do what there is to do, once around. -/
def round (gateway : Gateway ω κ) (world : ω) : Gateway ω κ × ω :=
  let gateway := gateway.propagate
  let (servers, world) := settleServers gateway.servers world
  let (gateway, world) :=
    { gateway with servers }.finishTasks (List.range servers.length) world
  let (gateway, world) := gateway.happen gateway.attendEvents world
  let servers := match gateway.coordinator.state with
    | .stopped => gateway.servers.map Rpc.Server.release
    | _ => gateway.servers
  ({ gateway with servers }, world)

/-- Lets everything do what there is to do, a number of times around. -/
def rounds : Nat → Gateway ω κ → ω → Gateway ω κ × ω
  | 0, gateway, world => (gateway, world)
  | count + 1, gateway, world =>
    let (gateway, world) := gateway.round world
    rounds count gateway world

/-- Lets everything do what there is to do. One round may end a server and stop the others, the next
ends those, and the third closes what is left open. -/
def settle (gateway : Gateway ω κ) (world : ω) : Gateway ω κ × ω := rounds 3 gateway world

end Gateway

end StorageGateway.Lifecycle
