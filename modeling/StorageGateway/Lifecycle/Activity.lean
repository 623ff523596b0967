import StorageGateway.Lifecycle.Coordinator

/-!
# Calls of the coordinator

Any number of callers may start, stop and wait at the same time, and tasks end when they like. An
activity is a coordinator together with all calls that were made of it. What happens is told as
events, in any order: somebody makes a call, a call goes on by one step, or something happens to a
task. Nobody can come between what one event does. Starting and waiting take several steps, and
others may come between those. An event that cannot happen changes nothing.
-/

namespace StorageGateway.Lifecycle

/-- What a caller may ask for. -/
inductive Request where
  /-- To start all endpoints. -/
  | start
  /-- To stop all endpoints. -/
  | stop
  /-- To wait until all endpoints have stopped. -/
  | wait
deriving DecidableEq, Repr

/-- What a caller is told in the end. -/
inductive Answer where
  /-- Whether the endpoints were started. -/
  | started (outcome : Except Fault Unit)
  /-- Whether the endpoints were told to stop. -/
  | stopped (outcome : Except Fault Unit)
  /-- Which endpoints failed. -/
  | waited (outcome : Except Fault (List Failure))

/-- How far a call has come. -/
inductive Call (κ : Type) where
  /-- It starts the set and is about to open the listeners. -/
  | opening
  /-- It could not open a listener and is about to make that known. -/
  | refused (fault : Fault)
  /-- It has the listeners left to be served, and the endpoints whose tasks are there. -/
  | spawning (left : List ((String × Version) × κ)) (handles : List Hosted)
  /-- It has started the set and is about to announce the addresses, if anybody is to be told. -/
  | announcing (addresses : List String) (announces : Bool)
  /-- It waits for the first of a number of completions. -/
  | awaiting (expected : Nat)
  /-- It has received the first completion and is about to stop the set. -/
  | cascading (expected : Nat) (failures : List Failure)
  /-- It waits for the other completions. -/
  | collecting (expected received : Nat) (failures : List Failure)
  /-- It has received all completions and is about to make that known. -/
  | concluding (failures : List Failure)
  /-- It is over. -/
  | answered (answer : Answer)

namespace Call

variable {ω κ : Type}

/-- Makes a call: how far it comes in its first step. -/
def make (c : Coordinator κ) : Request → Call κ × Coordinator κ
  | .start =>
    match c.beginStart with
    | .ok begun => (.opening, begun)
    | .error fault => (.answered (.started (.error fault)), c)
  | .stop =>
    match c.stop with
    | .ok stopped => (.answered (.stopped (.ok ())), stopped)
    | .error fault => (.answered (.stopped (.error fault)), c)
  | .wait =>
    match c.beginWait with
    | .ok (expected, waited) =>
      (if expected = 0 then .concluding [] else .awaiting expected, waited)
    | .error fault => (.answered (.waited (.error fault)), c)

/-- Opens all listeners. -/
def openListeners (provisioner : Provisioner ω κ) (c : Coordinator κ) (world : ω) : Call κ × ω :=
  match provisioner.openAll (provisioner.addresses c.endpoints) world with
  | (.ok listeners, opened) => (.spawning (c.endpoints.zip listeners) [], opened)
  | (.error fault, closed) => (.refused fault, closed)

/-- Serves the next listener, and makes it known that the set is running when none is left. -/
def serveNext (provisioner : Provisioner ω κ) (c : Coordinator κ) (handles : List Hosted) :
    List ((String × Version) × κ) → Call κ × Coordinator κ
  | (endpoint, listener) :: left =>
    (.spawning left (handles ++ [⟨provisioner.addressOf listener, c.tasks.length⟩]),
      c.spawn endpoint listener)
  | [] => (.announcing (handles.map Hosted.address) c.announces, c.commit handles)

/-- Stops the set after the first completion. -/
def cascade (c : Coordinator κ) : Coordinator κ :=
  match c.stop with
  | .ok stopped => stopped
  | .error _ => c

/-- The next step of a call. A call that has nothing to do yet stays as it is. -/
def advance (provisioner : Provisioner ω κ) (call : Call κ) (c : Coordinator κ) (world : ω) :
    Call κ × Coordinator κ × ω :=
  match call with
  | .opening =>
    let (call, world) := openListeners provisioner c world
    (call, c, world)
  | .refused fault => (.answered (.started (.error (.startupFailed [fault]))), c.refuse, world)
  | .spawning left handles =>
    let (call, c) := serveNext provisioner c handles left
    (call, c, world)
  | .announcing addresses announces =>
    (.answered (.started (.ok ())), if announces then c.announce addresses else c, world)
  | .awaiting expected =>
    match c.receive with
    | .pending => (.awaiting expected, c, world)
    | .exhausted => (.cascading expected [], c, world)
    | .completion received c => (.cascading expected received.failure?.toList, c, world)
  | .cascading expected failures => (.collecting expected 1 failures, cascade c, world)
  | .collecting expected received failures =>
    if received < expected then
      match c.receive with
      | .pending => (.collecting expected received failures, c, world)
      | .exhausted => (.concluding failures, c, world)
      | .completion next c =>
        (.collecting expected (received + 1) (failures ++ next.failure?.toList), c, world)
    else (.concluding failures, c, world)
  | .concluding failures => (.answered (.waited (.ok failures)), c.conclude, world)
  | .answered answer => (.answered answer, c, world)

/-- What a caller has been told. -/
def answer? : Call κ → Option Answer
  | .answered answer => some answer
  | _ => none

end Call

/-- A coordinator and all calls that were made of it, in order. -/
structure Activity (κ : Type) where
  /-- The coordinator. -/
  coordinator : Coordinator κ
  /-- The calls. -/
  calls : List (Call κ) := []

/-- One step of a call or of a task. -/
inductive Event where
  /-- Somebody makes a call. -/
  | call (request : Request)
  /-- A call goes on. -/
  | advance (index : Nat)
  /-- Serving an endpoint ends. -/
  | taskEnds (index : Nat) (result : Except Fault Unit)
  /-- Its listener is closed. -/
  | taskCloses (index : Nat)
  /-- Its completion is posted. -/
  | taskReports (index : Nat)

namespace Activity

variable {ω κ : Type}

/-- Some endpoints that nobody has started, with somebody who is to be told the addresses or
not. -/
def unstarted (endpoints : List (String × Version)) (announces : Bool) : Activity κ where
  coordinator := { endpoints, announces }

/-- Makes a call. -/
def call (activity : Activity κ) (request : Request) : Activity κ :=
  let (call, coordinator) := Call.make activity.coordinator request
  { coordinator, calls := activity.calls ++ [call] }

/-- Lets a call go on. -/
def advance (provisioner : Provisioner ω κ) (activity : Activity κ) (index : Nat) (world : ω) :
    Activity κ × ω :=
  match activity.calls[index]? with
  | some call =>
    let (call, coordinator, world) := call.advance provisioner activity.coordinator world
    ({ coordinator, calls := activity.calls.set index call }, world)
  | none => (activity, world)

/-- What an event does. -/
def step (provisioner : Provisioner ω κ) (activity : Activity κ) (event : Event) (world : ω) :
    Activity κ × ω :=
  match event with
  | .call request => (activity.call request, world)
  | .advance index => activity.advance provisioner index world
  | .taskEnds index result =>
    ({ activity with coordinator := activity.coordinator.endTask index result }, world)
  | .taskCloses index =>
    let (coordinator, world) := activity.coordinator.closeTask provisioner index world
    ({ activity with coordinator }, world)
  | .taskReports index =>
    ({ activity with coordinator := activity.coordinator.reportTask index }, world)

/-- What events do one after the other. -/
def run (provisioner : Provisioner ω κ) (activity : Activity κ) :
    List Event → ω → Activity κ × ω
  | [], world => (activity, world)
  | event :: events, world =>
    let (activity, world) := activity.step provisioner event world
    run provisioner activity events world

/-- What the callers of `wait` have been told. -/
def told (activity : Activity κ) : List (List Failure) :=
  activity.calls.filterMap fun call =>
    match call with
    | .answered (.waited (.ok failures)) => some failures
    | _ => none

end Activity

end StorageGateway.Lifecycle
