import StorageGateway.Lifecycle.Provisioner

/-!
# The coordinator

The coordinator starts, watches and stops a fixed set of endpoints as a unit. This module holds what
its callers and tasks share: how far the set has come, the endpoints that are hosted, the channel on
which tasks report, and the tasks. Every operation here is one step that nobody can come between;
what callers make of them is told in `Lifecycle.Activity`.
-/

namespace StorageGateway.Lifecycle

/-- How far the set of endpoints has come. -/
inductive State where
  /-- Nobody has started it. -/
  | unstarted
  /-- Somebody is starting it. -/
  | starting
  /-- All endpoints are served. -/
  | running
  /-- All endpoints have been told to stop. -/
  | stopping
  /-- All endpoints have stopped. -/
  | stopped
  /-- Not all listeners could be opened. -/
  | failedToStart
deriving DecidableEq, Repr

/-- The words for a state. -/
def State.words : State → String
  | .unstarted => "unstarted"
  | .starting => "starting"
  | .running => "running"
  | .stopping => "stopping"
  | .stopped => "stopped"
  | .failedToStart => "failed to start"

/-- An endpoint that failed. -/
structure Failure where
  /-- The name of the group. -/
  group : String
  /-- The version. -/
  version : Version
  /-- Why it failed. -/
  fault : Fault

/-- A failure in words. -/
def Failure.describe (failure : Failure) : String :=
  failure.group ++ " " ++ failure.version.text ++ ": " ++ failure.fault.message

/-- How a task ended. -/
structure Completion where
  /-- The name of the group. -/
  group : String
  /-- The version. -/
  version : Version
  /-- A fault when the endpoint failed. -/
  result : Except Fault Unit

/-- The failure that a completion tells of. -/
def Completion.failure? (completion : Completion) : Option Failure :=
  match completion.result with
  | .ok () => none
  | .error fault => some ⟨completion.group, completion.version, fault⟩

/-- How far a task has come. -/
inductive Progress where
  /-- The endpoint is served. -/
  | serving
  /-- Serving has ended. -/
  | ended (result : Except Fault Unit)
  /-- The listener has been closed as well. -/
  | closed (result : Except Fault Unit)
  /-- The completion has been posted, and the task is over. -/
  | reported (result : Except Fault Unit)

/-- Whether a task is over. -/
def Progress.isReported : Progress → Bool
  | .reported _ => true
  | _ => false

/-- The task that serves an endpoint. -/
structure Task (κ : Type) where
  /-- The endpoint: the name of its group, and its version. -/
  endpoint : String × Version
  /-- The listener. -/
  listener : κ
  /-- How far it has come. -/
  progress : Progress := .serving
  /-- Whether it has been told to stop. -/
  signalled : Bool := false

/-- The completion of a task that ended with a result. -/
def Task.completion {κ : Type} (task : Task κ) (result : Except Fault Unit) : Completion :=
  ⟨task.endpoint.1, task.endpoint.2, result⟩

/-- An endpoint that is hosted. -/
structure Hosted where
  /-- The address that is listened on. -/
  address : String
  /-- The number of the task, which can be told to stop. -/
  task : Nat

/-- Where the receiving end of the completions is. -/
inductive Receiver where
  /-- There is none yet. -/
  | absent
  /-- Nobody has it. -/
  | free
  /-- Somebody waits with it. -/
  | taken
  /-- Whoever waited has given it up. -/
  | dropped
deriving DecidableEq, Repr

/-- What callers and tasks share. -/
structure Coordinator (κ : Type) where
  /-- The endpoints: the names of their groups, and versions. -/
  endpoints : List (String × Version)
  /-- Whether somebody is still to be told the addresses that are listened on. -/
  announces : Bool := true
  /-- How far the set has come. -/
  state : State := .unstarted
  /-- The endpoints that are hosted. -/
  handles : List Hosted := []
  /-- Where the receiving end of the completions is. -/
  receiver : Receiver := .absent
  /-- The completions that nobody has received. -/
  queue : List Completion := []
  /-- The tasks. -/
  tasks : List (Task κ) := []
  /-- The lists of addresses that were announced. -/
  heard : List (List String) := []

namespace Coordinator

variable {ω κ : Type}

/-- The addresses of the endpoints that are hosted. -/
def hosted (c : Coordinator κ) : List String := c.handles.map Hosted.address

/-! ## Starting -/

/-- Lets a call start the set, if it is the first one. -/
def beginStart (c : Coordinator κ) : Except Fault (Coordinator κ) :=
  match c.state with
  | .unstarted => .ok { c with state := .starting }
  | _ => .error .alreadyStarted

/-- Makes it known that the set cannot be started. -/
def refuse (c : Coordinator κ) : Coordinator κ := { c with state := .failedToStart }

/-- Starts the task of an endpoint. -/
def spawn (c : Coordinator κ) (endpoint : String × Version) (listener : κ) : Coordinator κ :=
  { c with tasks := c.tasks ++ [{ endpoint, listener }] }

/-- Makes it known that the set is running. Who is told the addresses is told no second time. -/
def commit (c : Coordinator κ) (handles : List Hosted) : Coordinator κ :=
  { c with handles, receiver := .free, state := .running, announces := false }

/-- Announces the addresses that are listened on. -/
def announce (c : Coordinator κ) (addresses : List String) : Coordinator κ :=
  { c with heard := c.heard ++ [addresses] }

/-! ## Stopping -/

/-- The tasks, after the hosted endpoints have been told to stop. -/
def signalled (c : Coordinator κ) : List (Task κ) :=
  c.tasks.mapIdx fun index task =>
    if c.handles.any fun handle => handle.task == index then { task with signalled := true }
    else task

/-- Tells all endpoints to stop. -/
def stop (c : Coordinator κ) : Except Fault (Coordinator κ) :=
  match c.state with
  | .running => .ok { c with state := .stopping, tasks := c.signalled }
  | .stopping | .stopped => .ok c
  | _ => .error .notStarted

/-! ## Waiting -/

/-- Lets a call wait for the set, if no other does, and tells it how many completions there will
be. -/
def beginWait (c : Coordinator κ) : Except Fault (Nat × Coordinator κ) :=
  match c.state with
  | .running | .stopping =>
    match c.receiver with
    | .free => .ok (c.handles.length, { c with receiver := .taken })
    | _ => .error (.other "coordinator is already being waited on")
  | _ => .error .notStarted

/-- What the receiving end of the completions gives. -/
inductive Reception (κ : Type) where
  /-- Nothing yet. -/
  | pending
  /-- Nothing any more, since all tasks are over. -/
  | exhausted
  /-- A completion, which is no longer in the queue. -/
  | completion (received : Completion) (left : Coordinator κ)

/-- Receives a completion. -/
def receive (c : Coordinator κ) : Reception κ :=
  match c.queue with
  | received :: queue => .completion received { c with queue }
  | [] => if c.tasks.all fun task => task.progress.isReported then .exhausted else .pending

/-- Makes it known that all endpoints have stopped. -/
def conclude (c : Coordinator κ) : Coordinator κ :=
  { c with state := .stopped, handles := [], receiver := .dropped }

/-! ## Tasks -/

/-- The number of completions that may be queued. -/
def capacity (c : Coordinator κ) : Nat := max c.endpoints.length 1

/-- Changes a task. -/
def updateTask (c : Coordinator κ) (index : Nat) (task : Task κ) : Coordinator κ :=
  { c with tasks := c.tasks.set index task }

/-- Serving an endpoint ends. -/
def endTask (c : Coordinator κ) (index : Nat) (result : Except Fault Unit) : Coordinator κ :=
  match c.tasks[index]? with
  | some task =>
    match task.progress with
    | .serving => c.updateTask index { task with progress := .ended result }
    | _ => c
  | none => c

/-- The listener of an endpoint that is no longer served is closed. -/
def closeTask (provisioner : Provisioner ω κ) (c : Coordinator κ) (index : Nat) (world : ω) :
    Coordinator κ × ω :=
  match c.tasks[index]? with
  | some task =>
    match task.progress with
    | .ended result =>
      (c.updateTask index { task with progress := .closed result },
        (provisioner.close task.listener world).2)
    | _ => (c, world)
  | none => (c, world)

/-- A task posts its completion, as soon as there is room for it. When nobody can receive it any
more, it is lost. -/
def reportTask (c : Coordinator κ) (index : Nat) : Coordinator κ :=
  match c.tasks[index]? with
  | some task =>
    match task.progress with
    | .closed result =>
      let reported := c.updateTask index { task with progress := .reported result }
      if c.receiver = .dropped then reported
      else if c.queue.length < c.capacity then
        { reported with queue := c.queue ++ [task.completion result] }
      else c
    | _ => c
  | none => c

end Coordinator

end StorageGateway.Lifecycle
