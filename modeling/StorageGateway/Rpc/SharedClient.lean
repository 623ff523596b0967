import StorageGateway.Rpc.Client

/-!
# Shared clients

Any number of tasks may call over one client. A call is given its number at once, and then waits for
the stream. Whichever call takes the stream has it to itself: it sends its request, waits for the
answer, and leaves the stream to the next. A call whose request cannot be sent leaves it without
waiting. So the numbers need not reach the peer in their order.

The peer takes one request after the other, writes something in reply to each, and may hang up at
any time; what it has written arrives in pieces of any size.

What happens is told as events, in any order; an event that cannot happen changes nothing.
-/

namespace StorageGateway.Rpc

/-- How far a call over a shared client has come. -/
inductive Turn where
  /-- It waits for the stream. -/
  | waiting
  /-- It has the stream, and is about to send its request. -/
  | sending
  /-- It has the stream, and waits for the answer. -/
  | listening
  /-- It is over. -/
  | ended (outcome : Except Fault Json)

/-- A call over a shared client. -/
structure SharedCall where
  /-- Its number. -/
  number : Nat
  /-- The method. -/
  method : String
  /-- The parameters. -/
  params : Json
  /-- How far it has come. -/
  turn : Turn := .waiting

/-- The payload of a call. -/
def SharedCall.payload (call : SharedCall) : Bytes :=
  Client.payload call.number call.method call.params

/-- A client with all calls that were made over it, and what is under way between it and its
peer. -/
structure SharedClient where
  /-- The client. -/
  client : Client
  /-- The calls, in the order in which they were made. -/
  calls : List SharedCall := []
  /-- The call that has the stream. -/
  holder : Option Nat := none
  /-- The calls whose requests were sent, in that order. -/
  sent : List Nat := []
  /-- The bytes that were sent and that the peer has not taken. -/
  requests : Bytes := []
  /-- The requests that the peer has taken, each with what it wrote in reply. -/
  served : List (Bytes × Bytes) := []
  /-- The bytes in reply that have not arrived. -/
  replies : Bytes := []

namespace SharedClient

/-- A client that nobody has called over. -/
def connected (address : String) : SharedClient := { client := { address } }

/-! ## The calls -/

/-- A task makes a call. -/
def call (shared : SharedClient) (method : String) (params : Json) : SharedClient :=
  let (number, client) := shared.client.number
  { shared with client, calls := shared.calls ++ [{ number, method, params }] }

/-- Lets a call go on that has come so far. -/
def proceed (shared : SharedClient) (index : Nat) (call : SharedCall) (turn : Turn) :
    SharedClient :=
  { shared with calls := shared.calls.set index { call with turn } }

/-- Ends a call, which leaves the stream. -/
def leave (shared : SharedClient) (index : Nat) (call : SharedCall)
    (outcome : Except Fault Json) : SharedClient :=
  { shared.proceed index call (.ended outcome) with holder := none }

/-- A call takes the stream. -/
def acquire (shared : SharedClient) (index : Nat) : SharedClient :=
  match shared.calls[index]?, shared.holder with
  | some call, none =>
    match call.turn with
    | .waiting => { shared.proceed index call .sending with holder := some index }
    | _ => shared
  | _, _ => shared

/-- A call sends its request. -/
def send (shared : SharedClient) (index : Nat) : SharedClient :=
  match shared.calls[index]? with
  | some call =>
    match call.turn with
    | .sending =>
      match shared.client.request call.number call.method call.params with
      | .error fault => shared.leave index call (.error fault)
      | .ok frame =>
        { shared.proceed index call .listening with
          sent := shared.sent ++ [index], requests := shared.requests ++ frame }
    | _ => shared
  | none => shared

/-- A call takes its answer when there is one, or notices that there will be none. -/
def listen (shared : SharedClient) (index : Nat) : SharedClient :=
  match shared.calls[index]? with
  | some call =>
    match call.turn with
    | .listening =>
      match shared.client.takeAnswer with
      | some (outcome, client) => { shared with client }.leave index call outcome
      | none => shared
    | _ => shared
  | none => shared

/-! ## The peer -/

/-- The peer takes a request and writes something in reply. -/
def reply (shared : SharedClient) (bytes : Bytes) : SharedClient :=
  if shared.client.peerGone then shared
  else
    match Frame.front shared.requests with
    | .frame request rest =>
      { shared with
        requests := rest
        served := shared.served ++ [(request, bytes)]
        replies := shared.replies ++ bytes }
    | _ => shared

/-- Some of what the peer has written arrives. -/
def arrive (shared : SharedClient) (count : Nat) : SharedClient :=
  { shared with
    client := shared.client.receive (shared.replies.take count) false
    replies := shared.replies.drop count }

/-- The peer hangs up. What has not arrived by then never will. -/
def hangUp (shared : SharedClient) : SharedClient :=
  { shared with client := shared.client.receive [] true, replies := [] }

/-! ## Events -/

/-- Something that happens to a shared client. -/
inductive Event where
  /-- A task makes a call. -/
  | call (method : String) (params : Json)
  /-- A call takes the stream. -/
  | acquire (index : Nat)
  /-- A call sends its request. -/
  | send (index : Nat)
  /-- A call takes its answer. -/
  | listen (index : Nat)
  /-- The peer replies to a request. -/
  | reply (bytes : Bytes)
  /-- Bytes arrive. -/
  | arrive (count : Nat)
  /-- The peer hangs up. -/
  | hangUp

/-- What an event does. -/
def step (shared : SharedClient) : Event → SharedClient
  | .call method params => shared.call method params
  | .acquire index => shared.acquire index
  | .send index => shared.send index
  | .listen index => shared.listen index
  | .reply bytes => shared.reply bytes
  | .arrive count => shared.arrive count
  | .hangUp => shared.hangUp

/-- What events do one after the other. -/
def run (shared : SharedClient) (events : List Event) : SharedClient := events.foldl step shared

end SharedClient

end StorageGateway.Rpc
