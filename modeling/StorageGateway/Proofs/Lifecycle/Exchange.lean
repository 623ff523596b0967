import StorageGateway.Proofs.Adapter.Responses
import StorageGateway.Proofs.Lifecycle.Routing
import StorageGateway.Proofs.Rpc.Messages

/-!
# Calls over a connection

A caller that has taken all that was sent to it, and whose connection waits for the next request, is
in step with the endpoint. A call from there is one call of the service: the request arrives as it
was made, the service is asked once, and what it gives comes back. Then they are in step again, and
stay so whatever others do.
-/

namespace StorageGateway.Lifecycle

open Rpc (Bytes Connection Endpoint Frame.encode Frame.maxPayload Response Server)
open Host (Machine)
open Json (Readable)

variable {ω κ : Type}

namespace Session

variable {session : Session ω κ} {peer : Peer} {endpoint : Endpoint ω} {connection : Connection}

/-- A peer is connected to an endpoint. -/
def Links (session : Session ω κ) (peer : Peer) (endpoint : Endpoint ω)
    (connection : Connection) : Prop :=
  ∃ server, session.gateway.servers[peer.server]? = some server ∧ server.endpoint = endpoint ∧
    server.connections[peer.connection]? = some connection

/-- A server is put in place of the one that the peer is connected to. -/
theorem Links.set (h : session.Links peer endpoint connection) {server : Server ω} {world : ω}
    {other : Connection} (hendpoint : server.endpoint = endpoint)
    (hother : server.connections[peer.connection]? = some other) :
    (⟨{ session.gateway with servers := session.gateway.servers.set peer.server server }, world⟩ :
      Session ω κ).Links peer endpoint other := by
  obtain ⟨old, hold, -, -⟩ := h
  obtain ⟨hindex, -⟩ := List.getElem?_eq_some_iff.mp hold
  exact ⟨server, List.getElem?_set_self hindex, hendpoint, hother⟩

/-- What is done over other connections leaves this one alone. -/
theorem Links.of_touches (h : session.Links peer endpoint connection) {peer? : Option Peer}
    {after : Session ω κ} (htouches : session.Touches peer? after) (hother : peer? ≠ some peer) :
    after.Links peer endpoint connection := by
  cases htouches with
  | nothing => exact h
  | @server index server rested world hserver hready hendpoint hothers =>
    obtain ⟨own, hown, hserves, hc⟩ := h
    by_cases hsame : index = peer.server
    · subst hsame
      obtain rfl : server = own := Option.some.inj (hserver.symm.trans hown)
      obtain ⟨hindex, -⟩ := List.getElem?_eq_some_iff.mp hown
      exact ⟨rested, List.getElem?_set_self hindex, hendpoint.trans hserves,
        hothers peer.connection connection hother hc⟩
    · exact ⟨own, (List.getElem?_set_ne hsame).trans hown, hserves, hc⟩

theorem Links.hear (h : session.Links peer endpoint connection) :
    ∃ next, session.hear peer = (connection.unheard, connection.isEnded, next) ∧
      next.Links peer endpoint connection.hear ∧ next.world = session.world := by
  obtain ⟨server, hserver, hendpoint, hc⟩ := id h
  obtain ⟨hconnection, -⟩ := List.getElem?_eq_some_iff.mp hc
  have hhear : server.hear peer.connection = (connection.unheard, connection.isEnded,
      server.put peer.connection connection connection.hear) := by
    unfold Server.hear Server.update
    rw [hc]
  have hheard : (server.put peer.connection connection connection.hear).connections[
      peer.connection]? = some connection.hear := List.getElem?_set_self hconnection
  have hsame : (server.put peer.connection connection connection.hear).endpoint = endpoint :=
    hendpoint
  refine ⟨_, ?_, h.set hsame hheard, rfl⟩
  unfold Session.hear
  rw [hserver]
  dsimp only
  rw [hhear]

/-- Where nothing new has been sent, reading changes nothing. -/
theorem Links.hear_of_heard (h : session.Links peer endpoint connection)
    (hheard : connection.heard = connection.sent.length) :
    session.hear peer = ([], connection.isEnded, session) := by
  obtain ⟨server, hserver, -, hc⟩ := h
  obtain ⟨hindex, hget⟩ := List.getElem?_eq_some_iff.mp hserver
  have hunheard : connection.unheard = [] := List.drop_eq_nil_of_le (Nat.le_of_eq hheard.symm)
  have hsame : connection.hear = connection := by
    unfold Connection.hear
    rw [← hheard]
  have hhear : server.hear peer.connection = ([], connection.isEnded, server) := by
    unfold Server.hear Server.update
    rw [hc]
    dsimp only
    rw [hsame, Server.put_self hc, hunheard]
  have hservers : session.gateway.servers.set peer.server server = session.gateway.servers := by
    rw [← hget]
    exact List.set_getElem_self hindex
  unfold Session.hear
  rw [hserver]
  dsimp only
  rw [hhear]
  dsimp only
  rw [hservers]

theorem Links.send (h : session.Links peer endpoint connection) (hquiet : session.gateway.Quiet)
    (hidle : connection.Idle) {payload frame : Bytes}
    (hframe : Frame.encode payload = .ok frame) :
    (session.send peer frame).Links peer endpoint
        (connection.told (endpoint.answer payload session.world).1) ∧
      (session.send peer frame).world = (endpoint.answer payload session.world).2 := by
  obtain ⟨server, hserver, rfl, hc⟩ := id h
  obtain ⟨hconnection, -⟩ := List.getElem?_eq_some_iff.mp hc
  obtain ⟨rested, hsend, -, hendpoint, hconnections⟩ := goesOn_send hquiet hserver hc frame
  rw [hidle.settle_receive hframe] at hsend hconnections
  rw [hsend]
  refine ⟨h.set hendpoint ?_, rfl⟩
  rw [hconnections, List.getElem?_set_self hconnection]

end Session

namespace Caller

variable {session : Session ω κ} {caller : Caller} {endpoint : Endpoint ω}

/-- A caller and an endpoint are in step: the connection waits for a request, and everything that
was sent over it has been taken. -/
structure InStep (caller : Caller) (session : Session ω κ) (endpoint : Endpoint ω) : Prop where
  quiet : session.gateway.Quiet
  linked : ∃ connection, session.Links caller.peer endpoint connection ∧ connection.Idle ∧
    connection.heard = connection.sent.length
  taken : caller.client.arrived = []
  going : caller.client.peerGone = false

/-- There is nothing to be read. -/
theorem InStep.hear (h : caller.InStep session endpoint) :
    caller.hear session = (caller, session) := by
  obtain ⟨connection, hlinks, hidle, hheard⟩ := h.linked
  obtain ⟨⟨address, nextCall, arrived, peerGone⟩, peer⟩ := caller
  obtain rfl : arrived = [] := h.taken
  obtain rfl : peerGone = false := h.going
  unfold Caller.hear
  rw [hlinks.hear_of_heard hheard, hidle.isEnded]
  rfl

/-- Nobody else disturbs them. -/
theorem InStep.visit (h : caller.InStep session endpoint) {visit : Session.Visit}
    (hother : visit.peer? ≠ some caller.peer) : caller.InStep (session.visit visit) endpoint := by
  have htouches := Session.touches_visit h.quiet visit
  obtain ⟨connection, hlinks, hidle, hheard⟩ := h.linked
  exact ⟨(htouches.goesOn h.quiet).quiet,
    ⟨connection, hlinks.of_touches htouches hother, hidle, hheard⟩, h.taken, h.going⟩

/-- Whoever is connected to a server with a slot free is in step with its endpoint. -/
theorem inStep_of_connect {session next : OnHost} {address : String}
    (hquiet : session.gateway.Quiet) (hconnect : connect session address = .ok (caller, next)) :
    next.world = session.world ∧
      ∃ server, session.gateway.servers[caller.peer.server]? = some server ∧
        (server.slots < Server.greatestConnections → caller.InStep next server.endpoint) := by
  unfold connect at hconnect
  split at hconnect
  · cases hconnect
  split at hconnect
  · rename_i peer reached hrouted
    cases hconnect
    obtain ⟨index, -, hto⟩ := Option.bind_eq_some_iff.mp hrouted
    cases hserver : session.gateway.servers[index]? with
    | none =>
      unfold Session.connectTo at hto
      rw [hserver] at hto
      cases hto
    | some server =>
      obtain ⟨after, connection, hconnected, hgoes, hworld, hconnection, hidle⟩ :=
        Session.goesOn_connectTo hquiet hserver
      rw [hconnected] at hto
      cases hto
      refine ⟨hworld, server, hserver, fun hslots => ?_⟩
      obtain ⟨current, hcurrent, hc⟩ := Option.bind_eq_some_iff.mp hconnection
      have hendpoint : current.endpoint = server.endpoint := by
        have hsame := congrArg (·[index]?) hgoes.endpoints
        simpa [hserver, hcurrent] using hsame
      obtain ⟨hidle, hheard⟩ := hidle hslots
      exact ⟨hgoes.quiet, ⟨connection, ⟨current, hcurrent, hendpoint, hc⟩, hidle, hheard⟩, rfl, rfl⟩
  · cases hconnect

/-- A call is answered as the endpoint answers its payload, and the next one can follow. -/
theorem InStep.call (h : caller.InStep session endpoint) {method : String} {params : Json}
    {response : Response} {world : ω}
    (hanswer : endpoint.answer (Rpc.Client.payload caller.client.number.1 method params)
      session.world = (response, world))
    (hrequest : (Rpc.Client.payload caller.client.number.1 method params).length ≤ Frame.maxPayload)
    (hresponse : (Text.Utf8.encode response.text).length ≤ Frame.maxPayload) :
    ∃ after, caller.call method params session =
        (some (Rpc.Client.outcome (Text.Utf8.encode response.text)),
          { caller with client := caller.client.number.2 }, after) ∧
      after.world = world ∧
      InStep { caller with client := caller.client.number.2 } after endpoint := by
  obtain ⟨connection, hlinks, hidle, hheard⟩ := h.linked
  obtain ⟨request, hframe⟩ : ∃ request, Frame.encode
      (Rpc.Client.payload caller.client.number.1 method params) = .ok request :=
    ⟨_, Rpc.Frame.encode_eq_ok_iff.mpr ⟨hrequest, rfl⟩⟩
  obtain ⟨reply, hreply⟩ : ∃ reply, Frame.encode (Text.Utf8.encode response.text) = .ok reply :=
    ⟨_, Rpc.Frame.encode_eq_ok_iff.mpr ⟨hresponse, rfl⟩⟩
  obtain ⟨hsent, hworld⟩ := hlinks.send h.quiet hidle hframe
  rw [hanswer] at hsent hworld
  obtain ⟨after, hread, hafter, hsame⟩ := hsent.hear
  have hquiet : after.gateway.Quiet := by
    have hgoes := (Session.touches_send h.quiet caller.peer request).goesOn h.quiet
    have hreading := (Session.touches_hear hgoes.quiet caller.peer).goesOn hgoes.quiet
    rw [hread] at hreading
    exact hreading.quiet
  obtain ⟨hidle', hunheard⟩ := hidle.told_of_encode hheard hreply
  rw [hunheard, hidle'.isEnded] at hread
  -- Giving a call its number changes nothing else about the client.
  have hgoing : caller.client.number.2.peerGone = false := h.going
  have htaken : caller.client.number.2.arrived = [] := h.taken
  refine ⟨after, ?_, hsame.trans hworld, hquiet,
    ⟨_, hafter, hidle'.hear, Connection.heard_hear _⟩, htaken, hgoing⟩
  have hasked : caller.client.number.2.request caller.client.number.1 method params = .ok request :=
    Rpc.Client.request_of_going hgoing hframe
  have hheard : Caller.hear { caller with client := caller.client.number.2 }
      (session.send caller.peer request) =
        ({ caller with client := caller.client.number.2.receive reply false }, after) := by
    unfold Caller.hear
    rw [hread]
  have hanswered := Rpc.Client.takeAnswer_receive hgoing htaken hreply
  unfold Caller.call
  rw [h.hear]
  dsimp only
  rw [hasked]
  dsimp only
  rw [hheard]
  dsimp only
  rw [hanswered]

end Caller

/-! ## Calls of adapters -/

variable {adapter : Adapter ω} {id : Nat} {method : String} {params : Json} {room : Nat}
  {outcome : Except Fault Json} {world after : ω}

theorem answer_payload (hparams : Readable room params) (hroom : room < Json.greatestDepth)
    (hid : id < 2 ^ 64) (hmethod : method ≠ Endpoint.healthMethod)
    (hcall : (adapter.call method (params.present?.getD (.object []))).perform world =
      (outcome, after)) :
    (endpointOf adapter).answer (Rpc.Client.payload id method params) world =
      (answerOf (some (.nat id)) outcome, after) := by
  unfold Endpoint.answer
  rw [Rpc.ofBytes_payload hparams hroom hid method]
  dsimp only
  rw [if_neg (not_not.mpr rfl), respond_of_ne_health adapter hmethod]
  exact congrArg (fun performed => (answerOf (some (.nat id)) performed.1, performed.2)) hcall

/-- What an adapter gives reaches whoever called: a result as it is, of a fault its code, its
message and its fields. -/
theorem outcome_answerOf (htells : ∀ route ∈ adapter.routes, route.Tells) (hid : id < 2 ^ 64)
    (hcall : (adapter.call method params).perform world = (outcome, after)) :
    Rpc.Client.outcome (Text.Utf8.encode (answerOf (some (.nat id)) outcome).text) =
      outcome.mapError Fault.told := by
  cases outcome with
  | error fault => exact Rpc.outcome_ofFault fault hid
  | ok result =>
    obtain ⟨hreadable, hresult⟩ := Adapter.tells_of_call htells hcall
    exact Rpc.outcome_success hreadable (by decide) hresult hid

section Calls

variable {session : Session ω κ} {caller : Caller}

/-- A call over a connection is one call of the adapter, unless it asks whether the endpoint is
well. -/
theorem Caller.InStep.call_adapter (hstep : caller.InStep session (endpointOf adapter))
    (htells : ∀ route ∈ adapter.routes, route.Tells)
    (hmethod : method ≠ Endpoint.healthMethod) (hparams : Readable room params)
    (hroom : room < Json.greatestDepth)
    (hcall : (adapter.call method (params.present?.getD (.object []))).perform session.world =
      (outcome, after))
    (hrequest : (Rpc.Client.payload caller.client.number.1 method params).length ≤ Frame.maxPayload)
    (hresponse : (Text.Utf8.encode
      (answerOf (some (.nat caller.client.number.1)) outcome).text).length ≤ Frame.maxPayload) :
    ∃ next, caller.call method params session =
        (some (outcome.mapError Fault.told),
          { caller with client := caller.client.number.2 }, next) ∧
      next.world = after ∧
      Caller.InStep { caller with client := caller.client.number.2 } next (endpointOf adapter) := by
  have hnumber := caller.client.number_lt
  have hanswer := answer_payload hparams hroom hnumber hmethod hcall
  obtain ⟨next, hnext, hworld, hagain⟩ := hstep.call hanswer hrequest hresponse
  rw [outcome_answerOf htells hnumber hcall] at hnext
  exact ⟨next, hnext, hworld, hagain⟩

/-- Makes calls one after the other. -/
def Caller.callAll (caller : Caller) : List (String × Json) → Session ω κ →
    List (Option (Except Fault Json)) × Caller × Session ω κ
  | [], session => ([], caller, session)
  | (method, params) :: calls, session =>
    let (outcome, next, session) := caller.call method params session
    let (outcomes, last, session) := next.callAll calls session
    (outcome :: outcomes, last, session)

/-- The calls of an adapter that calls over a connection stand for. -/
def asked (adapter : Adapter ω) (calls : List (String × Json)) : List (Adapter.Call ω) :=
  calls.map fun call => ⟨adapter, call.1, call.2.present?.getD (.object [])⟩

/-- Calls over a connection, one after the other, are the calls of the adapter, one after the
other. -/
theorem Caller.InStep.callAll_adapter (hstep : caller.InStep session (endpointOf adapter))
    (htells : ∀ route ∈ adapter.routes, route.Tells) {calls : List (String × Json)}
    (hroom : room < Json.greatestDepth)
    (hcalls : ∀ call ∈ calls, call.1 ≠ Endpoint.healthMethod ∧ Readable room call.2 ∧
      ∀ id < 2 ^ 64, (Rpc.Client.payload id call.1 call.2).length ≤ Frame.maxPayload)
    (houtcomes : ∀ outcome ∈ (Adapter.session (asked adapter calls) session.world).1,
      ∀ id < 2 ^ 64, (Text.Utf8.encode (answerOf (some (.nat id)) outcome).text).length ≤
        Frame.maxPayload) :
    ∃ last final, caller.callAll calls session =
        ((Adapter.session (asked adapter calls) session.world).1.map
          fun outcome => some (outcome.mapError Fault.told), last, final) ∧
      final.world = (Adapter.session (asked adapter calls) session.world).2 ∧
      last.InStep final (endpointOf adapter) := by
  -- What carries the induction is that each call leaves both in step, in the world it has made.
  induction calls generalizing caller session with
  | nil => exact ⟨caller, session, rfl, rfl, hstep⟩
  | cons call calls ih =>
    obtain ⟨method, params⟩ := call
    obtain ⟨⟨hmethod, hparams, hrequest⟩, hcalls⟩ := List.forall_mem_cons.mp hcalls
    obtain ⟨hresponse, houtcomes⟩ := List.forall_mem_cons.mp houtcomes
    have hnumber := caller.client.number_lt
    obtain ⟨next, hnext, hworld, hagain⟩ := hstep.call_adapter htells hmethod hparams hroom rfl
      (hrequest _ hnumber) (hresponse _ hnumber)
    obtain ⟨last, final, hrest, hfinal, hlast⟩ := ih hagain hcalls (hworld ▸ houtcomes)
    rw [hworld] at hrest hfinal
    refine ⟨last, final, ?_, hfinal, hlast⟩
    unfold Caller.callAll
    rw [hnext]
    dsimp only
    rw [hrest]
    rfl

/-- Whichever API is called at whichever version, and whatever is behind it: `Caller.call` over a
connection is one `Adapter.call`, unless it asks whether the endpoint is well. The adapter gets the
parameters as they are, and an empty object when they are `null`; the world is what this one call
makes of it; a result comes back as it is, and a fault as `Fault.told` has it, with its code, its
message and its fields. -/
theorem call_over_connection_eq_call {roots : Roots} {shipped : Adapter Machine}
    (hshipped : shipped ∈ allAdapters roots) {implementation : Implementation Machine ω}
    (hstep : caller.InStep session (endpointOf (shipped.servedBy implementation)))
    (hmethod : method ≠ Endpoint.healthMethod) (hparams : Readable room params)
    (hroom : room < Json.greatestDepth)
    (hcall : ((shipped.servedBy implementation).call method
      (params.present?.getD (.object []))).perform session.world = (outcome, after))
    (hrequest : (Rpc.Client.payload caller.client.number.1 method params).length ≤ Frame.maxPayload)
    (hresponse : (Text.Utf8.encode
      (answerOf (some (.nat caller.client.number.1)) outcome).text).length ≤ Frame.maxPayload) :
    ∃ next, caller.call method params session =
        (some (outcome.mapError Fault.told),
          { caller with client := caller.client.number.2 }, next) ∧
      next.world = after ∧
      Caller.InStep { caller with client := caller.client.number.2 } next
        (endpointOf (shipped.servedBy implementation)) :=
  hstep.call_adapter (tells_of_servedBy hshipped implementation) hmethod hparams hroom hcall
    hrequest hresponse

end Calls

/-- An adapter is what it is with its own implementation behind it. -/
theorem servedBy_invoke (adapter : Adapter ω) : adapter.servedBy Route.invoke = adapter :=
  congrArg (Adapter.mk adapter.group adapter.version) (List.map_id adapter.routes)

/-- A machine whose disks are all online. -/
def onlineMachine : Machine where
  shell := { answer _ _ := .ok "\x7b\"Size\": 1024, \"IsOffline\": false\x7d" }

/-- The disk endpoints, started below a directory of the machine. -/
def onlineDisks : Except Fault Unit × Caller.OnHost :=
  Session.start ⟨hosting "/s" Disk.adapters, onlineMachine⟩

/-- Whoever connects to the stable endpoint is in step with it, and has made no call. -/
theorem inStep_onlineDisks :
    ∃ caller session, Caller.connect onlineDisks.2 "/s/disk-v1.sock" = .ok (caller, session) ∧
      caller.InStep session (endpointOf Disk.stableAdapter) ∧ caller.client.nextCall = 1 ∧
      session.world = onlineDisks.2.world := by
  have hstart : Session.start ⟨hosting "/s" Disk.adapters, onlineMachine⟩ =
      (.ok (), onlineDisks.2) := Prod.ext rfl rfl
  have hreached : ((Caller.connect onlineDisks.2 "/s/disk-v1.sock").map fun connected =>
      (connected.1.peer.server, connected.1.client.nextCall)).toOption = some (1, 1) := by
    decide +kernel
  have hslots : onlineDisks.2.gateway.servers[1]?.map Server.slots = some 0 := by decide +kernel
  obtain ⟨listeners, hserves, -⟩ := serves_of_start plain_diskAdapters distinct_diskAdapters hstart
  have hstable : Disk.adapters[1]? = some Disk.stableAdapter := rfl
  obtain ⟨server, hserver, hendpoint⟩ := hserves.exists_server hstable
  rw [hserver] at hslots
  have hfree : server.slots < Server.greatestConnections := by
    rw [Option.some.inj hslots]
    decide
  cases hconnect : Caller.connect onlineDisks.2 "/s/disk-v1.sock" with
  | error fault =>
    rw [hconnect] at hreached
    cases hreached
  | ok connected =>
    obtain ⟨caller, session⟩ := connected
    rw [hconnect] at hreached
    obtain ⟨hpeer, hnumber⟩ := Prod.mk.inj (Option.some.inj hreached)
    obtain ⟨hworld, reached, hthere, hstep⟩ := Caller.inStep_of_connect hserves.quiet hconnect
    rw [hpeer] at hthere
    obtain rfl : server = reached := Option.some.inj (hserver.symm.trans hthere)
    exact ⟨caller, session, rfl, hendpoint ▸ hstep hfree, hnumber, hworld⟩

/-- Parameters that name a disk. -/
def diskSeven : Json := .object [("disk_number", .nat 7)]

theorem disk_state_comes_over_connection :
    Disk.stableAdapter ∈ allAdapters ⟨["kubelet"], ["plugin"]⟩ ∧
    "GetDiskState" ≠ Endpoint.healthMethod ∧ Readable 1 diskSeven ∧ 1 < Json.greatestDepth ∧
    ∃ caller session response next,
      Caller.connect onlineDisks.2 "/s/disk-v1.sock" = .ok (caller, session) ∧
      caller.InStep session (endpointOf (Disk.stableAdapter.servedBy Route.invoke)) ∧
      caller.call "GetDiskState" diskSeven session =
        (some (.ok response), { caller with client := caller.client.number.2 }, next) ∧
      response.render = "\x7b\"is_online\":true\x7d" ∧
      next.world.shell.ran =
        [⟨"Get-Disk -Number 7 | Select-Object Size, IsOffline | ConvertTo-Json", []⟩] := by
  have hshipped : Disk.stableAdapter ∈ allAdapters ⟨["kubelet"], ["plugin"]⟩ :=
    List.mem_flatMap.mpr ⟨.disk, by decide, .tail _ (.head _)⟩
  have hmethod : "GetDiskState" ≠ Endpoint.healthMethod := by decide
  have hseven : Readable 0 (.nat 7) :=
    .number 0 (Json.Token.numberReadsBack_int (by decide) (by decide))
  have hparams : Readable 1 diskSeven :=
    .object (List.pairwise_singleton _ _) (by simpa using hseven)
  have hroom : 1 < Json.greatestDepth := by decide
  obtain ⟨caller, session, hconnect, hin, hfirst, hworld⟩ := inStep_onlineDisks
  have hstep : caller.InStep session (endpointOf (Disk.stableAdapter.servedBy Route.invoke)) := by
    rw [servedBy_invoke]
    exact hin
  have hnumber : caller.client.number.1 = 1 := congrArg UInt64.toNat hfirst
  have hrequest : (Rpc.Client.payload caller.client.number.1 "GetDiskState" diskSeven).length ≤
      Frame.maxPayload := by
    rw [hnumber]
    decide +kernel
  -- What the adapter does is computed before the call is.
  have hgives : ((Disk.stableAdapter.call "GetDiskState" diskSeven).perform
      onlineDisks.2.world).1.toOption.map Json.render = some "\x7b\"is_online\":true\x7d" := by
    decide +kernel
  have hran : ((Disk.stableAdapter.call "GetDiskState" diskSeven).perform
      onlineDisks.2.world).2.shell.ran =
        [⟨"Get-Disk -Number 7 | Select-Object Size, IsOffline | ConvertTo-Json", []⟩] := by
    decide +kernel
  have hfits : (Text.Utf8.encode (answerOf (some (.nat 1))
      ((Disk.stableAdapter.call "GetDiskState" diskSeven).perform
        onlineDisks.2.world).1).text).length ≤ Frame.maxPayload := by
    decide +kernel
  rcases hdone : (Disk.stableAdapter.call "GetDiskState" diskSeven).perform
    onlineDisks.2.world with ⟨fault | response, after⟩
  · rw [hdone] at hgives
    cases hgives
  · rw [hdone] at hgives hran hfits
    have hcall : ((Disk.stableAdapter.servedBy Route.invoke).call "GetDiskState"
        (diskSeven.present?.getD (.object []))).perform session.world = (.ok response, after) := by
      rw [servedBy_invoke, hworld]
      exact hdone
    obtain ⟨next, hnext, rfl, -⟩ := call_over_connection_eq_call hshipped hstep hmethod hparams
      hroom hcall hrequest (by rw [hnumber]; exact hfits)
    exact ⟨hshipped, hmethod, hparams, hroom, caller, session, response, next, hconnect, hstep,
      hnext, Option.some.inj hgives, hran⟩

end StorageGateway.Lifecycle
