import StorageGateway.Disk.Adapters
import StorageGateway.Lifecycle.Caller
import StorageGateway.Proofs.Adapter.Calls
import StorageGateway.Proofs.Host.Rejection
import StorageGateway.Proofs.Lifecycle.Opening

/-!
# Addresses lead to their adapters

A gateway of adapters over sockets below a directory: each adapter has an address of its own, its
listener is opened in the order of the adapters, and its server has its service. So whoever connects
to the address of an adapter and sends a request is answered by that adapter, in its version, and by
no other, for as long as the set runs.
-/

namespace StorageGateway.Lifecycle

open Endpoint Host Rpc

/-! ## What an adapter answers -/

/-- The answer to a request with a given outcome. -/
def answerOf (id : Option Json) : Except Fault Json → Response
  | .ok result => .success id result
  | .error fault => .ofFault id fault

/-- What an endpoint of an adapter answers to a request, and the world afterwards. The question
whether it is well is answered with its group and version. Everything else is up to the route of the
method, whose implementation is invoked once, with the version, if a request gets through to it. -/
inductive Answers {σ : Type} (adapter : Adapter σ) (request : Rpc.Request) (world : σ) :
    Response → σ → Prop
  | health (hmethod : request.method = Rpc.Endpoint.healthMethod) :
      Answers adapter request world
        (.success request.id (.object [("group", .string adapter.group), ("status", .string "ok"),
          ("version", .string adapter.version.text)])) world
  | unknown (hmethod : request.method ≠ Rpc.Endpoint.healthMethod)
      (hroute : adapter.route? request.method = none) :
      Answers adapter request world (.ofFault request.id (.methodNotFound request.method)) world
  | refused {route : Route σ} {fault : Fault}
      (hmethod : request.method ≠ Rpc.Endpoint.healthMethod)
      (hroute : adapter.route? request.method = some route)
      (hrefuses : route.Refuses adapter.version (Rpc.Endpoint.parameters request) fault) :
      Answers adapter request world (.ofFault request.id fault) world
  | invoked {route : Route σ} {wanted : route.Request}
      (hmethod : request.method ≠ Rpc.Endpoint.healthMethod)
      (hroute : adapter.route? request.method = some route)
      (htakes : route.Takes adapter.version (Rpc.Endpoint.parameters request) wanted) :
      Answers adapter request world
        (answerOf request.id
          (((route.invoke wanted adapter.version).perform world).1.bind route.deliver))
        ((route.invoke wanted adapter.version).perform world).2

/-- The endpoint of an adapter. -/
def endpointOf {σ : Type} (adapter : Adapter σ) : Rpc.Endpoint σ :=
  ⟨adapter.group, adapter.version, some adapter.call⟩

/-- Unless it is asked whether it is well, an endpoint of an adapter calls the adapter, once. -/
theorem respond_of_ne_health {σ : Type} (adapter : Adapter σ) {request : Rpc.Request}
    (hmethod : request.method ≠ Rpc.Endpoint.healthMethod) (world : σ) :
    (endpointOf adapter).respond request world =
      (answerOf request.id
        ((adapter.call request.method (Rpc.Endpoint.parameters request)).perform world).1,
      ((adapter.call request.method (Rpc.Endpoint.parameters request)).perform world).2) := by
  unfold Rpc.Endpoint.respond
  rw [if_neg hmethod]
  have hserve : (endpointOf adapter).serve request =
      adapter.call request.method (Rpc.Endpoint.parameters request) := rfl
  rw [hserve]
  rcases (adapter.call request.method (Rpc.Endpoint.parameters request)).perform world with
    ⟨fault | result, after⟩ <;> rfl

theorem answers_respond {σ : Type} (adapter : Adapter σ) (request : Rpc.Request) (world : σ) :
    Answers adapter request world ((endpointOf adapter).respond request world).1
      ((endpointOf adapter).respond request world).2 := by
  by_cases hmethod : request.method = Rpc.Endpoint.healthMethod
  · have hrespond : (endpointOf adapter).respond request world =
        (.success request.id (endpointOf adapter).health, world) := if_pos hmethod
    rw [hrespond]
    exact .health hmethod
  · rw [respond_of_ne_health adapter hmethod]
    cases hroute : adapter.route? request.method with
    | none =>
      have hcall : (adapter.call request.method (Rpc.Endpoint.parameters request)).perform world =
          (.error (.methodNotFound request.method), world) := by
        unfold Adapter.call
        rw [hroute]
        rfl
      rw [hcall]
      exact .unknown hmethod hroute
    | some route =>
      have hcall : (adapter.call request.method (Rpc.Endpoint.parameters request)).perform world =
          (route.call adapter.version (Rpc.Endpoint.parameters request)).perform world := by
        unfold Adapter.call
        rw [hroute]
      rw [hcall, Route.perform_call]
      rcases route.takes_or_refuses adapter.version (Rpc.Endpoint.parameters request) with
        ⟨wanted, htakes⟩ | ⟨fault, hrefuses⟩
      · rw [Route.accept_of_takes htakes]
        exact .invoked hmethod hroute htakes
      · rw [Route.accept_of_refuses hrefuses]
        exact .refused hmethod hroute hrefuses

/-! ## Sessions that serve adapters -/

/-- A number in a run of numbers is where it is counted to. -/
theorem findIdx?_range' {α : Type} {values : List α} {number : α → Nat} {first : Nat}
    (hnumbers : values.map number = List.range' first values.length) {index : Nat} {value : α}
    (hvalue : values[index]? = some value) :
    values.findIdx? (fun other => number other == number value) = some index := by
  obtain ⟨hindex, rfl⟩ := List.getElem?_eq_some_iff.mp hvalue
  have hcounted (i : Nat) (hi : i < values.length) : number values[i] = first + i := by
    have hget := congrArg (·[i]?) hnumbers
    simpa [hi] using hget
  refine List.findIdx?_eq_some_iff_getElem.mpr ⟨hindex, by simp, fun i hi => ?_⟩
  rw [hcounted index hindex, hcounted i (by omega)]
  simp
  omega

/-- The gateway of adapters over sockets below a directory. -/
def hosting (directory : String) (adapters : List (Adapter Machine)) : Gateway Machine Listener :=
  .make (.sockets directory) (adapters.map Descriptor.ofAdapter)

/-- The tasks of a session listen on listeners, and its servers have the services of adapters, in
the same order. -/
structure Serves (session : Caller.OnHost) (adapters : List (Adapter Machine))
    (listeners : List Listener) : Prop where
  quiet : session.gateway.Quiet
  listeners_eq : session.gateway.coordinator.tasks.map Task.listener = listeners
  endpoints_eq : session.gateway.servers.map Server.endpoint = adapters.map endpointOf

section Serves

variable {adapters : List (Adapter Machine)} {listeners : List Listener}
variable {started session : Caller.OnHost} {index : Nat} {adapter : Adapter Machine}

theorem Serves.becomes (h : Serves started adapters listeners) (hlater : started.Becomes session) :
    Serves session adapters listeners := by
  have hgoes := hlater.goesOn h.quiet
  exact ⟨hgoes.quiet, by rw [hgoes.tasks, h.listeners_eq], by rw [hgoes.endpoints, h.endpoints_eq]⟩

theorem Serves.exists_server (h : Serves session adapters listeners)
    (hadapter : adapters[index]? = some adapter) :
    ∃ server, session.gateway.servers[index]? = some server ∧
      server.endpoint = endpointOf adapter := by
  have hendpoint : (session.gateway.servers.map Server.endpoint)[index]? =
      some (endpointOf adapter) := by
    rw [h.endpoints_eq, List.getElem?_map, hadapter]
    rfl
  rw [List.getElem?_map] at hendpoint
  exact Option.map_eq_some_iff.mp hendpoint

theorem Serves.position? (h : Serves session adapters listeners) {first : Nat}
    (hnumbers : listeners.map Listener.socket = List.range' first listeners.length)
    {listener : Listener} (hlistener : listeners[index]? = some listener) :
    Caller.position? session listener.socket = some index := by
  have hserved : (session.gateway.coordinator.tasks.map Task.listener)[index]? = some listener := by
    rw [h.listeners_eq, hlistener]
  rw [List.getElem?_map] at hserved
  obtain ⟨task, htask, rfl⟩ := Option.map_eq_some_iff.mp hserved
  refine @findIdx?_range' _ _ (fun task : Task Listener => task.listener.socket) first ?_ _ _ htask
  have hlength := congrArg List.length h.listeners_eq
  rw [List.length_map] at hlength
  rw [hlength, ← hnumbers, ← h.listeners_eq, List.map_map]
  rfl

end Serves

/-- The adapter at a position serves an address: as long as the address leads to the socket that was
opened for it, whoever connects there is connected to the server at that position, and gets an idle
connection if there is a slot; and every request that arrives there over an idle connection is
answered by the adapter, while nothing happens to the other servers. -/
structure ServedBy (session : Caller.OnHost) (address : String) (socket index : Nat)
    (adapter : Adapter Machine) : Prop where
  reached : Socket.connect session.world address = .ok socket →
    ∃ caller next, Caller.connect session address = .ok (caller, next) ∧
      caller.peer.server = index ∧ next.world = session.world ∧
      ∀ server, session.gateway.servers[index]? = some server →
        server.slots < Server.greatestConnections →
          ∃ connection, next.connection? caller.peer = some connection ∧ connection.Idle
  answered : ∀ peer connection payload frame request, peer.server = index →
    session.connection? peer = some connection → connection.Idle →
    Frame.encode payload = .ok frame → Request.reader.ofBytes payload = .ok request →
    request.jsonrpc = protocolVersion →
      ∃ response after, Answers adapter request session.world response after ∧
        (session.send peer frame).world = after ∧
        (session.send peer frame).connection? peer = some (connection.told response) ∧
        ∀ other, other ≠ index →
          (session.send peer frame).gateway.servers[other]? = session.gateway.servers[other]?

section Serves

variable {adapters : List (Adapter Machine)} {listeners : List Listener}
variable {session : Caller.OnHost} {index : Nat} {adapter : Adapter Machine}

theorem Serves.connect (h : Serves session adapters listeners) {first : Nat}
    (hnumbers : listeners.map Listener.socket = List.range' first listeners.length)
    {listener : Listener} (hlistener : listeners[index]? = some listener)
    (hadapter : adapters[index]? = some adapter) {address : String}
    (hconnect : Socket.connect session.world address = .ok listener.socket) :
    ∃ caller next, Caller.connect session address = .ok (caller, next) ∧
      caller.peer.server = index ∧ next.world = session.world ∧
      ∀ server, session.gateway.servers[index]? = some server →
        server.slots < Server.greatestConnections →
          ∃ connection, next.connection? caller.peer = some connection ∧ connection.Idle := by
  obtain ⟨server, hserver, -⟩ := h.exists_server hadapter
  obtain ⟨next, connection, hto, -, hworld, hconnection, hidle⟩ :=
    Session.goesOn_connectTo h.quiet hserver
  refine ⟨⟨{ address }, ⟨index, server.connections.length⟩⟩, next, ?_, rfl, hworld, ?_⟩
  · have hrouted : (Caller.position? session listener.socket).bind session.connectTo =
        some (⟨index, server.connections.length⟩, next) := by
      rw [h.position? hnumbers hlistener]
      exact hto
    unfold Caller.connect
    rw [hconnect]
    dsimp only
    rw [hrouted]
  · intro other hother hslots
    obtain rfl : server = other := Option.some.inj (hserver.symm.trans hother)
    exact ⟨connection, hconnection, (hidle hslots).1⟩

theorem Serves.answered (h : Serves session adapters listeners)
    (hadapter : adapters[index]? = some adapter) {peer : Peer} {connection : Connection}
    {payload frame : Bytes} {request : Rpc.Request} (hpeer : peer.server = index)
    (hconnection : session.connection? peer = some connection) (hidle : connection.Idle)
    (hframe : Frame.encode payload = .ok frame)
    (hrequest : Request.reader.ofBytes payload = .ok request)
    (hprotocol : request.jsonrpc = protocolVersion) :
    ∃ response after, Answers adapter request session.world response after ∧
      (session.send peer frame).world = after ∧
      (session.send peer frame).connection? peer = some (connection.told response) ∧
      ∀ other, other ≠ index →
        (session.send peer frame).gateway.servers[other]? = session.gateway.servers[other]? := by
  subst hpeer
  obtain ⟨server, hserver, hendpoint⟩ := h.exists_server hadapter
  have hc : server.connections[peer.connection]? = some connection := by
    rw [Session.connection?, hserver] at hconnection
    exact hconnection
  have hanswer : server.endpoint.answer payload session.world =
      (endpointOf adapter).respond request session.world := by
    unfold Rpc.Endpoint.answer
    rw [hrequest, hendpoint]
    exact if_neg (not_not.mpr hprotocol)
  obtain ⟨hworld, htold, hothers⟩ := Session.send_of_idle h.quiet hserver hc hidle hframe
  rw [hanswer] at hworld htold
  exact ⟨_, _, answers_respond adapter request session.world, hworld, htold, hothers⟩

end Serves

/-! ## Starting the set -/

section Started

variable {directory : String} {adapters : List (Adapter Machine)} {world : Machine}
variable {started : Caller.OnHost}

/-- After a start that succeeds, listeners have been opened on the addresses of the adapters, and
are served. -/
theorem serves_of_start (hplain : ∀ adapter ∈ adapters, '/' ∉ adapter.group.toList)
    (hdistinct : (adapters.map fun adapter => (adapter.group, adapter.version)).Nodup)
    (hstart : Session.start ⟨hosting directory adapters, world⟩ = (.ok (), started)) :
    ∃ listeners, Serves started adapters listeners ∧ OpenedAll world listeners started.world ∧
      listeners.map Listener.address =
        adapters.map fun adapter => address directory adapter.group adapter.version := by
  obtain ⟨listeners, hopens, hquiet, htasks, hservers⟩ := Session.start_eq_ok hstart
  have hkeys : (adapters.map Descriptor.ofAdapter).map Descriptor.key =
      adapters.map fun adapter => (adapter.group, adapter.version) := List.map_map
  rw [hkeys] at hopens htasks
  have hlength := hopens.length_eq
  rw [Provisioner.addresses, List.length_map] at hlength
  obtain ⟨haddresses, hall⟩ := openedAll_of_opens
    (fun endpoint hin => by
      obtain ⟨adapter, hadapter, rfl⟩ := List.mem_map.mp hin
      exact hplain adapter hadapter) hdistinct hopens
  refine ⟨listeners, ⟨hquiet, ?_, ?_⟩, hall, ?_⟩
  · rw [htasks, tasksOf, List.map_map]
    exact List.map_snd_zip (Nat.le_of_eq hlength)
  · rw [hservers, List.map_map, List.map_map]
    rfl
  · rw [haddresses, Provisioner.addresses, List.map_map]
    rfl

/-- Whoever connects to an address below the directory that no listener is on, at which there is no
link, is connected to none of them. -/
theorem connect_ne_ok_of_unlisted {listeners : List Listener}
    (h : Serves started adapters listeners) (hall : OpenedAll world listeners started.world)
    (hplain : ∀ adapter ∈ adapters, '/' ∉ adapter.group.toList)
    (haddresses : listeners.map Listener.address =
      adapters.map fun adapter => address directory adapter.group adapter.version)
    {group : String} {version : Version} (hgroup : '/' ∉ group.toList)
    (hnew : (group, version) ∉ adapters.map fun adapter => (adapter.group, adapter.version))
    (hnumbered : ∀ place number, world.files.node? place = some (.socket number) →
      number < world.nextSocket)
    (hlink : ∀ target, started.world.files.find false
      (Socket.addressNames (address directory group version)) ≠ .ok (.link target))
    (caller : Caller) (session : Caller.OnHost) :
    Caller.connect started (address directory group version) ≠ .ok (caller, session) := by
  intro hconnected
  unfold Caller.connect at hconnected
  cases hconnect : Socket.connect started.world (address directory group version) with
  | error error =>
    rw [hconnect] at hconnected
    cases hconnected
  | ok number =>
    obtain ⟨place, hfollowed, hsocket, -⟩ := Socket.exists_of_connect hconnect
    -- What stands at the address is what it leads to.
    obtain ⟨goal, hgoal⟩ := FileTree.exists_locate hfollowed
    have hgoalPlain : ∀ target, started.world.files.node? goal ≠ some (.link target) :=
      fun target hnode => hlink target (FileTree.find_of_locate hgoal hnode)
    obtain rfl : place = goal :=
      Except.ok.inj (hfollowed.symm.trans (FileTree.locate_follow hgoalPlain hgoal))
    cases hposition : Caller.position? started number with
    | none =>
      rw [hconnect] at hconnected
      dsimp only at hconnected
      rw [hposition] at hconnected
      cases hconnected
    | some index =>
      -- The socket is one of those that were opened, so it is not where it was before.
      have hopened : number ∈ listeners.map Listener.socket := by
        obtain ⟨hindex, htask, -⟩ := List.findIdx?_eq_some_iff_getElem.mp hposition
        obtain rfl := beq_iff_eq.mp htask
        rw [← h.listeners_eq, List.map_map]
        exact List.mem_map_of_mem (List.getElem_mem hindex)
      have hchanged : started.world.files.node? place ≠ world.files.node? place := by
        intro hsame
        have hlow := hnumbered place number (hsame ▸ hsocket)
        rw [hall.numbers, List.mem_range'] at hopened
        omega
      rcases hall.elsewhere place hchanged with ⟨listener, hin, hstands⟩ | ⟨-, hdirectory⟩
      · have hlisted : listener.address ∈
            adapters.map fun adapter => address directory adapter.group adapter.version :=
          haddresses ▸ List.mem_map_of_mem hin
        obtain ⟨adapter, hadapter, heq⟩ := List.mem_map.mp hlisted
        have hleads := hstands.leads
        rw [← heq] at hleads
        have hne : (adapter.group, adapter.version) ≠ (group, version) := by
          intro hsame
          exact hnew (List.mem_map.mpr ⟨adapter, hadapter, hsame⟩)
        exact @place_ne_of_locate directory _ (adapter.group, adapter.version) (group, version)
          (hplain adapter hadapter) hgroup hne _ _ hleads hgoal rfl
      · rw [hsocket] at hdirectory
        cases hdirectory

/-- After a successful `Session.start` of adapters in different versions or groups, whose groups
have no slash in their names, each adapter serves its `address` (`ServedBy`), whatever happens until
the set is stopped. No listener is on the address of another version or group; whoever connects
there by `Caller.connect` when the set has been started is connected to none of the servers, unless
it is a link that leads there. -/
theorem calls_reach_the_adapter_of_their_address
    (hplain : ∀ adapter ∈ adapters, '/' ∉ adapter.group.toList)
    (hdistinct : (adapters.map fun adapter => (adapter.group, adapter.version)).Nodup)
    (hstart : Session.start ⟨hosting directory adapters, world⟩ = (.ok (), started)) :
    (∀ index adapter, adapters[index]? = some adapter →
      ∃ socket, Socket.connect started.world
          (address directory adapter.group adapter.version) = .ok socket ∧
        ∀ session, started.Becomes session →
          ServedBy session (address directory adapter.group adapter.version) socket index
            adapter) ∧
    ∀ group version, '/' ∉ group.toList →
      (group, version) ∉ adapters.map (fun adapter => (adapter.group, adapter.version)) →
        (∀ session, started.Becomes session → ∀ task ∈ session.gateway.coordinator.tasks,
          task.listener.address ≠ address directory group version) ∧
        ((∀ place number, world.files.node? place = some (.socket number) →
            number < world.nextSocket) →
          (∀ target, started.world.files.find false
            (Socket.addressNames (address directory group version)) ≠ .ok (.link target)) →
          ∀ caller session,
            Caller.connect started (address directory group version) ≠ .ok (caller, session)) := by
  obtain ⟨listeners, hserves, hall, haddresses⟩ := serves_of_start hplain hdistinct hstart
  refine ⟨fun index adapter hadapter => ?_, fun group version hgroup hnew => ⟨?_, ?_⟩⟩
  · have haddress : (listeners.map Listener.address)[index]? =
        some (address directory adapter.group adapter.version) := by
      rw [haddresses, List.getElem?_map, hadapter]
      rfl
    rw [List.getElem?_map] at haddress
    obtain ⟨listener, hlistener, haddress⟩ := Option.map_eq_some_iff.mp haddress
    obtain ⟨place, hstands⟩ := hall.stands listener (List.mem_of_getElem? hlistener)
    rw [← haddress]
    refine ⟨listener.socket, Socket.connect_of_stands hstands, fun session hlater => ?_⟩
    have hnow := hserves.becomes hlater
    exact ⟨fun hconnect => hnow.connect hall.numbers hlistener hadapter hconnect,
      fun _ _ _ _ _ hpeer hconnection hidle hframe hrequest hprotocol =>
        hnow.answered hadapter hpeer hconnection hidle hframe hrequest hprotocol⟩
  · intro session hlater task htask hsame
    have hlisted : task.listener.address ∈ listeners.map Listener.address := by
      rw [← (hserves.becomes hlater).listeners_eq, List.map_map]
      exact List.mem_map_of_mem htask
    rw [haddresses] at hlisted
    obtain ⟨adapter, hadapter, heq⟩ := List.mem_map.mp hlisted
    obtain ⟨rfl, rfl⟩ := address_injective (hplain adapter hadapter) hgroup (heq.trans hsame)
    exact hnew (List.mem_map_of_mem hadapter)
  · exact fun hnumbered hlink caller session =>
      connect_ne_ok_of_unlisted hserves hall hplain haddresses hgroup hnew hnumbered hlink caller
        session

end Started

theorem plain_diskAdapters : ∀ adapter ∈ Disk.adapters, '/' ∉ adapter.group.toList := by decide

theorem distinct_diskAdapters :
    (Disk.adapters.map fun adapter => (adapter.group, adapter.version)).Nodup := by decide

/-- The disk endpoints, started below a directory of a machine with no files. -/
def hostedDisks : Except Fault Unit × Caller.OnHost :=
  Session.start ⟨hosting "/s" Disk.adapters, emptyMachine⟩

theorem hostedDisks_started : hostedDisks.1 = .ok () := rfl

theorem disk_versions_are_at_their_addresses :
    (∀ adapter ∈ Disk.adapters, '/' ∉ adapter.group.toList) ∧
    (Disk.adapters.map fun adapter => (adapter.group, adapter.version)).Nodup ∧
    Session.start ⟨hosting "/s" Disk.adapters, emptyMachine⟩ = (.ok (), hostedDisks.2) ∧
    (∃ socket, Socket.connect hostedDisks.2.world "/s/disk-v1.sock" = .ok socket ∧
      ∀ session, hostedDisks.2.Becomes session →
        ServedBy session "/s/disk-v1.sock" socket 1 Disk.stableAdapter) ∧
    ∀ caller session, Caller.connect hostedDisks.2 "/s/smb-v1.sock" ≠ .ok (caller, session) := by
  have hstart : Session.start ⟨hosting "/s" Disk.adapters, emptyMachine⟩ =
      (.ok (), hostedDisks.2) := Prod.ext hostedDisks_started rfl
  have hstable : address "/s" Disk.stableAdapter.group Disk.stableAdapter.version =
      "/s/disk-v1.sock" := by decide
  have hother : address "/s" "smb" Disk.stableAdapter.version = "/s/smb-v1.sock" := by decide
  have hnumbered : ∀ place number, emptyMachine.files.node? place = some (.socket number) →
      number < emptyMachine.nextSocket := by
    intro place number hnode
    cases place with
    | nil => cases hnode
    | cons name names => cases hnode
  have hnone : (hostedDisks.2.world.files.find false
      (Socket.addressNames "/s/smb-v1.sock")).toOption = none := by decide +kernel
  obtain ⟨hserved, hunlisted⟩ := calls_reach_the_adapter_of_their_address
    plain_diskAdapters distinct_diskAdapters hstart
  refine ⟨plain_diskAdapters, distinct_diskAdapters, hstart, ?_, ?_⟩
  · rw [← hstable]
    exact hserved 1 Disk.stableAdapter rfl
  · rw [← hother] at hnone ⊢
    refine (hunlisted "smb" Disk.stableAdapter.version (by decide) (by decide)).2 hnumbered ?_
    intro target hlink
    rw [hlink] at hnone
    cases hnone

/-- A group whose name is an absolute path leaves the directory: the address of a group that has not
been entered may be that of one that has. -/
theorem absolute_group_reaches_another_adapter :
    (∀ adapter ∈ Disk.adapters, '/' ∉ adapter.group.toList) ∧
    (Disk.adapters.map fun adapter => (adapter.group, adapter.version)).Nodup ∧
    (Session.start ⟨hosting "/s" Disk.adapters, emptyMachine⟩).1 = .ok () ∧
    ("/s/disk", Disk.stableAdapter.version) ∉
      Disk.adapters.map (fun adapter => (adapter.group, adapter.version)) ∧
    ((Caller.connect (Session.start ⟨hosting "/s" Disk.adapters, emptyMachine⟩).2
      (address "/s" "/s/disk" Disk.stableAdapter.version)).map
        fun connected => connected.1.peer.server).toOption = some 1 := by
  have hreached : ((Caller.connect (Session.start ⟨hosting "/s" Disk.adapters, emptyMachine⟩).2
      (address "/s" "/s/disk" Disk.stableAdapter.version)).map
        fun connected => connected.1.peer.server).toOption = some 1 := by decide +kernel
  exact ⟨plain_diskAdapters, distinct_diskAdapters, hostedDisks_started, by decide, hreached⟩

end StorageGateway.Lifecycle
