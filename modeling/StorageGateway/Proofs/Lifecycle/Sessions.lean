import Mathlib.Data.List.Basic
import StorageGateway.Lifecycle.Caller
import StorageGateway.Proofs.Rpc.Servers

/-!
# Sessions that go on

As long as nobody tells a gateway to stop and no listener fails, all that happens in a session comes
from outside: somebody connects, sends something, or reads what there is. After each of these the
gateway is quiet again, and all but the connection in question is as it was.
-/

namespace StorageGateway.Lifecycle

variable {ω κ : Type}

/-! ## Gateways that run -/

/-- A call has nothing to do: it is over, or it waits for a completion while there is none and a
task is left. -/
def Call.AtRest (c : Coordinator κ) : Call κ → Prop
  | .answered _ => True
  | .awaiting _ => c.queue = [] ∧ ∃ task ∈ c.tasks, task.progress.isReported = false
  | _ => False

theorem Call.advance_of_atRest {c : Coordinator κ} {call : Call κ} (h : call.AtRest c)
    (P : Provisioner ω κ) (world : ω) : call.advance P c world = (call, c, world) := by
  cases call with
  | answered answer => rfl
  | awaiting expected =>
    obtain ⟨hqueue, task, htask, hprogress⟩ := h
    have hpending : c.receive = .pending := by
      have hleft : (c.tasks.all fun task => task.progress.isReported) = false :=
        List.all_eq_false.mpr ⟨task, htask, by rw [hprogress]; exact Bool.false_ne_true⟩
      unfold Coordinator.receive
      rw [hqueue, hleft]
      rfl
    unfold Call.advance
    rw [hpending]
  | _ => exact h.elim

/-- Calls at rest do not go on. -/
theorem Activity.run_advance_of_atRest (P : Provisioner ω κ)
    {activity : Activity κ} {world : ω}
    (h : ∀ call ∈ activity.calls, call.AtRest activity.coordinator)
    {events : List Event} (hevents : ∀ event ∈ events, ∃ index, event = .advance index) :
    activity.run P events world = (activity, world) := by
  induction events with
  | nil => rfl
  | cons event events ih =>
    obtain ⟨index, rfl⟩ := hevents event List.mem_cons_self
    have hone : activity.step P (.advance index) world = (activity, world) := by
      show activity.advance P index world = _
      unfold Activity.advance
      cases hcall : activity.calls[index]? with
      | none => rfl
      | some call =>
        obtain ⟨hindex, hget⟩ := List.getElem?_eq_some_iff.mp hcall
        have hset : activity.calls.set index call = activity.calls := by
          rw [← hget]
          exact List.set_getElem_self hindex
        dsimp only
        rw [Call.advance_of_atRest (h call (List.mem_of_getElem? hcall))]
        dsimp only
        rw [hset]
    unfold Activity.run
    rw [hone]
    exact ih fun other hother => hevents other (List.mem_cons_of_mem _ hother)

/-- Who waits is told later how many completions there will be; only the receiving end is taken. -/
theorem Coordinator.eq_of_beginWait {c waited : Coordinator κ} {expected : Nat}
    (h : c.beginWait = .ok (expected, waited)) :
    expected = c.handles.length ∧ waited = { c with receiver := .taken } := by
  unfold beginWait at h
  split at h
  · split at h
    · cases h
      exact ⟨rfl, rfl⟩
    · cases h
  · split at h
    · cases h
      exact ⟨rfl, rfl⟩
    · cases h
  · cases h

namespace Gateway

variable {gateway : Gateway ω κ} {world : ω}

theorem answer?_call (request : Request) :
    ({ gateway with activity := gateway.activity.call request } : Gateway ω κ).answer?
        gateway.activity.calls.length =
      (Call.make gateway.coordinator request).1.answer? := by
  show (gateway.activity.calls ++ [_])[gateway.activity.calls.length]?.bind Call.answer? = _
  rw [List.getElem?_concat_length]
  rfl

theorem beginWait_of_error {fault : Fault} (h : gateway.coordinator.beginWait = .error fault) :
    gateway.beginWait = .error fault := by
  have hmake : Call.make gateway.coordinator .wait =
      (.answered (.waited (.error fault)), gateway.coordinator) := by
    unfold Call.make
    rw [h]
  unfold beginWait
  dsimp only
  rw [answer?_call, hmake]
  rfl

theorem beginWait_of_ok {expected : Nat} {waited : Coordinator κ}
    (h : gateway.coordinator.beginWait = .ok (expected, waited)) (hexpected : expected ≠ 0) :
    gateway.beginWait = .ok { gateway with
      activity := ⟨waited, gateway.activity.calls ++ [.awaiting expected]⟩ } := by
  have hmake : Call.make gateway.coordinator .wait = (.awaiting expected, waited) := by
    unfold Call.make
    rw [h]
    dsimp only
    rw [if_neg hexpected]
  have hcall : gateway.activity.call .wait =
      ⟨waited, gateway.activity.calls ++ [.awaiting expected]⟩ := by
    unfold Activity.call
    rw [show Call.make gateway.activity.coordinator .wait = _ from hmake]
  unfold beginWait
  dsimp only
  rw [answer?_call, hmake, hcall]
  rfl

/-- A gateway that is up, that nobody has told to stop, all of whose tasks serve, and all of whose
calls are at rest. -/
structure Undisturbed (gateway : Gateway ω κ) : Prop where
  up : gateway.coordinator.state ≠ .stopped
  untold : ∀ task ∈ gateway.coordinator.tasks, task.signalled = false
  serving : ∀ task ∈ gateway.coordinator.tasks, task.progress = .serving
  hosted : gateway.coordinator.handles.length = gateway.coordinator.tasks.length
  unposted : gateway.coordinator.queue = []
  paired : gateway.coordinator.tasks.length = gateway.servers.length
  calls : ∀ call ∈ gateway.activity.calls, call.AtRest gateway.coordinator

/-- Besides, all servers accept and have nothing to do. -/
structure Quiet (gateway : Gateway ω κ) : Prop extends Undisturbed gateway where
  ready : ∀ server ∈ gateway.servers, server.Ready

theorem propagate_of_undisturbed (h : gateway.Undisturbed) : gateway.propagate = gateway := by
  have hsame : (gateway.coordinator.tasks.zip gateway.servers).map (fun pair =>
      if pair.1.signalled && !pair.2.signal.raised then pair.2.shutdown.2 else pair.2) =
        gateway.servers := by
    have hsecond : ∀ pair ∈ gateway.coordinator.tasks.zip gateway.servers,
        (if pair.1.signalled && !pair.2.signal.raised then pair.2.shutdown.2 else pair.2) =
          pair.2 := by
      intro pair hpair
      rw [h.untold pair.1 (List.of_mem_zip hpair).1]
      rfl
    rw [List.map_congr_left hsecond]
    exact List.map_snd_zip (Nat.le_of_eq h.paired.symm)
  unfold propagate
  exact congrArg (fun servers => { gateway with servers }) hsame

theorem finishTasks_of_accepting (h : ∀ server ∈ gateway.servers, server.loop = .accepting)
    (indices : List Nat) : gateway.finishTasks indices world = (gateway, world) := by
  induction indices with
  | nil => rfl
  | cons index indices ih =>
    have hone : gateway.finishTask index world = (gateway, world) := by
      unfold finishTask
      cases hs : gateway.servers[index]? with
      | none => rfl
      | some server =>
        dsimp only
        rw [h server (List.mem_of_getElem? hs)]
    unfold finishTasks
    rw [hone]
    exact ih

/-- Calls at rest are attended to in vain. -/
theorem happen_attend_of_atRest
    (h : ∀ call ∈ gateway.activity.calls, call.AtRest gateway.coordinator) :
    gateway.happen (attendEvents gateway) world = (gateway, world) := by
  unfold happen
  rw [Activity.run_advance_of_atRest _ h]
  intro event hevent
  obtain ⟨index, -, hindex⟩ := List.mem_flatMap.mp hevent
  exact ⟨index, List.eq_of_mem_replicate hindex⟩

/-- Once around, the servers do what there is to do, and nothing else happens. -/
theorem round_of_undisturbed (h : gateway.Undisturbed)
    (haccepting : ∀ server ∈ (settleServers gateway.servers world).1, server.loop = .accepting) :
    gateway.round world = ({ gateway with servers := (settleServers gateway.servers world).1 },
      (settleServers gateway.servers world).2) := by
  unfold round
  rw [propagate_of_undisturbed h]
  dsimp only
  rw [finishTasks_of_accepting haccepting]
  dsimp only
  rw [happen_attend_of_atRest]
  · dsimp only
    split
    · rename_i hstopped
      exact absurd hstopped h.up
    · rfl
  · exact h.calls

/-! ## Settling -/

theorem settleServers_of_ready {servers : List (Rpc.Server ω)}
    (h : ∀ server ∈ servers, server.Ready) (world : ω) :
    settleServers servers world = (servers, world) := by
  induction servers with
  | nil => rfl
  | cons server servers ih =>
    unfold settleServers
    rw [Rpc.Server.settle_of_atRest (h server List.mem_cons_self).atRest]
    dsimp only
    rw [ih fun other hother => h other (List.mem_cons_of_mem _ hother)]

/-- Where all servers but one are ready, that one does all there is to do. -/
theorem settleServers_set {servers : List (Rpc.Server ω)} (h : ∀ server ∈ servers, server.Ready)
    {index : Nat} (hindex : index < servers.length) {changed rested : Rpc.Server ω} {world' : ω}
    (hsettle : changed.settle world = (rested, world')) :
    settleServers (servers.set index changed) world = (servers.set index rested, world') := by
  induction servers generalizing index with
  | nil => cases hindex
  | cons server servers ih =>
    have hothers : ∀ other ∈ servers, other.Ready :=
      fun other hother => h other (List.mem_cons_of_mem _ hother)
    cases index with
    | zero =>
      rw [List.set_cons_zero, List.set_cons_zero]
      unfold settleServers
      rw [hsettle]
      dsimp only
      rw [settleServers_of_ready hothers]
    | succ index =>
      rw [List.set_cons_succ, List.set_cons_succ]
      unfold settleServers
      rw [Rpc.Server.settle_of_atRest (h server List.mem_cons_self).atRest]
      dsimp only
      rw [ih hothers (Nat.lt_of_succ_lt_succ hindex)]

theorem Undisturbed.set (h : gateway.Undisturbed) (index : Nat) (server : Rpc.Server ω) :
    ({ gateway with servers := gateway.servers.set index server } : Gateway ω κ).Undisturbed :=
  { h with paired := by rw [List.length_set]; exact h.paired }

theorem Quiet.set (h : gateway.Quiet) (index : Nat) {server : Rpc.Server ω}
    (hready : server.Ready) :
    ({ gateway with servers := gateway.servers.set index server } : Gateway ω κ).Quiet := by
  refine ⟨h.toUndisturbed.set index server, fun other hother => ?_⟩
  rcases List.mem_or_eq_of_mem_set hother with hold | rfl
  · exact h.ready other hold
  · exact hready

theorem Quiet.round (h : gateway.Quiet) : gateway.round world = (gateway, world) := by
  have hsame := settleServers_of_ready h.ready world
  rw [round_of_undisturbed h.toUndisturbed, hsame]
  rw [hsame]
  exact fun server hserver => (h.ready server hserver).accepting

theorem Quiet.settle (h : gateway.Quiet) : gateway.settle world = (gateway, world) := by
  unfold Gateway.settle
  simp only [rounds, h.round]

/-- When something happens to one server of a quiet gateway, that server does all there is to do. -/
theorem Quiet.settle_set (h : gateway.Quiet) {index : Nat} (hindex : index < gateway.servers.length)
    {changed rested : Rpc.Server ω} {world' : ω}
    (hsettle : changed.settle world = (rested, world')) (hready : rested.Ready) :
    ({ gateway with servers := gateway.servers.set index changed } : Gateway ω κ).settle world =
      ({ gateway with servers := gateway.servers.set index rested }, world') := by
  have hservers := settleServers_set h.ready hindex hsettle
  have hquiet := h.set index hready
  have hround : ({ gateway with servers := gateway.servers.set index changed } : Gateway ω κ).round
      world = ({ gateway with servers := gateway.servers.set index rested }, world') := by
    rw [round_of_undisturbed (h.toUndisturbed.set index changed)]
    · rw [hservers]
    · rw [hservers]
      exact fun server hserver => (hquiet.ready server hserver).accepting
  unfold Gateway.settle
  simp only [rounds, hround, hquiet.round]

end Gateway

namespace Session

variable {session : Session ω κ} {server : Rpc.Server ω} {index : Nat} {peer : Peer}

theorem update_of_quiet (h : session.gateway.Quiet)
    (hserver : session.gateway.servers[index]? = some server)
    {change : Rpc.Server ω → Rpc.Server ω} {rested : Rpc.Server ω} {world : ω}
    (hsettle : (change server).settle session.world = (rested, world)) (hready : rested.Ready) :
    session.update index change =
      ⟨{ session.gateway with servers := session.gateway.servers.set index rested }, world⟩ := by
  obtain ⟨hindex, -⟩ := List.getElem?_eq_some_iff.mp hserver
  have hmodify : session.gateway.servers.modify index change =
      session.gateway.servers.set index (change server) := by
    rw [List.modify_eq_set_getElem?, hserver]
    rfl
  unfold update settle
  dsimp only
  rw [hmodify, h.settle_set hindex hsettle hready]

theorem update_of_absent (h : session.gateway.Quiet)
    (hserver : session.gateway.servers[index]? = none) (change : Rpc.Server ω → Rpc.Server ω) :
    session.update index change = session := by
  have hmodify : session.gateway.servers.modify index change = session.gateway.servers :=
    List.modify_eq_self (List.getElem?_eq_none_iff.mp hserver)
  unfold update settle
  dsimp only
  rw [hmodify, h.settle]

/-! ## Visits -/

/-- What somebody outside may do while a session goes on. -/
inductive Visit where
  /-- To connect to the server at a position. -/
  | connect (server : Nat)
  /-- To send bytes over a connection. -/
  | send (peer : Peer) (bytes : Rpc.Bytes)
  /-- To read all there is on a connection. -/
  | hear (peer : Peer)

/-- The connection over which somebody does something. -/
def Visit.peer? : Visit → Option Peer
  | .connect _ => none
  | .send peer _ | .hear peer => some peer

/-- What comes of a visit. -/
def visit (session : Session ω κ) : Visit → Session ω κ
  | .connect server => ((session.connectTo server).map Prod.snd).getD session
  | .send peer bytes => session.send peer bytes
  | .hear peer => (session.hear peer).2.2

/-- A session goes on: the gateway is quiet, and its tasks and the endpoints of its servers are what
they were. -/
structure GoesOn (before after : Session ω κ) : Prop where
  quiet : after.gateway.Quiet
  tasks : after.gateway.coordinator.tasks = before.gateway.coordinator.tasks
  endpoints : after.gateway.servers.map Rpc.Server.endpoint =
    before.gateway.servers.map Rpc.Server.endpoint

theorem GoesOn.refl (h : session.gateway.Quiet) : session.GoesOn session := ⟨h, rfl, rfl⟩

theorem GoesOn.trans {before between after : Session ω κ} (h : before.GoesOn between)
    (h' : between.GoesOn after) : before.GoesOn after :=
  ⟨h'.quiet, h'.tasks.trans h.tasks, h'.endpoints.trans h.endpoints⟩

/-- A server at rest is put in place of one that served the same endpoint. -/
theorem GoesOn.set (h : session.gateway.Quiet)
    (hserver : session.gateway.servers[index]? = some server) {rested : Rpc.Server ω}
    (hready : rested.Ready) (hendpoint : rested.endpoint = server.endpoint) (world : ω) :
    session.GoesOn
      ⟨{ session.gateway with servers := session.gateway.servers.set index rested }, world⟩ := by
  refine ⟨h.set index hready, rfl, ?_⟩
  obtain ⟨hindex, hget⟩ := List.getElem?_eq_some_iff.mp hserver
  show (session.gateway.servers.set index rested).map Rpc.Server.endpoint = _
  rw [List.map_set, hendpoint, ← hget]
  have hin : index < (session.gateway.servers.map Rpc.Server.endpoint).length := by
    rwa [List.length_map]
  have hself := List.set_getElem_self hin
  rwa [List.getElem_map] at hself

/-- The connection of a peer. -/
def connection? (session : Session ω κ) (peer : Peer) : Option Rpc.Connection :=
  session.gateway.servers[peer.server]?.bind fun server => server.connections[peer.connection]?

/-- Somebody connects: there is one more connection, and nothing else happens. -/
theorem exists_connectTo (h : session.gateway.Quiet)
    (hserver : session.gateway.servers[index]? = some server) :
    ∃ rested accepted, session.connectTo index = some (⟨index, server.connections.length⟩,
        ⟨{ session.gateway with servers := session.gateway.servers.set index rested },
          session.world⟩) ∧
      rested.Ready ∧ rested.endpoint = server.endpoint ∧
      rested.connections = server.connections ++ [accepted] ∧
      (server.slots < Rpc.Server.greatestConnections →
        accepted.Idle ∧ accepted.heard = accepted.sent.length) := by
  obtain ⟨rested, accepted, hsettle, hready, hendpoint, -, hconnections, hidle⟩ :=
    (h.ready server (List.mem_of_getElem? hserver)).settle_connect session.world
  refine ⟨rested, accepted, ?_, hready, hendpoint, hconnections, hidle⟩
  unfold connectTo
  rw [hserver]
  show some (_, session.update index Rpc.Server.connect) = _
  rw [update_of_quiet h hserver hsettle hready]

theorem goesOn_connectTo (h : session.gateway.Quiet)
    (hserver : session.gateway.servers[index]? = some server) :
    ∃ next connection, session.connectTo index = some (⟨index, server.connections.length⟩, next) ∧
      session.GoesOn next ∧ next.world = session.world ∧
      next.connection? ⟨index, server.connections.length⟩ = some connection ∧
      (server.slots < Rpc.Server.greatestConnections →
        connection.Idle ∧ connection.heard = connection.sent.length) := by
  obtain ⟨rested, accepted, hconnect, hready, hendpoint, hconnections, hidle⟩ :=
    exists_connectTo h hserver
  obtain ⟨hindex, -⟩ := List.getElem?_eq_some_iff.mp hserver
  refine ⟨_, accepted, hconnect, GoesOn.set h hserver hready hendpoint session.world, rfl, ?_,
    hidle⟩
  show ((session.gateway.servers.set index rested)[index]?.bind _) = _
  rw [List.getElem?_set_self hindex]
  show rested.connections[server.connections.length]? = _
  rw [hconnections]
  exact List.getElem?_concat_length

/-- Bytes arrive from a peer: its connection does all there is to do. -/
theorem goesOn_send (h : session.gateway.Quiet)
    (hserver : session.gateway.servers[peer.server]? = some server)
    {connection : Rpc.Connection} (hc : server.connections[peer.connection]? = some connection)
    (bytes : Rpc.Bytes) :
    ∃ rested, session.send peer bytes =
        ⟨{ session.gateway with servers := session.gateway.servers.set peer.server rested },
          ((connection.receive bytes).settle server.endpoint {} session.world).2⟩ ∧
      rested.Ready ∧ rested.endpoint = server.endpoint ∧
      rested.connections = server.connections.set peer.connection
        ((connection.receive bytes).settle server.endpoint {} session.world).1 := by
  obtain ⟨rested, hsettle, hready, hendpoint, -, hconnections⟩ :=
    (h.ready server (List.mem_of_getElem? hserver)).settle_receive hc bytes session.world
  exact ⟨rested, update_of_quiet h hserver hsettle hready, hready, hendpoint, hconnections⟩

/-- What is done is done at one server, which stays the server of its endpoint, and all connections
there stay as they are but that of a peer. -/
inductive Touches (session : Session ω κ) (peer? : Option Peer) : Session ω κ → Prop
  | nothing : Touches session peer? session
  | server {index : Nat} {server rested : Rpc.Server ω} (world : ω)
      (hserver : session.gateway.servers[index]? = some server) (hready : rested.Ready)
      (hendpoint : rested.endpoint = server.endpoint)
      (hothers : ∀ other c, peer? ≠ some ⟨index, other⟩ → server.connections[other]? = some c →
        rested.connections[other]? = some c) :
      Touches session peer?
        ⟨{ session.gateway with servers := session.gateway.servers.set index rested }, world⟩

theorem Touches.goesOn {peer? : Option Peer} {after : Session ω κ}
    (h : session.Touches peer? after) (hquiet : session.gateway.Quiet) : session.GoesOn after := by
  cases h with
  | nothing => exact .refl hquiet
  | server world hserver hready hendpoint => exact GoesOn.set hquiet hserver hready hendpoint world

theorem touches_connectTo (h : session.gateway.Quiet) (index : Nat) :
    session.Touches none (((session.connectTo index).map Prod.snd).getD session) := by
  cases hserver : session.gateway.servers[index]? with
  | none =>
    have hconnect : session.connectTo index = none := by
      unfold connectTo
      rw [hserver]
      rfl
    rw [hconnect]
    exact .nothing
  | some server =>
    obtain ⟨rested, accepted, hconnect, hready, hendpoint, hconnections, -⟩ :=
      exists_connectTo h hserver
    rw [hconnect]
    refine .server session.world hserver hready hendpoint fun other c _ hc => ?_
    obtain ⟨hlt, -⟩ := List.getElem?_eq_some_iff.mp hc
    rw [hconnections, List.getElem?_append_left hlt, hc]

theorem touches_send (h : session.gateway.Quiet) (peer : Peer) (bytes : Rpc.Bytes) :
    session.Touches (some peer) (session.send peer bytes) := by
  cases hserver : session.gateway.servers[peer.server]? with
  | none =>
    unfold send
    rw [update_of_absent h hserver]
    exact .nothing
  | some server =>
    have hready := h.ready server (List.mem_of_getElem? hserver)
    cases hc : server.connections[peer.connection]? with
    | none =>
      have hupdate : server.update peer.connection (Rpc.Connection.receive · bytes) = server := by
        unfold Rpc.Server.update
        rw [hc]
      have hsettle : (server.update peer.connection (Rpc.Connection.receive · bytes)).settle
          session.world = (server, session.world) := by
        rw [hupdate]
        exact Rpc.Server.settle_of_atRest hready.atRest
      unfold send
      rw [update_of_quiet h hserver hsettle hready]
      exact .server session.world hserver hready rfl fun _ _ _ hsame => hsame
    | some connection =>
      obtain ⟨rested, hsend, hrested, hendpoint, hconnections⟩ := goesOn_send h hserver hc bytes
      rw [hsend]
      refine .server _ hserver hrested hendpoint fun other c hpeer hother => ?_
      have hne : peer.connection ≠ other := by
        rintro rfl
        exact hpeer rfl
      rw [hconnections, List.getElem?_set_ne hne, hother]

theorem touches_hear (h : session.gateway.Quiet) (peer : Peer) :
    session.Touches (some peer) (session.hear peer).2.2 := by
  unfold hear
  cases hserver : session.gateway.servers[peer.server]? with
  | none => exact .nothing
  | some server =>
    obtain ⟨hready, hendpoint, hothers⟩ :=
      (h.ready server (List.mem_of_getElem? hserver)).hear peer.connection
    refine .server session.world hserver hready hendpoint fun other c hpeer hc => ?_
    have hne : other ≠ peer.connection := by
      rintro rfl
      exact hpeer rfl
    exact (hothers other hne).trans hc

/-- A visit touches nothing but one server, and of the connections there only its own. -/
theorem touches_visit (h : session.gateway.Quiet) (visit : Visit) :
    session.Touches visit.peer? (session.visit visit) := by
  cases visit with
  | connect index => exact touches_connectTo h index
  | send peer bytes => exact touches_send h peer bytes
  | hear peer => exact touches_hear h peer

/-- Whoever waits for a set that hosts something is not told anything while its tasks serve. -/
theorem goesOn_wait (h : session.gateway.Quiet)
    (hhosts : session.gateway.coordinator.handles ≠ []) : session.GoesOn session.wait.2 := by
  cases hbegin : session.gateway.coordinator.beginWait with
  | error fault =>
    have hwait : session.wait = (.error fault, session) := by
      rw [wait, Gateway.beginWait_of_error hbegin]
    rw [hwait]
    exact .refl h
  | ok begun =>
    obtain ⟨expected, waited⟩ := begun
    obtain ⟨rfl, rfl⟩ := Coordinator.eq_of_beginWait hbegin
    have hexpected : session.gateway.coordinator.handles.length ≠ 0 :=
      fun hzero => hhosts (List.length_eq_zero_iff.mp hzero)
    obtain ⟨task, htask⟩ := List.exists_mem_of_length_pos
      (Nat.pos_of_ne_zero (h.hosted ▸ hexpected))
    have hwaiting := Gateway.beginWait_of_ok hbegin hexpected
    -- The receiving end is taken, and nothing else that any call looks at is changed.
    have hquiet : Gateway.Quiet { session.gateway with
        activity := ⟨{ session.gateway.coordinator with receiver := .taken },
          session.gateway.activity.calls ++
            [.awaiting session.gateway.coordinator.handles.length]⟩ } := by
      refine ⟨⟨h.up, h.untold, h.serving, h.hosted, h.unposted, h.paired, fun call hcall => ?_⟩,
        h.ready⟩
      rcases List.mem_append.mp hcall with hold | hnew
      · have hrest := h.calls call hold
        cases call with
        | awaiting expected => exact hrest
        | answered answer => trivial
        | _ => exact hrest.elim
      · rw [List.mem_singleton.mp hnew]
        exact ⟨h.unposted, task, htask, by rw [h.serving task htask]; rfl⟩
    rw [wait, hwaiting]
    dsimp only
    rw [settle, hquiet.settle]
    exact ⟨hquiet, rfl, rfl⟩

/-- What becomes of a session while nobody stops the set and no listener fails: somebody outside
does something, or begins to wait for a set that hosts an endpoint. -/
inductive Becomes (before : Session ω κ) : Session ω κ → Prop
  | same : Becomes before before
  | visited {after : Session ω κ} (h : Becomes before after) (visit : Visit) :
      Becomes before (after.visit visit)
  | waited {after : Session ω κ} (h : Becomes before after)
      (hhosts : after.gateway.coordinator.handles ≠ []) : Becomes before after.wait.2

theorem Becomes.goesOn {after : Session ω κ} (h : session.Becomes after)
    (hquiet : session.gateway.Quiet) : session.GoesOn after := by
  induction h with
  | same => exact .refl hquiet
  | visited h visit ih => exact ih.trans ((touches_visit ih.quiet visit).goesOn ih.quiet)
  | waited h hhosts ih => exact ih.trans (goesOn_wait ih.quiet hhosts)

/-! ## One call -/

/-- The frame of a payload that arrives over an idle connection is answered by the endpoint of its
server, once, and the answer is there to be read; nothing happens to the other servers. -/
theorem send_of_idle (h : session.gateway.Quiet)
    (hserver : session.gateway.servers[peer.server]? = some server)
    {connection : Rpc.Connection} (hc : server.connections[peer.connection]? = some connection)
    (hidle : connection.Idle) {payload frame : Rpc.Bytes}
    (hframe : Rpc.Frame.encode payload = .ok frame) :
    (session.send peer frame).world = (server.endpoint.answer payload session.world).2 ∧
      (session.send peer frame).connection? peer =
        some (connection.told (server.endpoint.answer payload session.world).1) ∧
      ∀ other, other ≠ peer.server →
        (session.send peer frame).gateway.servers[other]? = session.gateway.servers[other]? := by
  obtain ⟨hindex, -⟩ := List.getElem?_eq_some_iff.mp hserver
  obtain ⟨hconnection, -⟩ := List.getElem?_eq_some_iff.mp hc
  obtain ⟨rested, hsend, -, -, hconnections⟩ := goesOn_send h hserver hc frame
  rw [hidle.settle_receive hframe] at hsend hconnections
  rw [hsend]
  refine ⟨rfl, ?_, fun other hother => List.getElem?_set_ne (Ne.symm hother)⟩
  show ((session.gateway.servers.set peer.server rested)[peer.server]?.bind _) = _
  rw [List.getElem?_set_self hindex]
  show rested.connections[peer.connection]? = _
  rw [hconnections, List.getElem?_set_self hconnection]

end Session

end StorageGateway.Lifecycle
