import StorageGateway.Proofs.Rpc.Answers
import StorageGateway.Proofs.Rpc.Servers

/-!
# Streams are answered

What a connection sends is told by what has arrived over it: the answers to the payloads of the
stream, in their order. It does not matter in which pieces the stream arrives, how far the
connection has come meanwhile, or what happens to other connections.
-/

namespace StorageGateway.Rpc

open StorageGateway.Rpc.Frame (front)

variable {reply : Bytes → Response}

/-! ## Connections -/

namespace Connection

variable {σ : Type} {endpoint : Endpoint σ} {connection next last : Connection} {world : σ}

/-- What a connection has yet to send, when these bytes are still to come. -/
def due (reply : Bytes → Response) (connection : Connection) (more : Bytes) : Bytes :=
  match connection.phase with
  | .checking | .waiting => output reply (connection.arrived ++ more)
  | .serving payload => answered reply payload (output reply (connection.arrived ++ more))
  | .ended => []

/-- All that a connection sends: what it has sent, and what it has yet to send. -/
def whole (reply : Bytes → Response) (connection : Connection) (more : Bytes) : Bytes :=
  connection.sent ++ connection.due reply more

/-- A connection has come further, and sends in all what it would have sent. -/
structure Keeps (reply : Bytes → Response) (connection next : Connection) : Prop where
  whole : ∀ more, (connection.finished = true → more = []) →
    next.whole reply more = connection.whole reply more
  finished : next.finished = connection.finished
  unreachable : next.unreachable = connection.unreachable

theorem Keeps.refl (connection : Connection) : Keeps reply connection connection :=
  ⟨fun _ _ => rfl, rfl, rfl⟩

theorem Keeps.trans (h : Keeps reply connection next) (hlast : Keeps reply next last) :
    Keeps reply connection last := by
  refine ⟨fun more hmore => ?_, hlast.finished.trans h.finished,
    hlast.unreachable.trans h.unreachable⟩
  rw [hlast.whole more (fun hfinished => hmore (h.finished ▸ hfinished)), h.whole more hmore]

theorem whole_receive (h : connection.finished = false) (bytes more : Bytes) :
    (connection.receive bytes).whole reply more = connection.whole reply (bytes ++ more) := by
  have hreceive : connection.receive bytes =
      { connection with arrived := connection.arrived ++ bytes } := by
    unfold receive
    rw [h]
    rfl
  rw [hreceive]
  unfold whole due
  dsimp only
  cases connection.phase with
  | ended => rfl
  | _ => rw [List.append_assoc]

theorem keeps_check (reply : Bytes → Response) (connection : Connection) :
    Keeps reply connection (connection.check {}) := by
  unfold check
  cases hphase : connection.phase with
  | checking =>
    refine ⟨fun more _ => ?_, rfl, rfl⟩
    unfold whole due
    rw [hphase]
    rfl
  | _ => exact .refl connection

theorem keeps_notice (reply : Bytes → Response) (connection : Connection) :
    Keeps reply connection (connection.notice {}) := by
  unfold notice
  split <;> exact .refl connection

/-- A connection that waits ends only where no frame can ever be taken off. -/
theorem keeps_close (hphase : connection.phase = .waiting)
    (h : ∀ more, (connection.finished = true → more = []) →
      ∀ payload rest, front (connection.arrived ++ more) ≠ .frame payload rest) :
    Keeps reply connection connection.close := by
  refine ⟨fun more hmore => ?_, rfl, rfl⟩
  have hnothing : output reply (connection.arrived ++ more) = [] :=
    output_of_no_frame (h more hmore)
  unfold whole due
  rw [hphase]
  dsimp only
  rw [hnothing]
  rfl

theorem keeps_take (reply : Bytes → Response) (connection : Connection) :
    Keeps reply connection connection.take := by
  unfold take
  cases hphase : connection.phase with
  | waiting =>
    dsimp only
    cases hfront : front connection.arrived with
    | frame payload rest =>
      refine ⟨fun more _ => ?_, rfl, rfl⟩
      have houtput : output reply (connection.arrived ++ more) =
          answered reply payload (output reply (rest ++ more)) :=
        output_of_frame (Frame.front_append_of_frame hfront more)
      unfold whole due
      rw [hphase]
      dsimp only
      rw [houtput]
    | oversized length =>
      refine keeps_close hphase fun more _ payload rest hframe => ?_
      rw [Frame.front_append_of_oversized hfront more] at hframe
      cases hframe
    | partialHeader | partialPayload =>
      dsimp only
      split
      · rename_i hfinished
        refine keeps_close hphase fun more hmore payload rest hframe => ?_
        rw [hmore hfinished, List.append_nil, hfront] at hframe
        cases hframe
      · exact .refl connection
  | _ => exact .refl connection

theorem keeps_send {payload : Bytes} (hphase : connection.phase = .serving payload)
    (hreachable : connection.unreachable = false) :
    Keeps reply connection (connection.send (reply payload)) := by
  unfold send
  cases hframe : Frame.encode (Text.Utf8.encode (reply payload).text) with
  | error fault =>
    refine ⟨fun more _ => ?_, rfl, rfl⟩
    unfold whole due answered
    rw [hphase]
    dsimp only
    rw [hframe]
    rfl
  | ok frame =>
    dsimp only
    rw [if_neg (by simp [hreachable])]
    refine ⟨fun more _ => ?_, rfl, rfl⟩
    unfold whole due answered
    rw [hphase]
    dsimp only
    rw [hframe, List.append_assoc]

theorem keeps_answer (hreply : ∀ payload world, (endpoint.answer payload world).1 = reply payload)
    (hreachable : connection.unreachable = false) (world : σ) :
    Keeps reply connection (connection.answer endpoint world).1 := by
  unfold answer
  cases hphase : connection.phase with
  | serving payload =>
    dsimp only
    cases hanswer : endpoint.answer payload world with
    | mk response after =>
      have hresponse : response = reply payload := by
        rw [← hreply payload world, hanswer]
      rw [hresponse]
      exact keeps_send hphase hreachable
  | _ => exact .refl connection

theorem keeps_advance (hreply : ∀ payload world, (endpoint.answer payload world).1 = reply payload)
    (hreachable : connection.unreachable = false) (world : σ) :
    Keeps reply connection (connection.advance endpoint {} world).1 := by
  unfold advance
  cases hphase : connection.phase with
  | checking => exact keeps_check reply connection
  | waiting => exact (keeps_take reply connection).trans (keeps_notice reply connection.take)
  | serving payload => exact keeps_answer hreply hreachable world
  | ended => exact .refl connection

theorem keeps_settle (hreply : ∀ payload world, (endpoint.answer payload world).1 = reply payload)
    (hreachable : connection.unreachable = false) (world : σ) :
    Keeps reply connection (connection.settle endpoint {} world).1 := by
  induction hwork : connection.work using Nat.strongRecOn generalizing connection world with
  | ind amount ih =>
    by_cases hrest : connection.AtRest {}
    · rw [settle_of_atRest hrest]
      exact .refl connection
    · have hkeeps := keeps_advance hreply hreachable world
      obtain ⟨-, hless⟩ := advance_lt endpoint world hrest
      rw [settle_of_advance hrest rfl]
      exact hkeeps.trans (ih _ (hwork ▸ hless) (hkeeps.unreachable.trans hreachable) _ rfl)

/-- Where there is nothing to do, everything has been sent. -/
theorem due_of_atRest (h : connection.AtRest {}) : connection.due reply [] = [] := by
  unfold due
  rcases h with hended | ⟨hwaiting, hsame⟩
  · rw [hended]
  · rw [hwaiting]
    dsimp only
    rw [List.append_nil]
    refine output_of_no_frame fun payload rest hfront => ?_
    -- Otherwise the payload would have been taken.
    have htake : connection.take =
        { connection with phase := .serving payload, arrived := rest } := by
      unfold take
      rw [hwaiting]
      dsimp only
      rw [hfront]
    have hphase := congrArg phase hsame
    rw [htake, hwaiting] at hphase
    cases hphase

theorem sent_settle (hreply : ∀ payload world, (endpoint.answer payload world).1 = reply payload)
    (hreachable : connection.unreachable = false) (world : σ) :
    (connection.settle endpoint {} world).1.sent = connection.whole reply [] := by
  have hkeeps := (keeps_settle hreply hreachable world).whole [] fun _ => rfl
  have hdue : (connection.settle endpoint {} world).1.due reply [] = [] :=
    due_of_atRest (atRest_settle endpoint {} connection world)
  rw [← hkeeps, whole, hdue, List.append_nil]

end Connection

/-! ## Runs -/

namespace Server

variable {σ : Type} {server : Server σ} {endpoint : Endpoint σ} {index : Nat}
  {connection : Connection}

/-- The bytes that a peer sends over a connection in the course of events. Once it has finished, it
sends no more. -/
def bytesTo (index : Nat) : List Event → Bytes
  | [] => []
  | .receive other bytes :: events =>
    if other = index then bytes ++ bytesTo index events else bytesTo index events
  | .finish other :: events => if other = index then [] else bytesTo index events
  | _ :: events => bytesTo index events

theorem bytesTo_receive (index other : Nat) (bytes : Bytes) (events : List Event) :
    bytesTo index (.receive other bytes :: events) =
      if other = index then bytes ++ bytesTo index events else bytesTo index events := rfl

theorem bytesTo_finish (index other : Nat) (events : List Event) :
    bytesTo index (.finish other :: events) =
      if other = index then [] else bytesTo index events := rfl

/-- Nobody is told to shut down, and the connection is lost neither by its peer nor by the
service. -/
def Event.Spares (index : Nat) : Event → Prop
  | .shutdown | .release => False
  | .hangUp other | .crash other => other ≠ index
  | _ => True

/-- A connection of a server that nobody has told to end, and whose peer can be sent to. -/
structure Attends (server : Server σ) (endpoint : Endpoint σ) (index : Nat)
    (connection : Connection) : Prop where
  endpoint : server.endpoint = endpoint
  untold : server.signal = {}
  there : server.connections[index]? = some connection
  reachable : connection.unreachable = false

/-- What the peer has yet to send. -/
def toCome (connection : Connection) (index : Nat) (events : List Event) : Bytes :=
  if connection.finished then [] else bytesTo index events

theorem whole_toCome {next : Connection} (h : Connection.Keeps reply connection next)
    (index : Nat) (events : List Event) :
    next.whole reply (toCome next index events) =
      connection.whole reply (toCome connection index events) := by
  have hsame : toCome next index events = toCome connection index events := by
    unfold toCome
    rw [h.finished]
  rw [hsame]
  refine h.whole _ fun hfinished => ?_
  unfold toCome
  rw [hfinished]
  rfl

theorem Attends.put (h : server.Attends endpoint index connection) {next : Connection}
    (hreachable : next.unreachable = false) (old : Connection) :
    (server.put index old next).Attends endpoint index next := by
  obtain ⟨hindex, -⟩ := List.getElem?_eq_some_iff.mp h.there
  exact ⟨h.endpoint, h.untold, List.getElem?_set_self hindex, hreachable⟩

theorem Attends.put_other (h : server.Attends endpoint index connection) {other : Nat}
    (hother : other ≠ index) (old new : Connection) :
    (server.put other old new).Attends endpoint index connection :=
  ⟨h.endpoint, h.untold, (List.getElem?_set_ne hother).trans h.there, h.reachable⟩

theorem Attends.update_other (h : server.Attends endpoint index connection) {other : Nat}
    (hother : other ≠ index) (change : Connection → Connection) :
    (server.update other change).Attends endpoint index connection := by
  unfold Server.update
  cases server.connections[other]? with
  | none => exact h
  | some old => exact h.put_other hother old _

/-- What is done to one connection is done to this one, or leaves it alone. -/
theorem Attends.update (h : server.Attends endpoint index connection) (other : Nat)
    {change : Connection → Connection} (hreachable : (change connection).unreachable = false) :
    (server.update other change).Attends endpoint index
      (if other = index then change connection else connection) := by
  by_cases hother : other = index
  · subst hother
    unfold Server.update
    rw [h.there, if_pos rfl]
    exact h.put hreachable connection
  · rw [if_neg hother]
    exact h.update_other hother change

theorem Attends.update_keeps (h : server.Attends endpoint index connection) (other : Nat)
    {change : Connection → Connection}
    (hkeeps : Connection.Keeps reply connection (change connection)) (events : List Event) :
    ∃ next, (server.update other change).Attends endpoint index next ∧
      next.whole reply (toCome next index events) =
        connection.whole reply (toCome connection index events) := by
  refine ⟨_, h.update other (hkeeps.unreachable.trans h.reachable), ?_⟩
  split
  · exact whole_toCome hkeeps index events
  · rfl

theorem Attends.receive (h : server.Attends endpoint index connection) (other : Nat)
    (bytes : Bytes) (events : List Event) :
    ∃ next, (server.update other (Connection.receive · bytes)).Attends endpoint index next ∧
      next.whole reply (toCome next index events) =
        connection.whole reply (toCome connection index (.receive other bytes :: events)) := by
  have hfields : (connection.receive bytes).finished = connection.finished ∧
      (connection.receive bytes).unreachable = connection.unreachable := by
    unfold Connection.receive
    split <;> exact ⟨rfl, rfl⟩
  refine ⟨_, h.update other (hfields.2.trans h.reachable), ?_⟩
  unfold toCome
  rw [bytesTo_receive]
  by_cases hother : other = index
  · rw [if_pos hother, if_pos hother, hfields.1]
    cases hfinished : connection.finished with
    | true =>
      have hsame : connection.receive bytes = connection := by
        rw [Connection.receive, if_pos hfinished]
      rw [hsame]
      rfl
    | false => exact Connection.whole_receive hfinished bytes _
  · rw [if_neg hother, if_neg hother]

theorem Attends.finish (h : server.Attends endpoint index connection) (other : Nat)
    (events : List Event) :
    ∃ next, (server.update other Connection.finish).Attends endpoint index next ∧
      next.whole reply (toCome next index events) =
        connection.whole reply (toCome connection index (.finish other :: events)) := by
  have hreachable : connection.finish.unreachable = false := h.reachable
  refine ⟨_, h.update other hreachable, ?_⟩
  unfold toCome
  rw [bytesTo_finish]
  by_cases hother : other = index
  · rw [if_pos hother, if_pos hother, ite_self]
    rfl
  · rw [if_neg hother, if_neg hother]

theorem Attends.answer (h : server.Attends endpoint index connection)
    (hreply : ∀ payload world, (endpoint.answer payload world).1 = reply payload) (other : Nat)
    (world : σ) (events : List Event) :
    ∃ next, (server.updateServed other (Connection.answer server.endpoint) world).1.Attends
        endpoint index next ∧
      next.whole reply (toCome next index events) =
        connection.whole reply (toCome connection index events) := by
  have hkeeps := Connection.keeps_answer hreply h.reachable world
  unfold updateServed
  rw [h.endpoint]
  by_cases hother : other = index
  · subst hother
    rw [h.there]
    exact ⟨_, h.put (hkeeps.unreachable.trans h.reachable) connection, whole_toCome hkeeps _ _⟩
  · cases server.connections[other]? with
    | none => exact ⟨connection, h, rfl⟩
    | some old => exact ⟨connection, h.put_other hother old _, rfl⟩

theorem Attends.crash_other (h : server.Attends endpoint index connection) {other : Nat}
    (hother : other ≠ index) : (server.crash other).Attends endpoint index connection := by
  unfold crash
  cases server.connections[other]? with
  | none => exact h
  | some old =>
    exact ⟨h.endpoint, h.untold, (List.getElem?_set_ne hother).trans h.there, h.reachable⟩

theorem Attends.connect (h : server.Attends endpoint index connection) :
    server.connect.Attends endpoint index connection := by
  have happend (more : List Connection) :
      (server.connections ++ more)[index]? = some connection := by
    obtain ⟨hindex, -⟩ := List.getElem?_eq_some_iff.mp h.there
    rw [List.getElem?_append_left hindex]
    exact h.there
  unfold Server.connect
  split
  · split <;> exact ⟨h.endpoint, h.untold, happend _, h.reachable⟩
  · exact ⟨h.endpoint, h.untold, happend _, h.reachable⟩

/-- Whatever happens, the connection sends in all what it would have sent. -/
theorem Attends.step (h : server.Attends endpoint index connection)
    (hreply : ∀ payload world, (endpoint.answer payload world).1 = reply payload) {event : Event}
    (hspares : event.Spares index) (world : σ) (events : List Event) :
    ∃ next, (server.step event world).1.Attends endpoint index next ∧
      next.whole reply (toCome next index events) =
        connection.whole reply (toCome connection index (event :: events)) := by
  cases event with
  | shutdown => exact hspares.elim
  | release => exact hspares.elim
  | tellLoop => exact ⟨connection, ⟨h.endpoint, h.untold, h.there, h.reachable⟩, rfl⟩
  | endLoop =>
    refine ⟨connection, ?_, rfl⟩
    show server.endLoop.Attends endpoint index connection
    unfold endLoop
    split
    · split
      · exact ⟨h.endpoint, h.untold, h.there, h.reachable⟩
      · exact h
    · exact h
  | failAccept message =>
    refine ⟨connection, ?_, rfl⟩
    show (server.failAccept message).Attends endpoint index connection
    unfold failAccept
    split
    · exact ⟨h.endpoint, h.untold, h.there, h.reachable⟩
    · exact h
  | connect => exact ⟨connection, h.connect, rfl⟩
  | receive other bytes => exact h.receive other bytes events
  | finish other => exact h.finish other events
  | hangUp other => exact ⟨connection, h.update_other hspares Connection.hangUp, rfl⟩
  | check other =>
    have hkeeps := Connection.keeps_check reply connection
    rw [← h.untold] at hkeeps
    exact h.update_keeps other hkeeps events
  | take other => exact h.update_keeps other (Connection.keeps_take reply connection) events
  | notice other =>
    have hkeeps := Connection.keeps_notice reply connection
    rw [← h.untold] at hkeeps
    exact h.update_keeps other hkeeps events
  | answer other => exact h.answer hreply other world events
  | crash other => exact ⟨connection, h.crash_other hspares, rfl⟩

/-- In the course of any events, the connection sends in all what its stream deserves. -/
theorem Attends.run (h : server.Attends endpoint index connection)
    (hreply : ∀ payload world, (endpoint.answer payload world).1 = reply payload)
    {events : List Event} (hspares : ∀ event ∈ events, event.Spares index) (world : σ) :
    ∃ next, (server.run events world).1.Attends endpoint index next ∧
      next.whole reply [] = connection.whole reply (toCome connection index events) := by
  induction events generalizing server connection world with
  | nil =>
    refine ⟨connection, h, ?_⟩
    unfold toCome bytesTo
    rw [ite_self]
  | cons event events ih =>
    obtain ⟨hfirst, hothers⟩ := List.forall_mem_cons.mp hspares
    obtain ⟨next, hnext, hwhole⟩ := h.step hreply hfirst world events
    obtain ⟨last, hlast, hlater⟩ := ih hnext hothers (server.step event world).2
    exact ⟨last, hlast, hlater.trans hwhole⟩

/-- Where the service is `Endpoint.Steady`, every payload has one answer by `Endpoint.answer`, which
holds a result or an error and the name of the request (`Replies`); and a connection that has just
been accepted, when nobody is told to shut down and it is not lost (`Event.Spares`), sends the
`output` for its stream: the answers to its payloads, in their order and nothing else, never more
than these, and all of them as soon as `Connection.settle` has done what there is to do. -/
theorem connection_answers_its_stream (endpoint : Endpoint σ) (hsteady : endpoint.Steady)
    (world : σ) :
    ∃ reply : Bytes → Response,
      (∀ payload other, (endpoint.answer payload other).1 = reply payload) ∧
      (∀ payload, Replies payload (reply payload).toJson) ∧
      (∀ stream, ∃ payloads rest, stream = Frame.frames payloads ++ rest ∧
        output reply stream =
          Frame.frames (payloads.map fun payload => Text.Utf8.encode (reply payload).text) ∧
        ((∃ ending, Frame.Leftover rest ending) ∨
          ∃ payload behind, front rest = .frame payload behind ∧
            Frame.maxPayload < (Text.Utf8.encode (reply payload).text).length)) ∧
      ∀ (server : Server σ) (index : Nat) (events : List Event), server.endpoint = endpoint →
        server.signal = {} → server.connections[index]? = some {} →
        (∀ event ∈ events, event.Spares index) → ∀ world,
          ∃ connection, (server.run events world).1.connections[index]? = some connection ∧
            connection.sent <+: output reply (bytesTo index events) ∧
            ∀ other, (connection.settle endpoint {} other).1.sent =
              output reply (bytesTo index events) := by
  have hreply (payload : Bytes) (other : σ) :
      (endpoint.answer payload other).1 = (endpoint.answer payload world).1 :=
    hsteady.answer_eq payload other world
  refine ⟨fun payload => (endpoint.answer payload world).1, hreply,
    fun payload => endpoint.replies_answer payload world, exists_output _, ?_⟩
  intro server index events hendpoint huntold hthere hspares start
  have hattends : server.Attends endpoint index {} := ⟨hendpoint, huntold, hthere, rfl⟩
  obtain ⟨connection, hrun, hwhole⟩ := hattends.run hreply hspares start
  have hstream : connection.whole (fun payload => (endpoint.answer payload world).1) [] =
      output (fun payload => (endpoint.answer payload world).1) (bytesTo index events) := hwhole
  refine ⟨connection, hrun.there, ?_, fun other => ?_⟩
  · rw [← hstream]
    exact List.prefix_append _ _
  · rw [← hstream]
    exact Connection.sent_settle hreply hrun.reachable other

/-- An endpoint that gives every call its parameters back, and counts the calls. -/
def countingEcho : Endpoint Nat where
  group := "echo"
  version := ⟨1, 0, 0, none⟩
  service := some fun _ params count => (.ok params, count + 1)

/-- A server of that endpoint that has just accepted a connection. -/
def countingServer : Server Nat :=
  { endpoint := countingEcho, address := "/s/echo", slots := 1, connections := [{}] }

/-- Bytes that are no request arrive, and a request behind them. -/
def nonsenseAndCall : List Event :=
  [.check 0, .receive 0 (Frame.frames [Text.Utf8.encode "nonsense", Text.Utf8.encode
    "\x7b\"jsonrpc\":\"2.0\",\"method\":\"m\",\"params\":[1],\"id\":7\x7d"]), .take 0]

theorem call_is_answered_behind_nonsense :
    countingEcho.Steady ∧
    ∃ connection, (countingServer.run nonsenseAndCall 0).1.connections[0]? = some connection ∧
      (Connection.settle countingEcho {} connection 0).1.sent = Frame.frames
        [Text.Utf8.encode ("\x7b\"jsonrpc\":\"2.0\",\"error\":\x7b\"code\":-32700," ++
          "\"message\":\"Parse error: <json syntax>\"\x7d,\"id\":null\x7d"),
        Text.Utf8.encode "\x7b\"jsonrpc\":\"2.0\",\"result\":[1],\"id\":7\x7d"] := by
  have hsteady : countingEcho.Steady := by
    intro service hservice method params world other
    cases hservice
    rfl
  have hspares : ∀ event ∈ nonsenseAndCall, event.Spares 0 := by
    simp [nonsenseAndCall, Event.Spares]
  obtain ⟨reply, hreply, -, -, hruns⟩ := connection_answers_its_stream countingEcho hsteady 0
  obtain ⟨connection, hthere, -, hsent⟩ :=
    hruns countingServer 0 nonsenseAndCall rfl rfl rfl hspares 0
  have hanswers : reply = fun payload => (countingEcho.answer payload 0).1 :=
    funext fun payload => (hreply payload 0).symm
  refine ⟨hsteady, connection, hthere, ?_⟩
  rw [hsent 0, hanswers]
  decide +kernel

end Server

end StorageGateway.Rpc
