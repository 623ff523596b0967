import StorageGateway.Rpc.Server

/-!
# What one event does to a connection

Whatever happens to a server, each of its connections goes on with what it is doing or makes one
move: it begins to wait for a payload, takes one, has it answered, or ends. A server keeps what it
serves, what it has been told, and all its connections.
-/

namespace StorageGateway.Rpc

variable {σ : Type}

/-- What one event can make of a connection with the given number, when the connections have been
told to end or not. -/
inductive Connection.Move (endpoint : Endpoint σ) (raised : Bool) (world : σ) (index : Nat)
    (event : Server.Event) : Connection → Connection → Prop where
  /-- It goes on with what it is doing; it may have been cut off from its peer. -/
  | stays {old new : Connection} (hphase : new.phase = old.phase) (hsent : new.sent = old.sent)
    (hcut : new.unreachable = true → old.unreachable = true ∨ event = .hangUp index) :
    Move endpoint raised world index event old new
  /-- It begins to wait for a payload. -/
  | waits {old : Connection} (hphase : old.phase = .checking) (hraised : raised = false) :
    Move endpoint raised world index event old { old with phase := .waiting }
  /-- It takes the payload that stands at the front of what has arrived. -/
  | takes {old : Connection} {payload rest : Bytes} (hphase : old.phase = .waiting)
    (hfront : Frame.front old.arrived = .frame payload rest) :
    Move endpoint raised world index event old
      { old with phase := .serving payload, arrived := rest }
  /-- The payload that it has taken is answered. -/
  | answers {old : Connection} {payload : Bytes} (hphase : old.phase = .serving payload) :
    Move endpoint raised world index event old (old.send (endpoint.answer payload world).1)
  /-- It ends before it has taken another payload. -/
  | ends {old : Connection} (hphase : old.phase = .checking ∨ old.phase = .waiting) :
    Move endpoint raised world index event old old.close
  /-- It is lost with the service that should have answered. -/
  | crashes {old : Connection} {payload : Bytes} (hphase : old.phase = .serving payload)
    (hevent : event = .crash index) : Move endpoint raised world index event old old.close

namespace Connection

variable {endpoint : Endpoint σ} {raised : Bool} {world : σ} {index : Nat} {event : Server.Event}
  {signal : Signal} {old new : Connection}

theorem Move.refl (connection : Connection) :
    Move endpoint raised world index event connection connection :=
  .stays rfl rfl .inl

theorem move_receive (connection : Connection) (bytes : Bytes) :
    Move endpoint raised world index event connection (connection.receive bytes) := by
  unfold receive
  split
  · exact .refl connection
  · exact .stays rfl rfl .inl

theorem move_check (connection : Connection) :
    Move endpoint signal.raised world index event connection (connection.check signal) := by
  unfold check
  cases hphase : connection.phase with
  | checking =>
    dsimp only
    cases hraised : signal.raised with
    | true => exact .ends (.inl hphase)
    | false => exact .waits hphase rfl
  | _ => exact .refl connection

theorem move_take (connection : Connection) :
    Move endpoint raised world index event connection connection.take := by
  unfold take
  cases hphase : connection.phase with
  | waiting =>
    dsimp only
    cases hfront : Frame.front connection.arrived with
    | frame payload rest => exact .takes hphase hfront
    | oversized length => exact .ends (.inr hphase)
    | partialHeader | partialPayload =>
      dsimp only
      split
      · exact .ends (.inr hphase)
      · exact .refl connection
  | _ => exact .refl connection

theorem move_notice (connection : Connection) :
    Move endpoint raised world index event connection (connection.notice signal) := by
  unfold notice
  cases hphase : connection.phase with
  | waiting =>
    dsimp only
    split
    · exact .ends (.inr hphase)
    · exact .refl connection
  | _ => exact .refl connection

theorem answer_of_serving {payload : Bytes} (hphase : old.phase = .serving payload) :
    (old.answer endpoint world).1 = old.send (endpoint.answer payload world).1 := by
  rw [answer, hphase]
  dsimp only
  cases endpoint.answer payload world
  rfl

theorem move_answer (connection : Connection) :
    Move endpoint raised world index event connection (connection.answer endpoint world).1 := by
  cases hphase : connection.phase with
  | serving payload =>
    rw [answer_of_serving hphase]
    exact .answers hphase
  | _ =>
    have hsame : (connection.answer endpoint world).1 = connection := by
      rw [answer, hphase]
    rw [hsame]
    exact .refl connection

theorem move_crash (connection : Connection) :
    Move endpoint raised world index (.crash index) connection connection.crash := by
  unfold crash
  cases hphase : connection.phase with
  | serving payload => exact .crashes hphase rfl
  | _ => exact .refl connection

end Connection

namespace Server

variable {server next : Server σ} {index other : Nat} {world : σ} {old new : Connection}

/-- A connection of a server. One that has not been accepted yet is what all are at first. -/
def connection (server : Server σ) (index : Nat) : Connection :=
  server.connections[index]?.getD {}

/-- Putting a connection in the place of another leaves all others as they are. -/
theorem connection_of_set (index : Nat)
    (hold : server.connections[other]? = some old)
    (hset : next.connections = server.connections.set other new) :
    next.connection index = server.connection index ∨
      other = index ∧ server.connection index = old ∧ next.connection index = new := by
  obtain ⟨hlt, -⟩ := List.getElem?_eq_some_iff.mp hold
  unfold connection
  rw [hset]
  by_cases hother : other = index
  · subst hother
    rw [List.getElem?_set_self hlt, hold]
    exact .inr ⟨rfl, rfl, rfl⟩
  · rw [List.getElem?_set_ne hother]
    exact .inl rfl

theorem connection_update_self {change : Connection → Connection}
    (h : index < server.connections.length) :
    (server.update index change).connection index = change (server.connection index) := by
  have hold := List.getElem?_eq_getElem h
  have hnew : (server.connections.set index (change server.connections[index]))[index]? =
      some (change server.connections[index]) := List.getElem?_set_self h
  unfold update connection
  rw [hold]
  show (server.connections.set index (change server.connections[index]))[index]?.getD {} = _
  rw [hnew]
  rfl

theorem connection_updateServed_self {change : Connection → StateM σ Connection}
    (h : index < server.connections.length) :
    (server.updateServed index change world).1.connection index =
      (change (server.connection index) world).1 := by
  have hold := List.getElem?_eq_getElem h
  have hnew : (server.connections.set index (change server.connections[index] world).1)[index]? =
      some (change server.connections[index] world).1 := List.getElem?_set_self h
  unfold updateServed connection
  rw [hold]
  show (server.connections.set index (change server.connections[index] world).1)[index]?.getD {} = _
  rw [hnew]
  rfl

/-- When one connection makes a move, the server sees all of them make one. -/
theorem move_of_set {endpoint : Endpoint σ} {raised : Bool} {event : Event}
    (hold : server.connections[other]? = some old)
    (hset : next.connections = server.connections.set other new)
    (hmove : other = index → Connection.Move endpoint raised world index event old new) :
    Connection.Move endpoint raised world index event (server.connection index)
      (next.connection index) := by
  rcases connection_of_set index hold hset with hsame | ⟨hother, hfrom, hto⟩
  · rw [hsame]
    exact .refl _
  · rw [hfrom, hto]
    exact hmove hother

theorem move_update {endpoint : Endpoint σ} {raised : Bool} {event : Event}
    {change : Connection → Connection}
    (hchange : ∀ old, other = index →
      Connection.Move endpoint raised world index event old (change old)) :
    Connection.Move endpoint raised world index event (server.connection index)
      ((server.update other change).connection index) := by
  unfold update
  cases hold : server.connections[other]? with
  | none => exact .refl _
  | some old => exact move_of_set hold rfl (hchange old)

theorem move_updateServed {endpoint : Endpoint σ} {raised : Bool} {event : Event}
    {change : Connection → StateM σ Connection}
    (hchange : ∀ old, Connection.Move endpoint raised world index event old (change old world).1) :
    Connection.Move endpoint raised world index event (server.connection index)
      ((server.updateServed other change world).1.connection index) := by
  unfold updateServed
  cases hold : server.connections[other]? with
  | none => exact .refl _
  | some old => exact move_of_set hold rfl fun _ => hchange old

/-- A peer that connects finds a connection or none; all others are as they were. -/
theorem move_connect {endpoint : Endpoint σ} {raised : Bool} {event : Event} :
    Connection.Move endpoint raised world index event (server.connection index)
      (server.connect.connection index) := by
  have hnew {next : Server σ} {accepted : Connection}
      (hnext : next.connections = server.connections ++ [accepted])
      (haccepted : accepted = {} ∨ accepted = Connection.close {}) :
      Connection.Move endpoint raised world index event (server.connection index)
        (next.connection index) := by
    unfold connection
    rw [hnext]
    rcases Nat.lt_trichotomy index server.connections.length with hlt | rfl | hgt
    · rw [List.getElem?_append_left hlt]
      exact .refl _
    · rw [List.getElem?_concat_length, List.getElem?_eq_none (Nat.le_refl _)]
      rcases haccepted with rfl | rfl
      · exact .refl _
      · exact .ends (.inl rfl)
    · have hlength : (server.connections ++ [accepted]).length ≤ index := by
        rw [List.length_append, List.length_singleton]
        omega
      rw [List.getElem?_eq_none hlength, List.getElem?_eq_none (Nat.le_of_lt hgt)]
      exact .refl _
  unfold connect
  split
  · split
    · exact hnew rfl (.inl rfl)
    · exact hnew rfl (.inr rfl)
  · exact hnew rfl (.inr rfl)

/-- Whatever happens, each connection makes a move or goes on with what it is doing. -/
theorem move_step (server : Server σ) (event : Event) (world : σ) (index : Nat) :
    Connection.Move server.endpoint server.signal.raised world index event
      (server.connection index) ((server.step event world).1.connection index) := by
  cases event with
  | shutdown | tellLoop | release => exact .refl _
  | endLoop =>
    show Connection.Move _ _ _ _ _ _ (server.endLoop.connection index)
    unfold endLoop
    split
    · split <;> exact .refl _
    · exact .refl _
  | failAccept message =>
    show Connection.Move _ _ _ _ _ _ ((server.failAccept message).connection index)
    unfold failAccept
    split <;> exact .refl _
  | connect => exact move_connect
  | receive other bytes => exact move_update fun old _ => old.move_receive bytes
  | finish other => exact move_update fun old _ => .stays rfl rfl .inl
  | hangUp other =>
    refine move_update fun old hother => .stays rfl rfl fun _ => .inr ?_
    rw [hother]
  | check other => exact move_update fun old _ => old.move_check
  | take other => exact move_update fun old _ => old.move_take
  | notice other => exact move_update fun old _ => old.move_notice
  | answer other => exact move_updateServed fun old => old.move_answer
  | crash other =>
    show Connection.Move _ _ _ _ _ _ ((server.crash other).connection index)
    unfold crash
    cases hold : server.connections[other]? with
    | none => exact .refl _
    | some old =>
      refine move_of_set hold rfl fun hother => ?_
      subst hother
      exact old.move_crash

/-! ## What a server keeps -/

/-- A server has come further: it serves the same, knows what it has been told, and has lost no
connection. -/
structure Keeps (server next : Server σ) : Prop where
  endpoint : next.endpoint = server.endpoint
  asked : server.asked = true → next.asked = true
  raised : server.signal.raised = true → next.signal.raised = true
  length : server.connections.length ≤ next.connections.length

theorem Keeps.refl (server : Server σ) : Keeps server server :=
  ⟨rfl, id, id, Nat.le_refl _⟩

theorem Keeps.trans {last : Server σ} (h : Keeps server next) (hlast : Keeps next last) :
    Keeps server last :=
  ⟨hlast.endpoint.trans h.endpoint, fun hasked => hlast.asked (h.asked hasked),
    fun hraised => hlast.raised (h.raised hraised), Nat.le_trans h.length hlast.length⟩

theorem keeps_put (server : Server σ) (index : Nat) (old new : Connection) :
    Keeps server (server.put index old new) :=
  ⟨rfl, id, id, Nat.le_of_eq List.length_set.symm⟩

theorem keeps_update (server : Server σ) (index : Nat) (change : Connection → Connection) :
    Keeps server (server.update index change) := by
  unfold update
  split
  · exact keeps_put server index _ _
  · exact .refl server

theorem keeps_connect (server : Server σ) : Keeps server server.connect := by
  have hmore (accepted : Connection) :
      server.connections.length ≤ (server.connections ++ [accepted]).length := by
    rw [List.length_append]
    exact Nat.le_add_right _ _
  unfold connect
  split
  · split <;> exact ⟨rfl, id, id, hmore _⟩
  · exact ⟨rfl, id, id, hmore _⟩

theorem keeps_step (server : Server σ) (event : Event) (world : σ) :
    Keeps server (server.step event world).1 := by
  cases event with
  | shutdown => exact ⟨rfl, fun _ => rfl, fun _ => rfl, Nat.le_refl _⟩
  | tellLoop | release => exact ⟨rfl, fun _ => rfl, id, Nat.le_refl _⟩
  | endLoop =>
    show Keeps server server.endLoop
    unfold endLoop
    split
    · split <;> exact ⟨rfl, id, id, Nat.le_refl _⟩
    · exact .refl server
  | failAccept message =>
    show Keeps server (server.failAccept message)
    unfold failAccept
    split <;> exact ⟨rfl, id, id, Nat.le_refl _⟩
  | connect => exact keeps_connect server
  | receive | finish | hangUp | check | take | notice => exact keeps_update server _ _
  | answer index =>
    show Keeps server (server.updateServed index _ world).1
    unfold updateServed
    split
    · exact keeps_put server index _ _
    · exact .refl server
  | crash index =>
    show Keeps server (server.crash index)
    unfold crash
    split
    · exact ⟨rfl, id, id, Nat.le_of_eq List.length_set.symm⟩
    · exact .refl server

theorem keeps_run (server : Server σ) (events : List Event) (world : σ) :
    Keeps server (server.run events world).1 := by
  induction events generalizing server world with
  | nil => exact .refl server
  | cons event events ih => exact (keeps_step server event world).trans (ih _ _)

theorem run_cons (server : Server σ) (event : Event) (events : List Event) (world : σ) :
    server.run (event :: events) world =
      (server.step event world).1.run events (server.step event world).2 := rfl

theorem run_append (server : Server σ) (earlier later : List Event) (world : σ) :
    server.run (earlier ++ later) world =
      (server.run earlier world).1.run later (server.run earlier world).2 := by
  induction earlier generalizing server world with
  | nil => rfl
  | cons event earlier ih => exact ih _ _

end Server

end StorageGateway.Rpc
