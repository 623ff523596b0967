import StorageGateway.Proofs.Rpc.Moves
import StorageGateway.Proofs.Rpc.Streams

/-!
# Servers keep account of their connections

Every slot that is taken is held by a connection that is alive, or is lost with one under which the
service has broken down. A connection that ends in any other way gives its slot back, once and for
all. So there are never more connections alive than there are slots, and where the service never
breaks down a peer is turned away only when all slots are held by connections that are alive.
-/

namespace StorageGateway.Rpc

variable {σ : Type}

namespace Connection

variable {endpoint : Endpoint σ} {raised : Bool} {world : σ} {index : Nat} {event : Server.Event}
  {old new : Connection}

theorem isEnded_eq_true_iff : old.isEnded = true ↔ old.phase = .ended := beq_iff_eq

/-- A connection that has ended makes no move. -/
theorem Move.ended (h : Move endpoint raised world index event old new)
    (hended : old.isEnded = true) : new.isEnded = true := by
  rw [isEnded_eq_true_iff] at hended ⊢
  cases h with
  | stays hphase _ _ => rw [hphase, hended]
  | ends hphase => rcases hphase with hphase | hphase <;> rw [hended] at hphase <;> cases hphase
  | waits hphase _ | takes hphase _ | answers hphase | crashes hphase _ =>
    rw [hended] at hphase
    cases hphase

end Connection

namespace Server

variable {server : Server σ} {index lost : Nat} {world : σ} {old new : Connection}

/-- How many connections are alive. -/
def alive (server : Server σ) : Nat := server.connections.countP (!·.isEnded)

/-- Whether an event costs a slot: the service breaks down while it answers. -/
def losesSlot (server : Server σ) : Event → Bool
  | .crash index => server.connections[index]?.any fun connection =>
      !connection.isEnded && connection.crash.isEnded
  | _ => false

/-- How many slots are lost in the course of events. -/
def lostSlots (server : Server σ) : List Event → σ → Nat
  | [], _ => 0
  | event :: events, world =>
    (server.losesSlot event).toNat +
      lostSlots (server.step event world).1 events (server.step event world).2

/-- The slots that are taken are those of the connections that are alive and those that are lost,
and no more than there are. -/
structure Accounts (server : Server σ) (lost : Nat) : Prop where
  taken : server.slots = server.alive + lost
  bounded : server.slots ≤ greatestConnections

/-! ## What an event does to the account -/

theorem countP_alive_pos {connections : List Connection} (hmem : old ∈ connections)
    (halive : old.isEnded = false) : 0 < connections.countP (!·.isEnded) :=
  List.countP_pos_iff.mpr ⟨old, hmem, by rw [halive]; rfl⟩

/-- Where a connection takes the place of another, the number of those that are alive changes by
these two. -/
theorem countP_set_alive {connections : List Connection} (hold : connections[index]? = some old) :
    (connections.set index new).countP (!·.isEnded) + (!old.isEnded).toNat =
      connections.countP (!·.isEnded) + (!new.isEnded).toNat := by
  obtain ⟨hlt, rfl⟩ := List.getElem?_eq_some_iff.mp hold
  rw [List.countP_set hlt]
  cases halive : connections[index].isEnded with
  | true => cases new.isEnded <;> simp
  | false =>
    have hpos := countP_alive_pos (List.getElem_mem hlt) halive
    cases new.isEnded <;> simp <;> omega

/-- A connection that ends gives back its slot, and one that goes on keeps it. -/
theorem Accounts.put (h : server.Accounts lost) (hold : server.connections[index]? = some old)
    (hends : old.isEnded = true → new.isEnded = true) :
    (server.put index old new).Accounts lost := by
  have hcount : (server.put index old new).alive + (!old.isEnded).toNat =
      server.alive + (!new.isEnded).toNat := countP_set_alive hold
  have hslots : (server.put index old new).slots + (!old.isEnded).toNat =
      server.slots + (!new.isEnded).toNat := by
    show (if new.isEnded && !old.isEnded then server.slots - 1 else server.slots) + _ = _
    cases halive : old.isEnded with
    | true => simp [hends halive]
    | false =>
      have htaken := h.taken
      have hpos : 0 < server.alive := countP_alive_pos (List.mem_of_getElem? hold) halive
      cases new.isEnded
      · simp
      · simp
        omega
  have hbounded : (server.put index old new).slots ≤ server.slots := by
    show (if _ then server.slots - 1 else server.slots) ≤ server.slots
    split
    · exact Nat.sub_le _ _
    · exact Nat.le_refl _
  have htaken := h.taken
  exact ⟨by omega, Nat.le_trans hbounded h.bounded⟩

theorem Accounts.update {change : Connection → Connection} (h : server.Accounts lost)
    (event : Event) (world : σ)
    (hmove : ∀ old, Connection.Move server.endpoint server.signal.raised world index event old
      (change old)) : (server.update index change).Accounts lost := by
  unfold Server.update
  cases hold : server.connections[index]? with
  | none => exact h
  | some old => exact h.put hold (hmove old).ended

theorem Accounts.updateServed {change : Connection → StateM σ Connection} (h : server.Accounts lost)
    (event : Event) (world : σ)
    (hmove : ∀ old, Connection.Move server.endpoint server.signal.raised world index event old
      (change old world).1) : (server.updateServed index change world).1.Accounts lost := by
  unfold Server.updateServed
  cases hold : server.connections[index]? with
  | none => exact h
  | some old => exact h.put hold (hmove old).ended

/-- A peer that connects takes a slot, or is turned away at once. -/
theorem Accounts.connect (h : server.Accounts lost) : server.connect.Accounts lost := by
  have htaken := h.taken
  have hmore (connection : Connection) :
      (server.connections ++ [connection]).countP (!·.isEnded) =
        server.alive + (!connection.isEnded).toNat := by
    rw [List.countP_append, List.countP_singleton]
    cases connection.isEnded <;> rfl
  unfold Server.connect
  split
  · split
    · refine ⟨?_, by assumption⟩
      have hnew : ((server.connections ++ [({} : Connection)]).countP (!·.isEnded)) =
          server.alive + 1 := hmore {}
      show server.slots + 1 = (server.connections ++ [({} : Connection)]).countP (!·.isEnded) + lost
      omega
    · exact ⟨htaken.trans (congrArg (· + lost) (hmore (.close {})).symm), h.bounded⟩
  · exact ⟨htaken.trans (congrArg (· + lost) (hmore (.close {})).symm), h.bounded⟩

/-- The slot of a connection under which the service breaks down is lost. -/
theorem Accounts.crash (h : server.Accounts lost) :
    (server.crash index).Accounts (lost + (server.losesSlot (.crash index)).toNat) := by
  show Accounts _ (lost + (server.connections[index]?.any fun connection =>
    !connection.isEnded && connection.crash.isEnded).toNat)
  unfold Server.crash
  cases hold : server.connections[index]? with
  | none => exact h
  | some old =>
    have hcount : (server.connections.set index old.crash).countP (!·.isEnded) +
        (!old.isEnded).toNat = server.alive + (!old.crash.isEnded).toNat := countP_set_alive hold
    have hends : old.isEnded = true → old.crash.isEnded = true := fun hended => by
      rw [Connection.crash, Connection.isEnded_eq_true_iff.mp hended]
      exact hended
    have htaken := h.taken
    refine ⟨?_, h.bounded⟩
    show server.slots = (server.connections.set index old.crash).countP (!·.isEnded) +
      (lost + (!old.isEnded && old.crash.isEnded).toNat)
    cases halive : old.isEnded with
    | true =>
      rw [halive, hends halive] at hcount
      exact htaken.trans (congrArg (· + lost) hcount.symm)
    | false =>
      rw [halive] at hcount
      cases hcrash : old.crash.isEnded <;> simp [hcrash] at hcount ⊢ <;> omega

/-- Whatever happens, the server keeps account of its slots. -/
theorem Accounts.step (h : server.Accounts lost) (event : Event) (world : σ) :
    (server.step event world).1.Accounts (lost + (server.losesSlot event).toNat) := by
  cases event with
  | shutdown | tellLoop | release => exact ⟨h.taken, h.bounded⟩
  | endLoop =>
    show server.endLoop.Accounts lost
    unfold Server.endLoop
    split
    · split
      · exact ⟨h.taken, h.bounded⟩
      · exact h
    · exact h
  | failAccept message =>
    show (server.failAccept message).Accounts lost
    unfold Server.failAccept
    split
    · exact ⟨h.taken, h.bounded⟩
    · exact h
  | connect => exact h.connect
  | receive index bytes =>
    exact h.update (.receive index bytes) world fun old => old.move_receive bytes
  | finish index => exact h.update (.finish index) world fun _ => .stays rfl rfl .inl
  | hangUp index => exact h.update (.hangUp index) world fun _ => .stays rfl rfl fun _ => .inr rfl
  | check index => exact h.update (.check index) world fun old => old.move_check
  | take index => exact h.update (.take index) world fun old => old.move_take
  | notice index => exact h.update (.notice index) world fun old => old.move_notice
  | answer index => exact h.updateServed (.answer index) world fun old => old.move_answer
  | crash index => exact h.crash

/-- In the course of any events, the server keeps account of its slots. -/
theorem Accounts.run (h : server.Accounts lost) (events : List Event) (world : σ) :
    (server.run events world).1.Accounts (lost + server.lostSlots events world) := by
  induction events generalizing server world lost with
  | nil => exact h
  | cons event events ih =>
    have hlater := ih (h.step event world) (server.step event world).2
    rw [Nat.add_assoc] at hlater
    exact hlater

/-- Where the service never breaks down, no slot is lost. -/
theorem lostSlots_eq_zero {events : List Event} (h : ∀ index, .crash index ∉ events) :
    server.lostSlots events world = 0 := by
  induction events generalizing server world with
  | nil => rfl
  | cons event events ih =>
    have hkeeps : server.losesSlot event = false := by
      cases event with
      | crash index => exact absurd List.mem_cons_self (h index)
      | _ => rfl
    have hlater : (server.step event world).1.lostSlots events (server.step event world).2 = 0 :=
      ih fun index hmem => h index (List.mem_cons_of_mem _ hmem)
    show (server.losesSlot event).toNat + _ = 0
    rw [hkeeps, hlater]
    rfl

/-! ## Services that may break down -/

theorem breaksDown_eq_false {breakdown : Breakdown σ}
    (h : ∀ method params now, breakdown method params now = false) (payload : Bytes) (world : σ) :
    Endpoint.breaksDown breakdown payload world = false := by
  unfold Endpoint.breaksDown
  split
  · rfl
  · rw [h, Bool.and_false]

/-- A payload is answered, or the service breaks down over it. -/
theorem attempt_eq (server : Server σ) (breakdown : Breakdown σ) (index : Nat) (payload : Bytes)
    (world : σ) :
    (server.attempt breakdown index payload world).1 =
      (server.step (if Endpoint.breaksDown breakdown payload world then .crash index
        else .answer index) world).1 := by
  unfold attempt
  dsimp only
  split <;> rfl

/-- Whatever a service breaks down over, the server keeps account of its slots, and it loses none
where the service never does. -/
theorem Accounts.attemptUpTo (h : server.Accounts lost) (breakdown : Breakdown σ)
    (index payloads : Nat) (world : σ) :
    ∃ more, (server.attemptUpTo breakdown index payloads world).1.Accounts (lost + more) ∧
      ((∀ method params now, breakdown method params now = false) → more = 0) := by
  induction payloads generalizing server lost world with
  | zero => exact ⟨0, h, fun _ => rfl⟩
  | succ payloads ih =>
    have htaken := h.run [.check index, .take index] world
    rw [lostSlots_eq_zero (by simp)] at htaken
    unfold Server.attemptUpTo
    dsimp only
    split
    · rename_i payload hserving
      generalize server.run [.check index, .take index] world = taken at htaken ⊢
      have hattempt := htaken.step (if Endpoint.breaksDown breakdown payload taken.2
        then .crash index else .answer index) taken.2
      rw [← attempt_eq] at hattempt
      obtain ⟨more, hlater, hnone⟩ := ih hattempt _
      refine ⟨_, (Nat.add_assoc lost _ more) ▸ hlater, fun hsound => ?_⟩
      rw [hnone hsound, breaksDown_eq_false hsound]
      rfl
    · exact ⟨0, htaken, fun _ => rfl⟩

/-! ## Peers that are turned away -/

/-- A peer that connects while the server accepts is turned away where no slot is left. -/
theorem connect_ended_iff (h : server.loop = .accepting) :
    (server.connect.connection server.connections.length).phase = .ended ↔
      greatestConnections ≤ server.slots := by
  have hnew (connection : Connection) :
      (server.connections ++ [connection])[server.connections.length]?.getD {} = connection := by
    rw [List.getElem?_concat_length]
    rfl
  rw [connect, h]
  dsimp only
  split
  · rename_i hfree
    show ((server.connections ++ [({} : Connection)])[server.connections.length]?.getD {}).phase =
      .ended ↔ _
    rw [hnew]
    refine ⟨fun hended => ?_, fun hfull => absurd hfree (Nat.not_lt.mpr hfull)⟩
    cases hended
  · rename_i hfull
    show ((server.connections ++ [Connection.close {}])[server.connections.length]?.getD {}).phase =
      .ended ↔ _
    rw [hnew]
    exact ⟨fun _ => Nat.not_lt.mp hfull, fun _ => rfl⟩

/-- Whatever has happened to a server, `Server.slots` counts the connections that are `alive` and
the slots that have been lost because the service broke down (`lostSlots`), so that at most
`greatestConnections` are alive. A peer that connects while the server accepts is turned away just
where all slots are taken; where there was never a `crash`, that is where as many connections are
alive. -/
theorem slots_are_held_by_the_alive_or_lost (endpoint : Endpoint σ) (address : String)
    (events : List Event) (world : σ) :
    ∃ server now, run { endpoint, address } events world = (server, now) ∧
      server.slots = server.alive + lostSlots { endpoint, address } events world ∧
      server.alive ≤ greatestConnections ∧
      ((∀ index, .crash index ∉ events) → server.slots = server.alive) ∧
      (server.loop = .accepting →
        ((server.connect.connection server.connections.length).phase = .ended ↔
          server.slots = greatestConnections)) := by
  have hfresh : Accounts { endpoint, address } 0 := ⟨rfl, Nat.zero_le _⟩
  have h := hfresh.run events world
  rw [Nat.zero_add] at h
  have htaken := h.taken
  have hbounded := h.bounded
  refine ⟨_, _, rfl, htaken, by omega, fun hsound => ?_, fun haccepting => ?_⟩
  · rw [lostSlots_eq_zero hsound] at htaken
    exact htaken
  · rw [connect_ended_iff haccepting]
    omega

/-- A server that gives every call its parameters back, unless it breaks down. -/
def echoing : Server Unit where
  endpoint := ⟨"echo", ⟨1, 0, 0, none⟩, some fun _ params world => (.ok params, world)⟩
  address := "/s/echo"

/-- A peer connects and makes a call, and the service breaks down. -/
def mishap (index : Nat) : List Event :=
  [.connect, .check index, .receive index (Frame.frames [Text.Utf8.encode
    "\x7b\"jsonrpc\":\"2.0\",\"method\":\"m\"\x7d"]), .take index, .crash index]

/-- That server when the service has broken down as often as there are slots. -/
def exhausted : Server Unit :=
  (echoing.run ((List.range greatestConnections).flatMap mishap) ()).1

/-- Slots are not always held by connections that are alive: here nobody is left, and a peer is
turned away all the same. -/
theorem mishaps_use_up_the_slots :
    exhausted.loop.isEnded = false ∧ exhausted.alive = 0 ∧
      exhausted.slots = greatestConnections ∧
      (exhausted.connect.connection exhausted.connections.length).phase = .ended := by
  decide +kernel

end Server

end StorageGateway.Rpc
