import StorageGateway.Proofs.Rpc.Courses

/-!
# Servers shut down in order

Once the server has been told to shut down, a connection that is waiting may still take the payload
that has just arrived, and no connection takes another; as soon as it looks up, it ends. What has
been taken is answered all the same. A server that knows that it is to shut down cannot be told
anything new.
-/

namespace StorageGateway.Rpc

variable {σ : Type}

namespace Connection

variable {endpoint : Endpoint σ} {signal : Signal} {world : σ} {index : Nat} {event : Server.Event}
  {old new connection : Connection}

/-! ## Little is left to do -/

/-- How far a connection that has been told to end is from its end. -/
def distance : Phase → Nat
  | .waiting => 3
  | .serving _ => 2
  | .checking => 1
  | .ended => 0

/-- How many payloads a connection that has been told to end may still take. -/
def allowance (phase : Phase) : Nat := if phase = .waiting then 1 else 0

/-- Whether a payload is taken. -/
def Deed.isTake : Deed → Bool
  | .takes _ => true
  | _ => false

/-- How many payloads are taken in a course. -/
def takesIn (log : List (σ × Deed)) : Nat := log.countP fun deed => deed.2.isTake

/-- A connection that has been told to end comes nearer to its end with each move. -/
theorem Move.distance_le (h : Move endpoint true world index event old new) :
    distance new.phase ≤ distance old.phase := by
  cases h with
  | stays hphase _ _ => exact Nat.le_of_eq (congrArg distance hphase)
  | waits _ hraised => cases hraised
  | takes hphase _ =>
    rw [hphase]
    exact Nat.le_succ 2
  | @answers payload hphase =>
    rw [hphase]
    rcases old.send_cases (endpoint.answer payload world).1 with ⟨frame, -, hsend⟩ | ⟨hsend, -⟩
    · rw [hsend]
      exact Nat.le_succ 1
    · rw [hsend]
      exact Nat.zero_le _
  | ends | crashes => exact Nat.zero_le _

/-- A connection that has been told to end takes a payload only where it has been waiting. -/
theorem Move.takes_le (h : Move endpoint true world index event old new) :
    takesIn ((old.deeds new).map (world, ·)) + allowance new.phase ≤ allowance old.phase := by
  cases h with
  | stays hphase hsent _ =>
    rw [deeds_of_same hphase hsent]
    exact Nat.le_of_eq ((Nat.zero_add _).trans (congrArg allowance hphase))
  | waits _ hraised => cases hraised
  | takes hphase _ =>
    rw [deeds_entering _ (by simp [hphase]), hphase]
    exact Nat.le_refl 1
  | @answers payload hphase =>
    rw [hphase]
    rcases old.send_cases (endpoint.answer payload world).1 with ⟨frame, hframe, hsend⟩ | ⟨hsend, -⟩
    · rw [hsend, deeds_sent hframe (by simp [hphase])]
      exact Nat.le_refl 0
    · rw [hsend, deeds_close (by simp [hphase])]
      exact Nat.le_refl 0
  | ends hphase =>
    rw [deeds_close (by rcases hphase with hphase | hphase <;> simp [hphase])]
    exact Nat.zero_le _
  | crashes hphase hevent =>
    rw [deeds_close (by simp [hphase])]
    exact Nat.zero_le _

/-- A connection that is to end before it looks for a payload does nothing but end. -/
theorem Move.closes (h : Move endpoint true world index event old new)
    (hnear : distance old.phase ≤ 1) : ∀ deed ∈ old.deeds new, deed = .closes := by
  cases h with
  | stays hphase hsent _ =>
    rw [deeds_of_same hphase hsent]
    exact List.forall_mem_nil _
  | waits _ hraised => cases hraised
  | takes hphase _ | answers hphase | crashes hphase _ => simp [hphase, distance] at hnear
  | ends hphase =>
    rw [deeds_close (by rcases hphase with hphase | hphase <;> simp [hphase])]
    simp

/-- A connection that has been told to end does not wait any longer once it notices. -/
theorem distance_notice (hraised : signal.raised = true) :
    distance (connection.notice signal).phase ≤ 2 := by
  unfold notice
  rw [hraised]
  cases hphase : connection.phase with
  | waiting => exact Nat.zero_le _
  | checking | serving | ended => simp [hphase, distance]

/-- When the payload is answered that a connection may have, it has none. -/
theorem distance_answer (hnear : distance connection.phase ≤ 2) :
    distance (connection.answer endpoint world).1.phase ≤ 1 := by
  cases hphase : connection.phase with
  | serving payload =>
    rw [answer_of_serving hphase]
    rcases connection.send_cases (endpoint.answer payload world).1 with
      ⟨frame, -, hsend⟩ | ⟨hsend, -⟩
    · rw [hsend]
      exact Nat.le_refl 1
    · rw [hsend]
      exact Nat.zero_le _
  | waiting => simp [hphase, distance] at hnear
  | checking | ended => simp [answer, hphase, distance]

/-- A connection without a payload that has been told to end does so when it looks whether it
has. -/
theorem distance_check (hraised : signal.raised = true)
    (hnear : distance connection.phase ≤ 1) :
    distance (connection.check signal).phase ≤ 0 := by
  unfold check
  rw [hraised]
  cases hphase : connection.phase with
  | checking => exact Nat.le_refl 0
  | waiting | serving => simp [hphase, distance] at hnear
  | ended => simp [hphase, distance]

end Connection

namespace Server

open Connection (Orderly distance allowance takesIn)

variable {server : Server σ} {index : Nat} {event : Event}

/-! ## After the signal -/

/-- A server whose loop and connections have been told to end. -/
structure Told (server : Server σ) : Prop where
  asked : server.asked = true
  raised : server.signal.raised = true

theorem Told.step (h : server.Told) (event : Event) (world : σ) :
    (server.step event world).1.Told :=
  ⟨(server.keeps_step event world).asked h.asked, (server.keeps_step event world).raised h.raised⟩

theorem Told.run (h : server.Told) (events : List Event) (world : σ) :
    (server.run events world).1.Told :=
  ⟨(server.keeps_run events world).asked h.asked, (server.keeps_run events world).raised h.raised⟩

theorem Told.move (h : server.Told) (event : Event) (world : σ) (index : Nat) :
    Connection.Move server.endpoint true world index event (server.connection index)
      ((server.step event world).1.connection index) := by
  have hmove := server.move_step event world index
  rwa [h.raised] at hmove

theorem Told.distance_run (h : server.Told) (events : List Event) (world : σ) (index : Nat) :
    distance ((server.run events world).1.connection index).phase ≤
      distance (server.connection index).phase := by
  induction events generalizing server world with
  | nil => exact Nat.le_refl _
  | cons event events ih =>
    exact Nat.le_trans (ih (h.step event world) _) (h.move event world index).distance_le

/-- All that a connection takes after the signal is the payload it may have been waiting for. -/
theorem Told.takesIn_run (h : server.Told) (events : List Event) (world : σ) (index : Nat) :
    takesIn (server.deeds index events world) ≤ allowance (server.connection index).phase := by
  induction events generalizing server world with
  | nil => exact Nat.zero_le _
  | cons event events ih =>
    have hfirst := (h.move event world index).takes_le
    have hothers := ih (h.step event world) (server.step event world).2
    have hall : takesIn (server.deeds index (event :: events) world) =
        takesIn (((server.connection index).deeds
          ((server.step event world).1.connection index)).map (world, ·)) +
          takesIn (deeds index (server.step event world).1 events (server.step event world).2) := by
      rw [deeds_cons, takesIn, List.countP_append]
      rfl
    omega

/-- A connection that is to end before it looks for a payload is seen to do nothing else. -/
theorem Told.closes_run (h : server.Told) (events : List Event) (world : σ)
    (hnear : distance (server.connection index).phase ≤ 1) :
    ∀ deed ∈ server.deeds index events world, deed.2 = .closes := by
  induction events generalizing server world with
  | nil => exact List.forall_mem_nil _
  | cons event events ih =>
    have hmove := h.move event world index
    intro deed hdeed
    rcases List.mem_append.mp hdeed with hfirst | hlater
    · obtain ⟨done, hdone, rfl⟩ := List.mem_map.mp hfirst
      exact hmove.closes hnear done hdone
    · exact ih (h.step event world) _ (Nat.le_trans hmove.distance_le hnear) deed hlater

/-! ## The way to the end -/

/-- An event that brings a connection so near to its end, wherever in the course of other events it
happens. -/
theorem Told.distance_run_of_mem (h : server.Told) (hindex : index < server.connections.length)
    {events : List Event} (hevent : event ∈ events) {near : Nat}
    (hnear : ∀ (next : Server σ) (world : σ), next.Told → index < next.connections.length →
      distance (next.connection index).phase ≤ distance (server.connection index).phase →
      distance ((next.step event world).1.connection index).phase ≤ near) (world : σ) :
    distance ((server.run events world).1.connection index).phase ≤ near := by
  obtain ⟨before, after, rfl⟩ := List.append_of_mem hevent
  have htold := h.run before world
  have hstep := hnear (server.run before world).1 (server.run before world).2 htold
    (Nat.lt_of_lt_of_le hindex (server.keeps_run before world).length)
    (h.distance_run before world index)
  rw [run_append]
  exact Nat.le_trans ((htold.step event _).distance_run after _ index) hstep

theorem Told.notice_run (h : server.Told) (hindex : index < server.connections.length)
    {events : List Event} (hevent : .notice index ∈ events) (world : σ) :
    distance ((server.run events world).1.connection index).phase ≤ 2 := by
  refine h.distance_run_of_mem hindex hevent (fun next now htold hthere _ => ?_) world
  show distance ((next.update index _).connection index).phase ≤ 2
  rw [connection_update_self hthere]
  exact Connection.distance_notice htold.raised

theorem Told.answer_run (h : server.Told) (hindex : index < server.connections.length)
    (hnear : distance (server.connection index).phase ≤ 2) {events : List Event}
    (hevent : .answer index ∈ events) (world : σ) :
    distance ((server.run events world).1.connection index).phase ≤ 1 := by
  refine h.distance_run_of_mem hindex hevent (fun next now htold hthere hless => ?_) world
  show distance ((next.updateServed index _ now).1.connection index).phase ≤ 1
  rw [connection_updateServed_self hthere]
  exact Connection.distance_answer (Nat.le_trans hless hnear)

theorem Told.check_run (h : server.Told) (hindex : index < server.connections.length)
    (hnear : distance (server.connection index).phase ≤ 1) {events : List Event}
    (hevent : .check index ∈ events) (world : σ) :
    ((server.run events world).1.connection index).phase = .ended := by
  have hzero : distance ((server.run events world).1.connection index).phase ≤ 0 := by
    refine h.distance_run_of_mem hindex hevent (fun next now htold hthere hless => ?_) world
    show distance ((next.update index _).connection index).phase ≤ 0
    rw [connection_update_self hthere]
    exact Connection.distance_check htold.raised (Nat.le_trans hless hnear)
  cases hphase : ((server.run events world).1.connection index).phase with
  | ended => rfl
  | _ => simp [hphase, distance] at hzero

/-- Whatever else happens, a connection that has been told to end has done so when it has had time
to notice, to have answered what it has taken, and to look again. -/
theorem Told.ended_run (h : server.Told) (hindex : index < server.connections.length)
    {events : List Event}
    (hturns : [.notice index, .answer index, .check index].Sublist events) (world : σ) :
    ((server.run events world).1.connection index).phase = .ended := by
  -- Before it notices it may take a payload, which has been answered when it looks again.
  obtain ⟨first, events, rfl, hnotice, hturns⟩ := List.cons_sublist_iff.mp hturns
  obtain ⟨second, third, rfl, hanswer, hturns⟩ := List.cons_sublist_iff.mp hturns
  have hcheck : .check index ∈ third := List.singleton_sublist.mp hturns
  have hthere {next : Server σ} (hkeeps : server.Keeps next) : index < next.connections.length :=
    Nat.lt_of_lt_of_le hindex hkeeps.length
  have hnoticed := h.notice_run hindex hnotice world
  rw [run_append, run_append]
  have hkeeps := server.keeps_run first world
  have htold := h.run first world
  have hanswered := htold.answer_run (hthere hkeeps) hnoticed hanswer (server.run first world).2
  exact (htold.run second _).check_run (hthere (hkeeps.trans (keeps_run _ second _))) hanswered
    hcheck _

/-! ## The handle -/

/-- Whether an event comes from whoever holds the handle. -/
def Event.isFromHandle : Event → Bool
  | .shutdown | .tellLoop | .release => true
  | _ => false

/-- A server with another record of whether there is anybody left who could tell it anything. -/
def withOrphaned (server : Server σ) (orphaned : Bool) : Server σ :=
  { server with signal := { server.signal with orphaned } }

theorem Told.withOrphaned (h : server.Told) (orphaned : Bool) :
    (server.withOrphaned orphaned).Told :=
  ⟨h.asked, h.raised⟩

/-- Who holds the handle can tell a server nothing new that has been told to shut down. -/
theorem Told.step_of_isFromHandle (h : server.Told) (hevent : event.isFromHandle = true)
    (world : σ) : ∃ orphaned, server.step event world = (server.withOrphaned orphaned, world) := by
  obtain ⟨endpoint, address, loop, asked, ⟨raised, orphaned⟩, slots, connections⟩ := server
  obtain ⟨rfl, rfl⟩ := h
  cases event with
  | shutdown => exact ⟨orphaned, rfl⟩
  | tellLoop => exact ⟨orphaned, rfl⟩
  | release => exact ⟨true, rfl⟩
  | _ => cases hevent

/-- A server that has been told to shut down stays as it is when it is told again. -/
theorem Told.shutdown (h : server.Told) : server.shutdown = (false, server) := by
  obtain ⟨endpoint, address, loop, asked, ⟨raised, orphaned⟩, slots, connections⟩ := server
  obtain ⟨rfl, rfl⟩ := h
  rfl

theorem getElem?_withOrphaned (server : Server σ) (orphaned : Bool) (other : Nat) :
    (server.withOrphaned orphaned).connections[other]? = server.connections[other]? := rfl

theorem update_withOrphaned (orphaned : Bool) (other : Nat) (change : Connection → Connection) :
    (server.withOrphaned orphaned).update other change =
      (server.update other change).withOrphaned orphaned := by
  rw [update, update, getElem?_withOrphaned]
  cases server.connections[other]? <;> rfl

theorem updateServed_withOrphaned (orphaned : Bool) (other : Nat)
    (change : Connection → StateM σ Connection) (world : σ) :
    (server.withOrphaned orphaned).updateServed other change world =
      ((server.updateServed other change world).1.withOrphaned orphaned,
        (server.updateServed other change world).2) := by
  rw [updateServed, updateServed, getElem?_withOrphaned]
  cases server.connections[other]? <;> rfl

theorem endLoop_withOrphaned (server : Server σ) (orphaned : Bool) :
    (server.withOrphaned orphaned).endLoop = server.endLoop.withOrphaned orphaned := by
  obtain ⟨endpoint, address, loop, asked, signal, slots, connections⟩ := server
  cases loop <;> cases asked <;> rfl

theorem failAccept_withOrphaned (server : Server σ) (orphaned : Bool) (message : String) :
    (server.withOrphaned orphaned).failAccept message =
      (server.failAccept message).withOrphaned orphaned := by
  obtain ⟨endpoint, address, loop, asked, signal, slots, connections⟩ := server
  cases loop <;> rfl

theorem connect_withOrphaned (server : Server σ) (orphaned : Bool) :
    (server.withOrphaned orphaned).connect = server.connect.withOrphaned orphaned := by
  obtain ⟨endpoint, address, loop, asked, signal, slots, connections⟩ := server
  cases loop with
  | accepting =>
    by_cases hslots : slots < greatestConnections <;> simp [connect, withOrphaned, hslots]
  | ended result => rfl

theorem crash_withOrphaned (server : Server σ) (orphaned : Bool) (other : Nat) :
    (server.withOrphaned orphaned).crash other = (server.crash other).withOrphaned orphaned := by
  rw [crash, crash, getElem?_withOrphaned]
  cases server.connections[other]? <;> rfl

/-- Once connections have been told to end, they do not ask whether there is anybody left. -/
theorem Told.notice_withOrphaned (h : server.Told) (orphaned : Bool) :
    Connection.notice (server.withOrphaned orphaned).signal =
      Connection.notice server.signal := by
  have hraised : (server.withOrphaned orphaned).signal.raised = true := h.raised
  funext connection
  simp only [Connection.notice, hraised, h.raised, Bool.true_or]

/-- Once a server has been told to shut down, nothing that happens depends on whether there is
anybody left who could tell it anything. -/
theorem Told.step_withOrphaned (h : server.Told) (hevent : event.isFromHandle = false)
    (orphaned : Bool) (world : σ) : (server.withOrphaned orphaned).step event world =
      ((server.step event world).1.withOrphaned orphaned, (server.step event world).2) := by
  have hpure {first second : Server σ} (heq : first = second.withOrphaned orphaned) :
      (pure first : StateM σ (Server σ)) world = (second.withOrphaned orphaned, world) := by
    rw [heq]
    rfl
  cases event with
  | shutdown | tellLoop | release => cases hevent
  | endLoop => exact hpure (server.endLoop_withOrphaned orphaned)
  | failAccept message => exact hpure (server.failAccept_withOrphaned orphaned message)
  | connect => exact hpure (server.connect_withOrphaned orphaned)
  | receive | finish | hangUp | take => exact hpure (update_withOrphaned orphaned _ _)
  | check other => exact hpure (update_withOrphaned orphaned other (Connection.check server.signal))
  | notice other =>
    refine hpure ?_
    rw [h.notice_withOrphaned]
    exact update_withOrphaned orphaned other _
  | answer other =>
    exact updateServed_withOrphaned orphaned other (Connection.answer server.endpoint) world
  | crash other => exact hpure (server.crash_withOrphaned orphaned other)

/-- What whoever holds the handle does after the shutdown makes no difference. -/
theorem Told.run_withOrphaned (h : server.Told) (events : List Event) (index : Nat)
    (orphaned : Bool) (world : σ) : ∃ left,
      (server.withOrphaned orphaned).run events world =
        ((server.run (events.filter (!·.isFromHandle)) world).1.withOrphaned left,
          (server.run (events.filter (!·.isFromHandle)) world).2) ∧
      (server.withOrphaned orphaned).deeds index events world =
        server.deeds index (events.filter (!·.isFromHandle)) world := by
  induction events generalizing server orphaned world with
  | nil => exact ⟨orphaned, rfl, rfl⟩
  | cons event events ih =>
    cases hevent : event.isFromHandle with
    | true =>
      obtain ⟨other, hstep⟩ := (h.withOrphaned orphaned).step_of_isFromHandle hevent world
      obtain ⟨left, hrun, hdeeds⟩ := ih h other world
      have hquiet : (server.connection index).deeds (server.connection index) = [] :=
        Connection.deeds_of_same rfl rfl
      rw [List.filter_cons_of_neg (by simp [hevent]), run_cons, deeds_cons, hstep]
      refine ⟨left, hrun, ?_⟩
      show ((server.connection index).deeds (server.connection index)).map (world, ·) ++
        (server.withOrphaned other).deeds index events world = _
      rw [hquiet, hdeeds]
      rfl
    | false =>
      obtain ⟨left, hrun, hdeeds⟩ :=
        ih (h.step event world) orphaned (server.step event world).2
      rw [List.filter_cons_of_pos (by simp [hevent]), run_cons, run_cons, deeds_cons, deeds_cons,
        h.step_withOrphaned hevent]
      refine ⟨left, hrun, ?_⟩
      dsimp only
      rw [hdeeds]
      rfl

/-- A server without a service. -/
def unattended : Server Unit :=
  { endpoint := ⟨"disk", ⟨1, 0, 0, none⟩, none⟩, address := "/s/disk" }

/-- A payload that is no request arrives. -/
def arrival : List Event := [.connect, .check 0, .receive 0 [0, 0, 0, 1, 0x7B]]

/-- The payload is taken before the connection notices the signal, and a peer comes too late. -/
def race : List Event := [.take 0, .notice 0, .connect, .answer 0, .check 1, .check 0]

end Server

end StorageGateway.Rpc
