import StorageGateway.Proofs.Rpc.Frames
import StorageGateway.Proofs.Rpc.Moves

/-!
# What connections are seen to do

A connection is followed through what it is seen to do: it takes payloads, sends bytes, and ends.
Every payload that it takes has its answer sent as the very next thing, whatever else happens to the
server, as long as there is an answer that can be sent.
-/

namespace StorageGateway.Rpc

variable {σ : Type}

namespace Connection

variable {endpoint : Endpoint σ} {raised : Bool} {world : σ} {index : Nat} {event : Server.Event}
  {old new : Connection}

/-! ## What a connection is seen to do -/

/-- What a connection is seen to do. -/
inductive Deed where
  /-- It takes a payload, to have it answered. -/
  | takes (payload : Bytes)
  /-- It sends bytes. -/
  | writes (bytes : Bytes)
  /-- It ends. -/
  | closes
deriving DecidableEq, Repr

/-- What is seen of a connection that comes to a phase. -/
def entering : Phase → List Deed
  | .serving payload => [.takes payload]
  | .ended => [.closes]
  | .checking | .waiting => []

/-- What a connection has done between two moments. -/
def deeds (old new : Connection) : List Deed :=
  (if new.sent = old.sent then [] else [.writes (new.sent.drop old.sent.length)]) ++
    if new.phase = old.phase then [] else entering new.phase

theorem deeds_of_same (hphase : new.phase = old.phase) (hsent : new.sent = old.sent) :
    old.deeds new = [] := by
  rw [deeds, if_pos hsent, if_pos hphase]
  rfl

theorem deeds_entering {phase : Phase} (arrived : Bytes) (h : old.phase ≠ phase) :
    old.deeds { old with phase, arrived } = entering phase := by
  rw [deeds, if_pos rfl, if_neg (Ne.symm h)]
  rfl

theorem deeds_close (h : old.phase ≠ .ended) : old.deeds old.close = [.closes] :=
  deeds_entering old.arrived h

/-- A response is sent, unless it is too long or the peer cannot be reached; then the connection
ends. -/
theorem send_cases (connection : Connection) (response : Response) :
    (∃ frame, Frame.encode (Text.Utf8.encode response.text) = .ok frame ∧
      connection.send response =
        { connection with phase := .checking, sent := connection.sent ++ frame }) ∨
    connection.send response = connection.close ∧
      (Frame.maxPayload < (Text.Utf8.encode response.text).length ∨
        connection.unreachable = true) := by
  unfold send
  cases hframe : Frame.encode (Text.Utf8.encode response.text) with
  | error fault => exact .inr ⟨rfl, .inl (Frame.lt_of_encode hframe)⟩
  | ok frame =>
    dsimp only
    cases hreach : connection.unreachable with
    | true => exact .inr ⟨rfl, .inr rfl⟩
    | false => exact .inl ⟨frame, rfl, rfl⟩

theorem deeds_sent {payload frame : Bytes} (hframe : Frame.encode payload = .ok frame)
    (h : old.phase ≠ .checking) :
    old.deeds { old with phase := .checking, sent := old.sent ++ frame } = [.writes frame] := by
  obtain ⟨-, hbytes⟩ := Frame.encode_eq_ok_iff.mp hframe
  have hsent : old.sent ++ frame ≠ old.sent := by
    intro hsame
    rw [List.append_right_eq_self] at hsame
    rw [hsame] at hbytes
    cases hbytes
  rw [deeds, if_neg hsent, if_neg (Ne.symm h), List.drop_left]
  rfl

/-! ## Every payload is answered -/

/-- An orderly course of a connection, each deed with the world it was done in, up to what the
connection is doing in the end. Behind each payload that is taken stands its answer, framed, before
anything else is done. The answer is missing only while the payload is being answered, and where the
connection has ended because the answer was too long or for an excuse. -/
inductive Orderly (endpoint : Endpoint σ) (excused : Prop) : List (σ × Deed) → Phase → Prop where
  /-- No payload has been taken. -/
  | idle {phase : Phase} (hphase : phase = .checking ∨ phase = .waiting) :
    Orderly endpoint excused [] phase
  /-- The connection has ended between two payloads. -/
  | closed (world : σ) : Orderly endpoint excused [(world, .closes)] .ended
  /-- A payload is being answered. -/
  | serving (world : σ) (payload : Bytes) :
    Orderly endpoint excused [(world, .takes payload)] (.serving payload)
  /-- A payload has been answered. -/
  | answered (world : σ) {world' : σ} {payload frame : Bytes} {log : List (σ × Deed)}
    {phase : Phase}
    (hframe : Frame.encode (Text.Utf8.encode (endpoint.answer payload world').1.text) = .ok frame)
    (hlater : Orderly endpoint excused log phase) :
    Orderly endpoint excused ((world, .takes payload) :: (world', .writes frame) :: log) phase
  /-- The connection has ended without an answer. -/
  | lost (world : σ) {world' : σ} {payload : Bytes}
    (h : Frame.maxPayload < (Text.Utf8.encode (endpoint.answer payload world').1.text).length ∨
      excused) :
    Orderly endpoint excused [(world, .takes payload), (world', .closes)] .ended

/-- How the course of a connection goes on from what it is doing. -/
def GoesOn (endpoint : Endpoint σ) (excused : Prop) (log : List (σ × Deed)) (last : Phase) :
    Phase → Prop
  | .checking | .waiting => Orderly endpoint excused log last
  | .serving payload => ∀ world, Orderly endpoint excused ((world, .takes payload) :: log) last
  | .ended => log = [] ∧ last = .ended

theorem goesOn_nil (endpoint : Endpoint σ) (excused : Prop) (phase : Phase) :
    GoesOn endpoint excused [] phase phase := by
  cases phase with
  | checking => exact .idle (.inl rfl)
  | waiting => exact .idle (.inr rfl)
  | serving payload => exact fun world => .serving world payload
  | ended => exact ⟨rfl, rfl⟩

/-- Whatever a connection does next, its course stays orderly. -/
theorem Move.goesOn (h : Move endpoint raised world index event old new) {excused : Prop}
    (hcut : old.unreachable = true → excused) (hcrash : event = .crash index → excused)
    {log : List (σ × Deed)} {last : Phase} (hlater : GoesOn endpoint excused log last new.phase) :
    GoesOn endpoint excused ((old.deeds new).map (world, ·) ++ log) last old.phase := by
  cases h with
  | stays hphase hsent _ =>
    rw [deeds_of_same hphase hsent, ← hphase]
    exact hlater
  | waits hphase _ =>
    rw [deeds_entering _ (by simp [hphase]), hphase]
    exact hlater
  | takes hphase hfront =>
    rw [deeds_entering _ (by simp [hphase]), hphase]
    exact hlater world
  | @answers payload hphase =>
    rw [hphase]
    intro taken
    rcases old.send_cases (endpoint.answer payload world).1 with
      ⟨frame, hframe, hsend⟩ | ⟨hsend, hlost⟩
    · rw [hsend] at hlater ⊢
      rw [deeds_sent hframe (by simp [hphase])]
      exact .answered taken hframe hlater
    · rw [hsend] at hlater ⊢
      obtain ⟨rfl, rfl⟩ := hlater
      rw [deeds_close (by simp [hphase])]
      exact .lost taken (hlost.imp id hcut)
  | ends hphase =>
    obtain ⟨rfl, rfl⟩ := hlater
    rcases hphase with hphase | hphase
    · rw [deeds_close (by simp [hphase]), hphase]
      exact .closed world
    · rw [deeds_close (by simp [hphase]), hphase]
      exact .closed world
  | crashes hphase hevent =>
    obtain ⟨rfl, rfl⟩ := hlater
    rw [deeds_close (by simp [hphase]), hphase]
    exact fun taken => .lost taken (.inr (hcrash hevent))

theorem Move.cut (h : Move endpoint raised world index event old new)
    (hcut : new.unreachable = true) : old.unreachable = true ∨ event = .hangUp index := by
  cases h with
  | stays _ _ hreach => exact hreach hcut
  | answers hphase =>
    rcases old.send_cases _ with ⟨frame, -, hsend⟩ | ⟨hsend, -⟩
    · rw [hsend] at hcut
      exact .inl hcut
    · rw [hsend] at hcut
      exact .inl hcut
  | _ => exact .inl hcut

end Connection

namespace Server

/-! ## Runs -/

/-- What a connection does in the course of events, each deed with the world it is done in. -/
def deeds (index : Nat) (server : Server σ) : List Event → σ → List (σ × Connection.Deed)
  | [], _ => []
  | event :: events, world =>
    ((server.connection index).deeds ((server.step event world).1.connection index)).map
      (world, ·) ++ deeds index (server.step event world).1 events (server.step event world).2

theorem deeds_cons (index : Nat) (server : Server σ) (event : Event) (events : List Event)
    (world : σ) : server.deeds index (event :: events) world =
      ((server.connection index).deeds ((server.step event world).1.connection index)).map
        (world, ·) ++
        deeds index (server.step event world).1 events (server.step event world).2 := rfl

/-- In the course of any events, whatever a connection goes on with goes on in order. -/
theorem goesOn_run (server : Server σ) (events : List Event) (world : σ) (index : Nat)
    {excused : Prop} (hcut : (server.connection index).unreachable = true → excused)
    (hexcuse : Event.hangUp index ∈ events ∨ Event.crash index ∈ events → excused) :
    Connection.GoesOn server.endpoint excused (server.deeds index events world)
      ((server.run events world).1.connection index).phase (server.connection index).phase := by
  induction events generalizing server world with
  | nil => exact Connection.goesOn_nil server.endpoint excused _
  | cons event events ih =>
    have hmove := server.move_step event world index
    have hkeeps := server.keeps_step event world
    -- What the later events make of the connection goes on from what this one leaves it with.
    have hlater := ih (server.step event world).1 (server.step event world).2
      (fun hnext => (hmove.cut hnext).elim hcut fun hevent => hexcuse (.inl ?_))
      fun hmem => hexcuse (hmem.imp (List.mem_cons_of_mem _) (List.mem_cons_of_mem _))
    · rw [hkeeps.endpoint] at hlater
      refine hmove.goesOn hcut (fun hevent => hexcuse (.inr ?_)) hlater
      rw [hevent]
      exact List.mem_cons_self
    · rw [hevent]
      exact List.mem_cons_self

end Server

end StorageGateway.Rpc
