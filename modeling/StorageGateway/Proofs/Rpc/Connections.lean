import StorageGateway.Proofs.Rpc.Frames
import StorageGateway.Rpc.Connection

/-!
# Connections come to rest

Each thing that a connection does leaves less to do, so a connection that is given time does all
there is to do, and how much time it is given makes no difference. What it does with a payload that
has arrived is to have it answered once, to send the answer, and to go on with what follows.
-/

namespace StorageGateway.Rpc.Connection

variable {σ : Type} {endpoint : Endpoint σ} {signal : Signal} {connection next : Connection}
  {world world' : σ}

/-- There is nothing to do: the connection has ended, or waits for more than has arrived. -/
def AtRest (signal : Signal) (connection : Connection) : Prop :=
  connection.phase = .ended ∨
    connection.phase = .waiting ∧ (connection.take).notice signal = connection

/-- A bound on how much there is to do. -/
def work (connection : Connection) : Nat :=
  3 * connection.arrived.length + match connection.phase with
    | .checking => 2
    | .waiting => 1
    | .serving _ => 3
    | .ended => 0

theorem work_lt_patience (connection : Connection) : connection.work < connection.patience := by
  unfold work patience
  cases connection.phase <;> dsimp only <;> omega

theorem work_close (connection : Connection) :
    connection.close.work = 3 * connection.arrived.length := rfl

/-! ## One thing after the other -/

theorem advance_of_atRest (h : connection.AtRest signal) :
    connection.advance endpoint signal world = (connection, world) := by
  unfold advance
  rcases h with hended | ⟨hwaiting, hsame⟩
  · rw [hended]
  · rw [hwaiting]
    dsimp only
    rw [hsame]

theorem advance_checking (h : connection.phase = .checking) :
    connection.advance endpoint signal world =
      ({ connection with phase := if signal.raised then .ended else .waiting }, world) := by
  rw [advance, h]
  dsimp only
  rw [check, h]

theorem advance_waiting (h : connection.phase = .waiting) :
    connection.advance endpoint signal world = ((connection.take).notice signal, world) := by
  rw [advance, h]

theorem advance_serving {payload : Bytes} (h : connection.phase = .serving payload) :
    connection.advance endpoint signal world =
      (connection.send (endpoint.answer payload world).1, (endpoint.answer payload world).2) := by
  rw [advance, h]
  dsimp only
  rw [answer, h]
  rfl

/-- What is taken while waiting leaves less to do. -/
theorem work_take (hwaiting : connection.phase = .waiting) :
    connection.take = connection ∨
      (connection.take.phase ≠ .waiting ∧ connection.take.phase ≠ .checking ∧
        connection.take.work < connection.work) := by
  have hwork : connection.work = 3 * connection.arrived.length + 1 := by
    unfold work
    rw [hwaiting]
  have hclosed : connection.close.phase ≠ .waiting ∧ connection.close.phase ≠ .checking ∧
      connection.close.work < connection.work := by
    refine ⟨Phase.noConfusion, Phase.noConfusion, ?_⟩
    rw [hwork, work_close]
    omega
  unfold take
  rw [hwaiting]
  dsimp only
  cases hfront : Frame.front connection.arrived with
  | frame payload rest =>
    refine .inr ⟨Phase.noConfusion, Phase.noConfusion, ?_⟩
    have hless := Frame.length_of_front hfront
    unfold Frame.headerLength at hless
    rw [hwork]
    show 3 * rest.length + 3 < _
    omega
  | oversized length => exact .inr hclosed
  | partialHeader | partialPayload =>
    dsimp only
    split
    · exact .inr hclosed
    · exact .inl rfl

theorem notice_of_ne_waiting (h : connection.phase ≠ .waiting) :
    connection.notice signal = connection := by
  unfold notice
  split
  · rename_i hwaiting
    exact absurd hwaiting h
  · rfl

theorem work_send (response : Response) (connection : Connection) :
    (connection.send response).work ≤ 3 * connection.arrived.length + 2 ∧
      ∀ payload, (connection.send response).phase ≠ .serving payload := by
  have hclosed : connection.close.work ≤ 3 * connection.arrived.length + 2 ∧
      ∀ payload, connection.close.phase ≠ .serving payload := by
    refine ⟨?_, fun payload => Phase.noConfusion⟩
    rw [work_close]
    omega
  unfold send
  split
  · exact hclosed
  · split
    · exact hclosed
    · exact ⟨Nat.le_refl _, fun payload => Phase.noConfusion⟩

/-- A connection that is not at rest does something, and then there is less to do. -/
theorem advance_lt (endpoint : Endpoint σ) (world : σ) (h : ¬ connection.AtRest signal) :
    (connection.advance endpoint signal world).1.phase ≠ connection.phase ∧
      (connection.advance endpoint signal world).1.work < connection.work := by
  cases hphase : connection.phase with
  | checking =>
    have hwork : connection.work = 3 * connection.arrived.length + 2 := by
      unfold work
      rw [hphase]
    rw [advance_checking hphase, hwork]
    cases signal.raised with
    | true =>
      refine ⟨Phase.noConfusion, ?_⟩
      show 3 * connection.arrived.length + 0 < _
      omega
    | false =>
      refine ⟨Phase.noConfusion, ?_⟩
      show 3 * connection.arrived.length + 1 < _
      omega
  | waiting =>
    rw [advance_waiting hphase]
    rcases work_take hphase with hsame | ⟨hphase', -, hless⟩
    · rw [hsame]
      by_cases htold : (signal.raised || signal.orphaned) = true
      · have hclosed : connection.notice signal = connection.close := by
          rw [notice, hphase]
          exact if_pos htold
        rw [hclosed]
        refine ⟨Phase.noConfusion, ?_⟩
        show connection.close.work < _
        rw [work_close, work, hphase]
        dsimp only
        omega
      · have hkept : connection.notice signal = connection := by
          rw [notice, hphase]
          exact if_neg htold
        exact absurd (.inr ⟨hphase, by rw [hsame, hkept]⟩) h
    · rw [notice_of_ne_waiting hphase']
      exact ⟨hphase', hless⟩
  | serving payload =>
    have hwork : connection.work = 3 * connection.arrived.length + 3 := by
      unfold work
      rw [hphase]
    obtain ⟨hless, hphase'⟩ := work_send (endpoint.answer payload world).1 connection
    rw [advance_serving hphase, hwork]
    refine ⟨hphase' payload, ?_⟩
    dsimp only
    omega
  | ended => exact absurd (.inl hphase) h

theorem advanceUpTo_of_atRest (h : connection.AtRest signal) (steps : Nat) :
    advanceUpTo endpoint signal steps connection world = (connection, world) := by
  cases steps with
  | zero => rfl
  | succ steps =>
    simp [advanceUpTo, advance_of_atRest h]

theorem advanceUpTo_succ (h : ¬ connection.AtRest signal) (steps : Nat) :
    advanceUpTo endpoint signal (steps + 1) connection world =
      advanceUpTo endpoint signal steps (connection.advance endpoint signal world).1
        (connection.advance endpoint signal world).2 := by
  obtain ⟨hphase, -⟩ := advance_lt endpoint world h
  have hgoes : ((connection.advance endpoint signal world).1.phase == connection.phase) =
      false := by
    simpa using hphase
  show (if (connection.advance endpoint signal world).1.phase == connection.phase then
    connection.advance endpoint signal world else _) = _
  rw [hgoes]
  rfl

/-- Time beyond what there is to do makes no difference. -/
theorem advanceUpTo_eq {steps more : Nat} (hsteps : connection.work < steps)
    (hmore : connection.work < more) :
    advanceUpTo endpoint signal steps connection world =
      advanceUpTo endpoint signal more connection world := by
  induction steps generalizing connection world more with
  | zero => omega
  | succ steps ih =>
    by_cases hrest : connection.AtRest signal
    · rw [advanceUpTo_of_atRest hrest, advanceUpTo_of_atRest hrest]
    · obtain ⟨-, hless⟩ := advance_lt endpoint world hrest
      cases more with
      | zero => omega
      | succ more =>
        rw [advanceUpTo_succ hrest, advanceUpTo_succ hrest]
        exact ih (by omega) (by omega)

/-! ## All there is to do -/

theorem settle_of_atRest (h : connection.AtRest signal) :
    connection.settle endpoint signal world = (connection, world) :=
  advanceUpTo_of_atRest h _

/-- A connection that is not at rest does the next thing, and then all that is left. -/
theorem settle_of_advance (h : ¬ connection.AtRest signal)
    (hnext : connection.advance endpoint signal world = (next, world')) :
    connection.settle endpoint signal world = next.settle endpoint signal world' := by
  have hless := (advance_lt endpoint world h).2
  rw [hnext] at hless
  have hpatience := connection.work_lt_patience
  obtain ⟨steps, hsteps⟩ : ∃ steps, connection.patience = steps + 1 :=
    ⟨connection.patience - 1, by omega⟩
  unfold settle
  rw [hsteps, advanceUpTo_succ h, hnext]
  exact advanceUpTo_eq (by omega) next.work_lt_patience

/-- Given time, a connection comes to rest. -/
theorem atRest_settle (endpoint : Endpoint σ) (signal : Signal) (connection : Connection)
    (world : σ) : (connection.settle endpoint signal world).1.AtRest signal := by
  induction hwork : connection.work using Nat.strongRecOn generalizing connection world with
  | ind amount ih =>
    by_cases hrest : connection.AtRest signal
    · rw [settle_of_atRest hrest]
      exact hrest
    · obtain ⟨-, hless⟩ := advance_lt endpoint world hrest
      rw [settle_of_advance hrest rfl]
      exact ih _ (hwork ▸ hless) _ _ rfl

/-! ## What the peer reads -/

theorem heard_hear (connection : Connection) :
    connection.hear.heard = connection.hear.sent.length := rfl

theorem take_hear (connection : Connection) : connection.hear.take = connection.take.hear := by
  obtain ⟨phase, arrived, finished, unreachable, sent, heard⟩ := connection
  cases phase with
  | waiting =>
    simp only [take, hear]
    cases Frame.front arrived with
    | partialHeader | partialPayload => cases finished <;> rfl
    | _ => rfl
  | _ => rfl

theorem notice_hear (signal : Signal) (connection : Connection) :
    connection.hear.notice signal = (connection.notice signal).hear := by
  obtain ⟨phase, arrived, finished, unreachable, sent, heard⟩ := connection
  cases phase with
  | waiting =>
    simp only [notice, hear]
    cases signal.raised || signal.orphaned <;> rfl
  | _ => rfl

/-- Reading what has been sent leaves a connection at rest. -/
theorem AtRest.hear (h : connection.AtRest signal) : connection.hear.AtRest signal := by
  rcases h with hended | ⟨hwaiting, hsame⟩
  · exact .inl hended
  · refine .inr ⟨hwaiting, ?_⟩
    rw [take_hear, notice_hear, hsame]

/-! ## A payload and its answer -/

/-- A connection at the start of a payload of which nothing has arrived, and whose peer listens. -/
structure Idle (connection : Connection) : Prop where
  waiting : connection.phase = .waiting
  arrived : connection.arrived = []
  going : connection.finished = false
  reachable : connection.unreachable = false

theorem Idle.atRest (h : connection.Idle) : connection.AtRest {} := by
  have htake : connection.take = connection := by
    unfold take
    rw [h.waiting, h.arrived]
    dsimp only [Frame.front]
    rw [h.going]
    rfl
  refine .inr ⟨h.waiting, ?_⟩
  rw [htake, notice, h.waiting]
  rfl

/-- A connection over which a response has been sent; it is lost if the response is too long. -/
def told (connection : Connection) (response : Response) : Connection :=
  match Frame.encode (Text.Utf8.encode response.text) with
  | .ok frame => { connection with sent := connection.sent ++ frame }
  | .error _ => connection.close

theorem Idle.isEnded (h : connection.Idle) : connection.isEnded = false := by
  unfold Connection.isEnded
  rw [h.waiting]
  rfl

theorem Idle.hear (h : connection.Idle) : connection.hear.Idle :=
  ⟨h.waiting, h.arrived, h.going, h.reachable⟩

/-- A response that is short enough is what the peer finds, if it has read all that came before, and
the connection waits for the next payload. -/
theorem Idle.told_of_encode (h : connection.Idle)
    (hheard : connection.heard = connection.sent.length)
    {response : Response} {frame : Bytes}
    (hframe : Frame.encode (Text.Utf8.encode response.text) = .ok frame) :
    (connection.told response).Idle ∧ (connection.told response).unheard = frame := by
  have htold : connection.told response = { connection with sent := connection.sent ++ frame } := by
    rw [Connection.told, hframe]
  rw [htold]
  refine ⟨⟨h.waiting, h.arrived, h.going, h.reachable⟩, ?_⟩
  rw [unheard, hheard]
  exact List.drop_left

/-- The frame of a payload arrives at an idle connection: the payload is answered once, and the
answer is sent. -/
theorem Idle.settle_receive (h : connection.Idle) {payload frame : Bytes}
    (hframe : Frame.encode payload = .ok frame) :
    (connection.receive frame).settle endpoint {} world =
      (connection.told (endpoint.answer payload world).1, (endpoint.answer payload world).2) := by
  obtain ⟨phase, arrived, finished, unreachable, before, heard⟩ := connection
  obtain ⟨rfl, rfl, rfl, rfl⟩ := h
  have hbusy {phase : Phase} {arrived before : Bytes} (hwaiting : phase ≠ .waiting)
      (hended : phase ≠ .ended) :
      ¬ (⟨phase, arrived, false, false, before, heard⟩ : Connection).AtRest {} := by
    rintro (h | ⟨h, -⟩)
    · exact hended h
    · exact hwaiting h
  have hfront := Frame.front_frame hframe []
  rw [List.append_nil] at hfront
  have hserving : (⟨.waiting, frame, false, false, before, heard⟩ : Connection).advance endpoint {}
      world = (⟨.serving payload, [], false, false, before, heard⟩, world) := by
    rw [advance_waiting rfl]
    simp only [take, hfront]
    rfl
  have hfull : ¬ (⟨.waiting, frame, false, false, before, heard⟩ : Connection).AtRest {} := by
    intro hrest
    rw [advance_of_atRest hrest] at hserving
    cases hserving
  show (⟨.waiting, [] ++ frame, false, false, before, heard⟩ : Connection).settle endpoint {}
    world = _
  rw [List.nil_append, settle_of_advance hfull hserving,
    settle_of_advance (hbusy Phase.noConfusion Phase.noConfusion) (advance_serving rfl), send, told]
  cases Frame.encode (Text.Utf8.encode (endpoint.answer payload world).1.text) with
  | error fault => exact settle_of_atRest (.inl rfl)
  | ok sent =>
    have hidle : (⟨.waiting, [], false, false, before ++ sent, heard⟩ : Connection).Idle :=
      ⟨rfl, rfl, rfl, rfl⟩
    have hchecking : ¬ (⟨.checking, [], false, false, before ++ sent, heard⟩ :
        Connection).AtRest {} := hbusy Phase.noConfusion Phase.noConfusion
    exact (settle_of_advance hchecking (advance_checking rfl)).trans (settle_of_atRest hidle.atRest)

end StorageGateway.Rpc.Connection
