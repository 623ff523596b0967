import StorageGateway.Proofs.Rpc.Messages
import StorageGateway.Proofs.Rpc.Streams

/-!
# What is under way between a client and its peer

The messages of a client and its peer carry no name by which an answer would be matched to its
request. What matches them is that nothing else is under way from a request to its answer. This is
told here of the bytes that are under way, and of what one call may learn from them.
-/

namespace StorageGateway.Rpc

/-! ## Requests and answers of a client -/

namespace Client

variable {client : Client} {payload frame : Bytes}

/-- A request is turned away because it is too long, or because nobody is there. -/
theorem request_cases (client : Client) (number : Nat) (method : String) (params : Json) :
    (∃ frame, client.request number method params = .ok frame ∧ client.peerGone = false ∧
      Frame.encode (Client.payload number method params) = .ok frame) ∨
    ∃ cause, client.request number method params = .error (.transport client.address cause) ∧
      (Frame.maxPayload < (Client.payload number method params).length ∨
        client.peerGone = true) := by
  unfold request
  cases hframe : Frame.encode (Client.payload number method params) with
  | error fault => exact .inr ⟨_, rfl, .inl (Frame.lt_of_encode hframe)⟩
  | ok frame =>
    dsimp only
    cases hgone : client.peerGone with
    | true => exact .inr ⟨_, rfl, .inr rfl⟩
    | false => exact .inl ⟨frame, rfl, rfl, rfl⟩

/-- Of the beginning of an answer nothing is taken; when the peer has gone, it is given up. -/
theorem takeAnswer_of_partial
    (h : Frame.front client.arrived = .partialHeader ∨
      Frame.front client.arrived = .partialPayload) :
    client.peerGone = false ∧ client.takeAnswer = none ∨
    client.peerGone = true ∧ ∃ cause, client.takeAnswer =
      some (.error (.transport client.address cause), { client with arrived := [] }) := by
  unfold takeAnswer
  cases hgone : client.peerGone with
  | false =>
    refine .inl ⟨rfl, ?_⟩
    rcases h with hfront | hfront <;> rw [hfront] <;> rfl
  | true =>
    refine .inr ⟨rfl, ?_⟩
    rcases h with hfront | hfront <;> rw [hfront] <;> exact ⟨_, rfl⟩

theorem takeAnswer_of_frame (hframe : Frame.encode payload = .ok frame)
    (h : client.arrived = frame) :
    client.takeAnswer = some (outcome payload, { client with arrived := [] }) := by
  have hfront : Frame.front client.arrived = .frame payload [] := by
    rw [h, ← List.append_nil frame]
    exact Frame.front_frame hframe []
  unfold takeAnswer
  rw [hfront]

/-- No answer says that the connection is lost. -/
theorem outcome_ne_transport (payload : Bytes) (address cause : String) :
    outcome payload ≠ .error (.transport address cause) := by
  have hfault (error : ErrorObject) : error.fault ≠ .transport address cause := by
    unfold ErrorObject.fault Fault.ofWire
    dsimp only
    repeat' split
    all_goals exact Fault.noConfusion
  unfold outcome
  intro h
  split at h
  · cases h
  · split at h
    · exact hfault _ (Except.error.inj h)
    · cases h
    · cases h

end Client

/-! ## What is under way -/

/-- What is under way between a shared client and its peer, and what has been. -/
structure Traffic where
  /-- The address of the peer. -/
  address : String
  /-- The bytes that have arrived and have not been taken. -/
  arrived : Bytes
  /-- Whether the peer has hung up. -/
  gone : Bool
  /-- The bytes that the peer has not taken. -/
  requests : Bytes
  /-- The bytes in reply that have not arrived. -/
  replies : Bytes
  /-- The calls whose requests were sent. -/
  sent : List Nat
  /-- The requests that were taken, each with what was written in reply. -/
  served : List (Bytes × Bytes)

namespace Traffic

variable {traffic next : Traffic} {index : Nat} {payload : Bytes} {outcome : Except Fault Json}

/-- Nothing is under way: as long as the peer is there, every request has its reply. -/
structure Quiet (traffic : Traffic) : Prop where
  arrived : traffic.arrived = []
  requests : traffic.gone = false → traffic.requests = []
  replies : traffic.gone = false → traffic.replies = []
  served : traffic.gone = false → traffic.served.length = traffic.sent.length

/-- Of one call a request is under way, or its answer. -/
inductive Awaits (traffic : Traffic) (index : Nat) (payload : Bytes) : Prop where
  /-- The request is the last one sent, and has not been taken. -/
  | asked (before : List Nat) (hsent : traffic.sent = before ++ [index])
    (hserved : traffic.served.length = before.length) (harrived : traffic.arrived = [])
    (hrequests : traffic.gone = false → Frame.encode payload = .ok traffic.requests)
    (hreplies : traffic.gone = false → traffic.replies = [])
  /-- The request is the last one served, and nothing but its answer is under way. -/
  | answered (before : List Nat) (earlier : List (Bytes × Bytes)) (answer frame rest : Bytes)
    (hsent : traffic.sent = before ++ [index])
    (hserved : traffic.served = earlier ++ [(payload, frame)])
    (hlength : earlier.length = before.length) (hframe : Frame.encode answer = .ok frame)
    (harrived : traffic.arrived ++ rest = frame)
    (hrequests : traffic.gone = false → traffic.requests = [])
    (hreplies : traffic.gone = false → traffic.replies = rest)

/-- When the peer has gone, nothing but what has arrived is under way. -/
theorem Quiet.of_gone (hgone : traffic.gone = true) (harrived : traffic.arrived = []) :
    traffic.Quiet := by
  have hnever : ¬ traffic.gone = false := by
    rw [hgone]
    exact Bool.noConfusion
  exact ⟨harrived, fun hno => absurd hno hnever, fun hno => absurd hno hnever,
    fun hno => absurd hno hnever⟩

theorem Awaits.of_gone (h : traffic.Awaits index payload) (hgone : next.gone = true)
    (harrived : next.arrived = traffic.arrived) (hsent : next.sent = traffic.sent)
    (hserved : next.served = traffic.served) : next.Awaits index payload := by
  have hnever : ¬ next.gone = false := by
    rw [hgone]
    exact Bool.noConfusion
  cases h with
  | asked before hlast hlength hnothing _ _ =>
    rw [← hsent] at hlast
    rw [← hserved] at hlength
    exact .asked before hlast hlength (harrived.trans hnothing) (fun hno => absurd hno hnever)
      fun hno => absurd hno hnever
  | answered before earlier answer frame rest hlast hreply hlength hframe hbegun _ _ =>
    rw [← hsent] at hlast
    rw [← hserved] at hreply
    rw [← harrived] at hbegun
    exact .answered before earlier answer frame rest hlast hreply hlength hframe hbegun
      (fun hno => absurd hno hnever) fun hno => absurd hno hnever

/-- What a call may be told: that its request is too long or the peer has gone, or the answer that
the peer gave to the very request that the call has sent. -/
inductive Tells (traffic : Traffic) (index : Nat) (payload : Bytes) : Except Fault Json → Prop where
  | lost (cause : String) (h : Frame.maxPayload < payload.length ∨ traffic.gone = true) :
    Tells traffic index payload (.error (.transport traffic.address cause))
  | answer {place : Nat} {answer frame : Bytes} (hsent : traffic.sent[place]? = some index)
    (hserved : traffic.served[place]? = some (payload, frame))
    (hframe : Frame.encode answer = .ok frame) :
    Tells traffic index payload (Client.outcome answer)

/-- The last answer is for the last call. -/
theorem tells_last {before : List Nat} {earlier : List (Bytes × Bytes)} {answer frame : Bytes}
    (hsent : traffic.sent = before ++ [index])
    (hserved : traffic.served = earlier ++ [(payload, frame)])
    (hlength : earlier.length = before.length) (hframe : Frame.encode answer = .ok frame) :
    traffic.Tells index payload (Client.outcome answer) := by
  have hindex : traffic.sent[before.length]? = some index := by
    rw [hsent]
    exact List.getElem?_concat_length
  have hanswer : traffic.served[before.length]? = some (payload, frame) := by
    rw [hserved, ← hlength]
    exact List.getElem?_concat_length
  exact .answer hindex hanswer hframe

/-- What has been stays as it was. -/
structure Grows (traffic next : Traffic) : Prop where
  address : next.address = traffic.address
  gone : traffic.gone = true → next.gone = true ∧ next.sent = traffic.sent
  sent : traffic.sent <+: next.sent
  served : traffic.served <+: next.served

theorem Grows.of_eq (haddress : next.address = traffic.address) (hgone : next.gone = traffic.gone)
    (hsent : next.sent = traffic.sent) (hserved : next.served = traffic.served) :
    Grows traffic next where
  address := haddress
  gone h := ⟨hgone.trans h, hsent⟩
  sent := hsent ▸ List.prefix_rfl
  served := hserved ▸ List.prefix_rfl

theorem Grows.refl (traffic : Traffic) : Grows traffic traffic := .of_eq rfl rfl rfl rfl

theorem Grows.trans {last : Traffic} (h : Grows traffic next) (hlast : Grows next last) :
    Grows traffic last := by
  refine ⟨hlast.address.trans h.address, fun hgone => ?_, h.sent.trans hlast.sent,
    h.served.trans hlast.served⟩
  obtain ⟨hnext, hsent⟩ := h.gone hgone
  obtain ⟨hafter, hsent'⟩ := hlast.gone hnext
  exact ⟨hafter, hsent'.trans hsent⟩

theorem Tells.mono (h : traffic.Tells index payload outcome) (hgrows : Grows traffic next) :
    next.Tells index payload outcome := by
  cases h with
  | lost cause h =>
    rw [← hgrows.address]
    exact .lost cause (h.imp_right fun hgone => (hgrows.gone hgone).1)
  | @answer place _ frame hsent hserved hframe =>
    obtain ⟨more, hmore⟩ := hgrows.sent
    obtain ⟨later, hlater⟩ := hgrows.served
    have hsent' : next.sent[place]? = some index := by
      rw [← hmore, List.getElem?_append_left (List.getElem?_eq_some_iff.mp hsent).1]
      exact hsent
    have hserved' : next.served[place]? = some (payload, frame) := by
      rw [← hlater, List.getElem?_append_left (List.getElem?_eq_some_iff.mp hserved).1]
      exact hserved
    exact .answer hsent' hserved' hframe

end Traffic

end StorageGateway.Rpc
