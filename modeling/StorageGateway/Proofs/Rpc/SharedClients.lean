import StorageGateway.Proofs.Rpc.Traffic
import StorageGateway.Rpc.SharedClient

/-!
# Shared clients stay in step

A call has the stream to itself from its request to its answer, and finds nothing under way when it
takes it. So whatever arrives for it is the answer to its own request, in whatever order the calls
take the stream, also after requests that could not be sent, and for as long as the peer is there.
-/

namespace StorageGateway.Rpc.SharedClient

variable {shared next : SharedClient} {caller : SharedCall} {turn : Turn} {index : Nat}
  {payload answer bytes : Bytes}

/-- What is under way between a shared client and its peer. -/
def traffic (shared : SharedClient) : Traffic where
  address := shared.client.address
  arrived := shared.client.arrived
  gone := shared.client.peerGone
  requests := shared.requests
  replies := shared.replies
  sent := shared.sent
  served := shared.served

/-- The peer keeps to the rules: what it writes in reply to a request is one frame. -/
def Event.Answers : Event → Prop
  | .reply bytes => ∃ answer, Frame.encode answer = .ok bytes
  | _ => True

/-! ## In step -/

/-- How a call stands to the stream and to what is under way, by how far it has come. -/
def Fits (holder : Option Nat) (traffic : Traffic) (index : Nat) (payload : Bytes) : Turn → Prop
  | .waiting => holder ≠ some index ∧ index ∉ traffic.sent
  | .sending => holder = some index ∧ index ∉ traffic.sent ∧ traffic.Quiet
  | .listening => holder = some index ∧ traffic.Awaits index payload
  | .ended outcome => holder ≠ some index ∧ traffic.Tells index payload outcome

/-- Every call stands to the stream as it should, and nothing is under way while nobody has it. -/
structure InStep (shared : SharedClient) : Prop where
  fits : ∀ {index call}, shared.calls[index]? = some call →
    Fits shared.holder shared.traffic index call.payload call.turn
  free : shared.holder = none → shared.traffic.Quiet
  held : ∀ {index}, shared.holder = some index → ∃ call, shared.calls[index]? = some call
  made : ∀ {index}, index ∈ shared.sent → index < shared.calls.length
  distinct : shared.sent.Nodup

/-- Whoever has not got the stream waits for it, or is through. -/
theorem Fits.waiting_or_ended {holder : Option Nat} {traffic : Traffic}
    (h : Fits holder traffic index payload turn)
    (hother : holder ≠ some index) : turn = .waiting ∨ ∃ outcome, turn = .ended outcome := by
  cases turn with
  | waiting => exact .inl rfl
  | sending => exact absurd h.1 hother
  | listening => exact absurd h.1 hother
  | ended outcome => exact .inr ⟨outcome, rfl⟩

theorem InStep.fits_turn (h : shared.InStep) (hthere : shared.calls[index]? = some caller)
    (hturn : caller.turn = turn) :
    Fits shared.holder shared.traffic index caller.payload turn :=
  hturn ▸ h.fits hthere

theorem inStep_connected (address : String) : (connected address).InStep where
  fits h := by cases h
  free _ := ⟨rfl, fun _ => rfl, fun _ => rfl, fun _ => rfl⟩
  held h := by cases h
  made h := by cases h
  distinct := List.nodup_nil

/-! ## What the peer and the wire do -/

/-- What happens between the client and its peer leaves the calls as they are, and keeps what is
under way in step. -/
structure Conveys (shared next : SharedClient) : Prop where
  calls : next.calls = shared.calls
  holder : next.holder = shared.holder
  sent : next.sent = shared.sent
  grows : shared.traffic.Grows next.traffic
  quiet : shared.traffic.Quiet → next.traffic.Quiet
  awaits : ∀ {index payload}, shared.traffic.Awaits index payload →
    next.traffic.Awaits index payload

theorem Fits.of_conveys (h : Fits shared.holder shared.traffic index payload turn)
    (hconveys : Conveys shared next) : Fits next.holder next.traffic index payload turn := by
  have hsent : next.traffic.sent = shared.traffic.sent := hconveys.sent
  rw [hconveys.holder]
  cases turn with
  | waiting => exact ⟨h.1, hsent ▸ h.2⟩
  | sending => exact ⟨h.1, hsent ▸ h.2.1, hconveys.quiet h.2.2⟩
  | listening => exact ⟨h.1, hconveys.awaits h.2⟩
  | ended outcome => exact ⟨h.1, h.2.mono hconveys.grows⟩

theorem InStep.of_conveys (h : shared.InStep) (hconveys : Conveys shared next) : next.InStep where
  fits {index call} hcall := by
    rw [hconveys.calls] at hcall
    exact (h.fits hcall).of_conveys hconveys
  free hholder := hconveys.quiet (h.free (hconveys.holder ▸ hholder))
  held hholder := by
    rw [hconveys.calls]
    exact h.held (hconveys.holder ▸ hholder)
  made hmem := by
    rw [hconveys.calls]
    exact h.made (hconveys.sent ▸ hmem)
  distinct := by
    rw [hconveys.sent]
    exact h.distinct

theorem reply_of_nothing (h : shared.client.peerGone = false → shared.requests = [])
    (bytes : Bytes) : shared.reply bytes = shared := by
  unfold reply
  cases hgone : shared.client.peerGone with
  | true => rfl
  | false =>
    rw [h hgone]
    rfl

theorem reply_of_frame (hthere : shared.client.peerGone = false)
    (h : Frame.encode payload = .ok shared.requests) (bytes : Bytes) :
    shared.reply bytes = { shared with
      requests := []
      served := shared.served ++ [(payload, bytes)]
      replies := shared.replies ++ bytes } := by
  have hfront : Frame.front shared.requests = .frame payload [] := by
    rw [← List.append_nil shared.requests]
    exact Frame.front_frame h []
  unfold reply
  rw [hthere, hfront]
  rfl

theorem conveys_reply (h : Frame.encode answer = .ok bytes) :
    Conveys shared (shared.reply bytes) := by
  have hgrows : shared.traffic.Grows (shared.reply bytes).traffic := by
    unfold reply
    split
    · exact .refl _
    split
    · exact ⟨rfl, fun hgone => ⟨hgone, rfl⟩, List.prefix_rfl, List.prefix_append _ _⟩
    · exact .refl _
  have hsame : (shared.reply bytes).calls = shared.calls ∧
      (shared.reply bytes).holder = shared.holder ∧
      (shared.reply bytes).sent = shared.sent := by
    unfold reply
    split
    · exact ⟨rfl, rfl, rfl⟩
    split <;> exact ⟨rfl, rfl, rfl⟩
  refine ⟨hsame.1, hsame.2.1, hsame.2.2, hgrows, fun hquiet => ?_, fun hawaits => ?_⟩
  · rw [reply_of_nothing hquiet.requests]
    exact hquiet
  · cases hgone : shared.client.peerGone with
    | true =>
      rw [reply_of_nothing fun hthere => absurd (hgone.symm.trans hthere) Bool.noConfusion]
      exact hawaits
    | false =>
      cases hawaits with
      | asked before hsent hserved harrived hrequests hreplies =>
        rw [reply_of_frame hgone (hrequests hgone)]
        refine .answered before shared.served answer bytes bytes hsent rfl hserved h ?_
          (fun _ => rfl) fun _ => ?_
        · exact congrArg (· ++ bytes) harrived
        · exact congrArg (· ++ bytes) (hreplies hgone)
      | answered before earlier other frame rest hsent hserved hlength hframe harrived hrequests
          hreplies =>
        rw [reply_of_nothing hrequests]
        exact .answered before earlier other frame rest hsent hserved hlength hframe harrived
          hrequests hreplies

theorem conveys_arrive (shared : SharedClient) (count : Nat) :
    Conveys shared (shared.arrive count) := by
  cases hgone : shared.client.peerGone with
  | true =>
    -- Nothing that the peer has written arrives any more.
    have hclient : shared.client.receive (shared.replies.take count) false = shared.client :=
      if_pos hgone
    unfold arrive
    rw [hclient]
    exact ⟨rfl, rfl, rfl, .of_eq rfl rfl rfl rfl,
      fun hquiet => .of_gone hgone hquiet.arrived, fun hawaits => hawaits.of_gone hgone rfl rfl rfl⟩
  | false =>
    have hclient : shared.client.receive (shared.replies.take count) false =
        { shared.client with arrived := shared.client.arrived ++ shared.replies.take count } := by
      unfold Client.receive
      rw [if_neg (by rw [hgone]; exact Bool.noConfusion), ← hgone]
    have hnothing (hreplies : shared.replies = []) :
        shared.client.arrived ++ shared.replies.take count = shared.client.arrived ∧
          shared.replies.drop count = [] := by
      rw [hreplies, List.take_nil, List.drop_nil, List.append_nil]
      exact ⟨rfl, rfl⟩
    unfold arrive
    rw [hclient]
    refine ⟨rfl, rfl, rfl, .of_eq rfl rfl rfl rfl,
      fun hquiet => ?_, fun hawaits => ?_⟩
    · obtain ⟨harrived, hreplies⟩ := hnothing (hquiet.replies hgone)
      exact ⟨harrived.trans hquiet.arrived, hquiet.requests, fun _ => hreplies, hquiet.served⟩
    · cases hawaits with
      | asked before hsent hserved hbegun hrequests hreplies =>
        obtain ⟨harrived, hreplies⟩ := hnothing (hreplies hgone)
        exact .asked before hsent hserved (harrived.trans hbegun) hrequests fun _ => hreplies
      | answered before earlier answer frame rest hsent hserved hlength hframe harrived hrequests
          hreplies =>
        have hrest : shared.replies = rest := hreplies hgone
        refine .answered before earlier answer frame (rest.drop count) hsent hserved hlength hframe
          ?_ hrequests fun _ => congrArg (List.drop count) hrest
        have htake : shared.replies.take count ++ rest.drop count = rest := by
          rw [hrest, List.take_append_drop]
        show shared.client.arrived ++ shared.replies.take count ++ rest.drop count = frame
        rw [List.append_assoc, htake]
        exact harrived

theorem hangUp_eq (shared : SharedClient) : shared.hangUp =
    { shared with client := { shared.client with peerGone := true }, replies := [] } := by
  unfold hangUp Client.receive
  split
  · rename_i hgone
    rw [← hgone]
  · rw [List.append_nil]

theorem conveys_hangUp (shared : SharedClient) : Conveys shared shared.hangUp := by
  rw [hangUp_eq]
  exact ⟨rfl, rfl, rfl, ⟨rfl, fun _ => ⟨rfl, rfl⟩, List.prefix_rfl, List.prefix_rfl⟩,
    fun hquiet => .of_gone rfl hquiet.arrived, fun hawaits => hawaits.of_gone rfl rfl rfl rfl⟩

/-! ## What the calls do -/

/-- A call whose turn it is goes on, and concerns no other call. -/
structure Advances (shared next : SharedClient) (index : Nat) (call : SharedCall) (turn : Turn) :
    Prop where
  there : shared.calls[index]? = some call
  calls : next.calls = shared.calls.set index { call with turn }
  before : shared.holder = none ∨ shared.holder = some index
  after : next.holder = none ∨ next.holder = some index
  sent : next.sent = shared.sent ∨ index ∉ shared.sent ∧ next.sent = shared.sent ++ [index]
  grows : shared.traffic.Grows next.traffic
  fits : Fits next.holder next.traffic index call.payload turn
  free : next.holder = none → next.traffic.Quiet

theorem ne_some_of_ne {holder : Option Nat} {other : Nat}
    (h : holder = none ∨ holder = some index) (hother : other ≠ index) : holder ≠ some other := by
  rcases h with rfl | rfl
  · intro heq
    cases heq
  · intro heq
    exact hother (Option.some.inj heq).symm

theorem InStep.of_advances (h : shared.InStep)
    (hadvances : Advances shared next index caller turn) : next.InStep where
  fits {other otherCall} hother := by
    have hthere : index < shared.calls.length := (List.getElem?_eq_some_iff.mp hadvances.there).1
    rw [hadvances.calls] at hother
    by_cases heq : other = index
    · subst heq
      rw [List.getElem?_set_self hthere] at hother
      cases hother
      exact hadvances.fits
    · rw [List.getElem?_set_ne (Ne.symm heq)] at hother
      have hfits := h.fits hother
      have haside : next.holder ≠ some other := ne_some_of_ne hadvances.after heq
      rcases hfits.waiting_or_ended (ne_some_of_ne hadvances.before heq) with hwaiting | ⟨_, hended⟩
      · rw [hwaiting] at hfits ⊢
        refine ⟨haside, ?_⟩
        show other ∉ next.sent
        rcases hadvances.sent with hsent | ⟨-, hsent⟩
        · rw [hsent]
          exact hfits.2
        · rw [hsent, List.mem_append, List.mem_singleton]
          exact fun hmem => hmem.elim hfits.2 heq
      · rw [hended] at hfits ⊢
        exact ⟨haside, hfits.2.mono hadvances.grows⟩
  free := hadvances.free
  held {other} hholder := by
    by_cases heq : other = index
    · have hthere := (List.getElem?_eq_some_iff.mp hadvances.there).1
      rw [hadvances.calls, heq, List.getElem?_set_self hthere]
      exact ⟨_, rfl⟩
    · exact absurd hholder (ne_some_of_ne hadvances.after heq)
  made {other} hmem := by
    rw [hadvances.calls, List.length_set]
    rcases hadvances.sent with hsent | ⟨-, hsent⟩
    · exact h.made (hsent ▸ hmem)
    · rw [hsent, List.mem_append, List.mem_singleton] at hmem
      rcases hmem with hmem | rfl
      · exact h.made hmem
      · exact (List.getElem?_eq_some_iff.mp hadvances.there).1
  distinct := by
    rcases hadvances.sent with hsent | ⟨hnew, hsent⟩
    · rw [hsent]
      exact h.distinct
    · rw [hsent]
      refine List.nodup_append.mpr ⟨h.distinct, List.pairwise_singleton _ _, ?_⟩
      rintro other hmem _ hlast rfl
      exact hnew (List.mem_singleton.mp hlast ▸ hmem)

theorem getElem?_call (shared : SharedClient) (method : String) (params : Json) (index : Nat) :
    (shared.call method params).calls[index]? =
      if index = shared.calls.length then
        some ⟨shared.client.nextCall.toNat, method, params, .waiting⟩
      else shared.calls[index]? := by
  show (shared.calls ++ [_])[index]? = _
  rw [List.getElem?_append]
  split
  · rename_i hold
    rw [if_neg (Nat.ne_of_lt hold)]
  · rename_i hnew
    split
    · rename_i heq
      rw [heq, Nat.sub_self]
      rfl
    · have hbeyond : 1 ≤ index - shared.calls.length := by omega
      rw [List.getElem?_eq_none hbeyond, List.getElem?_eq_none (by omega)]

theorem InStep.call (h : shared.InStep) (method : String) (params : Json) :
    (shared.call method params).InStep where
  fits {index caller} hcaller := by
    rw [getElem?_call] at hcaller
    split at hcaller
    · -- The new call has not had the stream yet.
      rename_i heq
      cases hcaller
      refine ⟨fun hholder => ?_, fun hmem => ?_⟩
      · obtain ⟨_, hheld⟩ := h.held hholder
        exact absurd (List.getElem?_eq_some_iff.mp hheld).1 (heq ▸ Nat.lt_irrefl _)
      · exact absurd (h.made hmem) (heq ▸ Nat.lt_irrefl _)
    · exact h.fits hcaller
  free := h.free
  held {index} hholder := by
    obtain ⟨caller, hheld⟩ := h.held hholder
    have hlength := (List.getElem?_eq_some_iff.mp hheld).1
    rw [getElem?_call, if_neg (Nat.ne_of_lt hlength)]
    exact ⟨caller, hheld⟩
  made {index} hmem := by
    show index < (shared.calls ++ [_]).length
    rw [List.length_append]
    exact Nat.lt_add_right 1 (h.made hmem)
  distinct := h.distinct

theorem acquire_of_waiting (hthere : shared.calls[index]? = some caller)
    (hfree : shared.holder = none) (hturn : caller.turn = .waiting) :
    shared.acquire index = { shared.proceed index caller .sending with holder := some index } := by
  unfold acquire
  rw [hthere, hfree]
  dsimp only
  rw [hturn]

theorem send_of_refused (hthere : shared.calls[index]? = some caller)
    (hturn : caller.turn = .sending) {fault : Fault}
    (h : shared.client.request caller.number caller.method caller.params = .error fault) :
    shared.send index = shared.leave index caller (.error fault) := by
  unfold send
  rw [hthere]
  dsimp only
  rw [hturn, h]

theorem send_of_frame (hthere : shared.calls[index]? = some caller)
    (hturn : caller.turn = .sending) {frame : Bytes}
    (h : shared.client.request caller.number caller.method caller.params = .ok frame) :
    shared.send index = { shared.proceed index caller .listening with
      sent := shared.sent ++ [index], requests := shared.requests ++ frame } := by
  unfold send
  rw [hthere]
  dsimp only
  rw [hturn, h]

theorem listen_of_none (h : shared.client.takeAnswer = none) (index : Nat) :
    shared.listen index = shared := by
  unfold listen
  rw [h]
  repeat' split
  all_goals first | rfl | contradiction

theorem listen_of_answer (hthere : shared.calls[index]? = some caller)
    (hturn : caller.turn = .listening) {outcome : Except Fault Json} {client : Client}
    (h : shared.client.takeAnswer = some (outcome, client)) :
    shared.listen index = { shared with client }.leave index caller outcome := by
  unfold listen
  rw [hthere]
  dsimp only
  rw [hturn, h]

theorem advances_acquire (h : shared.InStep) (index : Nat) :
    shared.acquire index = shared ∨
      ∃ caller turn, Advances shared (shared.acquire index) index caller turn := by
  by_cases hturn : ∃ caller, shared.calls[index]? = some caller ∧ shared.holder = none ∧
      caller.turn = .waiting
  · obtain ⟨caller, hthere, hfree, hturn⟩ := hturn
    have hfits := h.fits_turn hthere hturn
    refine .inr ⟨caller, .sending, ?_⟩
    rw [acquire_of_waiting hthere hfree hturn]
    exact ⟨hthere, rfl, .inl hfree, .inr rfl, .inl rfl, .refl _,
      ⟨rfl, hfits.2, h.free hfree⟩, fun hnone => by cases hnone⟩
  · refine .inl ?_
    unfold acquire
    split
    · rename_i caller hthere hfree
      split
      · rename_i hwaits
        exact absurd ⟨caller, hthere, hfree, hwaits⟩ hturn
      · rfl
    · rfl

theorem advances_send (h : shared.InStep) (index : Nat) :
    shared.send index = shared ∨
      ∃ caller turn, Advances shared (shared.send index) index caller turn := by
  by_cases hturn : ∃ caller, shared.calls[index]? = some caller ∧ caller.turn = .sending
  · obtain ⟨caller, hthere, hturn⟩ := hturn
    obtain ⟨hholder, hnew, hquiet⟩ := h.fits_turn hthere hturn
    rcases shared.client.request_cases caller.number caller.method caller.params with
      ⟨frame, hrequest, hgone, hframe⟩ | ⟨cause, hrefused, hcause⟩
    · rw [send_of_frame hthere hturn hrequest]
      have hrequests : shared.requests ++ frame = frame := by
        rw [show shared.requests = [] from hquiet.requests hgone]
        rfl
      -- Nothing else is under way, so the peer will find this request and no other.
      refine .inr ⟨caller, .listening, hthere, rfl, .inr hholder, .inr hholder, .inr ⟨hnew, rfl⟩,
        ⟨rfl, fun hlost => ?_, List.prefix_append _ _, List.prefix_rfl⟩, ⟨hholder, ?_⟩, ?_⟩
      · exact absurd (hgone.symm.trans hlost) Bool.noConfusion
      · refine .asked shared.sent rfl (hquiet.served hgone) hquiet.arrived (fun _ => ?_)
          hquiet.replies
        exact hframe.trans (congrArg Except.ok hrequests.symm)
      · intro hnone
        exact absurd (hholder.symm.trans hnone) (Option.some_ne_none index)
    · -- Not a byte has been sent.
      rw [send_of_refused hthere hturn hrefused]
      exact .inr ⟨caller, _, hthere, rfl, .inr hholder, .inl rfl, .inl rfl, .refl _,
        ⟨(Option.some_ne_none index).symm, .lost cause hcause⟩, fun _ => hquiet⟩
  · refine .inl ?_
    unfold send
    split
    · rename_i caller hthere
      split
      · rename_i hsends
        exact absurd ⟨caller, hthere, hsends⟩ hturn
      · rfl
    · rfl

/-- Where only the beginning of an answer has arrived, the peer decides. -/
theorem takeAnswer_of_beginning (hfront : Frame.front shared.client.arrived = .partialHeader ∨
      Frame.front shared.client.arrived = .partialPayload) (index : Nat) (payload : Bytes) :
    shared.client.peerGone = false ∧ shared.client.takeAnswer = none ∨
    ∃ outcome, shared.client.takeAnswer = some (outcome, { shared.client with arrived := [] }) ∧
      shared.traffic.Tells index payload outcome ∧ { shared.traffic with arrived := [] }.Quiet := by
  rcases Client.takeAnswer_of_partial hfront with hwaits | ⟨hgone, cause, hlost⟩
  · exact .inl hwaits
  · exact .inr ⟨_, hlost, .lost cause (.inr hgone), .of_gone hgone rfl⟩

/-- Whoever waits for an answer waits for something that is under way, or learns what has become of
its request; and then nothing is under way. -/
theorem takeAnswer_cases (h : shared.traffic.Awaits index payload) :
    (shared.client.takeAnswer = none ∧ shared.client.peerGone = false ∧
      ¬ (shared.requests = [] ∧ shared.replies = [])) ∨
    ∃ outcome, shared.client.takeAnswer = some (outcome, { shared.client with arrived := [] }) ∧
      shared.traffic.Tells index payload outcome ∧
      { shared.traffic with arrived := [] }.Quiet := by
  cases h with
  | asked before hsent hserved harrived hrequests hreplies =>
    have hfront : Frame.front shared.client.arrived = .partialHeader := by
      rw [show shared.client.arrived = [] from harrived]
      rfl
    rcases takeAnswer_of_beginning (.inl hfront) index payload with ⟨hgone, hnone⟩ | hlost
    · refine .inl ⟨hnone, hgone, fun hnothing => ?_⟩
      have hframe := (Frame.encode_eq_ok_iff.mp (hrequests hgone)).2
      rw [show shared.traffic.requests = [] from hnothing.1] at hframe
      cases hframe
    · exact .inr hlost
  | answered before earlier answer frame rest hsent hserved hlength hframe harrived hrequests
      hreplies =>
    by_cases hrest : rest = []
    · have hwhole : shared.client.arrived = frame := by
        rw [← harrived, hrest, List.append_nil]
        rfl
      refine .inr ⟨_, Client.takeAnswer_of_frame hframe hwhole,
        Traffic.tells_last hsent hserved hlength hframe, rfl, hrequests,
        fun hgone => (hreplies hgone).trans hrest, fun _ => ?_⟩
      show shared.traffic.served.length = shared.traffic.sent.length
      rw [hserved, hsent, List.length_append, List.length_append, hlength]
      rfl
    · have hfront := Frame.front_of_append_eq hframe harrived hrest
      rcases takeAnswer_of_beginning hfront index payload with ⟨hgone, hnone⟩ | hlost
      · exact .inl ⟨hnone, hgone, fun hnothing => hrest ((hreplies hgone).symm.trans hnothing.2)⟩
      · exact .inr hlost

theorem advances_listen (h : shared.InStep) (index : Nat) :
    shared.listen index = shared ∨
      ∃ caller turn, Advances shared (shared.listen index) index caller turn := by
  by_cases hturn : ∃ caller, shared.calls[index]? = some caller ∧ caller.turn = .listening
  · obtain ⟨caller, hthere, hturn⟩ := hturn
    obtain ⟨hholder, hawaits⟩ := h.fits_turn hthere hturn
    rcases takeAnswer_cases hawaits with ⟨hnone, -⟩ | ⟨outcome, hanswer, htells, hquiet⟩
    · exact .inl (listen_of_none hnone index)
    · have hgrows : shared.traffic.Grows { shared.traffic with arrived := [] } :=
        .of_eq rfl rfl rfl rfl
      rw [listen_of_answer hthere hturn hanswer]
      exact .inr ⟨caller, .ended outcome, hthere, rfl, .inr hholder, .inl rfl, .inl rfl, hgrows,
        ⟨(Option.some_ne_none index).symm, htells.mono hgrows⟩, fun _ => hquiet⟩
  · refine .inl ?_
    unfold listen
    split
    · rename_i caller hthere
      split
      · rename_i hlistens
        exact absurd ⟨caller, hthere, hlistens⟩ hturn
      · rfl
    · rfl

/-! ## Runs -/

theorem InStep.of_goes (h : shared.InStep)
    (hgoes : next = shared ∨ ∃ caller turn, Advances shared next index caller turn) :
    next.InStep ∧ shared.traffic.Grows next.traffic := by
  rcases hgoes with rfl | ⟨caller, turn, hadvances⟩
  · exact ⟨h, .refl _⟩
  · exact ⟨h.of_advances hadvances, hadvances.grows⟩

/-- No event gets a shared client out of step. -/
theorem InStep.step (h : shared.InStep) {event : Event} (hanswers : event.Answers) :
    (shared.step event).InStep ∧ shared.traffic.Grows (shared.step event).traffic := by
  cases event with
  | call method params =>
    exact ⟨h.call method params, .of_eq rfl rfl rfl rfl⟩
  | acquire index => exact h.of_goes (advances_acquire h index)
  | send index => exact h.of_goes (advances_send h index)
  | listen index => exact h.of_goes (advances_listen h index)
  | reply bytes =>
    obtain ⟨answer, hframe⟩ := hanswers
    have hconveys : Conveys shared (shared.reply bytes) := conveys_reply hframe
    exact ⟨h.of_conveys hconveys, hconveys.grows⟩
  | arrive count =>
    have hconveys := conveys_arrive shared count
    exact ⟨h.of_conveys hconveys, hconveys.grows⟩
  | hangUp =>
    have hconveys := conveys_hangUp shared
    exact ⟨h.of_conveys hconveys, hconveys.grows⟩

theorem InStep.run (h : shared.InStep) {events : List Event}
    (hanswers : ∀ event ∈ events, event.Answers) :
    (shared.run events).InStep ∧ shared.traffic.Grows (shared.run events).traffic := by
  induction events generalizing shared with
  | nil => exact ⟨h, .refl _⟩
  | cons event events ih =>
    obtain ⟨hfirst, hothers⟩ := List.forall_mem_cons.mp hanswers
    obtain ⟨hnext, hgrows⟩ := h.step hfirst
    obtain ⟨hlast, hlater⟩ := ih hnext hothers
    exact ⟨hlast, hgrows.trans hlater⟩

end StorageGateway.Rpc.SharedClient
