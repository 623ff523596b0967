import StorageGateway.Proofs.Rpc.SharedClients

/-!
# Calls over shared clients

A call that takes the stream goes through from end to end and leaves everything as it found it, but
for the records; so does a call whose request cannot be sent. Whoever has the stream leaves it. So
every call gets the answer to its own request for as long as the peer is there, and none gets an
old answer afterwards.
-/

namespace StorageGateway.Rpc.SharedClient

variable {shared next : SharedClient} {caller : SharedCall} {index : Nat}
  {payload answer bytes : Bytes}

/-! ## One call from end to end -/

theorem run_append (shared : SharedClient) (events more : List Event) :
    shared.run (events ++ more) = (shared.run events).run more :=
  List.foldl_append

@[simp]
theorem run_nil (shared : SharedClient) : shared.run [] = shared :=
  rfl

@[simp]
theorem run_cons (shared : SharedClient) (event : Event) (events : List Event) :
    shared.run (event :: events) = (shared.step event).run events :=
  rfl

theorem run_acquire_send (shared : SharedClient) (index : Nat) :
    shared.run [.acquire index, .send index] = (shared.acquire index).send index := by
  simp only [run_cons, run_nil, step]

theorem arrive_zero (shared : SharedClient) : shared.arrive 0 = shared := by
  have hclient : shared.client.receive [] false = shared.client := by
    unfold Client.receive
    split
    · rfl
    · rename_i hthere
      rw [List.append_nil, ← Bool.eq_false_iff.mpr hthere]
  show { shared with client := shared.client.receive [] false, replies := shared.replies } = shared
  rw [hclient]

theorem arrive_arrive (shared : SharedClient) (count more : Nat) :
    (shared.arrive count).arrive more = shared.arrive (count + more) := by
  have hclient : (shared.client.receive (shared.replies.take count) false).receive
      ((shared.replies.drop count).take more) false =
      shared.client.receive (shared.replies.take (count + more)) false := by
    unfold Client.receive
    cases hgone : shared.client.peerGone with
    | true => simp [hgone]
    | false => simp [List.take_add]
  unfold arrive
  dsimp only
  rw [hclient, List.drop_drop]

/-- However the bytes arrive, what matters is how many there are. -/
theorem run_arrive (shared : SharedClient) (counts : List Nat) :
    shared.run (counts.map Event.arrive) = shared.arrive counts.sum := by
  induction counts generalizing shared with
  | nil => exact (arrive_zero shared).symm
  | cons count counts ih =>
    rw [List.sum_cons, ← arrive_arrive, ← ih]
    rfl

/-- A call from end to end: it takes the stream, sends its request, the peer replies, the reply
arrives in some pieces, and the call takes its answer. -/
def exchange (index : Nat) (bytes : Bytes) (counts : List Nat) : List Event :=
  [.acquire index, .send index] ++
    Event.reply bytes :: (counts.map .arrive ++ [.listen index])

/-- A request that cannot be sent is the end of its call, and changes nothing else. -/
theorem run_refused (hfree : shared.holder = none) (hthere : shared.calls[index]? = some caller)
    (hturn : caller.turn = .waiting)
    (hcause : Frame.maxPayload < caller.payload.length ∨ shared.client.peerGone = true) :
    ∃ cause, shared.run [.acquire index, .send index] =
      shared.proceed index caller (.ended (.error (.transport shared.client.address cause))) := by
  have hlength : index < shared.calls.length := (List.getElem?_eq_some_iff.mp hthere).1
  have hsends : (shared.acquire index).calls[index]? = some { caller with turn := .sending } := by
    rw [acquire_of_waiting hthere hfree hturn]
    exact List.getElem?_set_self hlength
  have hclient : (shared.acquire index).client = shared.client := by
    rw [acquire_of_waiting hthere hfree hturn]
    rfl
  rcases shared.client.request_cases caller.number caller.method caller.params with
    ⟨frame, _, hgone, hframe⟩ | ⟨cause, hrefused, _⟩
  · have hfits := (Frame.encode_eq_ok_iff.mp hframe).1
    rcases hcause with hlong | hlost
    · exact absurd hfits (Nat.not_le_of_lt hlong)
    · exact absurd (hgone.symm.trans hlost) Bool.noConfusion
  · refine ⟨cause, ?_⟩
    rw [← hclient] at hrefused
    rw [run_acquire_send, send_of_refused hsends rfl hrefused,
      acquire_of_waiting hthere hfree hturn]
    unfold leave proceed
    dsimp only
    rw [List.set_set, hfree]

theorem arrive_of_length_le {count : Nat} (h : shared.replies.length ≤ count) :
    shared.arrive count =
      { shared with client := shared.client.receive shared.replies false, replies := [] } := by
  unfold arrive
  rw [List.take_of_length_le h, List.drop_of_length_le h]

/-- A call that has the stream, while nothing is under way, sends its request. -/
theorem send_acquire (hfree : shared.holder = none) (hthere : shared.calls[index]? = some caller)
    (hturn : caller.turn = .waiting) (hgone : shared.client.peerGone = false) {frame : Bytes}
    (hframe : Frame.encode caller.payload = .ok frame) :
    (shared.acquire index).send index = { shared.proceed index caller .listening with
      holder := some index
      sent := shared.sent ++ [index]
      requests := shared.requests ++ frame } := by
  have hlength : index < shared.calls.length := (List.getElem?_eq_some_iff.mp hthere).1
  have hsends : (shared.acquire index).calls[index]? = some { caller with turn := .sending } := by
    rw [acquire_of_waiting hthere hfree hturn]
    exact List.getElem?_set_self hlength
  have hclient : (shared.acquire index).client = shared.client := by
    rw [acquire_of_waiting hthere hfree hturn]
    rfl
  have hrequest : (shared.acquire index).client.request caller.number caller.method caller.params =
      .ok frame := by
    rw [hclient]
    exact Client.request_of_going hgone hframe
  rw [send_of_frame hsends rfl hrequest, acquire_of_waiting hthere hfree hturn]
  unfold proceed
  dsimp only
  rw [List.set_set]

/-- The answer to a request that is under way is taken by the call that waits for it. -/
theorem run_answered (hthere : shared.calls[index]? = some caller)
    (hturn : caller.turn = .listening) (hgone : shared.client.peerGone = false)
    (harrived : shared.client.arrived = []) (hreplies : shared.replies = [])
    (hrequest : Frame.encode payload = .ok shared.requests)
    (hframe : Frame.encode answer = .ok bytes) {counts : List Nat}
    (hcounts : bytes.length ≤ counts.sum) :
    shared.run (Event.reply bytes :: (counts.map .arrive ++ [.listen index])) =
      { shared.proceed index caller (.ended (Client.outcome answer)) with
        holder := none
        requests := []
        served := shared.served ++ [(payload, bytes)] } := by
  have hanswered : shared.reply bytes = { shared with
      requests := [], served := shared.served ++ [(payload, bytes)], replies := bytes } := by
    rw [reply_of_frame hgone hrequest, hreplies]
    rfl
  have hthrough : (shared.reply bytes).arrive counts.sum = { shared with
      client := shared.client.receive bytes false
      requests := [], served := shared.served ++ [(payload, bytes)], replies := [] } := by
    rw [hanswered]
    exact arrive_of_length_le hcounts
  have htaken : ((shared.reply bytes).arrive counts.sum).client.takeAnswer =
      some (Client.outcome answer, shared.client) := by
    rw [hthrough]
    exact Client.takeAnswer_receive hgone harrived hframe
  have hlistens : ((shared.reply bytes).arrive counts.sum).calls[index]? = some caller := by
    rw [hthrough]
    exact hthere
  rw [run_cons, run_append, run_arrive]
  simp only [run_cons, run_nil, step]
  rw [listen_of_answer hlistens hturn htaken, hthrough]
  unfold leave proceed
  dsimp only
  rw [← hreplies]

/-- A call from end to end changes nothing but its own entry and the records. -/
theorem run_exchange (hquiet : shared.traffic.Quiet) (hfree : shared.holder = none)
    (hthere : shared.calls[index]? = some caller) (hturn : caller.turn = .waiting)
    (hgone : shared.client.peerGone = false) (hfits : caller.payload.length ≤ Frame.maxPayload)
    (hframe : Frame.encode answer = .ok bytes) {counts : List Nat}
    (hcounts : bytes.length ≤ counts.sum) :
    shared.run (exchange index bytes counts) =
      { shared.proceed index caller (.ended (Client.outcome answer)) with
        sent := shared.sent ++ [index]
        served := shared.served ++ [(caller.payload, bytes)] } := by
  have hlength : index < shared.calls.length := (List.getElem?_eq_some_iff.mp hthere).1
  have hrequests : shared.requests = [] := hquiet.requests hgone
  have hrequest := Frame.encode_eq_ok_iff.mpr ⟨hfits, rfl⟩
  have hsent := send_acquire hfree hthere hturn hgone hrequest
  rw [hrequests, List.nil_append] at hsent
  have hlistens : ((shared.acquire index).send index).calls[index]? =
      some { caller with turn := .listening } := by
    rw [hsent]
    exact List.getElem?_set_self hlength
  rw [exchange, run_append, run_acquire_send]
  rw [hsent] at hlistens ⊢
  rw [run_answered hlistens rfl hgone hquiet.arrived (hquiet.replies hgone) hrequest hframe hcounts]
  unfold proceed
  dsimp only
  rw [List.set_set, hfree, hrequests]

/-! ## The stream does not stay taken -/

/-- A call is over and has left the stream. -/
structure Through (shared : SharedClient) (index : Nat) (caller : SharedCall) : Prop where
  free : shared.holder = none
  ended : ∃ outcome, shared.calls[index]? = some { caller with turn := .ended outcome }

theorem Through.of_conveys (h : shared.Through index caller) (hconveys : Conveys shared next) :
    next.Through index caller := by
  refine ⟨hconveys.holder.trans h.free, ?_⟩
  rw [hconveys.calls]
  exact h.ended

theorem Through.listen (h : shared.Through index caller) :
    (shared.listen index).Through index caller := by
  obtain ⟨outcome, hended⟩ := h.ended
  have hsame : shared.listen index = shared := by
    unfold SharedClient.listen
    rw [hended]
  rw [hsame]
  exact h

theorem through_leave (hthere : shared.calls[index]? = some caller)
    (outcome : Except Fault Json) : (shared.leave index caller outcome).Through index caller :=
  ⟨rfl, outcome, List.getElem?_set_self (List.getElem?_eq_some_iff.mp hthere).1⟩

theorem requests_reply (h : shared.traffic.Awaits index payload)
    (hthere : shared.client.peerGone = false) (bytes : Bytes) :
    (shared.reply bytes).requests = [] := by
  cases h with
  | asked before hsent hserved harrived hrequests hreplies =>
    rw [reply_of_frame hthere (hrequests hthere)]
  | answered before earlier answer frame rest hsent hserved hlength hframe harrived hrequests
      hreplies =>
    rw [reply_of_nothing hrequests]
    exact hrequests hthere

theorem peerGone_reply (shared : SharedClient) (bytes : Bytes) :
    (shared.reply bytes).client.peerGone = shared.client.peerGone := by
  unfold reply
  repeat' split
  all_goals rfl

theorem peerGone_arrive (shared : SharedClient) (count : Nat) :
    (shared.arrive count).client.peerGone = shared.client.peerGone := by
  show (shared.client.receive _ false).peerGone = _
  unfold Client.receive
  split
  · rfl
  · rename_i hthere
    exact (Bool.eq_false_iff.mpr hthere).symm

/-- Whoever waits for an answer is through when the peer has replied and everything has arrived. -/
theorem InStep.through_of_listening (h : shared.InStep)
    (hthere : shared.calls[index]? = some caller) (hturn : caller.turn = .listening)
    (hframe : Frame.encode answer = .ok bytes) :
    ∃ count, (shared.run [.reply bytes, .arrive count, .listen index]).Through index caller := by
  have hawaits : shared.traffic.Awaits index caller.payload := (h.fits_turn hthere hturn).2
  have hreply : Conveys shared (shared.reply bytes) := conveys_reply hframe
  refine ⟨(shared.reply bytes).replies.length, ?_⟩
  have harrive := conveys_arrive (shared.reply bytes) (shared.reply bytes).replies.length
  simp only [run_cons, run_nil, SharedClient.step]
  have hlistens : ((shared.reply bytes).arrive (shared.reply bytes).replies.length).calls[index]? =
      some caller := by
    rw [harrive.calls, hreply.calls]
    exact hthere
  rcases takeAnswer_cases (harrive.awaits (hreply.awaits hawaits)) with
    ⟨_, hgone, hunder⟩ | ⟨outcome, hanswer, -⟩
  · rw [peerGone_arrive, peerGone_reply] at hgone
    exact absurd ⟨requests_reply hawaits hgone bytes, List.drop_length⟩ hunder
  · rw [listen_of_answer hlistens hturn hanswer]
    exact ⟨rfl, outcome, List.getElem?_set_self (List.getElem?_eq_some_iff.mp hlistens).1⟩

/-- Whoever has the stream leaves it once it has sent its request, the peer has replied, and
everything has arrived. -/
theorem InStep.through_of_holder (h : shared.InStep) (hholder : shared.holder = some index)
    (hframe : Frame.encode answer = .ok bytes) :
    ∃ caller count, shared.calls[index]? = some caller ∧ (shared.run
      [.send index, .reply bytes, .arrive count, .listen index]).Through index caller := by
  obtain ⟨caller, hthere⟩ := h.held hholder
  cases hturn : caller.turn with
  | waiting => exact absurd hholder (h.fits_turn hthere hturn).1
  | sending =>
    rcases shared.client.request_cases caller.number caller.method caller.params with
      ⟨frame, hrequest, -⟩ | ⟨cause, hrefused, -⟩
    · have hsend := advances_send h index
      have hlistens : (shared.send index).calls[index]? =
          some { caller with turn := .listening } := by
        rw [send_of_frame hthere hturn hrequest]
        exact List.getElem?_set_self (List.getElem?_eq_some_iff.mp hthere).1
      obtain ⟨count, hthrough⟩ :=
        (h.of_goes hsend).1.through_of_listening hlistens rfl hframe
      exact ⟨caller, count, hthere, hthrough.free, hthrough.ended⟩
    · have hleft : (shared.send index).Through index caller := by
        rw [send_of_refused hthere hturn hrefused]
        exact through_leave hthere _
      have hreply := hleft.of_conveys (conveys_reply hframe)
      exact ⟨caller, 0, hthere, (hreply.of_conveys (conveys_arrive _ 0)).listen⟩
  | listening =>
    have hsame : shared.send index = shared := by
      unfold send
      rw [hthere]
      dsimp only
      rw [hturn]
    obtain ⟨count, hthrough⟩ := h.through_of_listening hthere hturn hframe
    refine ⟨caller, count, hthere, ?_⟩
    rw [run_cons, SharedClient.step, hsame]
    exact hthrough
  | ended outcome => exact absurd hholder (h.fits_turn hthere hturn).1

/-- For as long as the peer replies with frames (`Event.Answers`), whatever the order in which calls
take the stream of a `SharedClient`: no call sends twice, and a call that is over has been told what
the peer replied to its own request, or, where that is too long or the peer has gone, that the
connection does not serve. When nobody has the stream, a call that cannot send its request ends and
changes nothing else, and any other call goes through from end to end with its own answer, which is
an `exchange`. Whoever has the stream leaves it. And once the peer has gone, no call that had not
sent its request by then gets an answer. -/
theorem calls_get_their_own_answers (address : String) (events : List Event)
    (hanswers : ∀ event ∈ events, event.Answers) :
    let shared := (connected address).run events
    (shared.sent.Nodup ∧
      ∀ (index : Nat) (caller : SharedCall) (outcome : Except Fault Json),
        shared.calls[index]? = some caller → caller.turn = .ended outcome →
        (∃ cause, outcome = .error (.transport address cause) ∧
          (Frame.maxPayload < caller.payload.length ∨ shared.client.peerGone = true)) ∨
        ∃ (place : Nat) (answer frame : Bytes), shared.sent[place]? = some index ∧
          shared.served[place]? = some (caller.payload, frame) ∧
          Frame.encode answer = .ok frame ∧ outcome = Client.outcome answer ∧
          ∀ cause, outcome ≠ .error (.transport address cause)) ∧
    (shared.holder = none → ∀ (index : Nat) (caller : SharedCall),
      shared.calls[index]? = some caller → caller.turn = .waiting →
        (Frame.maxPayload < caller.payload.length ∨ shared.client.peerGone = true →
          ∃ cause, shared.run [.acquire index, .send index] =
            shared.proceed index caller (.ended (.error (.transport address cause)))) ∧
        (caller.payload.length ≤ Frame.maxPayload → shared.client.peerGone = false →
          ∀ (answer bytes : Bytes) (counts : List Nat), Frame.encode answer = .ok bytes →
            bytes.length ≤ counts.sum →
            shared.run (exchange index bytes counts) =
              { shared.proceed index caller (.ended (Client.outcome answer)) with
                sent := shared.sent ++ [index]
                served := shared.served ++ [(caller.payload, bytes)] })) ∧
    (∀ index, shared.holder = some index →
      ∀ answer bytes, Frame.encode answer = .ok bytes →
        ∃ caller count, shared.calls[index]? = some caller ∧ (shared.run
          [.send index, .reply bytes, .arrive count, .listen index]).Through index caller) ∧
    (shared.client.peerGone = true → ∀ later, (∀ event ∈ later, event.Answers) →
      ∀ (index : Nat) (caller : SharedCall) (outcome : Except Fault Json), index ∉ shared.sent →
        (shared.run later).calls[index]? = some caller → caller.turn = .ended outcome →
          ∃ cause, outcome = .error (.transport address cause)) := by
  obtain ⟨hinstep, hgrows⟩ := (inStep_connected address).run hanswers
  have haddress : ((connected address).run events).client.address = address := hgrows.address
  have htransport {place : String} (hplace : place = address) (cause : String) :
      (.error (.transport place cause) : Except Fault Json) =
        .error (.transport address cause) := by
    rw [hplace]
  intro shared
  refine ⟨⟨hinstep.distinct, fun index caller outcome hthere hended => ?_⟩, ?_, ?_, ?_⟩
  · cases (hinstep.fits_turn hthere hended).2 with
    | lost cause hcause => exact .inl ⟨cause, htransport haddress cause, hcause⟩
    | @answer place answer frame hsent hserved hframe =>
      exact .inr ⟨place, answer, frame, hsent, hserved, hframe, rfl,
        fun cause => Client.outcome_ne_transport answer address cause⟩
  · intro hfree index caller hthere hturn
    refine ⟨fun hcause => ?_, fun hfits hgone answer bytes counts hframe hcounts => ?_⟩
    · rw [← haddress]
      exact run_refused hfree hthere hturn hcause
    · exact run_exchange (hinstep.free hfree) hfree hthere hturn hgone hfits hframe hcounts
  · intro index hholder answer bytes hframe
    exact hinstep.through_of_holder hholder hframe
  · intro hgone later hlater index caller outcome hnever hthere hended
    obtain ⟨hafter, hgrown⟩ := hinstep.run hlater
    have hsame : (shared.run later).traffic.sent = shared.sent := (hgrown.gone hgone).2
    cases (hafter.fits_turn hthere hended).2 with
    | lost cause _ =>
      have hlast : (shared.run later).client.address = address := hgrown.address.trans haddress
      exact ⟨cause, htransport hlast cause⟩
    | answer hsent _ _ =>
      -- Nothing was sent after the peer had gone.
      rw [hsame] at hsent
      exact absurd (List.mem_of_getElem? hsent) hnever

/-- The frame of a result for the call of the given number. -/
def replyTo (number : Nat) (result : Json) : Bytes :=
  Frame.frames [Text.Utf8.encode (Response.success (some (.nat number)) result).text]

/-- Two calls, of which the later one takes the stream first; its answer arrives in two pieces. -/
def crossedCalls : List Event :=
  [.call "first" .null, .call "second" .null, .acquire 1, .acquire 0, .send 1,
    .reply (replyTo 2 (.bool true)), .arrive 3, .listen 1, .arrive 100, .listen 1,
    .acquire 0, .send 0, .reply (replyTo 1 (.bool false)), .arrive 100, .listen 0]

/-- Whether a call has come back with a result of the given text. -/
def returns (text : String) (caller : SharedCall) : Bool :=
  match caller.turn with
  | .ended (.ok result) => result.render == text
  | _ => false

theorem later_call_gets_its_own_answer :
    (∀ event ∈ crossedCalls, event.Answers) ∧
    ∃ (caller : SharedCall) (result : Json) (answer frame : Bytes),
      ((connected "/s/a").run crossedCalls).calls[1]? = some caller ∧
      caller.turn = .ended (.ok result) ∧ result.render = "true" ∧
      ((connected "/s/a").run crossedCalls).served[0]? = some (caller.payload, frame) ∧
      Frame.encode answer = .ok frame ∧ Client.outcome answer = .ok result := by
  have hframe (number : Nat) (result : Json)
      (hfits : (Text.Utf8.encode (Response.success (some (.nat number)) result).text).length ≤
        Frame.maxPayload) : (Event.reply (replyTo number result)).Answers :=
    ⟨_, Frame.encode_eq_ok_iff.mpr ⟨hfits, List.append_nil _⟩⟩
  have hanswers : ∀ event ∈ crossedCalls, event.Answers := by
    have hsecond := hframe 2 (.bool true) (by decide +kernel)
    have hfirst := hframe 1 (.bool false) (by decide +kernel)
    simp only [crossedCalls, List.forall_mem_cons, Event.Answers] at hfirst hsecond ⊢
    simp [hfirst, hsecond]
  have hsent : ((connected "/s/a").run crossedCalls).sent = [1, 0] := by decide +kernel
  have hback : ((connected "/s/a").run crossedCalls).calls[1]?.any (returns "true") = true := by
    decide +kernel
  obtain ⟨⟨-, htold⟩, -⟩ := calls_get_their_own_answers "/s/a" crossedCalls hanswers
  refine ⟨hanswers, ?_⟩
  cases hthere : ((connected "/s/a").run crossedCalls).calls[1]? with
  | none =>
    rw [hthere] at hback
    cases hback
  | some caller =>
    rw [hthere, Option.any_some, returns] at hback
    split at hback
    · rename_i result hended
      rcases htold 1 caller (.ok result) hthere hended with
        ⟨_, hlost, -⟩ | ⟨place, answer, frame, hplace, hserved, hframe, houtcome, -⟩
      · cases hlost
      · -- The second call was the first to send.
        rw [hsent] at hplace
        obtain rfl : place = 0 := by
          rcases place with _ | _ | place
          · rfl
          · cases hplace
          · cases hplace
        exact ⟨caller, result, answer, frame, rfl, hended, beq_iff_eq.mp hback, hserved, hframe,
          houtcome.symm⟩
    · cases hback

end StorageGateway.Rpc.SharedClient
