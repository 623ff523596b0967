import Mathlib.Data.List.Perm.Subperm
import StorageGateway.Proofs.Rpc.Traffic

/-!
# Calls that are given up

A task may give up its call between sending the request and reading the answer. The next call then
takes what arrives first for its own answer: a client numbers its calls, but looks at no number in
an answer. Calls and answers are matched by their order alone, so that every call that is given up
puts all later ones one more answer behind. Numbers tell calls apart for as long as there are no more
calls than numbers.
-/

namespace StorageGateway.Rpc

/-! ## Where answers come from -/

/-- What a response says in answer to a call. -/
def Response.outcome (response : Response) : Except Fault Json :=
  match response.error, response.result with
  | some error, _ => .error error.fault
  | none, some result => .ok result
  | none, none => .error (.other "IPC response missing result")

namespace Client

variable {client next : Client} {outcome : Except Fault Json} {gone : Bool} {tail : Bytes}

theorem outcome_of_ofBytes {payload : Bytes} {response : Response}
    (h : Response.reader.ofBytes payload = .ok response) :
    Client.outcome payload = response.outcome := by
  unfold Client.outcome
  rw [h]
  rfl

/-- No payload can ever be taken off the front of what is left of a stream. -/
def Stuck (gone : Bool) (tail : Bytes) : Prop :=
  (∃ length, Frame.front tail = .oversized length) ∨
    gone = true ∧ ∀ payload rest, Frame.front tail ≠ .frame payload rest

theorem Stuck.ne_frame (h : Stuck gone tail) (payload rest : Bytes) :
    Frame.front tail ≠ .frame payload rest := by
  rcases h with ⟨length, hlong⟩ | ⟨-, hnone⟩
  · rw [hlong]
    exact Frame.Front.noConfusion
  · exact hnone payload rest

/-- A client takes the payload at the front for its answer, or tells that the connection is lost. -/
theorem takeAnswer_eq_some (h : client.takeAnswer = some (outcome, next)) :
    next = { client with arrived := next.arrived } ∧
    ((∃ payload, Frame.front client.arrived = .frame payload next.arrived ∧
        outcome = Client.outcome payload) ∨
      (∃ cause, outcome = .error (.transport client.address cause)) ∧
        Stuck client.peerGone client.arrived) := by
  unfold takeAnswer at h
  split at h
  · rename_i payload rest hfront
    cases h
    exact ⟨rfl, .inl ⟨payload, hfront, rfl⟩⟩
  · rename_i length hfront
    cases h
    exact ⟨rfl, .inr ⟨⟨_, rfl⟩, .inl ⟨length, hfront⟩⟩⟩
  all_goals
    rename_i hfront
    split at h
    · rename_i hgone
      cases h
      refine ⟨rfl, .inr ⟨⟨_, rfl⟩, .inr ⟨hgone, fun payload rest hframe => ?_⟩⟩⟩
      rw [hfront] at hframe
      cases hframe
    · cases h

end Client

/-! ## Calls over one stream -/

/-- What a call has been told by way of an answer. -/
structure Line.Answer where
  /-- The number of the call. -/
  number : Nat
  /-- How many calls had been given up by then. -/
  abandoned : Nat
  /-- What the call was told. -/
  outcome : Except Fault Json

/-- A client over which calls are made and may be given up, with all that has come of them. As over
a shared client, a call has the stream to itself from its request to its answer; but the peer may
send whatever it likes, whenever it likes. -/
structure Line where
  /-- The client. -/
  client : Client
  /-- The numbers of the calls that have not sent their requests. -/
  waiting : List Nat := []
  /-- The numbers of the calls whose requests were sent, in that order. -/
  sent : List Nat := []
  /-- The call that waits for its answer. -/
  listening : Option Nat := none
  /-- How many calls have been given up while they waited for their answers. -/
  abandoned : Nat := 0
  /-- What calls have been told, in that order. -/
  told : List Line.Answer := []
  /-- All bytes that have arrived. -/
  delivered : Bytes := []

namespace Line

/-- A task makes a call. -/
def call (line : Line) : Line :=
  let (number, client) := line.client.number
  { line with client, waiting := line.waiting ++ [number] }

/-- A call takes the stream and sends its request. One that cannot be sent is over. -/
def send (line : Line) (number : Nat) (method : String) (params : Json) : Line :=
  match line.listening, line.waiting.contains number with
  | none, true =>
    let waiting := line.waiting.erase number
    match line.client.request number method params with
    | .error _ => { line with waiting }
    | .ok _ => { line with waiting, sent := line.sent ++ [number], listening := some number }
  | _, _ => line

/-- Bytes arrive from the peer, which may hang up behind them. -/
def receive (line : Line) (bytes : Bytes) (hangsUp : Bool) : Line :=
  { line with
    client := line.client.receive bytes hangsUp
    delivered := if line.client.peerGone then line.delivered else line.delivered ++ bytes }

/-- The call that waits for its answer takes it, or notices that there will be none. -/
def take (line : Line) : Line :=
  match line.listening, line.client.takeAnswer with
  | some number, some (outcome, client) =>
    { line with
      client
      listening := none
      told := line.told ++ [⟨number, line.abandoned, outcome⟩] }
  | _, _ => line

/-- The call that waits for its answer is given up before it has read any of it. -/
def giveUp (line : Line) : Line :=
  match line.listening with
  | some _ => { line with listening := none, abandoned := line.abandoned + 1 }
  | none => line

/-- Something that happens to a line. -/
inductive Event where
  /-- A task makes a call. -/
  | call
  /-- A call sends its request. -/
  | send (number : Nat) (method : String) (params : Json)
  /-- Bytes arrive. -/
  | receive (bytes : Bytes) (hangsUp : Bool)
  /-- A call takes its answer. -/
  | take
  /-- A call is given up. -/
  | giveUp

/-- What an event does. -/
def step (line : Line) : Event → Line
  | .call => line.call
  | .send number method params => line.send number method params
  | .receive bytes hangsUp => line.receive bytes hangsUp
  | .take => line.take
  | .giveUp => line.giveUp

/-- What events do one after the other. -/
def run (line : Line) (events : List Event) : Line := events.foldl step line

variable {line : Line}

/-! ## Calls come in order -/

/-- Every call whose request was sent has been told something, has been given up, or waits for its
answer, in that order. -/
structure InOrder (line : Line) : Prop where
  count : line.sent.length = line.told.length + line.abandoned + line.listening.toList.length
  last : ∀ number, line.listening = some number →
    line.sent[line.told.length + line.abandoned]? = some number
  place : ∀ (k : Nat) (answer : Answer), line.told[k]? = some answer →
    line.sent[k + answer.abandoned]? = some answer.number

/-- A call that sends its request is the last of those that have. -/
theorem InOrder.send (h : line.InOrder) (number : Nat) (method : String) (params : Json) :
    (line.send number method params).InOrder := by
  unfold Line.send
  split
  · rename_i hfree hwaits
    dsimp only
    split
    · exact ⟨h.count, h.last, h.place⟩
    · have hcount : line.sent.length = line.told.length + line.abandoned := by
        rw [h.count, hfree]
        rfl
      refine ⟨?_, fun other hother => ?_, fun k answer htold => ?_⟩
      · show (line.sent ++ [number]).length = line.told.length + line.abandoned + 1
        rw [List.length_append, hcount]
        rfl
      · cases hother
        show (line.sent ++ [number])[line.told.length + line.abandoned]? = some number
        rw [← hcount]
        exact List.getElem?_concat_length
      · have hplace := h.place k answer htold
        have hlt := (List.getElem?_eq_some_iff.mp hplace).1
        exact (List.getElem?_append_left hlt).trans hplace
  · exact h

/-- The call that is told something has sent its request after all that were told anything or given
up before. -/
theorem InOrder.take (h : line.InOrder) : line.take.InOrder := by
  unfold Line.take
  split
  · rename_i number outcome client hlistening htake
    have hcount := h.count
    rw [hlistening] at hcount
    refine ⟨?_, fun _ hnone => ?_, fun k answer htold => ?_⟩
    · show line.sent.length = (line.told ++ [_]).length + line.abandoned + 0
      rw [List.length_append, hcount, List.length_singleton]
      show line.told.length + line.abandoned + 1 = _
      omega
    · cases hnone
    · by_cases hlt : k < line.told.length
      · rw [List.getElem?_append_left hlt] at htold
        exact h.place k answer htold
      · obtain rfl : k = line.told.length := by
          have hle := (List.getElem?_eq_some_iff.mp htold).1
          rw [List.length_append, List.length_singleton] at hle
          omega
        rw [List.getElem?_concat_length] at htold
        cases htold
        exact h.last number hlistening
  · exact h

theorem InOrder.giveUp (h : line.InOrder) : line.giveUp.InOrder := by
  unfold Line.giveUp
  split
  · rename_i number hlistening
    have hcount := h.count
    rw [hlistening] at hcount
    refine ⟨?_, fun _ hnone => ?_, h.place⟩
    · show line.sent.length = line.told.length + (line.abandoned + 1) + 0
      rw [hcount]
      rfl
    · cases hnone
  · exact h

theorem InOrder.step (h : line.InOrder) (event : Event) : (line.step event).InOrder := by
  cases event with
  | call | receive => exact ⟨h.count, h.last, h.place⟩
  | send number method params => exact h.send number method params
  | take => exact h.take
  | giveUp => exact h.giveUp

/-! ## Calls have numbers of their own -/

/-- Whether an event makes a call. -/
def Event.isCall : Event → Bool
  | .call => true
  | _ => false

/-- After so many calls, their numbers are those from one on, in 64 bits, and no two of the calls
that wait or have sent their requests have the same one. -/
structure Numbered (line : Line) (made : Nat) : Prop where
  next : line.client.nextCall.toNat = (made + 1) % 2 ^ 64
  given : ∀ number ∈ line.waiting ++ line.sent, ∃ before < made, number = (before + 1) % 2 ^ 64
  distinct : (line.waiting ++ line.sent).Nodup

section
variable {made : Nat}

/-- Nobody has the number that comes next, as long as there have been fewer calls than there are
numbers. -/
theorem Numbered.call (h : line.Numbered made) (hmade : made < 2 ^ 64) :
    line.call.Numbered (made + 1) := by
  have hnext := h.next
  have hnew : line.client.nextCall.toNat ∉ line.waiting ++ line.sent := fun hin => by
    obtain ⟨before, hbefore, hsame⟩ := h.given _ hin
    omega
  have hperm : (line.waiting ++ [line.client.nextCall.toNat] ++ line.sent).Perm
      (line.client.nextCall.toNat :: (line.waiting ++ line.sent)) := by
    rw [List.append_assoc]
    exact List.perm_middle
  refine ⟨?_, fun number hin => ?_, hperm.nodup_iff.mpr (List.nodup_cons.mpr ⟨hnew, h.distinct⟩)⟩
  · show (line.client.nextCall + 1).toNat = _
    rw [UInt64.toNat_add, hnext]
    show ((made + 1) % 2 ^ 64 + 1) % 2 ^ 64 = _
    omega
  · rcases List.mem_cons.mp (hperm.mem_iff.mp hin) with rfl | hold
    · exact ⟨made, Nat.lt_succ_self _, hnext⟩
    · obtain ⟨before, hbefore, hsame⟩ := h.given number hold
      exact ⟨before, Nat.lt_succ_of_lt hbefore, hsame⟩

/-- What becomes of calls leaves their numbers as they are. -/
theorem Numbered.of_subperm {next : Line} (h : line.Numbered made)
    (hnext : next.client.nextCall = line.client.nextCall)
    (hcalls : (next.waiting ++ next.sent).Subperm (line.waiting ++ line.sent)) :
    next.Numbered made := by
  obtain ⟨kept, hperm, hsub⟩ := hcalls
  exact ⟨hnext ▸ h.next, fun number hin => h.given number (hsub.subset (hperm.mem_iff.mpr hin)),
    hperm.nodup_iff.mp (hsub.nodup h.distinct)⟩

theorem Numbered.send (h : line.Numbered made) (number : Nat) (method : String) (params : Json) :
    (line.send number method params).Numbered made := by
  unfold Line.send
  split
  · rename_i hfree hwaits
    dsimp only
    split
    · -- The call is over, and nobody has its number any more.
      exact h.of_subperm rfl ((List.erase_sublist ..).append_right _).subperm
    · have hin : number ∈ line.waiting := List.contains_iff_mem.mp hwaits
      have hmoved : (line.waiting.erase number ++ (line.sent ++ [number])).Perm
          (number :: (line.waiting.erase number ++ line.sent)) := by
        rw [← List.append_assoc]
        exact List.perm_append_singleton ..
      have hperm := hmoved.trans ((List.perm_cons_erase hin).symm.append_right line.sent)
      exact h.of_subperm rfl hperm.subperm
  · exact h

theorem Numbered.step (h : line.Numbered made) (event : Event)
    (hmade : made + event.isCall.toNat ≤ 2 ^ 64) :
    (line.step event).Numbered (made + event.isCall.toNat) := by
  cases event with
  | call => exact h.call hmade
  | send number method params => exact h.send number method params
  | receive bytes hangsUp =>
    refine h.of_subperm ?_ (List.Subperm.refl _)
    show (line.client.receive bytes hangsUp).nextCall = _
    unfold Client.receive
    split <;> rfl
  | take =>
    show line.take.Numbered made
    unfold Line.take
    split
    · rename_i number outcome client hlistening htake
      refine h.of_subperm ?_ (List.Subperm.refl _)
      show client.nextCall = _
      rw [(Client.takeAnswer_eq_some htake).1]
    · exact h
  | giveUp =>
    show line.giveUp.Numbered made
    unfold Line.giveUp
    split
    · exact h.of_subperm rfl (List.Subperm.refl _)
    · exact h

theorem Numbered.run (h : line.Numbered made) {events : List Event}
    (hmade : made + events.countP Event.isCall ≤ 2 ^ 64) :
    (line.run events).Numbered (made + events.countP Event.isCall) := by
  induction events generalizing line made with
  | nil => exact h
  | cons event events ih =>
    have hcount : (event :: events).countP Event.isCall =
        event.isCall.toNat + events.countP Event.isCall := by
      rw [List.countP_cons, Nat.add_comm]
      cases event.isCall <;> rfl
    rw [hcount, ← Nat.add_assoc] at hmade ⊢
    exact ih (h.step event (by omega)) hmade

end

/-! ## Answers are read in their order -/

/-- What calls have been told so far has been read off the stream, payload by payload, until nothing
more could be read. -/
inductive Follows (line : Line) : Prop where
  /-- Payloads have been read, and the next one is to follow. -/
  | reading {payloads : List Bytes}
    (hfits : ∀ payload ∈ payloads, payload.length ≤ Frame.maxPayload)
    (hdelivered : line.delivered = Frame.frames payloads ++ line.client.arrived)
    (htold : line.told.map Answer.outcome = payloads.map Client.outcome)
  /-- Payloads have been read, and behind them there will never be another. -/
  | stuck {payloads : List Bytes} {tail : Bytes}
    (hfits : ∀ payload ∈ payloads, payload.length ≤ Frame.maxPayload)
    (hdelivered : line.delivered = Frame.frames payloads ++ tail)
    (htail : Client.Stuck line.client.peerGone tail)
    (htold : payloads.map Client.outcome <+: line.told.map Answer.outcome)

theorem Follows.of_same {next : Line} (h : line.Follows)
    (hdelivered : next.delivered = line.delivered)
    (harrived : next.client.arrived = line.client.arrived)
    (hgone : next.client.peerGone = line.client.peerGone) (htold : next.told = line.told) :
    next.Follows := by
  cases h with
  | reading hfits hstream hanswers =>
    exact .reading hfits (by rw [hdelivered, harrived, hstream]) (by rw [htold, hanswers])
  | stuck hfits hstream htail hanswers =>
    exact .stuck hfits (hdelivered.trans hstream) (hgone ▸ htail) (htold ▸ hanswers)

theorem Follows.receive (h : line.Follows) (bytes : Bytes) (hangsUp : Bool) :
    (line.receive bytes hangsUp).Follows := by
  unfold Line.receive Client.receive
  cases hgone : line.client.peerGone with
  | true => exact h.of_same rfl rfl rfl rfl
  | false =>
    cases h with
    | reading hfits hstream hanswers =>
      refine .reading hfits ?_ hanswers
      show line.delivered ++ bytes = _
      rw [hstream, List.append_assoc]
      rfl
    | @stuck payloads tail hfits hstream htail hanswers =>
      -- The peer is still there, so it is a header that announces too much.
      rcases htail with ⟨length, hlong⟩ | ⟨hleft, -⟩
      · refine .stuck hfits ?_ (.inl ⟨length, Frame.front_append_of_oversized hlong bytes⟩) hanswers
        show line.delivered ++ bytes = _
        rw [hstream, List.append_assoc]
      · rw [hgone] at hleft
        cases hleft

theorem Follows.take (h : line.Follows) : line.take.Follows := by
  unfold Line.take
  split
  · rename_i number outcome client hlistening htake
    obtain ⟨hclient, hcases⟩ := Client.takeAnswer_eq_some htake
    have hgone : client.peerGone = line.client.peerGone := by rw [hclient]
    cases h with
    | @reading payloads hfits hstream hanswers =>
      rcases hcases with ⟨payload, hfront, rfl⟩ | ⟨-, hstuck⟩
      · obtain ⟨hpayload, harrived⟩ := Frame.front_eq_frame_iff.mp hfront
        refine @Follows.reading _ (payloads ++ [payload]) ?_ ?_ ?_
        · exact List.forall_mem_append.mpr ⟨hfits, List.forall_mem_singleton.mpr hpayload⟩
        · show line.delivered = Frame.frames (payloads ++ [payload]) ++ client.arrived
          rw [hstream, harrived, Frame.frames_append, Frame.frames_singleton,
            List.append_assoc (Frame.frames payloads)]
        · show (line.told ++ [_]).map Answer.outcome = _
          rw [List.map_append, List.map_append, hanswers]
          rfl
      · refine .stuck hfits hstream (hgone ▸ hstuck) ?_
        show _ <+: (line.told ++ [_]).map Answer.outcome
        rw [List.map_append, hanswers]
        exact List.prefix_append _ _
    | stuck hfits hstream htail hanswers =>
      refine .stuck hfits hstream (hgone ▸ htail) ?_
      show _ <+: (line.told ++ [_]).map Answer.outcome
      rw [List.map_append]
      exact hanswers.trans (List.prefix_append _ _)
  · exact h

theorem Follows.step (h : line.Follows) (event : Event) : (line.step event).Follows := by
  cases event with
  | call => exact h.of_same rfl rfl rfl rfl
  | send number method params =>
    show (line.send number method params).Follows
    unfold Line.send
    split
    · dsimp only
      split <;> exact h.of_same rfl rfl rfl rfl
    · exact h
  | receive bytes hangsUp => exact h.receive bytes hangsUp
  | take => exact h.take
  | giveUp =>
    show line.giveUp.Follows
    unfold Line.giveUp
    split
    · exact h.of_same rfl rfl rfl rfl
    · exact h

/-- What a call has been told is what the payload says that stands in its place on the stream. -/
theorem Follows.outcome_eq (h : line.Follows) {payloads : List Bytes} {rest : Bytes}
    (hfits : ∀ payload ∈ payloads, payload.length ≤ Frame.maxPayload)
    (hdelivered : line.delivered = Frame.frames payloads ++ rest) {k : Nat} {answer : Answer}
    {payload : Bytes} (htold : line.told[k]? = some answer)
    (hpayload : payloads[k]? = some payload) :
    answer.outcome = Client.outcome payload := by
  have hlt := (List.getElem?_eq_some_iff.mp hpayload).1
  have houtcome : (line.told.map Answer.outcome)[k]? = some answer.outcome := by
    rw [List.getElem?_map, htold]
    rfl
  have hread {read : List Bytes} (hk : k < read.length) (hsame : read[k]? = payloads[k]?)
      (hbegins : read.map Client.outcome <+: line.told.map Answer.outcome) :
      answer.outcome = Client.outcome payload := by
    have hmapped : (read.map Client.outcome)[k]? = some (Client.outcome payload) := by
      rw [List.getElem?_map, hsame, hpayload]
      rfl
    obtain ⟨more, hmore⟩ := hbegins
    have hin : k < (read.map Client.outcome).length := by
      rw [List.length_map]
      exact hk
    rw [← hmore, List.getElem?_append_left hin, hmapped] at houtcome
    exact (Option.some.inj houtcome).symm
  cases h with
  | @reading read hread' hstream hanswers =>
    have hk : k < read.length := by
      have hle := (List.getElem?_eq_some_iff.mp houtcome).1
      rw [hanswers, List.length_map] at hle
      exact hle
    have hagree := (Frame.frames_agree hread' hfits (hstream.symm.trans hdelivered)).1
    exact hread hk (hagree k hk hlt) (hanswers ▸ List.prefix_rfl)
  | @stuck read tail hread' hstream htail hanswers =>
    obtain ⟨hagree, hnext⟩ := Frame.frames_agree hread' hfits (hstream.symm.trans hdelivered)
    by_cases hk : k < read.length
    · exact hread hk (hagree k hk hlt) hanswers
    · obtain ⟨next, behind, hfront⟩ := hnext (by omega)
      exact absurd hfront (htail.ne_frame next behind)

/-! ## Runs -/

/-- A line over which nothing has happened. -/
def connected (address : String) : Line := { client := { address } }

theorem inOrder_run (address : String) (events : List Event) :
    ((connected address).run events).InOrder := by
  have hfresh : (connected address).InOrder := ⟨rfl, nofun, nofun⟩
  exact List.foldlRecOn events step hfresh fun _ h event _ => h.step event

/-- No two requests that are sent have the same number, as long as there are numbers for all
calls. -/
theorem nodup_sent_run (address : String) {events : List Event}
    (hcalls : events.countP Event.isCall ≤ 2 ^ 64) :
    ((connected address).run events).sent.Nodup := by
  have hfresh : (connected address).Numbered 0 := ⟨rfl, nofun, List.nodup_nil⟩
  have h : ((connected address).run events).Numbered (0 + events.countP Event.isCall) :=
    hfresh.run (by omega)
  exact (List.nodup_append.mp h.distinct).2.1

theorem follows_run (address : String) (events : List Event) :
    ((connected address).run events).Follows := by
  have hfresh : (connected address).Follows := @Follows.reading _ [] (List.forall_mem_nil _) rfl rfl
  exact List.foldlRecOn events step hfresh fun _ h event _ => h.step event

/-- The answer to the first call. -/
def firstAnswer : Bytes := Text.Utf8.encode (Response.success (some (.nat 1)) (.bool true)).text

/-- The first call is given up, and its answer arrives when the second call waits for its own. -/
def overtaking : List Event :=
  [.call, .call, .send 1 "first" .null, .giveUp, .send 2 "second" .null,
    .receive (Frame.frames [firstAnswer]) false, .take]

end Line

end StorageGateway.Rpc
