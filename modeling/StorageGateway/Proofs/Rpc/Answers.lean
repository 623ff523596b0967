import StorageGateway.Proofs.Rpc.Streams
import StorageGateway.Rpc.Answer

/-!
# Answers

Every payload has an answer that holds a result or an error and the name of the request. Where the
service gives the same outcome for the same call every time, the answer depends on the payload
alone; and the answers to a stream are those to its payloads, one behind the other.
-/

namespace StorageGateway.Rpc

/-! ## Answers to payloads -/

/-- The name under which the answer to a payload is expected. -/
def idOf (payload : Bytes) : Option Json :=
  match Request.reader.ofBytes payload with
  | .ok request => request.id
  | .error _ => none

/-- What an answer to a payload holds: a result or an error, never both, and the name of the
request, or `null` when the payload is no request. -/
structure Replies (payload : Bytes) (answer : Json) : Prop where
  one : (answer.member? "result").isSome = !(answer.member? "error").isSome
  named : ∀ request, Request.reader.ofBytes payload = .ok request →
    answer.member? "id" = some (.orNull request.id)
  nameless : ∀ refusal, Request.reader.ofBytes payload = .error refusal →
    answer.member? "id" = some .null

theorem replies_of_members {payload : Bytes} {response : Response}
    (hone : response.result.isSome = !response.error.isSome) (hid : response.id = idOf payload) :
    Replies payload response.toJson := by
  obtain ⟨jsonrpc, result, error, id⟩ := response
  have hmember : (Response.toJson ⟨jsonrpc, result, error, id⟩).member? "id" =
      some (.orNull (idOf payload)) := by
    rw [← hid]
    cases result <;> cases error <;> rfl
  refine ⟨?_, fun request hread => ?_, fun refusal hread => ?_⟩
  · cases result with
    | none =>
      cases error with
      | none => cases hone
      | some error => rfl
    | some result =>
      cases error with
      | none => rfl
      | some error => cases hone
  · rw [hmember, idOf, hread]
  · rw [hmember, idOf, hread]
    rfl

namespace Endpoint

variable {σ : Type} {endpoint : Endpoint σ}

theorem replies_respond (endpoint : Endpoint σ) (request : Request) (world : σ) :
    (endpoint.respond request world).1.result.isSome =
        !(endpoint.respond request world).1.error.isSome ∧
      (endpoint.respond request world).1.id = request.id := by
  unfold respond
  split
  · exact ⟨rfl, rfl⟩
  · split <;> exact ⟨rfl, rfl⟩

theorem replies_answer (endpoint : Endpoint σ) (payload : Bytes) (world : σ) :
    Replies payload (endpoint.answer payload world).1.toJson := by
  unfold answer
  cases hread : Request.reader.ofBytes payload with
  | error refusal =>
    refine replies_of_members rfl ?_
    rw [idOf, hread]
    rfl
  | ok request =>
    have hid : request.id = idOf payload := by
      rw [idOf, hread]
    dsimp only
    split
    · exact replies_of_members rfl hid
    · obtain ⟨hone, hsame⟩ := endpoint.replies_respond request world
      exact replies_of_members hone (hsame.trans hid)

/-- The service gives the same outcome for the same call, whatever has happened before. -/
def Steady (endpoint : Endpoint σ) : Prop :=
  ∀ service ∈ endpoint.service, ∀ method params world other,
    ((service method params).perform world).1 = ((service method params).perform other).1

theorem Steady.serve_eq (h : endpoint.Steady) (request : Request) (world other : σ) :
    ((endpoint.serve request).perform world).1 = ((endpoint.serve request).perform other).1 := by
  unfold serve
  cases hservice : endpoint.service with
  | none => rfl
  | some service => exact h service hservice request.method (parameters request) world other

theorem Steady.respond_eq (h : endpoint.Steady) (request : Request) (world other : σ) :
    (endpoint.respond request world).1 = (endpoint.respond request other).1 := by
  have hserve := h.serve_eq request world other
  unfold respond
  by_cases hhealth : request.method = healthMethod
  · rw [if_pos hhealth, if_pos hhealth]
  · rw [if_neg hhealth, if_neg hhealth]
    cases hone : (endpoint.serve request).perform world with
    | mk outcome after =>
      cases hother : (endpoint.serve request).perform other with
      | mk outcome' after' =>
        rw [hone, hother] at hserve
        obtain rfl : outcome = outcome' := hserve
        cases outcome <;> rfl

/-- The answer to a payload depends on that payload alone. -/
theorem Steady.answer_eq (h : endpoint.Steady) (payload : Bytes) (world other : σ) :
    (endpoint.answer payload world).1 = (endpoint.answer payload other).1 := by
  unfold answer
  cases Request.reader.ofBytes payload with
  | error refusal => rfl
  | ok request =>
    dsimp only
    split
    · rfl
    · exact h.respond_eq request world other

end Endpoint

/-! ## Answers to streams -/

namespace Frame

variable {stream payload rest : Bytes}

theorem write_of_encode {frame : Bytes} (h : encode payload = .ok frame) (written : Bytes) :
    write payload written = (.ok (), written ++ frame) := by
  obtain ⟨hfits, rfl⟩ := encode_eq_ok_iff.mp h
  exact write_of_le hfits written

/-- What has been written stays. -/
theorem writeAll_behind (payloads : List Bytes) (written : Bytes) :
    (writeAll payloads written).2 = written ++ (writeAll payloads []).2 := by
  induction payloads generalizing written with
  | nil => exact (List.append_nil written).symm
  | cons payload payloads ih =>
    unfold writeAll
    by_cases hfits : payload.length ≤ maxPayload
    · rw [write_of_le hfits, write_of_le hfits]
      dsimp only
      rw [ih, ih ([] ++ _), List.nil_append, List.append_assoc]
    · rw [write_of_lt (by omega), write_of_lt (by omega)]
      exact (List.append_nil written).symm

theorem readAll_of_frame (h : front stream = .frame payload rest) :
    (readAll stream).1 = payload :: (readAll rest).1 := by
  have hread : read stream = .frame payload rest := by
    unfold read
    rw [h]
  rw [(Reads.frame hread (reads_readAll rest)).readAll_eq]

theorem readAll_of_no_frame (h : ∀ payload rest, front stream ≠ .frame payload rest) :
    (readAll stream).1 = [] := by
  cases hread : read stream with
  | finished => rw [(Reads.finished hread).readAll_eq]
  | failed fault => rw [(Reads.failed hread).readAll_eq]
  | frame payload rest =>
    exact absurd (front_eq_frame_iff.mpr (read_eq_frame_iff.mp hread)) (h payload rest)

end Frame

open StorageGateway.Rpc.Frame (front writeAll readAll)

/-- The answers to the payloads of a stream, framed one behind the other, up to one that is too
long. -/
def output (reply : Bytes → Response) (stream : Bytes) : Bytes :=
  (writeAll ((readAll stream).1.map fun payload => Text.Utf8.encode (reply payload).text) []).2

/-- The frame of the answer to a payload and what follows it; nothing when the answer is too
long. -/
def answered (reply : Bytes → Response) (payload behind : Bytes) : Bytes :=
  match Frame.encode (Text.Utf8.encode (reply payload).text) with
  | .ok frame => frame ++ behind
  | .error _ => []

variable {reply : Bytes → Response}

theorem output_of_frame {stream payload rest : Bytes} (h : front stream = .frame payload rest) :
    output reply stream = answered reply payload (output reply rest) := by
  unfold output answered
  rw [Frame.readAll_of_frame h, List.map_cons, writeAll]
  dsimp only
  cases hframe : Frame.encode (Text.Utf8.encode (reply payload).text) with
  | error fault => rw [Frame.write_of_lt (Frame.lt_of_encode hframe)]
  | ok frame =>
    rw [Frame.write_of_encode hframe]
    exact Frame.writeAll_behind _ frame

theorem output_of_no_frame {stream : Bytes}
    (h : ∀ payload rest, front stream ≠ .frame payload rest) : output reply stream = [] := by
  unfold output
  rw [Frame.readAll_of_no_frame h]
  rfl

/-- The complete frames at the beginning of a stream are answered in their order, and all of them up
to an answer that is too long. -/
theorem exists_output (reply : Bytes → Response) (stream : Bytes) :
    ∃ payloads rest, stream = Frame.frames payloads ++ rest ∧
      output reply stream =
        Frame.frames (payloads.map fun payload => Text.Utf8.encode (reply payload).text) ∧
      ((∃ ending, Frame.Leftover rest ending) ∨
        ∃ payload behind, front rest = .frame payload behind ∧
          Frame.maxPayload < (Text.Utf8.encode (reply payload).text).length) := by
  have hnothing {stream : Bytes} {ending : Frame.Ending} (h : Frame.Reads stream [] ending) :
      output reply stream = [] := by
    unfold output
    rw [h.readAll_eq]
    rfl
  obtain ⟨all, last, hall⟩ : ∃ all last, Frame.Reads stream all last :=
    ⟨_, _, Frame.reads_readAll stream⟩
  induction hall with
  | @finished stream hread =>
    have hreads := Frame.Reads.finished hread
    exact ⟨[], stream, rfl, hnothing hreads, .inl ⟨_, Frame.reads_nil_iff.mp hreads⟩⟩
  | @failed stream fault hread =>
    have hreads := Frame.Reads.failed hread
    exact ⟨[], stream, rfl, hnothing hreads, .inl ⟨_, Frame.reads_nil_iff.mp hreads⟩⟩
  | @frame stream payload rest others ending hread hrest ih =>
    have hfront := Frame.front_eq_frame_iff.mpr (Frame.read_eq_frame_iff.mp hread)
    have houtput : output reply stream = answered reply payload (output reply rest) :=
      output_of_frame hfront
    cases hframe : Frame.encode (Text.Utf8.encode (reply payload).text) with
    | error fault =>
      rw [answered, hframe] at houtput
      exact ⟨[], stream, rfl, houtput, .inr ⟨payload, rest, hfront, Frame.lt_of_encode hframe⟩⟩
    | ok frame =>
      obtain ⟨-, hstream⟩ := Frame.read_eq_frame_iff.mp hread
      obtain ⟨-, rfl⟩ := Frame.encode_eq_ok_iff.mp hframe
      obtain ⟨payloads, left, hsplit, hanswers, hstops⟩ := ih
      refine ⟨payload :: payloads, left, ?_, ?_, hstops⟩
      · rw [Frame.frames_cons, List.append_assoc, ← hsplit]
        exact hstream
      · rw [houtput, answered, hframe, List.map_cons, Frame.frames_cons, hanswers]

end StorageGateway.Rpc
