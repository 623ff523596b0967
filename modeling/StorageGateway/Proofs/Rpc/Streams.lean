import StorageGateway.Proofs.Rpc.Frames

/-!
# Whole streams

Reading takes one frame after the other off a stream, for as long as there is one. It always comes
to an end: what it has taken are the frames that the stream begins with, and what is left shows why
no further frame could be taken. Payloads that are written one after the other are read back in
their order, whatever follows them.
-/

namespace StorageGateway.Rpc.Frame

variable {payload stream rest : Bytes} {payloads more : List Bytes} {ending : Ending}

/-! ## Writing -/

/-- The frames of payloads, one behind the other. -/
def frames (payloads : List Bytes) : Bytes :=
  payloads.flatMap fun payload => lengthBytes payload.length ++ payload

theorem frames_cons (payload : Bytes) (payloads : List Bytes) :
    frames (payload :: payloads) = lengthBytes payload.length ++ payload ++ frames payloads :=
  List.flatMap_cons

theorem frames_singleton (payload : Bytes) :
    frames [payload] = lengthBytes payload.length ++ payload :=
  List.append_nil _

theorem frames_append (payloads more : List Bytes) :
    frames (payloads ++ more) = frames payloads ++ frames more :=
  List.flatMap_append

theorem write_of_le (h : payload.length ≤ maxPayload) (written : Bytes) :
    write payload written = (.ok (), written ++ (lengthBytes payload.length ++ payload)) := by
  unfold write
  rw [if_neg (by omega)]
  dsimp only
  rw [List.append_assoc]

theorem write_of_lt (h : maxPayload < payload.length) (written : Bytes) :
    write payload written = (.error (oversized payload.length), written) :=
  if_pos h

theorem writeAll_of_forall_le (h : ∀ payload ∈ payloads, payload.length ≤ maxPayload)
    (written : Bytes) : writeAll payloads written = (.ok (), written ++ frames payloads) := by
  induction payloads generalizing written with
  | nil => exact congrArg (Prod.mk _) (List.append_nil written).symm
  | cons payload payloads ih =>
    obtain ⟨hfits, hothers⟩ := List.forall_mem_cons.mp h
    unfold writeAll
    rw [write_of_le hfits]
    dsimp only
    rw [ih hothers, frames_cons, List.append_assoc]

/-! ## Reading -/

/-- Reading frame after frame, for as long as there is one: the payloads that are taken off a
stream, and how it ends. -/
inductive Reads : Bytes → List Bytes → Ending → Prop where
  | finished {stream : Bytes} (h : read stream = .finished) : Reads stream [] none
  | failed {stream : Bytes} {fault : Fault} (h : read stream = .failed fault) :
    Reads stream [] (some fault)
  | frame {stream payload rest : Bytes} {payloads : List Bytes} {ending : Ending}
    (h : read stream = .frame payload rest) (hrest : Reads rest payloads ending) :
    Reads stream (payload :: payloads) ending

theorem read_eq_frame_iff :
    read stream = .frame payload rest ↔
      payload.length ≤ maxPayload ∧ stream = lengthBytes payload.length ++ payload ++ rest := by
  rw [← front_eq_frame_iff]
  unfold read
  cases front stream with
  | frame payload' rest' => simp
  | _ => simp

theorem reads_readUpTo {fuel : Nat} (h : stream.length < fuel) :
    Reads stream (readUpTo fuel stream).1 (readUpTo fuel stream).2 := by
  induction fuel generalizing stream with
  | zero => omega
  | succ fuel ih =>
    unfold readUpTo
    cases hread : read stream with
    | finished => exact .finished hread
    | failed fault => exact .failed hread
    | frame payload rest =>
      -- A frame takes its header at least, so less is left than there is fuel.
      obtain ⟨-, rfl⟩ := read_eq_frame_iff.mp hread
      rw [List.length_append, List.length_append, length_lengthBytes, headerLength] at h
      exact .frame hread (ih (by omega))

theorem Reads.readUpTo_eq (h : Reads stream payloads ending) {fuel : Nat}
    (hfuel : stream.length < fuel) : readUpTo fuel stream = (payloads, ending) := by
  induction h generalizing fuel with
  | finished hread =>
    obtain ⟨fuel, rfl⟩ := Nat.exists_eq_add_one_of_ne_zero (Nat.ne_zero_of_lt hfuel)
    rw [readUpTo, hread]
  | failed hread =>
    obtain ⟨fuel, rfl⟩ := Nat.exists_eq_add_one_of_ne_zero (Nat.ne_zero_of_lt hfuel)
    rw [readUpTo, hread]
  | frame hread _ ih =>
    obtain ⟨fuel, rfl⟩ := Nat.exists_eq_add_one_of_ne_zero (Nat.ne_zero_of_lt hfuel)
    rw [readUpTo, hread]
    obtain ⟨-, rfl⟩ := read_eq_frame_iff.mp hread
    rw [List.length_append, List.length_append, length_lengthBytes, headerLength] at hfuel
    dsimp only
    rw [ih (by omega)]

/-- Whoever reads a stream frame by frame comes to an end, and finds this. -/
theorem reads_readAll (stream : Bytes) : Reads stream (readAll stream).1 (readAll stream).2 :=
  reads_readUpTo (Nat.lt_succ_self _)

theorem Reads.readAll_eq (h : Reads stream payloads ending) : readAll stream = (payloads, ending) :=
  h.readUpTo_eq (Nat.lt_succ_self _)

/-- Frames are taken off whatever follows them. -/
theorem Reads.append (hfits : ∀ payload ∈ payloads, payload.length ≤ maxPayload)
    (h : Reads rest more ending) : Reads (frames payloads ++ rest) (payloads ++ more) ending := by
  induction payloads with
  | nil => exact h
  | cons payload payloads ih =>
    obtain ⟨hfirst, hothers⟩ := List.forall_mem_cons.mp hfits
    rw [frames_cons, List.append_assoc]
    exact .frame (read_eq_frame_iff.mpr ⟨hfirst, rfl⟩) (ih hothers)

/-- What has been read are the frames at the beginning, and of the rest nothing can be read. -/
theorem Reads.split (h : Reads stream payloads ending) :
    (∀ payload ∈ payloads, payload.length ≤ maxPayload) ∧
      ∃ rest, stream = frames payloads ++ rest ∧ Reads rest [] ending := by
  induction h with
  | @finished stream hread => exact ⟨List.forall_mem_nil _, stream, rfl, .finished hread⟩
  | @failed stream fault hread => exact ⟨List.forall_mem_nil _, stream, rfl, .failed hread⟩
  | frame hread _ ih =>
    obtain ⟨hfits, rfl⟩ := read_eq_frame_iff.mp hread
    obtain ⟨hothers, left, rfl, hleft⟩ := ih
    refine ⟨List.forall_mem_cons.mpr ⟨hfits, hothers⟩, left, ?_, hleft⟩
    rw [frames_cons, List.append_assoc _ _ left]

/-- Two ways to read one stream agree as far as both go, and behind the shorter one stands the next
payload of the longer one. -/
theorem frames_agree {first second : List Bytes} {tail : Bytes}
    (hfirst : ∀ payload ∈ first, payload.length ≤ maxPayload)
    (hsecond : ∀ payload ∈ second, payload.length ≤ maxPayload)
    (h : frames first ++ tail = frames second ++ rest) :
    (∀ k, k < first.length → k < second.length → first[k]? = second[k]?) ∧
      (first.length < second.length → ∃ payload behind, front tail = .frame payload behind) := by
  induction first generalizing second with
  | nil =>
    refine ⟨fun k hk => absurd hk (Nat.not_lt_zero k), fun hlonger => ?_⟩
    cases second with
    | nil => cases hlonger
    | cons payload second =>
      refine ⟨payload, frames second ++ rest, front_eq_frame_iff.mpr
        ⟨hsecond payload List.mem_cons_self, ?_⟩⟩
      rw [frames_cons, List.append_assoc] at h
      exact h
  | cons payload first ih =>
    obtain ⟨hfits, hothers⟩ := List.forall_mem_cons.mp hfirst
    cases second with
    | nil =>
      exact ⟨fun k _ hk => absurd hk (Nat.not_lt_zero k), fun hlonger => absurd hlonger (by simp)⟩
    | cons other second =>
      obtain ⟨hotherFits, hmore⟩ := List.forall_mem_cons.mp hsecond
      rw [frames_cons, frames_cons, List.append_assoc, List.append_assoc _ _ rest] at h
      have hread : front (lengthBytes other.length ++ other ++ (frames second ++ rest)) =
          .frame payload (frames first ++ tail) := front_eq_frame_iff.mpr ⟨hfits, h.symm⟩
      rw [front_eq_frame_iff.mpr ⟨hotherFits, rfl⟩] at hread
      injection hread with hsame hrest
      obtain ⟨hagree, hnext⟩ := ih hothers hmore hrest.symm
      refine ⟨fun k hk hk' => ?_, fun hlonger => hnext (Nat.lt_of_succ_lt_succ hlonger)⟩
      cases k with
      | zero => exact congrArg some hsame.symm
      | succ k => exact hagree k (Nat.lt_of_succ_lt_succ hk) (Nat.lt_of_succ_lt_succ hk')

/-! ## What is left -/

/-- What can be left of a stream when no further frame can be taken off, and how it ends then. -/
inductive Leftover : Bytes → Ending → Prop where
  /-- Fewer bytes than a header has: the stream has ended in order. -/
  | short {rest : Bytes} (h : rest.length < headerLength) : Leftover rest none
  /-- A header that announces too long a payload. -/
  | excessive {header body : Bytes} (hheader : header.length = headerLength)
    (h : maxPayload < lengthOf header) :
    Leftover (header ++ body) (some (oversized (lengthOf header)))
  /-- A header, and fewer bytes than it announces. -/
  | incomplete {header body : Bytes} (hheader : header.length = headerLength)
    (hfits : lengthOf header ≤ maxPayload) (h : body.length < lengthOf header) :
    Leftover (header ++ body) (some truncated)

theorem front_of_short (h : stream.length < headerLength) : front stream = .partialHeader := by
  unfold headerLength at h
  match stream, h with
  | [], _ | [_], _ | [_, _], _ | [_, _, _], _ => rfl
  | _ :: _ :: _ :: _ :: _, h => simp at h; omega

theorem front_header_append {header : Bytes} (h : header.length = headerLength) (body : Bytes) :
    front (header ++ body) = behindHeader (lengthOf header) body := by
  match header, h with
  | [_, _, _, _], _ => rfl

theorem read_of_leftover (h : Leftover rest ending) :
    read rest = ending.elim .finished .failed := by
  unfold read
  cases h with
  | short hshort => rw [front_of_short hshort]; rfl
  | excessive hheader hlong =>
    rw [front_header_append hheader, behindHeader, if_pos hlong]
    rfl
  | @incomplete header body hheader hfits hcut =>
    have htake : (body.take (lengthOf header)).length < lengthOf header := by
      rw [List.length_take]
      omega
    rw [front_header_append hheader, behindHeader, if_neg (by omega)]
    dsimp only
    rw [if_pos htake]
    rfl

theorem leftover_or_frame (stream : Bytes) :
    (∃ ending, Leftover stream ending) ∨ ∃ payload rest, read stream = .frame payload rest := by
  by_cases hshort : stream.length < headerLength
  · exact .inl ⟨none, .short hshort⟩
  obtain ⟨header, body, rfl, hheader⟩ : ∃ header body : Bytes, stream = header ++ body ∧
      header.length = headerLength := by
    refine ⟨stream.take headerLength, stream.drop headerLength, ?_, ?_⟩
    · rw [List.take_append_drop]
    · rw [List.length_take]
      omega
  by_cases hlong : maxPayload < lengthOf header
  · exact .inl ⟨_, .excessive hheader hlong⟩
  by_cases hcut : body.length < lengthOf header
  · exact .inl ⟨_, .incomplete hheader (by omega) hcut⟩
  have htake : ¬ (body.take (lengthOf header)).length < lengthOf header := by
    rw [List.length_take]
    omega
  refine .inr ⟨body.take (lengthOf header), body.drop (lengthOf header), ?_⟩
  unfold read
  rw [front_header_append hheader, behindHeader, if_neg hlong]
  dsimp only
  rw [if_neg htake]

/-- Nothing can be read of exactly those bytes. -/
theorem reads_nil_iff : Reads rest [] ending ↔ Leftover rest ending := by
  constructor
  · intro h
    rcases leftover_or_frame rest with ⟨other, hleftover⟩ | ⟨payload, behind, hread⟩
    · have hother := read_of_leftover hleftover
      cases h with
      | finished hread =>
        cases other with
        | none => exact hleftover
        | some fault => rw [hread] at hother; cases hother
      | failed hread =>
        cases other with
        | none => rw [hread] at hother; cases hother
        | some fault =>
          rw [hread] at hother
          cases hother
          exact hleftover
    · cases h with
      | finished hnothing => rw [hread] at hnothing; cases hnothing
      | failed hnothing => rw [hread] at hnothing; cases hnothing
  · intro h
    have hread := read_of_leftover h
    cases ending with
    | none => exact .finished hread
    | some fault => exact .failed hread

theorem Leftover.unique {other : Ending} (h : Leftover rest ending) (hother : Leftover rest other) :
    other = ending := by
  have hread := (reads_nil_iff.mpr h).readAll_eq
  rw [(reads_nil_iff.mpr hother).readAll_eq] at hread
  exact congrArg Prod.snd hread

/-! ## Streams that go on -/

/-- A frame at the front stays there when more bytes arrive. -/
theorem front_append_of_frame (h : front stream = .frame payload rest) (more : Bytes) :
    front (stream ++ more) = .frame payload (rest ++ more) := by
  obtain ⟨hfits, rfl⟩ := front_eq_frame_iff.mp h
  exact front_eq_frame_iff.mpr ⟨hfits, List.append_assoc _ _ _⟩

/-- So does a header that announces too much. -/
theorem front_append_of_oversized {length : Nat} (h : front stream = .oversized length)
    (more : Bytes) : front (stream ++ more) = .oversized length := by
  unfold front at h
  split at h
  · rename_i a b c d body
    show behindHeader (lengthOf [a, b, c, d]) (body ++ more) = _
    by_cases hlong : lengthOf [a, b, c, d] > maxPayload
    · rw [behindHeader, if_pos hlong] at h
      rw [behindHeader, if_pos hlong, h]
    · rw [behindHeader, if_neg hlong] at h
      dsimp only at h
      split at h <;> cases h
  · cases h

/-- A beginning of a frame is not yet one, and is no fault. -/
theorem front_of_append_eq {frame : Bytes} (h : encode payload = .ok frame)
    (hframe : stream ++ rest = frame) (hrest : rest ≠ []) :
    front stream = .partialHeader ∨ front stream = .partialPayload := by
  have hwhole : front (stream ++ rest) = .frame payload [] := by
    rw [hframe, ← List.append_nil frame]
    exact front_frame h []
  cases hfront : front stream with
  | frame other behind =>
    rw [front_append_of_frame hfront] at hwhole
    injection hwhole with _ hbehind
    exact absurd (List.append_eq_nil_iff.mp hbehind).2 hrest
  | oversized length =>
    rw [front_append_of_oversized hfront] at hwhole
    cases hwhole
  | partialHeader => exact .inl rfl
  | partialPayload => exact .inr rfl

/-- What `writeAll` writes frame by frame `readAll` reads frame by frame, and what follows as if it
stood alone; every stream is read to its end, where one thing alone is left that is no frame
(`Leftover`); and of a payload that is longer than `maxPayload` nothing is written. -/
theorem streams_read_back :
    (∀ payloads : List Bytes, (∀ payload ∈ payloads, payload.length ≤ maxPayload) →
      ∃ written, (∀ before, writeAll payloads before = (.ok (), before ++ written)) ∧
        ∀ rest, readAll (written ++ rest) = (payloads ++ (readAll rest).1, (readAll rest).2)) ∧
    (∀ stream, ∃ payloads ending written rest,
      (∀ more other, Reads stream more other ↔ more = payloads ∧ other = ending) ∧
      readAll stream = (payloads, ending) ∧
      writeAll payloads [] = (.ok (), written) ∧ stream = written ++ rest ∧
      ∀ other, Leftover rest other ↔ other = ending) ∧
    ∀ payload written, maxPayload < payload.length →
      write payload written = (.error (oversized payload.length), written) := by
  refine ⟨fun payloads hfits => ?_, fun stream => ?_,
    fun payload written => (write_of_lt · written)⟩
  · refine ⟨frames payloads, writeAll_of_forall_le hfits, fun rest => ?_⟩
    exact ((reads_readAll rest).append hfits).readAll_eq
  · have hreads := reads_readAll stream
    obtain ⟨hfits, rest, hsplit, hrest⟩ := hreads.split
    have hleftover := reads_nil_iff.mp hrest
    refine ⟨(readAll stream).1, (readAll stream).2, frames (readAll stream).1, rest,
      fun more other => ⟨fun hmore => ?_, ?_⟩, rfl, writeAll_of_forall_le hfits [], hsplit,
      fun other => ⟨hleftover.unique, ?_⟩⟩
    · have hread := hmore.readAll_eq
      exact ⟨congrArg Prod.fst hread.symm, congrArg Prod.snd hread.symm⟩
    · rintro ⟨rfl, rfl⟩
      exact hreads
    · rintro rfl
      exact hleftover

end StorageGateway.Rpc.Frame
