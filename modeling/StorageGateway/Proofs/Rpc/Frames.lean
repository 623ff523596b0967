import Mathlib.Algebra.Group.Nat.Defs
import StorageGateway.Rpc.Frame

/-!
# Frames are read back

The four bytes of a length say that length, so the frame of a payload at the front of some bytes is
taken off as that payload, and nothing but such a frame is.
-/

namespace StorageGateway.Rpc.Frame

theorem length_lengthBytes (n : Nat) : (lengthBytes n).length = headerLength := rfl

theorem lengthOf_lengthBytes {n : Nat} (h : n < 2 ^ 32) : lengthOf (lengthBytes n) = n := by
  simp only [lengthOf, lengthBytes, List.foldl_cons, List.foldl_nil, UInt8.toNat_ofNat']
  omega

theorem lengthBytes_lengthOf (a b c d : UInt8) :
    lengthBytes (lengthOf [a, b, c, d]) = [a, b, c, d] := by
  have ha := a.toNat_lt
  have hb := b.toNat_lt
  have hc := c.toNat_lt
  have hd := d.toNat_lt
  have hsum : lengthOf [a, b, c, d] =
      ((a.toNat * 256 + b.toNat) * 256 + c.toNat) * 256 + d.toNat := by
    simp [lengthOf]
  have hbyte {n : Nat} {byte : UInt8} (h : n % 256 = byte.toNat) : UInt8.ofNat n = byte := by
    apply UInt8.toNat_inj.mp
    rw [UInt8.toNat_ofNat', ← h]
  simp only [lengthBytes, hsum, List.cons.injEq, and_true]
  refine ⟨hbyte ?_, hbyte ?_, hbyte ?_, hbyte ?_⟩ <;> omega

theorem encode_eq_ok_iff {payload frame : Bytes} :
    encode payload = .ok frame ↔
      payload.length ≤ maxPayload ∧ frame = lengthBytes payload.length ++ payload := by
  unfold encode
  by_cases h : payload.length > maxPayload
  · rw [if_pos h]
    constructor
    · intro hok
      cases hok
    · intro hfits
      omega
  · rw [if_neg h]
    constructor
    · intro hok
      cases hok
      exact ⟨by omega, rfl⟩
    · rintro ⟨-, rfl⟩
      rfl

theorem lt_of_encode {payload : Bytes} {fault : Fault} (h : encode payload = .error fault) :
    maxPayload < payload.length := by
  unfold encode at h
  split at h
  · assumption
  · cases h

/-- A payload is taken off the front of exactly those bytes that begin with its frame. -/
theorem front_eq_frame_iff {bytes payload rest : Bytes} :
    front bytes = .frame payload rest ↔
      payload.length ≤ maxPayload ∧ bytes = lengthBytes payload.length ++ payload ++ rest := by
  constructor
  · intro h
    unfold front at h
    split at h
    · rename_i a b c d body
      unfold behindHeader at h
      split at h
      · cases h
      · rename_i hfits
        dsimp only at h
        split at h
        · cases h
        · rename_i hlong
          cases h
          have hlength : (body.take (lengthOf [a, b, c, d])).length = lengthOf [a, b, c, d] := by
            rw [List.length_take] at hlong ⊢
            omega
          rw [hlength]
          refine ⟨by omega, ?_⟩
          rw [lengthBytes_lengthOf, List.append_assoc, List.take_append_drop]
          rfl
    · cases h
  · rintro ⟨hfits, rfl⟩
    have hbound : payload.length < 2 ^ 32 := by
      unfold maxPayload at hfits
      omega
    have hlength : lengthOf (lengthBytes payload.length) = payload.length :=
      lengthOf_lengthBytes hbound
    show behindHeader (lengthOf (lengthBytes payload.length)) (payload ++ rest) = _
    rw [hlength, behindHeader, if_neg (by omega)]
    simp

theorem front_frame {payload frame : Bytes} (h : encode payload = .ok frame) (rest : Bytes) :
    front (frame ++ rest) = .frame payload rest := by
  obtain ⟨hfits, rfl⟩ := encode_eq_ok_iff.mp h
  exact front_eq_frame_iff.mpr ⟨hfits, rfl⟩

/-- Taking a payload off leaves fewer bytes, at least by those of the header. -/
theorem length_of_front {bytes payload rest : Bytes} (h : front bytes = .frame payload rest) :
    rest.length + headerLength ≤ bytes.length := by
  obtain ⟨-, rfl⟩ := front_eq_frame_iff.mp h
  simp only [List.length_append, length_lengthBytes]
  omega

end StorageGateway.Rpc.Frame
