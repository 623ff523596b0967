import StorageGateway.Fault

/-!
# Frames

Messages travel over a byte stream as frames: the length of the payload in four bytes, the most
significant first, and then the payload. A payload of more than sixteen mebibytes is refused on both
sides.

A stream that ends between frames, or within the four bytes of a length, has ended in order; one
that ends within a payload has not.
-/

namespace StorageGateway.Rpc

/-- A sequence of bytes. -/
abbrev Bytes := List UInt8

namespace Frame

/-- The greatest length of a payload. -/
def maxPayload : Nat := 16 * 1024 * 1024

/-- The length of a header. -/
def headerLength : Nat := 4

/-- The four bytes of a length, the most significant first. -/
def lengthBytes (n : Nat) : Bytes :=
  [.ofNat (n / 0x1000000), .ofNat (n / 0x10000), .ofNat (n / 0x100), .ofNat n]

/-- The length that bytes say, the most significant first. -/
def lengthOf (bytes : Bytes) : Nat := bytes.foldl (fun n b => n * 256 + b.toNat) 0

/-- The fault of a payload that is too long. -/
def oversized (length : Nat) : Fault :=
  .invalidArgument
    ("IPC message size " ++ toString length ++ " exceeds maximum " ++ toString maxPayload)

/-- The fault of a stream that ends within a payload. -/
def truncated : Fault := .systemRefused "early eof" none

/-- The frame of a payload. -/
def encode (payload : Bytes) : Except Fault Bytes :=
  if payload.length > maxPayload then .error (oversized payload.length)
  else .ok (lengthBytes payload.length ++ payload)

/-- Writes the frame of a payload behind what has been written to a stream: its length, and then the
payload. Of a payload that is too long nothing is written. -/
def write (payload : Bytes) : StateM Bytes (Except Fault Unit) := fun written =>
  if payload.length > maxPayload then (.error (oversized payload.length), written)
  else
    let announced := written ++ lengthBytes payload.length
    (.ok (), announced ++ payload)

/-- Writes payloads to a stream one after the other, until one of them cannot be written. -/
def writeAll : List Bytes → StateM Bytes (Except Fault Unit)
  | [] => pure (.ok ())
  | payload :: payloads => fun written =>
    match write payload written with
    | (.ok (), written) => writeAll payloads written
    | (.error fault, written) => (.error fault, written)

/-- What stands at the front of the bytes that have arrived. -/
inductive Front where
  /-- A payload, and the bytes that follow its frame. -/
  | frame (payload rest : Bytes)
  /-- The beginning of a header. -/
  | partialHeader
  /-- A header, and the beginning of its payload. -/
  | partialPayload
  /-- A header that announces too long a payload. -/
  | oversized (length : Nat)
deriving DecidableEq, Repr

/-- What stands behind a header that announces a payload of the given length. -/
def behindHeader (length : Nat) (body : Bytes) : Front :=
  if length > maxPayload then .oversized length
  else
    let payload := body.take length
    if payload.length < length then .partialPayload else .frame payload (body.drop length)

/-- What stands at the front of the bytes that have arrived. -/
def front : Bytes → Front
  | a :: b :: c :: d :: body => behindHeader (lengthOf [a, b, c, d]) body
  | _ => .partialHeader

/-- How reading from a stream that has ended goes on. -/
inductive Read where
  /-- A payload, and the bytes that are left. -/
  | frame (payload rest : Bytes)
  /-- The stream has ended in order. -/
  | finished
  /-- The stream cannot be read any further. -/
  | failed (fault : Fault)

/-- Reads one frame of a stream whose bytes have all arrived. -/
def read (arrived : Bytes) : Read :=
  match front arrived with
  | .frame payload rest => .frame payload rest
  | .partialHeader => .finished
  | .partialPayload => .failed truncated
  | .oversized length => .failed (Frame.oversized length)

/-- How a stream ends: in order, or with a fault. -/
abbrev Ending := Option Fault

/-- Reads frames until a stream ends; the first argument bounds their number. -/
def readUpTo : Nat → Bytes → List Bytes × Ending
  | 0, _ => ([], none)
  | fuel + 1, arrived =>
    match read arrived with
    | .finished => ([], none)
    | .failed fault => ([], some fault)
    | .frame payload rest =>
      let (payloads, ending) := readUpTo fuel rest
      (payload :: payloads, ending)

/-- All payloads of a stream, and how it ends. -/
def readAll (stream : Bytes) : List Bytes × Ending := readUpTo (stream.length + 1) stream

end Frame

end StorageGateway.Rpc
