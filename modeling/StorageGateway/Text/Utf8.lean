/-!
# UTF-8

Bytes are read as a sequence of glyphs: a character, or nothing where the bytes encode none. An
ill-formed stretch counts as one glyph as long as it is the beginning of some encoded character
(the "maximal subpart" rule), so replacing every empty glyph by U+FFFD gives the usual lenient
reading.
-/

namespace StorageGateway.Text

/-- A character, or nothing where bytes encode no character. -/
abbrev Glyph := Option Char

namespace Utf8

/-- What may follow a lead byte: how many bytes, and the range of the first of them. -/
def followers (lead : UInt8) : Option (Nat × UInt8 × UInt8) :=
  if 0xC2 ≤ lead && lead ≤ 0xDF then some (1, 0x80, 0xBF)
  else if lead == 0xE0 then some (2, 0xA0, 0xBF)
  else if lead == 0xED then some (2, 0x80, 0x9F)
  else if 0xE1 ≤ lead && lead ≤ 0xEF then some (2, 0x80, 0xBF)
  else if lead == 0xF0 then some (3, 0x90, 0xBF)
  else if 0xF1 ≤ lead && lead ≤ 0xF3 then some (3, 0x80, 0xBF)
  else if lead == 0xF4 then some (3, 0x80, 0x8F)
  else none

/-- The bits that a lead byte gives to the character it starts. -/
def leadBits (lead : UInt8) : Nat :=
  if lead ≤ 0xDF then lead.toNat - 0xC0
  else if lead ≤ 0xEF then lead.toNat - 0xE0
  else lead.toNat - 0xF0

/-- Reads the given number of continuation bytes after the bits read so far. -/
def continuation : Nat → Nat → List UInt8 → Glyph × List UInt8
  | 0, bits, bytes => (some (Char.ofNat bits), bytes)
  | _ + 1, _, [] => (none, [])
  | count + 1, bits, b :: bytes =>
    if 0x80 ≤ b && b ≤ 0xBF then continuation count (bits * 64 + (b.toNat - 0x80)) bytes
    else (none, b :: bytes)

/-- Reads one glyph that starts with the given byte. -/
def glyph (lead : UInt8) (bytes : List UInt8) : Glyph × List UInt8 :=
  if lead < 0x80 then (some (Char.ofNat lead.toNat), bytes)
  else match followers lead, bytes with
    | some (count, low, high), b :: rest =>
      if low ≤ b && b ≤ high then
        continuation (count - 1) (leadBits lead * 64 + (b.toNat - 0x80)) rest
      else (none, b :: rest)
    | _, bytes => (none, bytes)

/-- Reads glyphs one by one; the first argument bounds their number. -/
def scan : Nat → List UInt8 → List Glyph
  | 0, _ | _, [] => []
  | fuel + 1, b :: bytes =>
    let (first, rest) := glyph b bytes
    first :: scan fuel rest

/-- The glyphs of a sequence of bytes. -/
def glyphs (bytes : List UInt8) : List Glyph :=
  match String.fromUTF8? ⟨bytes.toArray⟩ with
  | some s => s.toList.map some
  | none => scan bytes.length bytes

/-- The bytes of a string. -/
def encode (s : String) : List UInt8 :=
  s.toUTF8.data.toList

/-- Reads bytes as text, with U+FFFD for every stretch that encodes no character. -/
def lenient (bytes : List UInt8) : String :=
  match String.fromUTF8? ⟨bytes.toArray⟩ with
  | some s => s
  | none => String.ofList ((scan bytes.length bytes).map (·.getD '\uFFFD'))

end Utf8

end StorageGateway.Text
