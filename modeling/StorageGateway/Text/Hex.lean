/-!
# Hexadecimal text

Bytes are written as two lower-case hexadecimal digits each.
-/

namespace StorageGateway.Text.Hex

/-- The value of a hexadecimal digit. -/
def digitValue (c : Char) : Nat :=
  if c.isDigit then c.toNat - '0'.toNat else c.toLower.toNat - 'a'.toNat + 10

/-- The bytes of hexadecimal text; a digit without a partner is left out. -/
def decodeChars : List Char → List UInt8
  | high :: low :: rest => .ofNat (digitValue high * 16 + digitValue low) :: decodeChars rest
  | _ => []

/-- The bytes of hexadecimal text. -/
def decode (text : String) : List UInt8 := decodeChars text.toList

/-- The digits of a byte. -/
def byteChars (b : UInt8) : List Char :=
  [Nat.digitChar (b.toNat / 16), Nat.digitChar (b.toNat % 16)]

/-- The hexadecimal text of bytes. -/
def encode (bytes : List UInt8) : String := String.ofList (bytes.flatMap byteChars)

end StorageGateway.Text.Hex
