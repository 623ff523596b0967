/-!
# Decimal numerals

Numbers are written in decimal without leading zeros. A numeral is read with an optional sign, as
many leading zeros as one likes and ASCII digits only, and its value has to fit the integer width it
is read for. Classes of digits are wider than what is read: a run of decimal digits of any script is
recognised as a run of digits, but only ASCII digits have a value here.
-/

namespace StorageGateway.Text

/-- The first characters of the blocks of ten consecutive decimal digits, one block per script. -/
def digitBlocks : List Nat :=
  [0x30, 0x660, 0x6F0, 0x7C0, 0x966, 0x9E6, 0xA66, 0xAE6, 0xB66, 0xBE6, 0xC66, 0xCE6, 0xD66, 0xDE6,
   0xE50, 0xED0, 0xF20, 0x1040, 0x1090, 0x17E0, 0x1810, 0x1946, 0x19D0, 0x1A80, 0x1A90, 0x1B50,
   0x1BB0, 0x1C40, 0x1C50, 0xA620, 0xA8D0, 0xA900, 0xA9D0, 0xA9F0, 0xAA50, 0xABF0, 0xFF10, 0x104A0,
   0x10D30, 0x10D40, 0x11066, 0x110F0, 0x11136, 0x111D0, 0x112F0, 0x11450, 0x114D0, 0x11650,
   0x116C0, 0x116D0, 0x116DA, 0x11730, 0x118E0, 0x11950, 0x11BF0, 0x11C50, 0x11D50, 0x11DA0,
   0x11F50, 0x16130, 0x16A60, 0x16AC0, 0x16B50, 0x16D70, 0x1CCF0, 0x1D7CE, 0x1D7D8, 0x1D7E2,
   0x1D7EC, 0x1D7F6, 0x1E140, 0x1E2F0, 0x1E4F0, 0x1E5F1, 0x1E950, 0x1FBF0]

/-- A decimal digit of any script: the Unicode category Nd. -/
def isDecimalDigit (c : Char) : Bool :=
  digitBlocks.any fun start => start ≤ c.toNat && c.toNat ≤ start + 9

/-- The value of a run of ASCII digits, the most significant first. -/
def valueOfDigits (digits : List Char) : Nat :=
  digits.foldl (fun value c => 10 * value + (c.toNat - '0'.toNat)) 0

/-- The value of a non-empty run of ASCII digits. -/
def readNatural? (s : List Char) : Option Nat :=
  if !s.isEmpty && s.all Char.isDigit then some (valueOfDigits s) else none

/-- The value of a run of ASCII digits below `2 ^ 64`. -/
def readWord? (s : List Char) : Option UInt64 :=
  match readNatural? s with
  | some n => if n < UInt64.size then some (.ofNat n) else none
  | none => none

/-- The integer widths that numbers are read for or narrowed to. -/
inductive Width where
  /-- Unsigned, of the given number of bits. -/
  | unsigned (bits : Nat)
  /-- Two's complement, of the given number of bits. -/
  | signed (bits : Nat)
deriving DecidableEq, Repr

namespace Width

/-- The least value of a width. -/
def least : Width → Int
  | .unsigned _ => 0
  | .signed bits => -(Nat.pow 2 (bits - 1) : Int)

/-- The greatest value of a width. -/
def greatest : Width → Int
  | .unsigned bits => (Nat.pow 2 bits : Int) - 1
  | .signed bits => (Nat.pow 2 (bits - 1) : Int) - 1

/-- Whether a width holds a value. -/
def holds (width : Width) (value : Int) : Bool :=
  width.least ≤ value && value ≤ width.greatest

/-- The short name of a width, such as `u32` or `i64`. -/
def name : Width → String
  | .unsigned bits => "u" ++ toString bits
  | .signed bits => "i" ++ toString bits

/-- The width with a short name. -/
def ofName? (name : String) : Option Width :=
  match name.toList with
  | 'u' :: bits => (readNatural? bits).map unsigned
  | 'i' :: bits => (readNatural? bits).map signed
  | _ => none

/-- Reads a numeral with an optional sign; a minus sign only for signed widths. -/
def readSigned? (width : Width) : List Char → Option Int
  | '+' :: digits => (readNatural? digits).map Int.ofNat
  | '-' :: digits =>
    match width with
    | .signed _ => (readNatural? digits).map fun n => -Int.ofNat n
    | .unsigned _ => none
  | digits => (readNatural? digits).map Int.ofNat

/-- Reads a numeral whose value the width holds. -/
def read? (width : Width) (s : List Char) : Option Int :=
  (width.readSigned? s).filter width.holds

end Width

end StorageGateway.Text
