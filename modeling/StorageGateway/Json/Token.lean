import StorageGateway.Json.Basic
import StorageGateway.Text.Numeral
import StorageGateway.Text.Utf8

/-!
# Tokens of JSON text

Text is cut into tokens before it is read as a value. A string or a number can be well delimited and
still have no value: a string that names half a surrogate pair or holds bytes that encode no
character, a number beyond the finite range. Such a token is kept without a value, because a reader
that skips it does not mind. Anything else that is not JSON becomes a last token of its own, and
nothing is read behind it.
-/

namespace StorageGateway.Json

open Text (Glyph)

/-- A token of JSON text. -/
inductive Token where
  /-- An opening bracket. -/
  | openArray
  /-- A closing bracket. -/
  | closeArray
  /-- An opening brace. -/
  | openObject
  /-- A closing brace. -/
  | closeObject
  /-- A colon. -/
  | colon
  /-- A comma. -/
  | comma
  /-- The word `null`. -/
  | null
  /-- The word `true` or `false`. -/
  | bool (value : Bool)
  /-- A number, without a value when it is beyond the finite range. -/
  | number (value : Option JsonNumber)
  /-- A string, without a value when it is not text. -/
  | string (value : Option String)
  /-- Something that is not JSON. -/
  | garbage

namespace Token

/-! ## Numbers -/

/-- The digits at the front of a text, and what follows them. -/
def digitRun : List Glyph → List Char × List Glyph
  | some c :: rest =>
    if c.isDigit then
      let (digits, after) := digitRun rest
      (c :: digits, after)
    else ([], some c :: rest)
  | rest => ([], rest)

/-- Appends digits to a number as long as it stays below `2 ^ 64`; also tells how many digits were
left out. -/
def keepDigits : Nat → List Char → Nat × Nat
  | kept, [] => (kept, 0)
  | kept, d :: digits =>
    let next := kept * 10 + (d.toNat - '0'.toNat)
    if next < UInt64.size then keepDigits next digits else (kept, digits.length + 1)

/-- The parts of a number: digits before the point, digits after it, and the exponent. -/
structure Numeral where
  /-- Whether there is a minus sign. -/
  negative : Bool
  /-- The digits before the point. -/
  whole : List Char
  /-- The digits after the point; none when there is no point. -/
  fraction : List Char
  /-- The power of ten; nothing when there is none. -/
  exponent : Option Int

/-- The value of a number. Whole numbers stay integers when 64 bits hold them, but a zero with a
minus sign does not. -/
def Numeral.value (n : Numeral) : Option JsonNumber :=
  let (whole, wholeLeft) := keepDigits 0 n.whole
  if n.fraction.isEmpty && n.exponent.isNone && wholeLeft == 0 then
    if !n.negative then some (.int whole)
    else if whole != 0 && whole ≤ UInt64.size / 2 then some (.int (-(whole : Int)))
    else (Binary64.ofRatio true whole 1).map .float
  else
    let (significand, fractionLeft) := keepDigits whole n.fraction
    let shift : Int := wholeLeft - (n.fraction.length - fractionLeft : Nat)
    (Binary64.ofDecimal n.negative significand (shift + n.exponent.getD 0)).map .float

/-- The exponent behind its letter: an optional sign and digits. -/
def exponentPart (text : List Glyph) : Option (Int × List Glyph) :=
  let (negative, text) : Bool × List Glyph := match text with
    | some '+' :: rest => (false, rest)
    | some '-' :: rest => (true, rest)
    | rest => (false, rest)
  match digitRun text with
  | ([], _) => none
  | (digits, rest) =>
    let size : Int := Text.valueOfDigits digits
    some (if negative then -size else size, rest)

/-- The exponent at the front of a text, if there is one; fails when a letter has no digits. -/
def optionalExponent (text : List Glyph) : Option (Option Int × List Glyph) :=
  match text with
  | some 'e' :: rest | some 'E' :: rest => (exponentPart rest).map fun (e, after) => (some e, after)
  | rest => some (none, rest)

/-- The fraction at the front of a text, if there is one; fails when a point has no digits. -/
def optionalFraction (text : List Glyph) : Option (List Char × List Glyph) :=
  match text with
  | some '.' :: rest =>
    match digitRun rest with
    | ([], _) => none
    | (digits, after) => some (digits, after)
  | rest => some ([], rest)

/-- A number at the front of a text whose sign has been read. A zero is the only digit before the
point that it leads. -/
def numeral (negative : Bool) (text : List Glyph) : Option (Numeral × List Glyph) :=
  match digitRun text with
  | ([], _) => none
  | ('0' :: _ :: _, _) => none
  | (whole, text) => do
    let (fraction, text) ← optionalFraction text
    let (exponent, text) ← optionalExponent text
    some (⟨negative, whole, fraction, exponent⟩, text)

/-! ## Strings -/

/-- The value of a hexadecimal digit. -/
def hexDigit? (c : Char) : Option Nat :=
  if '0' ≤ c && c ≤ '9' then some (c.toNat - '0'.toNat)
  else if 'a' ≤ c && c ≤ 'f' then some (c.toNat - 'a'.toNat + 10)
  else if 'A' ≤ c && c ≤ 'F' then some (c.toNat - 'A'.toNat + 10)
  else none

/-- The value of four hexadecimal digits. -/
def hexQuad? (a b c d : Char) : Option Nat := do
  some ((((← hexDigit? a) * 16 + (← hexDigit? b)) * 16 + (← hexDigit? c)) * 16 + (← hexDigit? d))

/-- The character that a letter stands for behind a backslash. -/
def letterEscape? : Char → Option Char
  | '"' => some '"'
  | '\\' => some '\\'
  | '/' => some '/'
  | 'b' => some '\x08'
  | 'f' => some '\x0c'
  | 'n' => some '\n'
  | 'r' => some '\r'
  | 't' => some '\t'
  | _ => none

/-- The first half of a surrogate pair. -/
def isHighSurrogate (unit : Nat) : Bool := 0xD800 ≤ unit && unit ≤ 0xDBFF

/-- The second half of a surrogate pair. -/
def isLowSurrogate (unit : Nat) : Bool := 0xDC00 ≤ unit && unit ≤ 0xDFFF

/-- The character of a surrogate pair. -/
def surrogatePair (high low : Nat) : Char :=
  Char.ofNat (0x10000 + (high - 0xD800) * 0x400 + (low - 0xDC00))

/-- A piece of a string. -/
inductive Piece where
  /-- The closing quote. -/
  | close
  /-- A character, plain or escaped. -/
  | char (c : Char)
  /-- Something that is not text: half a surrogate pair, or bytes that encode no character. -/
  | hole

/-- The piece that four hexadecimal digits stand for. The second half of a surrogate pair is looked
for behind the first. -/
def unitPiece (unit : Nat) (rest : List Glyph) : Piece × List Glyph :=
  if isHighSurrogate unit then
    match rest with
    | some '\\' :: some 'u' :: some a :: some b :: some c :: some d :: after =>
      match hexQuad? a b c d with
      | some low =>
        if isLowSurrogate low then (.char (surrogatePair unit low), after) else (.hole, rest)
      | none => (.hole, rest)
    | _ => (.hole, rest)
  else if isLowSurrogate unit then (.hole, rest)
  else (.char (Char.ofNat unit), rest)

/-- The first piece of a string. There is none when the text ends, or holds a bare control character
or an unknown escape. -/
def piece : List Glyph → Option (Piece × List Glyph)
  | [] => none
  | none :: rest => some (.hole, rest)
  | some c :: rest =>
    if c == '"' then some (.close, rest)
    else if c == '\\' then
      match rest with
      | some 'u' :: some a :: some b :: some c :: some d :: after =>
        (hexQuad? a b c d).map fun unit => unitPiece unit after
      | some e :: after => (letterEscape? e).map fun e => (.char e, after)
      | _ => none
    else if c.toNat < 0x20 then none
    else some (.char c, rest)

/-- Reads a string up to its closing quote. What has been read so far stands the last character
first, and is nothing once it holds what is not text; the first argument bounds the number of
pieces. -/
def stringBody : Nat → Option (List Char) → List Glyph → Option (Option String × List Glyph)
  | 0, _, _ => none
  | fuel + 1, read, text =>
    match piece text with
    | none => none
    | some (.close, rest) => some (read.map fun cs => String.ofList cs.reverse, rest)
    | some (.char c, rest) => stringBody fuel (read.map (c :: ·)) rest
    | some (.hole, rest) => stringBody fuel none rest

/-! ## Text -/

/-- The blanks between tokens. -/
def isSpace (c : Char) : Bool := c == ' ' || c == '\n' || c == '\t' || c == '\r'

/-- The token that starts with the given character, and what follows it; the first argument bounds
the number of pieces of a string. -/
def next (fuel : Nat) (c : Char) (rest : List Glyph) : Option (Token × List Glyph) :=
  match c, rest with
  | '[', rest => some (.openArray, rest)
  | ']', rest => some (.closeArray, rest)
  | '\x7b', rest => some (.openObject, rest)
  | '\x7d', rest => some (.closeObject, rest)
  | ':', rest => some (.colon, rest)
  | ',', rest => some (.comma, rest)
  | 'n', some 'u' :: some 'l' :: some 'l' :: rest => some (.null, rest)
  | 't', some 'r' :: some 'u' :: some 'e' :: rest => some (.bool true, rest)
  | 'f', some 'a' :: some 'l' :: some 's' :: some 'e' :: rest => some (.bool false, rest)
  | '"', rest => (stringBody fuel (some []) rest).map fun (value, after) => (.string value, after)
  | '-', rest => (numeral true rest).map fun (n, after) => (.number n.value, after)
  | c, rest =>
    if c.isDigit then
      (numeral false (some c :: rest)).map fun (n, after) => (.number n.value, after)
    else none

/-- The tokens of a text; the first argument bounds the number of steps. -/
def scan : Nat → List Glyph → List Token
  | _, [] => []
  | 0, _ | _, none :: _ => [.garbage]
  | fuel + 1, some c :: rest =>
    if isSpace c then scan fuel rest
    else match next fuel c rest with
      | some (token, after) => token :: scan fuel after
      | none => [.garbage]

/-- The tokens of a text. -/
def ofText (text : List Glyph) : List Token := scan text.length text

end Token

end StorageGateway.Json
