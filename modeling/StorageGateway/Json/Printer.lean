import StorageGateway.Json.Basic

/-!
# Printing JSON

A value is written without blanks, its members in the order in which they are listed. In a string
only the quote, the backslash and the control characters below U+0020 are escaped, the common ones
by a letter and the others by four hexadecimal digits.
-/

namespace StorageGateway.Json

/-- Four hexadecimal digits. -/
def hexQuad (n : Nat) : List Char :=
  [n / 4096 % 16, n / 256 % 16, n / 16 % 16, n % 16].map Nat.digitChar

/-- One character as it is written in a string. -/
def escapedChar (c : Char) : List Char :=
  if c == '"' then ['\\', '"']
  else if c == '\\' then ['\\', '\\']
  else if c == '\x08' then ['\\', 'b']
  else if c == '\t' then ['\\', 't']
  else if c == '\n' then ['\\', 'n']
  else if c == '\x0c' then ['\\', 'f']
  else if c == '\r' then ['\\', 'r']
  else if c.toNat < 0x20 then ['\\', 'u'] ++ hexQuad c.toNat
  else [c]

/-- A string in quotes. -/
def printString (s : String) : List Char :=
  '"' :: s.toList.flatMap escapedChar ++ ['"']

/-- A number. -/
def printNumber : JsonNumber → List Char
  | .int value => (toString value).toList
  | .float value => value.render

mutual

/-- The characters of a value. -/
def print : Json → List Char
  | .null => "null".toList
  | .bool true => "true".toList
  | .bool false => "false".toList
  | .number n => printNumber n
  | .string s => printString s
  | .array items => '[' :: printItems items
  | .object members => '\x7b' :: printMembers members
termination_by structural value => value

/-- The items of an array and its closing bracket. -/
def printItems : List Json → List Char
  | [] => [']']
  | [item] => print item ++ [']']
  | item :: items => print item ++ ',' :: printItems items
termination_by structural items => items

/-- The members of an object and its closing brace. -/
def printMembers : List (String × Json) → List Char
  | [] => ['\x7d']
  | [m] => printMember m ++ ['\x7d']
  | m :: members => printMember m ++ ',' :: printMembers members
termination_by structural members => members

/-- One member: its name and its value. -/
def printMember : String × Json → List Char
  | (name, value) => printString name ++ ':' :: print value
termination_by structural m => m

end

/-- The text of a value. -/
def render (value : Json) : String := String.ofList value.print

end StorageGateway.Json
