import StorageGateway.Text.Hidden

/-!
# Quoted text

Text shown inside a message stands between double quotes. A quote and a backslash are written after
a backslash, the common control characters by their letter, and every other character without a
visible form by its number in hexadecimal between braces, so that a message never hides what it
quotes.
-/

namespace StorageGateway.Text

/-- The opening brace of a character number. -/
def openBrace : Char := '\x7b'

/-- The closing brace of a character number. -/
def closeBrace : Char := '\x7d'

/-- One character as it is written between the quotes. -/
def quotedChar (c : Char) : List Char :=
  if c == '"' then ['\\', '"']
  else if c == '\\' then ['\\', '\\']
  else if c == '\n' then ['\\', 'n']
  else if c == '\r' then ['\\', 'r']
  else if c == '\t' then ['\\', 't']
  else if c == '\x00' then ['\\', '0']
  else if isHidden c then
    ['\\', 'u', openBrace] ++ Nat.toDigits 16 c.toNat ++ [closeBrace]
  else [c]

/-- A text between double quotes. -/
def quoted (s : String) : String :=
  String.ofList ('"' :: s.toList.flatMap quotedChar ++ ['"'])

end StorageGateway.Text
