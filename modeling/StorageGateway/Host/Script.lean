/-!
# Host scripts

The host is driven by PowerShell scripts. A script is put together from code, which is the gateway's
own, and literals, which may hold anything a caller sends. A literal is written between single
quotes with every single quote in it doubled, so that it cannot end early. Code holds no single
quotes.
-/

namespace StorageGateway.Host

/-- A piece of a script. -/
inductive Fragment where
  /-- Code, without single quotes. -/
  | code (text : String)
  /-- A string literal with the given value. -/
  | literal (value : String)
deriving DecidableEq, Repr

/-- A number. -/
def Fragment.number (n : Int) : Fragment := .code (toString n)

/-- A script. -/
abbrev Script := List Fragment

namespace Script

/-- The characters of a value with every single quote doubled. -/
def doubleQuotes (value : List Char) : List Char :=
  value.flatMap fun c => if c == '\'' then ['\'', '\''] else [c]

/-- The characters of a literal. -/
def literalChars (value : String) : List Char :=
  '\'' :: doubleQuotes value.toList ++ ['\'']

/-- The text of a literal. -/
def quote (value : String) : String := String.ofList (literalChars value)

/-- The characters of a piece of a script. -/
def fragmentChars : Fragment → List Char
  | .code text => text.toList
  | .literal value => literalChars value

/-- The characters of a script. -/
def chars (script : Script) : List Char := script.flatMap fragmentChars

/-- The text of a script. -/
def text (script : Script) : String := String.ofList script.chars

/-- The word for a truth value. -/
def truth (value : Bool) : String := if value then "$true" else "$false"

end Script

end StorageGateway.Host
