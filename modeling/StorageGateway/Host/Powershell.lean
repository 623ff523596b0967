import StorageGateway.Host.Shell
import StorageGateway.Text.Utf8

/-!
# The PowerShell executable

A script is handed to the executable as its last argument. It has succeeded when the process ends
with code zero, and then its output is what was written to standard output. Otherwise the fault
names the first cmdlet of the script, a word such as `Get-Disk`, and shows what was written to
standard error.
-/

namespace StorageGateway.Host.Powershell

/-- The executable that is used unless another one is given. -/
def defaultProgram : String := "pwsh"

/-- The arguments that run a script. -/
def arguments (script : String) : List String :=
  ["-NoProfile", "-NonInteractive", "-Command", script]

/-- Whether a word is the name of a cmdlet: a capital letter in front and a dash somewhere. -/
def isCmdlet : List Char → Bool
  | [] => false
  | c :: rest => 'A' ≤ c && c ≤ 'Z' && (c :: rest).contains '-'

/-- The first cmdlet of a script, opening parentheses aside; the whole script when it has none. -/
def commandName (script : String) : String :=
  let words := (Text.words script.toList).map fun word => word.dropWhile (· == '(')
  match words.find? isCmdlet with
  | some word => String.ofList word
  | none => script

/-- Why a process cannot be started. -/
inductive Obstacle where
  /-- The name of the executable, an argument or a variable holds the character zero. -/
  | zeroCharacter
  /-- There is no such executable. -/
  | noProgram
deriving DecidableEq, Repr

/-- The words for what stands in the way of a process. -/
def Obstacle.reason : Obstacle → String
  | .zeroCharacter => "nul byte found in provided data"
  | .noProgram => "No such file or directory (os error 2)"

/-- How a process ends: with a code, or with none when a signal killed it, and with what it has
written. -/
structure Ending where
  /-- The code. -/
  code : Option Int
  /-- The bytes written to standard output. -/
  stdout : List UInt8
  /-- The bytes written to standard error. -/
  stderr : List UInt8

/-- An executable: how it ends with the given arguments and variables. -/
abbrev Executable := List String → Environment → Ending

/-- Whether a text can be handed to a process. -/
def isPassable (text : String) : Bool := !text.toList.contains '\x00'

/-- Starts a process with the executable of the given name, if there is one. -/
def start (program : String) (executable : Option Executable) (arguments : List String)
    (environment : Environment) : Except Obstacle Ending :=
  if (program :: arguments).all isPassable && environment.all fun entry => isPassable entry.2 then
    match executable with
    | some executable => .ok (executable arguments environment)
    | none => .error .noProgram
  else .error .zeroCharacter

/-- The output of a process, or how it failed. -/
def Ending.output (ending : Ending) : Except String String :=
  if ending.code = some 0 then .ok (Text.Utf8.lenient ending.stdout)
  else
    .error ("exit code " ++ toString (ending.code.getD (-1)) ++ ": " ++
      Text.trim (Text.Utf8.lenient ending.stderr))

/-- Runs a script with the executable of the given name, if there is one. -/
def run (program : String) (executable : Option Executable) (invocation : Invocation) :
    Except Fault String :=
  let failed (message : String) : Except Fault String :=
    .error (.commandFailed (commandName invocation.script) message)
  match start program executable (arguments invocation.script) invocation.environment with
  | .error obstacle => failed ("failed to execute " ++ program ++ ": " ++ obstacle.reason)
  | .ok ending =>
    match ending.output with
    | .ok output => .ok output
    | .error message => failed message

/-- A shell that runs scripts with an executable. -/
def shell (program : String) (executable : Option Executable) : Shell where
  answer _ invocation := run program executable invocation

end StorageGateway.Host.Powershell
