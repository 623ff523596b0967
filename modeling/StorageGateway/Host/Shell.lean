import StorageGateway.Adapter.Basic
import StorageGateway.Host.Script

/-!
# Host commands

A command is one script, the environment it is run in and a way to read what it prints. Secrets are
handed over in the environment and never stand in a script. An operation is planned first: it is
either turned away, or comes down to exactly one command.

A shell answers commands, each with the output of its script or a fault, and remembers what it ran.
-/

namespace StorageGateway.Host

/-- Environment variables and their values. -/
abbrev Environment := List (String × String)

/-- A script as it is run. -/
structure Invocation where
  /-- The text of the script. -/
  script : String
  /-- The variables added to the environment. -/
  environment : Environment
deriving DecidableEq, Repr

/-- A script to run, and what its output means. -/
structure Command (α : Type) where
  /-- The script. -/
  script : Script
  /-- The variables added to the environment. -/
  environment : Environment := []
  /-- The meaning of the output. -/
  meaning : String → Except Fault α

/-- What an operation comes down to: it is turned away, or one command is run. -/
abbrev Plan (α : Type) := Except Fault (Command α)

/-- The plan that is turned away when a check fails, and else comes down to a command. -/
def Plan.checked {α : Type} (check : Except Fault Unit) (command : Command α) : Plan α :=
  match check with
  | .ok () => .ok command
  | .error fault => .error fault

/-- Somebody who runs scripts. -/
structure Shell where
  /-- The answer to a script, which may depend on what has been run before. -/
  answer : List Invocation → Invocation → Except Fault String
  /-- What has been run, in order. -/
  ran : List Invocation := []

namespace Shell

/-- Runs a script. -/
def run (shell : Shell) (invocation : Invocation) : Except Fault String × Shell :=
  (shell.answer shell.ran invocation, { shell with ran := shell.ran ++ [invocation] })

/-- A shell that gives the listed answers one after the other, and nothing once they run out. -/
def scripted (answers : List (Except Fault String)) : Shell where
  answer ran _ := (answers[ran.length]?).getD (.ok "")

end Shell

/-- The script of a command as it is run. -/
def Command.invocation {α : Type} (command : Command α) : Invocation :=
  ⟨command.script.text, command.environment⟩

/-! ## What scripts print -/

namespace Output

/-- The fault of output that does not say what it should. -/
def unexpected (command : String) (refusal : Json.Refusal) : Fault :=
  .commandFailed command ("unexpected output: " ++ refusal.message)

/-- Output that says nothing. -/
def nothing (_ : String) : Except Fault Unit := .ok ()

/-- Whether output is empty but for blanks. -/
def isEmpty (output : String) : Bool := Text.isBlankText output

/-- The value that output holds as JSON. -/
def value {α : Type} (read : Json.Reader α) (command output : String) : Except Fault α :=
  match read.ofString (Text.trim output) with
  | .ok value => .ok value
  | .error refusal => .error (unexpected command refusal)

/-- The value of one item of a list. -/
def item {α : Type} (read : Json.Reader α) (command : String) (json : Json) : Except Fault α :=
  match read.ofJson json with
  | .ok value => .ok value
  | .error refusal => .error (unexpected command refusal)

/-- The values of the items of a list. -/
def items {α : Type} (read : Json.Reader α) (command : String) :
    List Json → Except Fault (List α)
  | [] => .ok []
  | json :: rest => do
    let first ← item read command json
    let others ← items read command rest
    .ok (first :: others)

/-- The values that output lists. Nothing is printed for no value, and a single value is printed
without brackets. -/
def list {α : Type} (read : Json.Reader α) (command output : String) : Except Fault (List α) :=
  if isEmpty output then .ok []
  else match value .json command output with
    | .error fault => .error fault
    | .ok (.array listed) => items read command listed
    | .ok .null => .ok []
    | .ok single => (item read command single).map fun one => [one]

end Output

end StorageGateway.Host
