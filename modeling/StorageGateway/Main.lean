import StorageGateway.CommandLine
import StorageGateway.Endpoint.Registry
import StorageGateway.Lifecycle.Provisioner

/-!
# The program

Reads the arguments and tells which endpoints the gateway serves with them, and where.
-/

namespace StorageGateway.Program

/-- The text that is shown when help is asked for. -/
def help : String := "\n".intercalate [
  "Usage: " ++ programName ++ " [OPTIONS]",
  "",
  "Options:",
  "      --socket-dir <DIR>     Directory for sockets",
  "      --kubelet-path <DIR>   Directory with the volumes of pods",
  "      --plugin-path <DIR>    Directory with the state of plugins",
  "      --groups <GROUPS>      Groups to serve, with commas between them; all when not given",
  "  -d, --debug                Log in detail",
  "      --json-logs            Log in JSON",
  "  -h, --help                 Show this text"]

/-- A usage error in words. -/
def complaint : CommandLine.UsageError → String
  | .unknownArgument => "unexpected argument"
  | .invalidValue => "a value is missing or empty"
  | .tooManyValues => "an option that takes no value was given one"
  | .argumentConflict => "an option was given more than once"
  | .displayHelp => help

/-- The endpoints that settings ask for, a line for each. -/
def endpointLines (settings : Settings) : Except Fault (List String) :=
  let (outcome, registry) :=
    Endpoint.Registry.registerAll {} settings.roots settings.hosts
  let provisioner := Lifecycle.Provisioner.sockets settings.socketDirectory
  outcome.map fun _ => registry.descriptors.map fun descriptor =>
    descriptor.group ++ " " ++ descriptor.version.text ++ ": " ++
      provisioner.address descriptor.group descriptor.version

/-- What the program prints for its arguments, and the code it ends with. -/
def answer (arguments : List String) (runtimeDirectory : Option String) : List String × UInt32 :=
  match CommandLine.parse arguments with
  | .error .displayHelp => ([help], 0)
  | .error usage => (["error: " ++ complaint usage], 2)
  | .ok parsed =>
    match (parsed.settings runtimeDirectory).bind endpointLines with
    | .ok lines => (lines, 0)
    | .error fault => (["error: " ++ fault.message], 1)

end StorageGateway.Program

/-- Prints the answer to the arguments and ends with its code. -/
def main (arguments : List String) : IO UInt32 := do
  let (lines, code) := StorageGateway.Program.answer arguments (← IO.getEnv "XDG_RUNTIME_DIR")
  for line in lines do
    IO.println line
  return code
