import StorageGateway.Host.Machine
import StorageGateway.Services.Model

/-!
# Service operations on the host

Each operation on services comes down to one script. A request that does not name a service is
turned away.
-/

namespace StorageGateway.Services

open Host

/-- Reads the host's answer about a service. -/
def serviceRow : Json.Reader Service :=
  .record "ServiceRow" <|
    Service.mk <$> .required "DisplayName" .string <*> .required "StartType" .string
      <*> .required "Status" .string

/-- Turns away a request that does not name a service. -/
def requireName (name : String) : Except Fault Unit :=
  if Text.isBlankText name then .error (.invalidArgument "service name must not be empty")
  else .ok ()

/-- The serial number of the host; empty when it has none. -/
def serialNumber (_ : Unit) : Plan String := .ok {
  script := [.code "(Get-CimInstance -ClassName Win32_BIOS).SerialNumber | ConvertTo-Json"]
  meaning output :=
    (Output.value Json.Reader.string.optional "Get-CimInstance" output).map fun number =>
      number.getD "" }

/-- What a service is doing. -/
def service (name : String) : Plan Service := .checked (requireName name) {
  script := [.code "Get-Service -Name ", .literal name,
    .code " -ErrorAction SilentlyContinue | Select-Object DisplayName, @\x7bn=",
    .literal "StartType", .code ";e=\x7b$_.StartType.ToString()\x7d\x7d, @\x7bn=",
    .literal "Status", .code ";e=\x7b$_.Status.ToString()\x7d\x7d | ConvertTo-Json"]
  meaning output :=
    if Output.isEmpty output then .error (.notFound ("service " ++ name))
    else Output.value serviceRow "Get-Service" output }

/-- Starts a service. -/
def start (name : String) : Plan Unit := .checked (requireName name) {
  script := [.code "Start-Service -Name ", .literal name]
  meaning := Output.nothing }

/-- Stops a service. -/
def stop (request : Stop) : Plan Unit := .checked (requireName request.name) {
  script := [.code "Stop-Service -Name ", .literal request.name,
    .code (" -Force:" ++ Script.truth request.force)]
  meaning := Output.nothing }

end StorageGateway.Services
