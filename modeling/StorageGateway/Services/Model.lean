import StorageGateway.Adapter.Conversion

/-!
# The host and its services

What is asked and told about the host itself and the services that run on it.
-/

namespace StorageGateway.Services

/-- A service. -/
structure Service where
  /-- The name it is shown under. -/
  displayName : String
  /-- When it is started, in the host's words. -/
  startType : String
  /-- What it is doing, in the host's words. -/
  status : String
deriving DecidableEq, Repr

/-- Asks for a service to be stopped. -/
structure Stop where
  /-- The service. -/
  name : String
  /-- Whether services that depend on it are stopped as well. -/
  force : Bool
deriving DecidableEq, Repr

/-- A request that names a service. -/
def nameRequest (name : String) : Schema String := .single name "name" .string

/-- The schema of a request to stop a service. -/
def Stop.schema : Schema Stop where
  read := .record "StopServiceRequest" <|
    Stop.mk <$> .required "name" .string <*> .defaulted "force" .bool false
  write s := .object [("force", .bool s.force), ("name", .string s.name)]

/-- The schema of a service. -/
def Service.schema : Schema Service where
  read := .record "GetServiceResponse" <|
    Service.mk <$> .required "display_name" .string <*> .required "start_type" .string
      <*> .required "status" .string
  write s := .object [("display_name", .string s.displayName),
    ("start_type", .string s.startType), ("status", .string s.status)]

/-- The schema of the serial number of the host. -/
def serialNumberSchema : Schema String :=
  .single "GetBiosSerialNumberResponse" "serial_number" .string

end StorageGateway.Services
