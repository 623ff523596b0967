import StorageGateway.Group
import StorageGateway.Services.Plan

/-!
# The system API

The host and its services are served at `v1alpha1`.
-/

namespace StorageGateway.Services

open Host

/-- The method that tells the serial number of the host. -/
def serialNumberRoute : Route Machine :=
  Plan.route (.passthrough "GetBIOSSerialNumber") (.empty "GetBiosSerialNumberRequest")
    serialNumberSchema serialNumber

/-- The method that tells what a service is doing. -/
def serviceRoute : Route Machine :=
  Plan.route (.passthrough "GetService") (nameRequest "GetServiceRequest") Service.schema service

/-- The method that starts a service. -/
def startRoute : Route Machine :=
  Plan.route (.passthrough "StartService") (nameRequest "StartServiceRequest")
    (.empty "StartServiceResponse") start

/-- The method that stops a service. -/
def stopRoute : Route Machine :=
  Plan.route (.passthrough "StopService") Stop.schema (.empty "StopServiceResponse") stop

/-- The system API. -/
def alphaAdapter : Adapter Machine where
  group := Group.system.name
  version := Group.draft .alpha 1
  routes := [serialNumberRoute, serviceRoute, startRoute, stopRoute]

/-- The system API at all its versions. -/
def adapters : List (Adapter Machine) := [alphaAdapter]

end StorageGateway.Services
