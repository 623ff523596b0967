import StorageGateway.Group
import StorageGateway.Iscsi.Plan

/-!
# The iSCSI API

iSCSI is served at `v1alpha1`, `v1alpha2` and `v1`. Both alpha versions have ports of 16 bits: their
requests are widened structurally, and the ports they list are narrowed one by one. Changing the
secret that targets log in with came with `v1alpha2`.
-/

namespace StorageGateway.Iscsi

open Host

/-- The schemas of the requests and responses in which ports occur, for one width of ports, and how
they are converted. -/
structure Wire (Port : Type) where
  /-- The schema of a port. -/
  port : Schema Port
  /-- Converts a request that names a portal. -/
  portal : String → Conversion (Portal Port) (Portal UInt32)
  /-- Converts a request that names a target. -/
  target : String → Conversion (Target Port) (Target UInt32)
  /-- Converts a request to connect a target. -/
  login : Conversion (Login Port) (Login UInt32)
  /-- Converts a list of portals. -/
  portals : Conversion (List (Portal UInt32)) (List (Portal Port))

/-- The stable schemas. -/
def Wire.stable : Wire UInt32 where
  port := .u32
  portal _ := .same
  target _ := .same
  login := .same
  portals := .same

/-- Narrows the ports of a list of portals. -/
def encodePortals : Conversion (List (Portal UInt32)) (List (Portal UInt16)) := fun portals =>
  portals.mapM (Portal.mapPort (Conversion.narrowU16 "target_port"))

/-- The schemas of the alpha versions. -/
def Wire.alpha : Wire UInt16 where
  port := .u16
  portal name := .structural (portalRequest .u16 name) (portalRequest .u32 name)
  target name := .structural (targetRequest .u16 name) (targetRequest .u32 name)
  login := .structural (Login.schema .u16) (Login.schema .u32)
  portals := encodePortals

section
variable {Port : Type} (wire : Wire Port)

/-- A method about a portal. -/
def portalRoute {Response : Type} (method request : String) (response : Schema Response)
    (plan : Portal UInt32 → Plan Response) : Route Machine :=
  Plan.route ⟨method, none, wire.portal request, .same⟩
    (portalRequest wire.port request) response plan

/-- A method about a target. -/
def targetRoute {Response : Type} (method request : String) (response : Schema Response)
    (plan : Target UInt32 → Plan Response) : Route Machine :=
  Plan.route ⟨method, none, wire.target request, .same⟩
    (targetRequest wire.port request) response plan

/-- The method that makes a portal known. -/
def addPortalRoute : Route Machine :=
  portalRoute wire "AddTargetPortal" "AddTargetPortalRequest" (.empty "AddTargetPortalResponse")
    addPortal

/-- The method that lists the targets at a portal. -/
def discoverRoute : Route Machine :=
  portalRoute wire "DiscoverTargetPortal" "DiscoverTargetPortalRequest" targetsSchema discover

/-- The method that lists the portals. -/
def listPortalsRoute : Route Machine :=
  Plan.route ⟨"ListTargetPortals", none, .same, wire.portals⟩ (.empty "ListTargetPortalsRequest")
    (portalsSchema wire.port) listPortals

/-- The method that forgets a portal. -/
def removePortalRoute : Route Machine :=
  portalRoute wire "RemoveTargetPortal" "RemoveTargetPortalRequest"
    (.empty "RemoveTargetPortalResponse") removePortal

/-- The method that connects a target. -/
def connectRoute : Route Machine :=
  Plan.route ⟨"ConnectTarget", none, wire.login, .same⟩ (Login.schema wire.port)
    (.empty "ConnectTargetResponse") connect

/-- The method that disconnects a target. -/
def disconnectRoute : Route Machine :=
  targetRoute wire "DisconnectTarget" "DisconnectTargetRequest" (.empty "DisconnectTargetResponse")
    disconnect

/-- The method that lists the disks behind a target. -/
def disksRoute : Route Machine :=
  targetRoute wire "GetTargetDisks" "GetTargetDisksRequest" disksSchema disks

/-- The method that changes the secret that targets log in with. -/
def secretRoute (since : Option Version) : Route Machine :=
  Plan.route ⟨"SetMutualChapSecret", since, .same, .same⟩ secretRequest
    (.empty "SetMutualChapSecretResponse") setSecret

/-- The methods for one width of ports. -/
def routes (secretSince : Option Version) : List (Route Machine) :=
  [addPortalRoute wire, discoverRoute wire, listPortalsRoute wire, removePortalRoute wire,
    connectRoute wire, disconnectRoute wire, disksRoute wire, secretRoute secretSince]

end

/-- The iSCSI API at an alpha version. -/
def alphaAdapter (number : UInt64) : Adapter Machine where
  group := Group.iscsi.name
  version := Group.draft .alpha number
  routes := routes .alpha (some (Group.draft .alpha 2))

/-- The stable iSCSI API. -/
def stableAdapter : Adapter Machine where
  group := Group.iscsi.name
  version := Group.v1
  routes := routes .stable none

/-- The iSCSI API at all its versions, the oldest first. -/
def adapters : List (Adapter Machine) := [alphaAdapter 1, alphaAdapter 2, stableAdapter]

end StorageGateway.Iscsi
