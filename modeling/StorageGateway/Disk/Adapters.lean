import StorageGateway.Disk.Beta
import StorageGateway.Disk.Plan
import StorageGateway.Group

/-!
# The disk API

Disks are served at `v1beta3` and at `v1`.
-/

namespace StorageGateway.Disk

open Host

/-- The method that lists where disks are attached. -/
def listLocationsRoute {Wire : Type} (encode : Conversion Locations Wire) (response : Schema Wire) :
    Route Machine :=
  Plan.route ⟨"ListDiskLocations", none, .same, encode⟩ (.empty "ListDiskLocationsRequest") response
    listLocations

/-- The method that lists what identifies disks. -/
def listIdentitiesRoute {Wire : Type} (encode : Conversion Identities Wire)
    (response : Schema Wire) :
    Route Machine :=
  Plan.route ⟨"ListDiskIDs", none, .same, encode⟩ (.empty "ListDiskIdsRequest") response
    listIdentities

/-- The method that makes the host look for disks again. -/
def rescanRoute : Route Machine :=
  Plan.route (.passthrough "Rescan") (.empty "RescanRequest") (.empty "RescanResponse") rescan

/-- The method that partitions a disk. -/
def partitionRoute {Wire : Type} (decode : Conversion Wire UInt32)
    (request : String → Schema Wire) :
    Route Machine :=
  Plan.route ⟨"PartitionDisk", none, decode, .same⟩ (request "PartitionDiskRequest")
    (.empty "PartitionDiskResponse") partition

/-- The method that tells the size of a disk. -/
def sizeRoute {Wire : Type} (decode : Conversion Wire UInt32) (request : String → Schema Wire)
    (response : Schema Int64) : Route Machine :=
  Plan.route ⟨"GetDiskStats", none, decode, .same⟩ (request "GetDiskStatsRequest") response size

/-- The method that brings a disk online or takes it offline. -/
def setStateRoute {Wire : Type} (method : String) (decode : Conversion Wire SetState)
    (request : Schema Wire) : Route Machine :=
  Plan.route ⟨method, none, decode, .same⟩ request (.empty "SetDiskStateResponse") setState

/-- The method that tells whether a disk is online. -/
def getStateRoute {Wire : Type} (method : String) (decode : Conversion Wire UInt32)
    (request : Schema Wire) : Route Machine :=
  Plan.route ⟨method, none, decode, .same⟩ request onlineSchema isOnline

/-- The disk API before it was stable. -/
def betaAdapter : Adapter Machine where
  group := Group.disk.name
  version := Group.draft .beta 3
  routes := [
    listLocationsRoute Beta.encodeLocations Beta.locationsSchema,
    partitionRoute Beta.decodeDisk Beta.diskRequest,
    rescanRoute,
    listIdentitiesRoute Beta.encodeIdentities Beta.identitiesSchema,
    sizeRoute Beta.decodeDisk Beta.diskRequest Beta.sizeSchema,
    setStateRoute "SetAttachState" Beta.decodeSetAttachState Beta.SetAttachState.schema,
    getStateRoute "GetAttachState" Beta.decodeDisk (Beta.diskRequest "GetAttachStateRequest")]

/-- The stable disk API. -/
def stableAdapter : Adapter Machine where
  group := Group.disk.name
  version := Group.v1
  routes := [
    listLocationsRoute .same locationsSchema,
    partitionRoute .same numberRequest,
    rescanRoute,
    listIdentitiesRoute .same identitiesSchema,
    sizeRoute .same numberRequest sizeSchema,
    setStateRoute "SetDiskState" .same SetState.schema,
    getStateRoute "GetDiskState" .same (numberRequest "GetDiskStateRequest")]

/-- The disk API at all its versions, the oldest first. -/
def adapters : List (Adapter Machine) := [betaAdapter, stableAdapter]

end StorageGateway.Disk
