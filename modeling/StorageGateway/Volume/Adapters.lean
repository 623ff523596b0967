import StorageGateway.Group
import StorageGateway.Volume.Beta
import StorageGateway.Volume.Plan

/-!
# The volume API

Volumes are served at `v1beta3` and at `v1`.
-/

namespace StorageGateway.Volume

open Host

/-- The method that lists the volumes on a disk. -/
def listRoute {Wire : Type} (decode : Conversion Wire OnDisk) (request : Schema Wire) :
    Route Machine :=
  Plan.route ⟨"ListVolumesOnDisk", none, decode, .same⟩ request volumesSchema list

/-- The method that mounts a volume. -/
def mountRoute (request : String → Schema Mounting) : Route Machine :=
  Plan.route (.passthrough "MountVolume") (request "MountVolumeRequest")
    (.empty "MountVolumeResponse") mount

/-- The method that unmounts a volume. -/
def unmountRoute (request : String → Schema Mounting) : Route Machine :=
  Plan.route (.passthrough "UnmountVolume") (request "UnmountVolumeRequest")
    (.empty "UnmountVolumeResponse") unmount

/-- The method that tells whether a volume is formatted. -/
def isFormattedRoute : Route Machine :=
  Plan.route (.passthrough "IsVolumeFormatted") (volumeRequest "IsVolumeFormattedRequest")
    formattedSchema isFormatted

/-- The method that formats a volume. -/
def formatRoute : Route Machine :=
  Plan.route (.passthrough "FormatVolume") (volumeRequest "FormatVolumeRequest")
    (.empty "FormatVolumeResponse") format

/-- The method that gives a volume another size. -/
def resizeRoute (request : Schema Resizing) : Route Machine :=
  Plan.route (.passthrough "ResizeVolume") request (.empty "ResizeVolumeResponse") resize

/-- The method that tells the size of a volume. -/
def usageRoute (response : Schema Usage) : Route Machine :=
  Plan.route (.passthrough "GetVolumeStats") (volumeRequest "GetVolumeStatsRequest") response usage

/-- The method that tells the disk of a volume, under its stable name. -/
def diskRoute : Route Machine :=
  Plan.route (.passthrough "GetDiskNumberFromVolumeID")
    (volumeRequest "GetDiskNumberFromVolumeIdRequest") diskSchema disk

/-- The method that tells the disk of a volume, as it was called before. -/
def betaDiskRoute : Route Machine :=
  let wire := volumeRequest "GetVolumeDiskNumberRequest"
  Plan.route
    ⟨"GetVolumeDiskNumber", none,
      .structural wire (volumeRequest "GetDiskNumberFromVolumeIdRequest"), Beta.encodeDisk⟩
    wire Beta.diskSchema disk

/-- The volume API before it was stable. -/
def betaAdapter : Adapter Machine where
  group := Group.volume.name
  version := Group.draft .beta 3
  routes := [
    listRoute Beta.decodeOnDisk Beta.onDiskSchema,
    mountRoute Beta.mountingSchema,
    unmountRoute Beta.mountingSchema,
    isFormattedRoute,
    formatRoute,
    resizeRoute Beta.resizingSchema,
    usageRoute Beta.usageSchema,
    betaDiskRoute]

/-- The stable volume API. -/
def stableAdapter : Adapter Machine where
  group := Group.volume.name
  version := Group.v1
  routes := [
    listRoute .same OnDisk.schema,
    mountRoute Mounting.schema,
    unmountRoute Mounting.schema,
    isFormattedRoute,
    formatRoute,
    resizeRoute Resizing.schema,
    usageRoute Usage.schema,
    diskRoute]

/-- The volume API at all its versions, the oldest first. -/
def adapters : List (Adapter Machine) := [betaAdapter, stableAdapter]

/-- Whether the service breaks down over a call where arithmetic is checked. Only what is in use of
a volume is found by arithmetic, and the request for it is the same at all versions. -/
def breaksDown (method : String) (params : Json) (machine : Machine) : Bool :=
  method == (usageRoute Usage.schema).name &&
    match (volumeRequest "GetVolumeStatsRequest").read.ofJson params with
    | .error _ => false
    | .ok volume => usageBreaksDown volume machine

end StorageGateway.Volume
