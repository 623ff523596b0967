import StorageGateway.Disk.Adapters
import StorageGateway.Files.Adapters
import StorageGateway.Iscsi.Adapters
import StorageGateway.Services.Adapters
import StorageGateway.Smb.Adapters
import StorageGateway.Volume.Adapters

/-!
# All APIs

The adapters of every group over the host.
-/

namespace StorageGateway

open Host

/-- The adapters of a group, the oldest version first. -/
def Group.adapters (roots : Roots) : Group → List (Adapter Machine)
  | .filesystem => Files.adapters roots
  | .disk => Disk.adapters
  | .volume => Volume.adapters
  | .smb => Smb.adapters
  | .iscsi => Iscsi.adapters
  | .system => Services.adapters

/-- The adapters of all groups, in the order in which they are wired up. -/
def allAdapters (roots : Roots) : List (Adapter Machine) := Group.all.flatMap (Group.adapters roots)

/-- The adapter of a version of a group. -/
def adapter? (roots : Roots) (group : String) (version : Version) : Option (Adapter Machine) :=
  (allAdapters roots).find? fun adapter => adapter.group == group && adapter.version == version

/-- Whether an API breaks down over a call where arithmetic is checked. -/
def breaksDown (roots : Roots) (group : String) (version : Version) (method : String)
    (params : Json) (machine : Machine) : Bool :=
  group == Group.volume.name && (adapter? roots group version).isSome &&
    Volume.breaksDown method params machine

end StorageGateway
