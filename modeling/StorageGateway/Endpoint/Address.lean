import StorageGateway.Path.Basic
import StorageGateway.Settings
import StorageGateway.Version.Basic

/-!
# Addresses of endpoints

Every version of a group is served at an address of its own, a socket whose file name is made of the
name of the group and the version.
-/

namespace StorageGateway.Endpoint

/-- The file name of the socket of a version of a group. -/
def socketName (group : String) (version : Version) : String :=
  group ++ "-" ++ version.text ++ socketSuffix

/-- The address of a version of a group, below a directory for sockets. -/
def address (directory group : String) (version : Version) : String :=
  Path.join directory (socketName group version)

end StorageGateway.Endpoint
