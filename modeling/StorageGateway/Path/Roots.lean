import StorageGateway.Fault
import StorageGateway.Path.Basic

/-!
# Permitted roots

Every operation that takes a path is confined to two directories: the one with the volumes of pods
and the one with the state of plugins. A path is admitted when, lexically resolved, it is one of the
roots or lies below one; names are compared whole, so a sibling whose name merely begins like a
root's is outside.
-/

namespace StorageGateway

/-- The two directories that paths are confined to, as names from the root of the file system. -/
structure Roots where
  /-- The directory with the volumes of pods. -/
  kubelet : List String
  /-- The directory with the state of plugins. -/
  plugin : List String
deriving DecidableEq, Repr

namespace Roots

/-- The names of a root, which has to be absolute. -/
def rootNames (text : String) : Except Fault (List String) :=
  let path := Path.ofText text
  if path.absolute then .ok path.names
  else .error (.configuration ("Path root must be absolute: " ++ path.text))

/-- The roots with the given paths. -/
def make (kubelet plugin : String) : Except Fault Roots := do
  .ok ⟨← rootNames kubelet, ← rootNames plugin⟩

/-- Whether names from the root of the file system lead to a root or below one. -/
def covers (roots : Roots) (names : List String) : Bool :=
  roots.kubelet.isPrefixOf names || roots.plugin.isPrefixOf names

/-- The names of an admitted path, lexically resolved. -/
def allow (roots : Roots) (text : String) : Except Fault (List String) :=
  let path := Path.ofText text
  if !path.absolute then .error (.invalidArgument ("path must be absolute: " ++ text))
  else if roots.covers path.names then .ok path.names
  else .error (.outsideRoots path.text)

end Roots

end StorageGateway
