import StorageGateway.Version.Basic

/-!
# API groups

The groups of storage operations, the versions each is served at, and the order in which their
endpoints are wired up.
-/

namespace StorageGateway

/-- A group of operations that is versioned on its own. -/
inductive Group where
  /-- Directories and links below the permitted roots. -/
  | filesystem
  /-- Disks and their state. -/
  | disk
  /-- Volumes and where they are mounted. -/
  | volume
  /-- Mappings of SMB shares. -/
  | smb
  /-- iSCSI portals, sessions and their disks. -/
  | iscsi
  /-- The host itself and its services. -/
  | system
deriving DecidableEq, Repr

namespace Group

/-- All groups, in the order in which their endpoints are wired up. -/
def all : List Group := [.filesystem, .disk, .volume, .smb, .iscsi, .system]

/-- The name of a group. -/
def name : Group → String
  | .filesystem => "filesystem"
  | .disk => "disk"
  | .volume => "volume"
  | .smb => "smb"
  | .iscsi => "iscsi"
  | .system => "system"

/-- The group with a name. -/
def ofName? (name : String) : Option Group := all.find? fun group => group.name == name

/-- The first stable version. -/
def v1 : Version := ⟨1, 0, 0, none⟩

/-- A numbered draft of the first version. -/
def draft (stage : Stage) (number : UInt64) : Version := ⟨1, 0, 0, some ⟨stage, some number⟩⟩

/-- The versions that a group is served at, the oldest first. -/
def versions : Group → List Version
  | .filesystem => [draft .beta 1, v1]
  | .disk => [draft .beta 3, v1]
  | .volume => [draft .beta 3, v1]
  | .smb => [draft .beta 2, v1]
  | .iscsi => [draft .alpha 1, draft .alpha 2, v1]
  | .system => [draft .alpha 1]

end Group

end StorageGateway
