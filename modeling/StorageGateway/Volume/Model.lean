import StorageGateway.Adapter.Conversion

/-!
# Volumes

What is asked and told about volumes: which of them are on a disk, where they are mounted, whether
they are formatted and how large they are. Volumes are addressed by the identifiers that the host
gives them.
-/

namespace StorageGateway.Volume

/-- Asks for the volumes on a disk. -/
structure OnDisk where
  /-- The disk. -/
  disk : UInt32
  /-- The only partition to look at; zero for all of them. -/
  partition : UInt32
deriving DecidableEq, Repr

/-- Names a volume and the path at which it is mounted or to be mounted. -/
structure Mounting where
  /-- The volume. -/
  volume : String
  /-- The path. -/
  path : String
deriving DecidableEq, Repr

/-- Asks for another size. -/
structure Resizing where
  /-- The volume. -/
  volume : String
  /-- The size in bytes; zero for the greatest size there is. -/
  size : Int64
deriving DecidableEq, Repr

/-- The size of a volume, in bytes. -/
structure Usage where
  /-- The whole size. -/
  total : Int64
  /-- How much of it is in use. -/
  used : Int64
deriving DecidableEq, Repr

/-! ## The stable schemas -/

/-- A request that names a volume. -/
def volumeRequest (name : String) : Schema String := .single name "volume_id" .string

/-- The schema of a request for the volumes on a disk. -/
def OnDisk.schema : Schema OnDisk where
  read := .record "ListVolumesOnDiskRequest" <|
    OnDisk.mk <$> .required "disk_number" .u32 <*> .defaulted "partition_number" .u32 0
  write r :=
    .object [("disk_number", .nat r.disk.toNat), ("partition_number", .nat r.partition.toNat)]

/-- The schema of a list of volumes. -/
def volumesSchema : Schema (List String) :=
  .single "ListVolumesOnDiskResponse" "volume_ids" (.list .string)

/-- The schema of a request about where a volume is mounted, with a name for the path. -/
def Mounting.schemaWith (path name : String) : Schema Mounting where
  read := .record name <| Mounting.mk <$> .required "volume_id" .string <*> .required path .string
  write m := .ofMembers [("volume_id", .string m.volume), (path, .string m.path)]

/-- The schema of a request about where a volume is mounted. -/
def Mounting.schema (name : String) : Schema Mounting := Mounting.schemaWith "target_path" name

/-- The schema of a request for another size, with a name for the size. -/
def Resizing.schemaWith (size : String) : Schema Resizing where
  read := .record "ResizeVolumeRequest" <|
    Resizing.mk <$> .required "volume_id" .string <*> .required size .i64
  write r := .ofMembers [("volume_id", .string r.volume), (size, .int r.size.toInt)]

/-- The schema of a request for another size. -/
def Resizing.schema : Schema Resizing := Resizing.schemaWith "size_bytes"

/-- The schema of the size of a volume, with names for the whole and for what is in use. -/
def Usage.schemaWith (total used : String) : Schema Usage where
  read := .record "GetVolumeStatsResponse" <|
    Usage.mk <$> .required total .i64 <*> .required used .i64
  write u := .ofMembers [(total, .int u.total.toInt), (used, .int u.used.toInt)]

/-- The schema of the size of a volume. -/
def Usage.schema : Schema Usage := Usage.schemaWith "total_bytes" "used_bytes"

/-- The schema of whether a volume is formatted. -/
def formattedSchema : Schema Bool := .single "IsVolumeFormattedResponse" "formatted" .bool

/-- The schema of the disk that a volume is on. -/
def diskSchema : Schema UInt32 := .single "GetDiskNumberFromVolumeIdResponse" "disk_number" .u32

end StorageGateway.Volume
