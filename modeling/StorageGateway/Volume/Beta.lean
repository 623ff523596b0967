import StorageGateway.Volume.Model

/-!
# Volumes before the first stable version

In `v1beta3` disks are addressed by the decimal text of their numbers, no partition can be singled
out, and paths and sizes go by other names. The disk that a volume is on is a number of 64 bits.
-/

namespace StorageGateway.Volume.Beta

/-- The schema of a request for the volumes on a disk. -/
def onDiskSchema : Schema String := .single "ListVolumesOnDiskRequest" "disk_id" .string

/-- All volumes on the disk of a text. -/
def decodeOnDisk : Conversion String OnDisk := fun disk => do
  .ok ⟨← Conversion.parseU32 "disk_id" disk, 0⟩

/-- The schema of a request about where a volume is mounted. -/
def mountingSchema (name : String) : Schema Mounting := Mounting.schemaWith "path" name

/-- The schema of a request for another size. -/
def resizingSchema : Schema Resizing := Resizing.schemaWith "size"

/-- The schema of the size of a volume. -/
def usageSchema : Schema Usage := Usage.schemaWith "volume_size" "volume_used_size"

/-- The schema of the disk that a volume is on. -/
def diskSchema : Schema Int64 := .single "GetVolumeDiskNumberResponse" "disk_number" .i64

/-- The number of a disk in 64 bits. -/
def encodeDisk : Conversion UInt32 Int64 := fun disk => .ok (.ofInt disk.toNat)

end StorageGateway.Volume.Beta
