import StorageGateway.Disk.Model

/-!
# Disks before the first stable version

In `v1beta3` disks are addressed by the decimal text of their numbers, the size of a disk goes by
another name, and bringing a disk online is called attaching it.
-/

namespace StorageGateway.Disk.Beta

/-! ## Requests -/

/-- Asks for a disk to be attached or detached. -/
structure SetAttachState where
  /-- The number of the disk, as text. -/
  disk : String
  /-- Whether it shall be attached. -/
  isOnline : Bool
deriving DecidableEq, Repr

/-- A request that names a disk. -/
def diskRequest (name : String) : Schema String := .single name "disk_id" .string

/-- The schema of a request to attach or detach. -/
def SetAttachState.schema : Schema SetAttachState where
  read := .record "SetAttachStateRequest" <|
    SetAttachState.mk <$> .required "disk_id" .string <*> .required "is_online" .bool
  write s := .object [("disk_id", .string s.disk), ("is_online", .bool s.isOnline)]

/-- The number of a disk from its text. -/
def decodeDisk : Conversion String UInt32 := Conversion.parseU32 "disk_id"

/-- Attaching a disk is bringing it online. -/
def decodeSetAttachState : Conversion SetAttachState SetState := fun request => do
  .ok ⟨← decodeDisk request.disk, request.isOnline⟩

/-! ## Responses -/

/-- The schema of a list of locations. -/
def locationsSchema : Schema (Table String Location) :=
  .single "ListDiskLocationsResponse" "disk_locations" (.named Location.schema)

/-- The schema of a list of identities. -/
def identitiesSchema : Schema (Table String Identity) :=
  .single "ListDiskIdsResponse" "disk_ids" (.named Identity.schema)

/-- The schema of the size of a disk. -/
def sizeSchema : Schema Int64 := .single "GetDiskStatsResponse" "disk_size" .i64

/-- Values under the texts of disk numbers instead of the numbers. -/
def byText {α : Type} (table : Table UInt32 α) : Table String α :=
  table.rekey fun number => toString number.toNat

/-- Locations under the texts of disk numbers. -/
def encodeLocations : Conversion Locations (Table String Location) := fun table =>
  .ok (byText table)

/-- Identities under the texts of disk numbers. -/
def encodeIdentities : Conversion Identities (Table String Identity) := fun table =>
  .ok (byText table)

end StorageGateway.Disk.Beta
