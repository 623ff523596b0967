import StorageGateway.Adapter.Conversion

/-!
# Disks

What is asked and told about disks: where they are attached, what identifies them, how large they
are and whether they are online. Disks are addressed by their numbers.
-/

namespace StorageGateway.Disk

/-- Where a disk is attached, as the host words it. -/
structure Location where
  /-- The adapter. -/
  adapter : String
  /-- The bus, called port by the host. -/
  bus : String
  /-- The target. -/
  target : String
  /-- The logical unit. -/
  lun : String
deriving DecidableEq, Repr

/-- The schema of a location. -/
def Location.schema : Schema Location where
  read := .record "DiskLocation" <|
    Location.mk <$> .required "adapter" .string <*> .required "bus" .string
      <*> .required "target" .string <*> .required "lun_id" .string
  write l := .object [("adapter", .string l.adapter), ("bus", .string l.bus),
    ("lun_id", .string l.lun), ("target", .string l.target)]

/-- What identifies a disk. -/
structure Identity where
  /-- The identifier of the device. -/
  page83 : String
  /-- The serial number. -/
  serialNumber : String
deriving DecidableEq, Repr

/-- The schema of an identity. -/
def Identity.schema : Schema Identity where
  read := .record "DiskIds" <|
    Identity.mk <$> .required "page83" .string <*> .required "serial_number" .string
  write i := .object [("page83", .string i.page83), ("serial_number", .string i.serialNumber)]

/-- Locations by disk number. -/
abbrev Locations := Table UInt32 Location

/-- Identities by disk number. -/
abbrev Identities := Table UInt32 Identity

/-- Asks for a disk to be brought online or taken offline. -/
structure SetState where
  /-- The disk. -/
  number : UInt32
  /-- Whether it shall be online. -/
  isOnline : Bool
deriving DecidableEq, Repr

/-! ## The stable schemas -/

/-- A request that names a disk. -/
def numberRequest (name : String) : Schema UInt32 := .single name "disk_number" .u32

/-- The schema of a change of state. -/
def SetState.schema : Schema SetState where
  read := .record "SetDiskStateRequest" <|
    SetState.mk <$> .required "disk_number" .u32 <*> .required "is_online" .bool
  write s := .object [("disk_number", .nat s.number.toNat), ("is_online", .bool s.isOnline)]

/-- The schema of a list of locations. -/
def locationsSchema : Schema Locations :=
  .single "ListDiskLocationsResponse" "disk_locations" (.numbered Location.schema)

/-- The schema of a list of identities. -/
def identitiesSchema : Schema Identities :=
  .single "ListDiskIdsResponse" "disk_ids" (.numbered Identity.schema)

/-- The schema of the size of a disk. -/
def sizeSchema : Schema Int64 := .single "GetDiskStatsResponse" "total_bytes" .i64

/-- The schema of whether a disk is online. -/
def onlineSchema : Schema Bool := .single "GetDiskStateResponse" "is_online" .bool

end StorageGateway.Disk
