import StorageGateway.Disk.Model
import StorageGateway.Host.Machine

/-!
# Disk operations on the host

Each operation on disks comes down to one script over the host's storage cmdlets. A listing is read
row by row; a disk that the host says nothing about does not exist.
-/

namespace StorageGateway.Disk

open Host

/-! ## What the host prints -/

/-- A row of the host's list of disks. -/
structure Row where
  /-- The number of the disk. -/
  number : UInt32
  /-- Where it is attached, in words. -/
  location : Option String
  /-- The serial number. -/
  serialNumber : Option String
  /-- The identifier of the device. -/
  uniqueId : Option String
deriving DecidableEq, Repr

/-- Reads a row. -/
def Row.reader : Json.Reader Row :=
  .record "DiskRow" <|
    Row.mk <$> .required "Number" .u32
      <*> .defaulted "Location" Json.Reader.string.optional none
      <*> .defaulted "SerialNumber" Json.Reader.string.optional none
      <*> .defaulted "UniqueId" Json.Reader.string.optional none

/-- The host's answer about one disk. -/
structure StateRow where
  /-- The size in bytes. -/
  size : Int64
  /-- Whether the disk is offline. -/
  isOffline : Bool
deriving DecidableEq, Repr

/-- Reads the answer about one disk. -/
def StateRow.reader : Json.Reader StateRow :=
  .record "DiskStateRow" <| StateRow.mk <$> .required "Size" .i64 <*> .required "IsOffline" .bool

/-! ## Locations in words -/

/-- The text after a beginning, and the run of decimal digits it starts with. -/
def labelled? (label : String) (s : List Char) : Option (String × List Char) := do
  let rest ← Text.afterPrefix? label.toList s
  match rest.takeWhile Text.isDecimalDigit with
  | [] => none
  | digits => some (String.ofList digits, rest.dropWhile Text.isDecimalDigit)

/-- The location that a text starts with. -/
def locationAt? (s : List Char) : Option Location := do
  let (adapter, s) ← labelled? "Adapter " s
  let (bus, s) ← labelled? " : Port " s
  let (target, s) ← labelled? " : Target " s
  let (lun, _) ← labelled? " : LUN " s
  some ⟨adapter, bus, target, lun⟩

/-- The first location in a text. -/
def location? : List Char → Option Location
  | [] => none
  | c :: rest =>
    match locationAt? (c :: rest) with
    | some location => some location
    | none => location? rest

/-- The locations that rows tell; a row without one tells nothing, and a later row counts. -/
def Row.locations (rows : List Row) : Locations :=
  .ofEntries <| rows.filterMap fun row =>
    (row.location.bind fun words => location? words.toList).map fun found => (row.number, found)

/-- The identities that rows tell. -/
def Row.identities (rows : List Row) : Identities :=
  .ofEntries <| rows.map fun row =>
    (row.number, ⟨row.uniqueId.getD "", Text.trim (row.serialNumber.getD "")⟩)

/-! ## Plans -/

/-- Lists all disks. -/
def listing {α : Type} (meaning : List Row → α) : Plan α := .ok {
  script := [.code
    "Get-Disk | Select-Object Number, Location, SerialNumber, UniqueId | ConvertTo-Json"]
  meaning output := (Output.list Row.reader "Get-Disk" output).map meaning }

/-- Asks about one disk. -/
def asking {α : Type} (number : UInt32) (meaning : StateRow → α) : Plan α := .ok {
  script := [.code "Get-Disk -Number ", .number number.toNat,
    .code " | Select-Object Size, IsOffline | ConvertTo-Json"]
  meaning output :=
    if Output.isEmpty output then .error (.notFound ("disk " ++ toString number.toNat))
    else (Output.value StateRow.reader "Get-Disk" output).map meaning }

/-- Where the disks are attached. -/
def listLocations (_ : Unit) : Plan Locations := listing Row.locations

/-- What identifies the disks. -/
def listIdentities (_ : Unit) : Plan Identities := listing Row.identities

/-- Gives a disk a partition table, if it has none, and a partition that fills it, if it has none
but reserved ones. -/
def partition (number : UInt32) : Plan Unit :=
  let n : Fragment := .number number.toNat
  .ok {
    script := [.code "$disk = Get-Disk -Number ", n,
      .code "; if ($disk.PartitionStyle -eq ", .literal "RAW",
      .code ") \x7b Initialize-Disk -Number ", n,
      .code " -PartitionStyle GPT \x7d; if (-not (Get-Partition -DiskNumber ", n,
      .code " -ErrorAction SilentlyContinue | Where-Object Type -ne ", .literal "Reserved",
      .code ")) \x7b New-Partition -DiskNumber ", n, .code " -UseMaximumSize | Out-Null \x7d"]
    meaning := Output.nothing }

/-- Makes the host look for disks again. -/
def rescan (_ : Unit) : Plan Unit :=
  .ok { script := [.code "Update-HostStorageCache"], meaning := Output.nothing }

/-- The size of a disk in bytes. -/
def size (number : UInt32) : Plan Int64 := asking number StateRow.size

/-- Brings a disk online or takes it offline. -/
def setState (request : SetState) : Plan Unit := .ok {
  script := [.code "Set-Disk -Number ", .number request.number.toNat,
    .code (" -IsOffline " ++ Script.truth (!request.isOnline))]
  meaning := Output.nothing }

/-- Whether a disk is online. -/
def isOnline (number : UInt32) : Plan Bool := asking number fun row => !row.isOffline

end StorageGateway.Disk
