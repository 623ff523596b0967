import StorageGateway.Host.Machine
import StorageGateway.Volume.Model

/-!
# Volume operations on the host

Each operation on volumes comes down to one script over the host's storage cmdlets. A request
without the identifier of a volume is turned away, and so is one for a negative size.
-/

namespace StorageGateway.Volume

open Host

/-! ## What the host prints -/

/-- The host's answer about the size of a volume. -/
structure SizeRow where
  /-- The size in bytes. -/
  size : Int64
  /-- How much of it is free. -/
  remaining : Int64
deriving DecidableEq, Repr

/-- Reads the answer about the size of a volume. -/
def SizeRow.reader : Json.Reader SizeRow :=
  .record "VolumeSizeRow" <| SizeRow.mk <$> .required "Size" .i64 <*> .required "SizeRemaining" .i64

/-- The size and what is in use. A difference that takes more than 64 bits wraps around. -/
def SizeRow.usage (row : SizeRow) : Usage := ⟨row.size, row.size - row.remaining⟩

/-- The size and what is in use where arithmetic is checked: nothing, as the service breaks down,
when the difference takes more than 64 bits. -/
def SizeRow.usage? (row : SizeRow) : Option Usage :=
  if (Text.Width.signed 64).holds (row.size.toInt - row.remaining.toInt) then some row.usage
  else none

/-- The fault of a volume that the host says nothing about. -/
def missing (volume : String) : Fault := .notFound ("volume " ++ volume)

/-- Whether the name of a file system says that there is one. -/
def namesFileSystem : Option String → Bool
  | none => false
  | some name => !name.isEmpty && name != "Unknown"

/-! ## Plans -/

/-- Turns away a request that does not say which volume. -/
def requireVolume (volume : String) : Except Fault Unit :=
  if Text.isBlankText volume then .error (.invalidArgument "volume_id must not be empty")
  else .ok ()

/-- The beginning of a script that picks a volume. -/
def pick (volume : String) : Script := [.code "Get-Volume -UniqueId ", .literal volume]

/-- The volumes on a disk. -/
def list (request : OnDisk) : Plan (List String) := .ok {
  script := [.code "Get-Partition -DiskNumber ", .number request.disk.toNat] ++
    (if request.partition = 0 then []
      else [.code " -PartitionNumber ", .number request.partition.toNat]) ++
    [.code " | Get-Volume | Select-Object -ExpandProperty UniqueId | ConvertTo-Json"]
  meaning := Output.list .string "Get-Partition" }

/-- Mounts a volume. -/
def mount (request : Mounting) : Plan Unit := .checked (requireVolume request.volume) {
  script := pick request.volume ++
    [.code " | Get-Partition | Add-PartitionAccessPath -AccessPath ", .literal request.path]
  meaning := Output.nothing }

/-- Unmounts a volume. -/
def unmount (request : Mounting) : Plan Unit := .checked (requireVolume request.volume) {
  script := pick request.volume ++
    [.code " | Get-Partition | Remove-PartitionAccessPath -AccessPath ", .literal request.path]
  meaning := Output.nothing }

/-- Whether a volume is formatted. -/
def isFormatted (volume : String) : Plan Bool := .checked (requireVolume volume) {
  script := [.code "("] ++ pick volume ++ [.code ").FileSystemType | ConvertTo-Json"]
  meaning output :=
    if Output.isEmpty output then .ok (namesFileSystem none)
    else (Output.value (Json.Reader.string.optional) "Get-Volume" output).map namesFileSystem }

/-- Formats a volume. -/
def format (volume : String) : Plan Unit := .checked (requireVolume volume) {
  script := pick volume ++
    [.code " | Format-Volume -FileSystem NTFS -Confirm:$false | Out-Null"]
  meaning := Output.nothing }

/-- Turns away a size that is negative. -/
def requireSize (size : Int64) : Except Fault Unit :=
  if size < 0 then
    .error (.invalidArgument ("size_bytes must not be negative: " ++ toString size.toInt))
  else .ok ()

/-- What a size is written as; zero stands for the greatest size there is. -/
def sizeScript (request : Resizing) : Script :=
  if request.size = 0 then
    [.code "("] ++ pick request.volume ++
      [.code " | Get-Partition | Get-PartitionSupportedSize).SizeMax"]
  else [.number request.size.toInt]

/-- Gives a volume another size. -/
def resize (request : Resizing) : Plan Unit :=
  .checked (do requireVolume request.volume; requireSize request.size) {
    script := pick request.volume ++ [.code " | Get-Partition | Resize-Partition -Size "] ++
      sizeScript request
    meaning := Output.nothing }

/-- The size of a volume. -/
def usage (volume : String) : Plan Usage := .checked (requireVolume volume) {
  script := pick volume ++ [.code " | Select-Object Size, SizeRemaining | ConvertTo-Json"]
  meaning output :=
    if Output.isEmpty output then .error (missing volume)
    else (Output.value SizeRow.reader "Get-Volume" output).map SizeRow.usage }

/-- Whether the service breaks down over the size of a volume where arithmetic is checked. -/
def usageBreaksDown (volume : String) (machine : Machine) : Bool :=
  match usage volume with
  | .error _ => false
  | .ok command =>
    match (machine.shell.run command.invocation).1.bind
        (Output.value SizeRow.reader "Get-Volume") with
    | .error _ => false
    | .ok row => row.usage?.isNone

/-- The disk that a volume is on, which is the first one that the host names. -/
def disk (volume : String) : Plan UInt32 := .checked (requireVolume volume) {
  script := [.code "("] ++ pick volume ++
    [.code " | Get-Partition).DiskNumber | ConvertTo-Json"]
  meaning output :=
    match Output.list .u32 "Get-Partition" output with
    | .error fault => .error fault
    | .ok [] => .error (missing volume)
    | .ok (first :: _) => .ok first }

end StorageGateway.Volume
