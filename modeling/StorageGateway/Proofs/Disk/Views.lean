import StorageGateway.Disk.Adapters
import StorageGateway.Proofs.Adapter.Views
import StorageGateway.Proofs.Json.Relations
import StorageGateway.Proofs.Table

/-!
# Disks under the texts of their numbers
-/

namespace StorageGateway.Disk

open Json

/-- The parameters with the number of a disk. -/
def byNumber (params : Json) : Json := .object [("disk_number", params.diskNumber)]

/-- Changing the state of a disk, as it was called before. -/
def setAttachStateView : View where
  method := "SetAttachState"
  stable := "SetDiskState"
  params params := .object [("disk_number", params.diskNumber),
    ("is_online", orNull (params.field? "is_online" 1))]

/-- The methods of `v1beta3`. Locations and identities are written alike at both versions, since
the names of members are texts. -/
def views : List View := [
  { method := "ListDiskLocations" },
  { method := "PartitionDisk", params := byNumber },
  { method := "Rescan" },
  { method := "ListDiskIDs" },
  { method := "GetDiskStats", params := byNumber,
    response := fun answer => .ok (answer.rename [("total_bytes", "disk_size")]) },
  setAttachStateView,
  { method := "GetAttachState", stable := "GetDiskState", params := byNumber }]

theorem write_byText {α : Type} (value : Schema α) (table : Table UInt32 α) :
    (Schema.named value).write (Beta.byText table) = (Schema.numbered value).write table := by
  show Json.object (Table.ofEntries (Table.mapValues value.write (Table.ofEntries _))) = _
  rw [Table.ofEntries_mapValues_ofEntries]
  show Json.object _ = Json.object _
  congr 2
  simp [Table.mapValues]

theorem write_single_byText {α : Type} (record other field : String) (value : Schema α)
    (table : Table UInt32 α) :
    (Schema.single record field (.named value)).write (Beta.byText table) =
      (Schema.single other field (.numbered value)).write table :=
  congrArg (fun entries => object [(field, entries)]) (write_byText value table)

theorem read_number {params : Json} {text : String} {number : UInt32} (name other : String)
    (hread : (Beta.diskRequest name).read.ofJson params = .ok text)
    (hnumber : Beta.decodeDisk text = .ok number) :
    (numberRequest other).read.ofJson (byNumber params) = .ok number := by
  obtain ⟨x, hx, htext⟩ := Reader.exists_of_read_one hread
  rw [byNumber, diskNumber_eq hx htext hnumber]
  refine (Reader.record_of_members ?_ ?_).trans ?_
  · simp [Schema.u32]
  · simp
  · simp [Schema.u32]

theorem shows_setAttachState : setAttachStateView.Shows
    (setStateRoute "SetAttachState" Beta.decodeSetAttachState Beta.SetAttachState.schema)
    (setStateRoute "SetDiskState" .same SetState.schema) := by
  refine .of_route rfl rfl rfl (fun params wire given hread hdecoded => ?_) fun _ => rfl
  obtain ⟨x, y, text, isOnline, hx, hy, htext, hflag, rfl⟩ := Reader.exists_of_read_two hread
  obtain ⟨number, hnumber, hgiven⟩ := bind_eq_ok_iff.mp hdecoded
  cases hgiven
  refine ⟨_, ?_, rfl⟩
  simp only [setAttachStateView, diskNumber_eq hx htext hnumber, hy, orNull]
  unfold Reader.ofJson at hflag
  refine (Reader.record_of_members ?_ ?_).trans ?_
  · simp [hflag]
  · simp
  · simp [hflag, List.lookup_cons]

theorem aligned : Aligned views betaAdapter.routes stableAdapter.routes := by
  refine .cons ?_ <| .cons ?_ <| .cons (.refl rfl rfl fun _ _ _ => rfl) <| .cons ?_ <|
    .cons ?_ <| .cons shows_setAttachState <| .cons ?_ .nil
  · refine .of_route rfl rfl rfl (fun params wire given hread hdecoded => ?_) fun answer => ?_
    · exact ⟨wire, hread, hdecoded⟩
    · exact congrArg Except.ok (write_single_byText _ _ "disk_locations" Location.schema answer)
  · refine .of_route rfl rfl rfl (fun params wire given hread hdecoded => ?_) fun _ => rfl
    exact ⟨given, read_number _ _ hread hdecoded, rfl⟩
  · refine .of_route rfl rfl rfl (fun params wire given hread hdecoded => ?_) fun answer => ?_
    · exact ⟨wire, hread, hdecoded⟩
    · exact congrArg Except.ok (write_single_byText _ _ "disk_ids" Identity.schema answer)
  · refine .of_route rfl rfl rfl (fun params wire given hread hdecoded => ?_) fun _ => rfl
    exact ⟨given, read_number _ _ hread hdecoded, rfl⟩
  · refine .of_route rfl rfl rfl (fun params wire given hread hdecoded => ?_) fun _ => rfl
    exact ⟨given, read_number _ _ hread hdecoded, rfl⟩

end StorageGateway.Disk
