import StorageGateway.Proofs.Adapter.Views
import StorageGateway.Proofs.Json.Relations
import StorageGateway.Proofs.Table
import StorageGateway.Volume.Adapters

/-!
# Volumes under their old names
-/

namespace StorageGateway.Volume

open Json

/-- Listing the volumes on all partitions of a disk. -/
def listView : View where
  method := "ListVolumesOnDisk"
  params params := .object [("disk_number", params.diskNumber), ("partition_number", .nat 0)]

/-- A method about where a volume is mounted. -/
def mountingView (method : String) : View where
  method
  params params := .object [("target_path", orNull (params.field? "path" 1)),
    ("volume_id", orNull (params.field? "volume_id" 0))]

/-- Giving a volume another size. -/
def resizingView : View where
  method := "ResizeVolume"
  params params := .object [("size_bytes", orNull (params.field? "size" 1)),
    ("volume_id", orNull (params.field? "volume_id" 0))]

/-- Asking for the size of a volume. -/
def usageView : View where
  method := "GetVolumeStats"
  response answer :=
    .ok (answer.rename [("total_bytes", "volume_size"), ("used_bytes", "volume_used_size")])

/-- Asking for the disk of a volume, as it was called before. -/
def diskView : View where
  method := "GetVolumeDiskNumber"
  stable := "GetDiskNumberFromVolumeID"

/-- The methods of `v1beta3`. -/
def views : List View := [listView, mountingView "MountVolume", mountingView "UnmountVolume",
  { method := "IsVolumeFormatted" }, { method := "FormatVolume" }, resizingView, usageView,
  diskView]

theorem shows_list : listView.Shows (listRoute Beta.decodeOnDisk Beta.onDiskSchema)
    (listRoute .same OnDisk.schema) := by
  refine .of_route rfl rfl rfl (fun params wire given hread hdecoded => ?_) fun _ => rfl
  obtain ⟨x, hx, htext⟩ := Reader.exists_of_read_one hread
  obtain ⟨disk, hdisk, hgiven⟩ := bind_eq_ok_iff.mp hdecoded
  cases hgiven
  refine ⟨_, ?_, rfl⟩
  simp only [listView, diskNumber_eq hx htext hdisk]
  have hzero : Reader.u32 .value (Json.nat 0).toDocument = .ok 0 := Reader.u32_toDocument 0
  refine (Reader.record_of_members ?_ ?_).trans ?_
  · simp [hzero]
  · simp
  · simp [hzero, List.lookup_cons]

theorem read_mounting {volume path : Json} {name target : String} (record : String)
    (hvolume : Reader.string.ofJson volume = .ok name)
    (hpath : Reader.string.ofJson path = .ok target) :
    (Mounting.schema record).read.ofJson (.object [("target_path", path), ("volume_id", volume)]) =
      .ok ⟨name, target⟩ := by
  unfold Reader.ofJson at hvolume hpath
  refine (Reader.record_of_members ?_ ?_).trans ?_
  · simp [hvolume, hpath]
  · simp
  · simp [hvolume, hpath, List.lookup_cons]

theorem shows_mounting {method record : String} {response : Schema Unit}
    (plan : Mounting → Host.Plan Unit) :
    (mountingView method).Shows
      (Host.Plan.route (.passthrough method) (Beta.mountingSchema record) response plan)
      (Host.Plan.route (.passthrough method) (Mounting.schema record) response plan) := by
  refine .of_route rfl rfl rfl (fun params wire given hread hdecoded => ?_) fun _ => rfl
  obtain ⟨x, y, name, target, hx, hy, hvolume, hpath, rfl⟩ := Reader.exists_of_read_two hread
  cases hdecoded
  refine ⟨_, ?_, rfl⟩
  simp only [mountingView, hx, hy, orNull]
  exact read_mounting record hvolume hpath

theorem shows_resizing :
    resizingView.Shows (resizeRoute Beta.resizingSchema) (resizeRoute Resizing.schema) := by
  refine .of_route rfl rfl rfl (fun params wire given hread hdecoded => ?_) fun _ => rfl
  obtain ⟨x, y, name, size, hx, hy, hvolume, hsize, rfl⟩ := Reader.exists_of_read_two hread
  cases hdecoded
  refine ⟨_, ?_, rfl⟩
  simp only [resizingView, hx, hy, orNull]
  unfold Reader.ofJson at hvolume hsize
  refine (Reader.record_of_members ?_ ?_).trans ?_
  · simp [hvolume, hsize]
  · simp
  · simp [hvolume, hsize, List.lookup_cons]

/-- Members that are given in order are those of the object. -/
theorem ofMembers_pair {first second : String} (h : first < second) (x y : Json) :
    ofMembers [(first, x), (second, y)] = object [(first, x), (second, y)] := by
  have hsorted : Table.Sorted [(first, x), (second, y)] := by simpa [Table.Sorted] using h
  exact congrArg object hsorted.ofEntries_eq

theorem rename_usage (usage : Usage) :
    (Usage.schema.write usage).rename
      [("total_bytes", "volume_size"), ("used_bytes", "volume_used_size")] =
      Beta.usageSchema.write usage := by
  have hstable : Usage.schema.write usage =
      object [("total_bytes", .int usage.total.toInt), ("used_bytes", .int usage.used.toInt)] :=
    ofMembers_pair (by decide) _ _
  rw [hstable]
  rfl

theorem shows_usage : usageView.Shows (usageRoute Beta.usageSchema) (usageRoute Usage.schema) := by
  refine .of_route rfl rfl rfl (fun params wire given hread hdecoded => ?_) fun answer => ?_
  · exact ⟨wire, hread, hdecoded⟩
  · exact congrArg Except.ok (rename_usage answer).symm

theorem write_disk (disk : UInt32) :
    Beta.diskSchema.write (.ofInt disk.toNat) = diskSchema.write disk := by
  -- A number of 32 bits without a sign is the same number of 64 bits with one.
  have hdisk := disk.toNat_lt
  have hwide : (Int64.ofInt disk.toNat).toInt = disk.toNat :=
    Int64.toInt_ofInt_of_le (by omega) (by omega)
  exact congrArg (fun number => object [("disk_number", .int number)]) hwide

theorem shows_disk : diskView.Shows betaDiskRoute diskRoute := by
  refine .of_route rfl rfl rfl (fun params wire given hread hdecoded => ?_) fun answer => ?_
  · obtain ⟨stableWire, hstable, rfl⟩ := Reader.leads_single "GetVolumeDiskNumberRequest"
      "GetDiskNumberFromVolumeIdRequest" "volume_id" .string _ _ wire hread
    cases hdecoded
    exact ⟨wire, hstable, rfl⟩
  · exact congrArg Except.ok (write_disk answer)

theorem aligned : Aligned views betaAdapter.routes stableAdapter.routes :=
  .cons shows_list <| .cons (shows_mounting mount) <| .cons (shows_mounting unmount) <|
    .cons (.refl rfl rfl fun _ _ _ => rfl) <| .cons (.refl rfl rfl fun _ _ _ => rfl) <|
    .cons shows_resizing <| .cons shows_usage <| .cons shows_disk .nil

end StorageGateway.Volume
