import StorageGateway.Files.Adapters
import StorageGateway.Proofs.Adapter.Views
import StorageGateway.Proofs.Json.Relations

/-!
# Links under their old names
-/

namespace StorageGateway.Files

open Json

/-- Making a link, as it was called before. -/
def linkPathView : View where
  method := "LinkPath"
  stable := "CreateSymlink"

/-- Asking whether there is a link, as it was called before. -/
def isMountPointView : View where
  method := "IsMountPoint"
  stable := "IsSymlink"
  response answer := .ok (answer.rename [("is_symlink", "is_mount_point")])

/-- The methods of `v1beta1`. -/
def views : List View := [{ method := "PathExists" }, { method := "Mkdir" }, { method := "Rmdir" },
  linkPathView, isMountPointView]

section
variable (roots : Roots)

theorem leads_linking (name other : String) :
    Reader.Leads Eq (Linking.schema name).read (Linking.schema other).read := by
  refine Reader.leads_record name other ?_
  refine .seq (.map (Fields.leads_required _ (.refl _)) ?_) (Fields.leads_required _ (.refl _))
  rintro source _ rfl target _ rfl
  rfl

theorem shows_linkPath : linkPathView.Shows (linkPathRoute roots) (makeLinkRoute roots) := by
  refine .of_route rfl rfl rfl (fun params wire given hread hdecoded => ?_) fun _ => rfl
  obtain ⟨stableWire, hstable, rfl⟩ :=
    leads_linking "LinkPathRequest" "CreateSymlinkRequest" _ _ wire hread
  cases hdecoded
  exact ⟨wire, hstable, rfl⟩

theorem shows_isMountPoint :
    isMountPointView.Shows (isMountPointRoute roots) (isLinkRoute roots) := by
  refine .of_route rfl rfl rfl (fun params wire given hread hdecoded => ?_) fun _ => rfl
  obtain ⟨stableWire, hstable, rfl⟩ :=
    Reader.leads_single "IsMountPointRequest" "IsSymlinkRequest" "path" .string _ _ wire hread
  cases hdecoded
  exact ⟨wire, hstable, rfl⟩

theorem aligned :
    Aligned views (betaAdapter roots).routes (stableAdapter roots).routes :=
  .cons (.refl rfl rfl fun _ _ _ => rfl) <| .cons (.refl rfl rfl fun _ _ _ => rfl) <|
    .cons (.refl rfl rfl fun _ _ _ => rfl) <|
    .cons (shows_linkPath roots) <| .cons (shows_isMountPoint roots) .nil

end

end StorageGateway.Files
