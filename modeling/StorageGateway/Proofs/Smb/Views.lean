import StorageGateway.Proofs.Adapter.Views
import StorageGateway.Proofs.Json.Records
import StorageGateway.Smb.Adapters

/-!
# SMB mappings before they could be links
-/

namespace StorageGateway.Smb

open Json

/-- A share that is mapped without a link to it. -/
def mapView : View where
  method := "NewSmbGlobalMapping"
  params params := .object [("local_path", .string ""),
    ("password", orNull (params.field? "password" 2)),
    ("remote_path", orNull (params.field? "remote_path" 0)),
    ("username", orNull (params.field? "username" 1))]

theorem read_link_free {share user password : Json} {remotePath username secret : String}
    (hshare : Reader.string.ofJson share = .ok remotePath)
    (huser : Reader.string.ofJson user = .ok username)
    (hpassword : Reader.string.ofJson password = .ok secret) :
    NewMapping.schema.read.ofJson (.object [("local_path", .string ""), ("password", password),
      ("remote_path", share), ("username", user)]) = .ok ⟨remotePath, "", username, secret⟩ := by
  unfold Reader.ofJson at hshare huser hpassword
  refine (Reader.record_of_members ?_ ?_).trans ?_
  · simp [hshare, huser, hpassword]
  · simp
  · simp [hshare, huser, hpassword, List.lookup_cons]

theorem shows_map : mapView.Shows
    (mapRoute (.structural PlainMapping.schema NewMapping.schema) PlainMapping.schema)
    (mapRoute .same NewMapping.schema) := by
  refine .of_route rfl rfl rfl (fun params wire given hread hdecoded => ?_) fun _ => rfl
  obtain ⟨share, user, password, remotePath, username, secret, hx, hy, hz, hshare, huser,
    hpassword, rfl⟩ := Reader.exists_of_read_three hread
  cases hdecoded
  refine ⟨_, ?_, rfl⟩
  simp only [mapView, hx, hy, hz, orNull]
  exact read_link_free hshare huser hpassword

/-- The methods of `v1beta2`. -/
def views : List View := [mapView, { method := "RemoveSmbGlobalMapping" }]

theorem aligned : Aligned views betaAdapter.routes stableAdapter.routes :=
  .cons shows_map <| .cons (.refl rfl rfl fun _ _ _ => rfl) .nil

end StorageGateway.Smb
