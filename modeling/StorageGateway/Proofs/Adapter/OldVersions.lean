import StorageGateway.Catalog
import StorageGateway.Proofs.Disk.Views
import StorageGateway.Proofs.Files.Views
import StorageGateway.Proofs.Iscsi.Views
import StorageGateway.Proofs.Smb.Views
import StorageGateway.Proofs.Volume.Views

/-!
# Old versions of all groups

Every version of a group but the last one is a view of the last one, which is the stable version
wherever there are several.
-/

namespace StorageGateway

open Host

namespace Group

/-- How the methods of the old versions of a group are seen as stable ones. -/
def views : Group → List View
  | .filesystem => Files.views
  | .disk => Disk.views
  | .volume => Volume.views
  | .smb => Smb.views
  | .iscsi => Iscsi.views
  | .system => []

variable {roots : Roots} {group : Group} {old stable adapter : Adapter Machine}

theorem distinct (h : adapter ∈ group.adapters roots) : adapter.Distinct := by
  unfold Adapter.Distinct
  cases group with
  | filesystem =>
    simp only [adapters, Files.adapters, List.mem_cons, List.not_mem_nil, or_false] at h
    rcases h with rfl | rfl
    · show List.Nodup ["PathExists", "Mkdir", "Rmdir", "LinkPath", "IsMountPoint"]
      decide
    · show List.Nodup ["PathExists", "Mkdir", "Rmdir", "CreateSymlink", "IsSymlink"]
      decide
  | disk =>
    simp only [adapters, Disk.adapters, List.mem_cons, List.not_mem_nil, or_false] at h
    rcases h with rfl | rfl <;> decide
  | volume =>
    simp only [adapters, Volume.adapters, List.mem_cons, List.not_mem_nil, or_false] at h
    rcases h with rfl | rfl <;> decide
  | smb =>
    simp only [adapters, Smb.adapters, List.mem_cons, List.not_mem_nil, or_false] at h
    rcases h with rfl | rfl <;> decide
  | iscsi =>
    simp only [adapters, Iscsi.adapters, List.mem_cons, List.not_mem_nil, or_false] at h
    rcases h with rfl | rfl | rfl <;> decide
  | system =>
    simp only [adapters, Services.adapters, List.mem_cons, List.not_mem_nil, or_false] at h
    rcases h with rfl
    decide

theorem aligned (hold : old ∈ (group.adapters roots).dropLast)
    (hstable : (group.adapters roots).getLast? = some stable) :
    Aligned group.views old.routes stable.routes := by
  cases group with
  | filesystem =>
    cases List.mem_singleton.mp hold
    cases hstable
    exact Files.aligned roots
  | disk =>
    cases List.mem_singleton.mp hold
    cases hstable
    exact Disk.aligned
  | volume =>
    cases List.mem_singleton.mp hold
    cases hstable
    exact Volume.aligned
  | smb =>
    cases List.mem_singleton.mp hold
    cases hstable
    exact Smb.aligned
  | iscsi =>
    cases hstable
    rcases List.mem_cons.mp hold with rfl | hlast
    · exact Iscsi.aligned 1
    · cases List.mem_singleton.mp hlast
      exact Iscsi.aligned 2
  | system => cases hold

/-- All methods of old versions but one are offered from the first version on. -/
theorem since_of_routed (hold : old ∈ (group.adapters roots).dropLast) {route : Route Machine}
    (hroute : route ∈ old.routes) :
    route.operation.since = none ∨
      route.name = "SetMutualChapSecret" ∧ route.operation.since = some (draft .alpha 2) := by
  cases group with
  | filesystem =>
    cases List.mem_singleton.mp hold
    simp only [Files.betaAdapter, List.mem_cons, List.not_mem_nil, or_false] at hroute
    rcases hroute with rfl | rfl | rfl | rfl | rfl <;> exact .inl rfl
  | disk =>
    cases List.mem_singleton.mp hold
    simp only [Disk.betaAdapter, List.mem_cons, List.not_mem_nil, or_false] at hroute
    rcases hroute with rfl | rfl | rfl | rfl | rfl | rfl | rfl <;> exact .inl rfl
  | volume =>
    cases List.mem_singleton.mp hold
    simp only [Volume.betaAdapter, List.mem_cons, List.not_mem_nil, or_false] at hroute
    rcases hroute with rfl | rfl | rfl | rfl | rfl | rfl | rfl | rfl <;> exact .inl rfl
  | smb =>
    cases List.mem_singleton.mp hold
    simp only [Smb.betaAdapter, List.mem_cons, List.not_mem_nil, or_false] at hroute
    rcases hroute with rfl | rfl <;> exact .inl rfl
  | iscsi =>
    have hroutes : old.routes = Iscsi.routes .alpha (some (draft .alpha 2)) := by
      rcases List.mem_cons.mp hold with rfl | hlast
      · rfl
      · cases List.mem_singleton.mp hlast
        rfl
    rw [hroutes] at hroute
    simp only [Iscsi.routes, List.mem_cons, List.not_mem_nil, or_false] at hroute
    rcases hroute with rfl | rfl | rfl | rfl | rfl | rfl | rfl | rfl
    · exact .inl rfl
    · exact .inl rfl
    · exact .inl rfl
    · exact .inl rfl
    · exact .inl rfl
    · exact .inl rfl
    · exact .inl rfl
    · exact .inr ⟨rfl, rfl⟩
  | system => cases hold

theorem version_of_old (hold : old ∈ (group.adapters roots).dropLast) :
    old.version = draft .alpha 1 ∨ old.version.atLeast (draft .alpha 2) = true := by
  cases group with
  | filesystem =>
    cases List.mem_singleton.mp hold
    exact .inr rfl
  | disk =>
    cases List.mem_singleton.mp hold
    exact .inr rfl
  | volume =>
    cases List.mem_singleton.mp hold
    exact .inr rfl
  | smb =>
    cases List.mem_singleton.mp hold
    exact .inr rfl
  | iscsi =>
    rcases List.mem_cons.mp hold with rfl | hlast
    · exact .inl rfl
    · cases List.mem_singleton.mp hlast
      exact .inr rfl
  | system => cases hold

/-- The only calls that a version turns away at the last gate. -/
theorem call_below (hold : old ∈ (group.adapters roots).dropLast) {route : Route Machine}
    (hroute : route ∈ old.routes) {params : Json} {request : route.Request}
    (hreads : route.Reads params request) (hoffered : ¬ route.OfferedAt old.version) :
    route.name = "SetMutualChapSecret" ∧ old.version = draft .alpha 1 ∧ ∀ machine,
      (old.call route.name params).perform machine =
        (.error (.unsupportedVersion "SetMutualChapSecret" "v1alpha1" "v1alpha2"), machine) := by
  have hdistinct := distinct (List.dropLast_subset _ hold)
  rcases since_of_routed hold hroute with hsince | ⟨hname, hsince⟩
  · exact absurd (fun minimum hminimum => by simp [hsince] at hminimum) hoffered
  · rcases version_of_old hold with hversion | hversion
    · refine ⟨hname, hversion, fun machine => ?_⟩
      obtain ⟨wire, hread, hdecoded⟩ := hreads
      have hbelow : old.version.atLeast (draft .alpha 2) = false := by
        rw [hversion]
        decide
      rw [Adapter.call_eq_of_routed hdistinct hroute, Route.perform_call,
        Route.accept_of_refuses (.below hread hdecoded hsince hbelow), hname, hversion]
      rfl
    · refine absurd (fun minimum hminimum => ?_) hoffered
      rw [hsince] at hminimum
      cases hminimum
      exact hversion

theorem version_of_stable (hold : old ∈ (group.adapters roots).dropLast)
    (hstable : (group.adapters roots).getLast? = some stable) : stable.version = v1 := by
  cases group with
  | system => cases hold
  | _ =>
    cases hstable
    rfl

/-- The only response that may not fit is a list of portals. -/
theorem views_fail {view : View} (hview : view ∈ group.views) {response : Json} {fault : Fault}
    (h : view.response response = .error fault) :
    view.method = "ListTargetPortals" ∧ ∃ port : Int, 65535 < port ∧
      fault = .unrepresentable "target_port" (toString port ++ " is out of range") := by
  cases group with
  | filesystem =>
    simp only [views, Files.views, List.mem_cons, List.not_mem_nil, or_false] at hview
    rcases hview with rfl | rfl | rfl | rfl | rfl <;> cases h
  | disk =>
    simp only [views, Disk.views, List.mem_cons, List.not_mem_nil, or_false] at hview
    rcases hview with rfl | rfl | rfl | rfl | rfl | rfl | rfl <;> cases h
  | volume =>
    simp only [views, Volume.views, List.mem_cons, List.not_mem_nil, or_false] at hview
    rcases hview with rfl | rfl | rfl | rfl | rfl | rfl | rfl | rfl <;> cases h
  | smb =>
    simp only [views, Smb.views, List.mem_cons, List.not_mem_nil, or_false] at hview
    rcases hview with rfl | rfl <;> cases h
  | iscsi =>
    simp only [views, Iscsi.views, List.mem_cons, List.not_mem_nil, or_false] at hview
    rcases hview with rfl | rfl | rfl | rfl | rfl | rfl | rfl | rfl
    · cases h
    · cases h
    · exact ⟨rfl, Iscsi.exists_of_narrowPorts h⟩
    · cases h
    · cases h
    · cases h
    · cases h
    · cases h
  | system => cases hview

end Group

/-- Whatever call an old version of a group takes (`Route.Reads`), at whichever machine: the stable
method that it is a `View` of could have been called instead, with parameters that say the same.
That runs the same scripts with the same environment and changes the same files, fails with the same
fault, and has the same response in other words, which is `View.outcome`. Two calls are not quite
like that. Listing portals, before ports had 32 bits, tells a port that does not fit; and the secret
of targets could not be changed at the very first version. -/
theorem Group.old_calls_are_stable_calls (roots : Roots) {group : Group}
    {old stable : Adapter Machine} (hold : old ∈ (group.adapters roots).dropLast)
    (hstable : (group.adapters roots).getLast? = some stable) {route : Route Machine}
    (hroute : route ∈ old.routes) {params : Json} {request : route.Request}
    (hreads : route.Reads params request) :
    stable.version = Group.v1 ∧
    ((route.name = "SetMutualChapSecret" ∧ old.version = Group.draft .alpha 1 ∧
      ∀ machine, (old.call route.name params).perform machine =
        (.error (.unsupportedVersion "SetMutualChapSecret" "v1alpha1" "v1alpha2"), machine)) ∨
    ∃ view ∈ group.views, view.method = route.name ∧
      (∀ machine, (old.call route.name params).perform machine =
        view.outcome ((stable.call view.stable (view.params params)).perform machine)) ∧
      ∀ response fault, view.response response = .error fault →
        route.name = "ListTargetPortals" ∧ ∃ port : Int, 65535 < port ∧
          fault = .unrepresentable "target_port" (toString port ++ " is out of range")) := by
  refine ⟨version_of_stable hold hstable, ?_⟩
  by_cases hoffered : route.OfferedAt old.version
  · obtain ⟨view, hview, hmethod, hcalls⟩ := (aligned hold hstable).exists_shown
      (distinct (List.dropLast_subset _ hold)) (distinct (List.mem_of_getLast? hstable)) hroute
      hreads hoffered
    refine .inr ⟨view, hview, hmethod, hcalls, fun response fault h => ?_⟩
    rw [← hmethod]
    exact views_fail hview h
  · exact .inl (call_below hold hroute hreads hoffered)

/-- The method that tells whether a disk is attached. -/
def attachStateRoute : Route Machine :=
  Disk.getStateRoute "GetAttachState" Disk.Beta.decodeDisk
    (Disk.Beta.diskRequest "GetAttachStateRequest")

/-- Parameters with the text of the number of a disk, between blanks. -/
def attachStateParams : Json := .object [("disk_id", .string " 7 ")]

theorem Group.attached_disk_is_online_disk :
    Disk.betaAdapter ∈ (Group.disk.adapters ⟨["kubelet"], ["plugin"]⟩).dropLast ∧
    attachStateRoute ∈ Disk.betaAdapter.routes ∧
    attachStateRoute.Reads attachStateParams (7 : UInt32) ∧
    ∃ view ∈ Group.disk.views, view.method = "GetAttachState" ∧ ∀ machine,
      (Disk.betaAdapter.call "GetAttachState" attachStateParams).perform machine =
        view.outcome ((Disk.stableAdapter.call view.stable
          (view.params attachStateParams)).perform machine) := by
  have hold : Disk.betaAdapter ∈ (Group.disk.adapters ⟨["kubelet"], ["plugin"]⟩).dropLast := .head _
  have hroute : attachStateRoute ∈ Disk.betaAdapter.routes :=
    .tail _ <| .tail _ <| .tail _ <| .tail _ <| .tail _ <| .tail _ <| .head _
  have hdecoded : Disk.Beta.decodeDisk " 7 " = .ok 7 := by decide +kernel
  have hreads : attachStateRoute.Reads attachStateParams (7 : UInt32) := ⟨" 7 ", rfl, hdecoded⟩
  refine ⟨hold, hroute, hreads, ?_⟩
  rcases (Group.old_calls_are_stable_calls _ hold rfl hroute hreads).2 with
    ⟨hname, -⟩ | ⟨view, hview, hmethod, hcalls, -⟩
  · exact absurd hname (by decide)
  · exact ⟨view, hview, hmethod, hcalls⟩

end StorageGateway
