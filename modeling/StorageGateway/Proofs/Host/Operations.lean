import Mathlib.Data.List.Forall2
import StorageGateway.Catalog

/-!
# What is done by scripts

Behind the routes of five groups stand operations that plan scripts. They are listed here once, each
with what a request for it looks like when its texts are left out and with the texts that its
scripts hold as literals. Versions of a group share operations, so what holds of the operations
listed holds behind every route.
-/

namespace StorageGateway

open Host

namespace Host

/-- A literal in the scripts of an operation: the same in all of them, or a text of the request. -/
inductive Slot (Request : Type) where
  | constant (value : String)
  | text (field : Request → String)

/-- The value of a literal in the script for a request. -/
def Slot.fill {Request : Type} (request : Request) : Slot Request → String
  | .constant value => value
  | .text field => field request

/-- Something that is done by scripts. -/
structure Scripted where
  {Request Response : Type}
  /-- What a request comes down to. -/
  plan : Request → Plan Response
  /-- A request without its texts. Its numbers, its flags and its alternatives are kept, and whether
  it asks for a link. -/
  blank : Request → Request
  /-- The literals of the script for a request, which depend on the request without its texts. -/
  slots : Request → List (Slot Request)

/-- A route behind which an operation stands. -/
inductive CarriesOut : Route Machine → Scripted → Prop where
  | intro {WireRequest Request Response WireResponse : Type}
      (operation : Operation WireRequest Request Response WireResponse)
      (requestSchema : Schema WireRequest) (responseSchema : Schema WireResponse)
      (plan : Request → Plan Response) (blank : Request → Request)
      (slots : Request → List (Slot Request)) :
      CarriesOut (Plan.route operation requestSchema responseSchema plan) ⟨plan, blank, slots⟩

/-- A request that is a text. -/
def Scripted.ofText {Response : Type} (plan : String → Plan Response)
    (slots : List (Slot String)) : Scripted :=
  ⟨plan, fun _ => "", fun _ => slots⟩

/-- A request without texts. -/
def Scripted.ofNumbers {Request Response : Type} (plan : Request → Plan Response)
    (slots : List (Slot Request)) : Scripted :=
  ⟨plan, id, fun _ => slots⟩

end Host

/-! ## Disks -/

namespace Disk

/-- The operations on disks. No request for one holds a text. -/
def scripted : List Scripted := [
  .ofNumbers listLocations [],
  .ofNumbers partition [.constant "RAW", .constant "Reserved"],
  .ofNumbers rescan [],
  .ofNumbers listIdentities [],
  .ofNumbers size [],
  .ofNumbers setState [],
  .ofNumbers isOnline []]

theorem carriesOut {adapter : Adapter Machine} (hadapter : adapter ∈ adapters) :
    List.Forall₂ CarriesOut adapter.routes scripted := by
  have hcases : adapter = betaAdapter ∨ adapter = stableAdapter := by
    simpa [adapters] using hadapter
  rcases hcases with rfl | rfl
  all_goals
    exact .cons (.intro ..) <| .cons (.intro ..) <| .cons (.intro ..) <| .cons (.intro ..) <|
      .cons (.intro ..) <| .cons (.intro ..) <| .cons (.intro ..) .nil

end Disk

/-! ## Volumes -/

namespace Volume

/-- A request about where a volume is mounted, without its texts. -/
def Mounting.blank (_ : Mounting) : Mounting := ⟨"", ""⟩

/-- A request for another size, without its text. -/
def Resizing.blank (request : Resizing) : Resizing := ⟨"", request.size⟩

/-- The operations on volumes. The greatest size that there is is asked of the volume once more. -/
def scripted : List Scripted := [
  .ofNumbers list [],
  ⟨mount, Mounting.blank, fun _ => [.text Mounting.volume, .text Mounting.path]⟩,
  ⟨unmount, Mounting.blank, fun _ => [.text Mounting.volume, .text Mounting.path]⟩,
  .ofText isFormatted [.text id],
  .ofText format [.text id],
  ⟨resize, Resizing.blank, fun request =>
    if request.size = 0 then [.text Resizing.volume, .text Resizing.volume]
    else [.text Resizing.volume]⟩,
  .ofText usage [.text id],
  .ofText disk [.text id]]

theorem carriesOut {adapter : Adapter Machine} (hadapter : adapter ∈ adapters) :
    List.Forall₂ CarriesOut adapter.routes scripted := by
  have hcases : adapter = betaAdapter ∨ adapter = stableAdapter := by
    simpa [adapters] using hadapter
  rcases hcases with rfl | rfl
  all_goals
    exact .cons (.intro ..) <| .cons (.intro ..) <| .cons (.intro ..) <| .cons (.intro ..) <|
      .cons (.intro ..) <| .cons (.intro ..) <| .cons (.intro ..) <| .cons (.intro ..) .nil

end Volume

/-! ## SMB mappings -/

namespace Smb

/-- A request to map a share without its texts, but for whether there is a local path. -/
def NewMapping.blank (mapping : NewMapping) : NewMapping :=
  ⟨"", if mapping.localPath.isEmpty then "" else "-", "", ""⟩

/-- The operations on mappings. A link leads to the share, which is named once more. -/
def scripted : List Scripted := [
  ⟨map, NewMapping.blank, fun mapping =>
    if mapping.localPath.isEmpty then [.text NewMapping.remotePath]
    else [.text NewMapping.remotePath, .text NewMapping.localPath, .text NewMapping.remotePath]⟩,
  .ofText unmap [.text id]]

theorem carriesOut {adapter : Adapter Machine} (hadapter : adapter ∈ adapters) :
    List.Forall₂ CarriesOut adapter.routes scripted := by
  have hcases : adapter = betaAdapter ∨ adapter = stableAdapter := by
    simpa [adapters] using hadapter
  rcases hcases with rfl | rfl
  all_goals exact .cons (.intro ..) <| .cons (.intro ..) .nil

end Smb

/-! ## iSCSI -/

namespace Iscsi

/-- A portal without its address. -/
def Portal.blank (portal : Portal UInt32) : Portal UInt32 := ⟨"", portal.port⟩

/-- A target without its texts. -/
def Target.blank (target : Target UInt32) : Target UInt32 := ⟨target.portal.blank, ""⟩

/-- A request to connect a target without its texts. -/
def Login.blank (login : Login UInt32) : Login UInt32 :=
  ⟨login.portal.blank, "", login.isMultipath, login.authentication, "", ""⟩

/-- The operations of iSCSI. A target that is connected is found by its name alone. Names and
secrets to log in with stand in no script. -/
def scripted : List Scripted := [
  ⟨addPortal, Portal.blank, fun _ => [.text Portal.address]⟩,
  ⟨discover, Portal.blank, fun _ => [.text Portal.address]⟩,
  .ofNumbers listPortals [],
  ⟨removePortal, Portal.blank, fun _ => [.text Portal.address]⟩,
  ⟨connect, Login.blank, fun _ => [.text fun login => login.portal.address, .text Login.iqn]⟩,
  ⟨disconnect, Target.blank, fun _ => [.text Target.iqn]⟩,
  ⟨disks, Target.blank, fun _ => [.text Target.iqn]⟩,
  .ofText setSecret []]

theorem carriesOut {adapter : Adapter Machine} (hadapter : adapter ∈ adapters) :
    List.Forall₂ CarriesOut adapter.routes scripted := by
  have hcases : adapter = alphaAdapter 1 ∨ adapter = alphaAdapter 2 ∨ adapter = stableAdapter := by
    simpa [adapters] using hadapter
  rcases hcases with rfl | rfl | rfl
  all_goals
    exact .cons (.intro ..) <| .cons (.intro ..) <| .cons (.intro ..) <| .cons (.intro ..) <|
      .cons (.intro ..) <| .cons (.intro ..) <| .cons (.intro ..) <| .cons (.intro ..) .nil

end Iscsi

/-! ## Services -/

namespace Services

/-- A request to stop a service, without its text. -/
def Stop.blank (request : Stop) : Stop := ⟨"", request.force⟩

/-- The operations on the host and its services. -/
def scripted : List Scripted := [
  .ofNumbers serialNumber [],
  .ofText service [.text id, .constant "StartType", .constant "Status"],
  .ofText start [.text id],
  ⟨stop, Stop.blank, fun _ => [.text Stop.name]⟩]

theorem carriesOut {adapter : Adapter Machine} (hadapter : adapter ∈ adapters) :
    List.Forall₂ CarriesOut adapter.routes scripted := by
  obtain rfl : adapter = alphaAdapter := by simpa [adapters] using hadapter
  exact .cons (.intro ..) <| .cons (.intro ..) <| .cons (.intro ..) <| .cons (.intro ..) .nil

end Services

/-! ## All groups -/

/-- The operations of a group that are done by scripts. -/
def Group.scripted : Group → List Scripted
  | .filesystem => []
  | .disk => Disk.scripted
  | .volume => Volume.scripted
  | .smb => Smb.scripted
  | .iscsi => Iscsi.scripted
  | .system => Services.scripted

/-- The routes of a group that drives the host by scripts are, at every version, those of the
operations listed. -/
theorem Group.carriesOut {roots : Roots} {group : Group} (hgroup : group ≠ .filesystem)
    {adapter : Adapter Machine} (hadapter : adapter ∈ group.adapters roots) :
    List.Forall₂ CarriesOut adapter.routes group.scripted := by
  cases group with
  | filesystem => exact absurd rfl hgroup
  | disk => exact Disk.carriesOut hadapter
  | volume => exact Volume.carriesOut hadapter
  | smb => exact Smb.carriesOut hadapter
  | iscsi => exact Iscsi.carriesOut hadapter
  | system => exact Services.carriesOut hadapter

theorem Group.exists_scripted {roots : Roots} {group : Group} (hgroup : group ≠ .filesystem)
    {adapter : Adapter Machine} (hadapter : adapter ∈ group.adapters roots)
    {route : Route Machine} (hroute : route ∈ adapter.routes) :
    ∃ scripted ∈ group.scripted, CarriesOut route scripted := by
  obtain ⟨hlength, hget⟩ := List.forall₂_iff_get.mp (Group.carriesOut hgroup hadapter)
  obtain ⟨index, hindex, rfl⟩ := List.getElem_of_mem hroute
  exact ⟨_, List.getElem_mem (hlength ▸ hindex), hget index hindex (hlength ▸ hindex)⟩

end StorageGateway
